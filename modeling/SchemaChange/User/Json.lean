import SchemaChange.Json.Attributes
import SchemaChange.User.Basic

/-!
# User.Json — users in JSON

Passwords are read and never written.

- `User.toJson`, `User.ofJson?`
-/

namespace SchemaChange
namespace User

open Json (Value Members)

def toJson (u : User) : Value :=
  .object
    [ ("name", .text u.name),
      ("first_name", Json.ofOption .text u.firstName),
      ("middle_name", Json.ofOption .text u.middleName),
      ("last_name", Json.ofOption .text u.lastName),
      ("active", .bool u.active),
      ("admin", .bool u.admin),
      ("comment", Json.ofOption .text u.comment),
      ("plugin", Json.ofOption .text u.plugin),
      ("tags", Json.ofAttributes u.tags) ]

/-- The fields in their order, with the password that is only read. -/
def fields : List String :=
  [ "name", "password", "first_name", "middle_name", "last_name", "active", "admin", "comment",
    "plugin", "tags" ]

def ofMembers? (m : Members) : Option User := do
  let name ← m.field? "name" "" Json.textOf?
  let password ← m.field? "password" none (Json.nullable? Json.textOf?)
  let firstName ← m.field? "first_name" none (Json.nullable? Json.textOf?)
  let middleName ← m.field? "middle_name" none (Json.nullable? Json.textOf?)
  let lastName ← m.field? "last_name" none (Json.nullable? Json.textOf?)
  let active ← m.field? "active" true Json.boolOf?
  let admin ← m.field? "admin" false Json.boolOf?
  let comment ← m.field? "comment" none (Json.nullable? Json.textOf?)
  let plugin ← m.field? "plugin" none (Json.nullable? Json.textOf?)
  let tags ← m.field? "tags" Attributes.empty Json.attributesOf?
  return { name, password, firstName, middleName, lastName, active, admin, comment, plugin, tags }

def ofJson? (v : Value) : Option User :=
  (Json.recordOf? fields v).bind ofMembers?

end User
end SchemaChange
