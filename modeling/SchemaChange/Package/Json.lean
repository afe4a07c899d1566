import SchemaChange.Json.Record
import SchemaChange.Package.Basic

/-!
# Package.Json — packages in JSON

- `Package.toMembers`, `Package.ofJson?`
-/

namespace SchemaChange
namespace Package

open Json (Value Members)

/-- The members of a package's record. -/
def toMembers (p : Package) : Members :=
  [ ("name", .text p.name),
    ("header", .text p.header),
    ("body", .text p.body),
    ("description", Json.ofOption .text p.description),
    ("placeholder", .text p.placeholder),
    ("editing", .bool p.existing) ]

/-- The fields in their order. -/
def fields : List String :=
  ["name", "header", "body", "description", "placeholder", "editing"]

/-- Sources that are missing are the empty ones under the default placeholder. -/
def ofMembers? (m : Members) : Option Package := do
  let name ← m.field? "name" "" Json.textOf?
  let header ← m.field? "header" (emptyHeader defaultPlaceholder) Json.textOf?
  let body ← m.field? "body" (emptyBody defaultPlaceholder) Json.textOf?
  let description ← m.field? "description" none (Json.nullable? Json.textOf?)
  let placeholder ← m.field? "placeholder" defaultPlaceholder Json.textOf?
  let existing ← m.field? "editing" false Json.boolOf?
  return { name, header, body, description, placeholder, existing }

def ofJson? (v : Value) : Option Package :=
  (Json.recordOf? fields v).bind ofMembers?

end Package
end SchemaChange
