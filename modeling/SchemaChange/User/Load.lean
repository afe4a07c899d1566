import SchemaChange.Catalog.Lookup
import SchemaChange.User.Basic

/-!
# User.Load — users from the database of users

- `UserDraft.load` : the draft of an existing user, with the tags of its plugin
-/

namespace SchemaChange
namespace User

def catalogSql : String :=
  "SELECT SEC$USER_NAME, SEC$FIRST_NAME, SEC$MIDDLE_NAME, SEC$LAST_NAME, " ++
  "SEC$ACTIVE, SEC$ADMIN, SEC$DESCRIPTION, SEC$PLUGIN " ++
  "FROM SEC$USERS WHERE SEC$USER_NAME = ? ORDER BY SEC$PLUGIN"

def tagsSql : String :=
  "SELECT SEC$KEY, SEC$VALUE FROM SEC$USER_ATTRIBUTES " ++
  "WHERE SEC$USER_NAME = ? AND SEC$PLUGIN = ? ORDER BY SEC$KEY"

/-- The user that a row describes, without tags. -/
def ofRow (name : String) (row : Catalog.Row) : User :=
  { name := (row.text? "SEC$USER_NAME").getD name
    firstName := row.text? "SEC$FIRST_NAME"
    middleName := row.text? "SEC$MIDDLE_NAME"
    lastName := row.text? "SEC$LAST_NAME"
    active := (row.truth? "SEC$ACTIVE").getD true
    admin := (row.truth? "SEC$ADMIN").getD false
    comment := row.text? "SEC$DESCRIPTION"
    plugin := row.text? "SEC$PLUGIN" }

/-- The tag that a row describes; its text is not trimmed. -/
def tagOfRow? (row : Catalog.Row) : Option (String × String) :=
  (row.text? "SEC$KEY").map fun key =>
    (key, ((row.value? "SEC$VALUE").bind Catalog.Datum.text?).getD "")

/-- A user without a plugin has no tags. -/
def loadTags (u : User) : Lookup LoadProblem Attributes :=
  match u.plugin with
  | none => Lookup.done Attributes.empty
  | some plugin => do
      let rows ← loadRows tagsSql [u.name, plugin]
      return Attributes.ofList (rows.filterMap tagOfRow?)

end User

namespace UserDraft

def load (name : String) : Lookup LoadProblem UserDraft := do
  let rows ← loadRows User.catalogSql [name]
  let row ← headRow "user" name rows
  let user := User.ofRow name row
  let tags ← user.loadTags
  return Draft.ofExisting { user with tags := tags }

end UserDraft
end SchemaChange
