import SchemaChange.Refusal
import SchemaChange.Script.Batch
import SchemaChange.Sql.Identifier
import SchemaChange.Sql.Literal
import SchemaChange.User.Basic

/-!
# User.Statements — statements that create or alter a user

A new user is one `CREATE USER`, an existing one at most one `ALTER USER` with an option for each
attribute that was touched. The comment has a statement of its own.

- `User.creation`        : the statements of a new user
- `UserDraft.options`    : the options of an existing user
- `UserDraft.alteration` : the statements of an existing user
- `UserDraft.toBatch`    : either, as a batch
-/

namespace SchemaChange
namespace User

/-! ## Pieces of statements -/

def tagSetting (key value : String) : String :=
  Sql.identifier key ++ " = " ++ Sql.quoteText value

def tagRemoval (key : String) : String :=
  "DROP " ++ Sql.identifier key

/-- The tags in parentheses. -/
def tagOption (items : List String) : String :=
  "TAGS (" ++ ", ".intercalate items ++ ")"

def activity (u : User) : String :=
  if u.active then "ACTIVE" else "INACTIVE"

def pluginClause (u : User) : String :=
  match Text.nonBlank? u.plugin with
  | some plugin => " USING PLUGIN " ++ plugin
  | none => ""

def commentStatement (name value : String) : String :=
  "COMMENT ON USER " ++ name ++ " IS " ++ value

/-- A part of the full name of a new user, unless it is blank. -/
def namePart (keyword : String) (value : Option String) : String :=
  match Text.nonBlank? value with
  | some text => " " ++ keyword ++ " " ++ Sql.quoteText text
  | none => ""

/-! ## New users -/

def creation (u : User) : Except Refusal (List String) := do
  let name ← demand .name (some u.name)
  let password ← demand .password u.password
  let quoted := Sql.identifier name
  let tags := u.tags.entries.map fun (key, value) => tagSetting key value
  let create :=
    "CREATE USER " ++ quoted ++ " PASSWORD " ++ Sql.quoteText password ++
      namePart "FIRSTNAME" u.firstName ++ namePart "MIDDLENAME" u.middleName ++
      namePart "LASTNAME" u.lastName ++ " " ++ u.activity ++ u.pluginClause ++
      (if tags.isEmpty then "" else " " ++ tagOption tags) ++
      (if u.admin then " GRANT ADMIN ROLE" else "")
  let comment :=
    (Text.nonBlank? u.comment).map fun text => commentStatement quoted (Sql.quoteText text)
  return create :: comment.toList

end User

namespace UserDraft

/-! ## Existing users -/

/-- A plugin may be set again to what it is, blanks aside. -/
def demandPlugin (d : UserDraft) : Except Refusal Unit :=
  if d.isMarked .plugin ∧ Text.nonBlank? d.initial.plugin ≠ Text.nonBlank? d.current.plugin then
    .error .pluginChanged
  else
    .ok ()

/-- The option of a part of the full name: an absent name is the empty text. -/
def nameOption (keyword : String) (value : Option String) : String :=
  keyword ++ " " ++ Sql.quoteText (value.getD "")

/-- The option of the tags, unless they are as they were. -/
def tagsOption (d : UserDraft) : List String :=
  let items :=
    (d.tagsSet.map fun (key, value) => User.tagSetting key value) ++
      d.tagsRemoved.map User.tagRemoval
  if items.isEmpty then [] else [User.tagOption items]

/-- The options in the order in which they are written. -/
def writingOrder : List User.Part :=
  [.password, .firstName, .middleName, .lastName, .active, .tags, .admin]

/-- The options of an attribute that was touched. -/
def partOptions (d : UserDraft) : User.Part → Except Refusal (List String)
  | .password =>
      (demand .password d.current.password).map fun password =>
        ["PASSWORD " ++ Sql.quoteText password]
  | .firstName => .ok [nameOption "FIRSTNAME" d.current.firstName]
  | .middleName => .ok [nameOption "MIDDLENAME" d.current.middleName]
  | .lastName => .ok [nameOption "LASTNAME" d.current.lastName]
  | .active => .ok [d.current.activity]
  | .tags => .ok d.tagsOption
  | .admin => .ok [if d.current.admin then "GRANT ADMIN ROLE" else "REVOKE ADMIN ROLE"]
  | .comment => .ok []
  | .plugin => .ok []

def markedOptions (d : UserDraft) (part : User.Part) : Except Refusal (List String) :=
  if d.isMarked part then d.partOptions part else .ok []

/-- The options of all attributes that were touched. -/
def options (d : UserDraft) : Except Refusal (List String) :=
  (writingOrder.mapM d.markedOptions).map List.flatten

/-- The statement that sets the options, if there are any. -/
def alterStatements (d : UserDraft) (name : String) (options : List String) : List String :=
  if options.isEmpty then []
  else ["ALTER USER " ++ name ++ " SET " ++ " ".intercalate options ++ d.current.pluginClause]

def alteration (d : UserDraft) : Except Refusal (List String) := do
  let name ← demand .name (some d.current.name)
  d.demandPlugin
  let options ← d.options
  let quoted := Sql.identifier name
  let comment :=
    if d.isMarked .comment then
      [User.commentStatement quoted (Sql.commentLiteral d.current.comment)]
    else []
  return d.alterStatements quoted options ++ comment

def toBatch (d : UserDraft) : Except Refusal Script.Batch :=
  (if d.existing then d.alteration else d.current.creation).map Script.Batch.ofStatements

end UserDraft
end SchemaChange
