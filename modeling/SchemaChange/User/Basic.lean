import SchemaChange.Attributes
import SchemaChange.Draft

/-!
# User.Basic — users and their edits

- `User`                  : the values of a user's attributes
- `User.Edit`             : the edits; each sets one value or one tag and touches one attribute
- `UserDraft`             : a user as it was and as it is to be
- `UserDraft.tagsSet`     : the tags to be set
- `UserDraft.tagsRemoved` : the tags to be dropped
-/

namespace SchemaChange

structure User where
  name : String := ""
  /-- Never loaded; given only to set it. -/
  password : Option String := none
  firstName : Option String := none
  middleName : Option String := none
  lastName : Option String := none
  active : Bool := true
  /-- The user administers the database of users. -/
  admin : Bool := false
  comment : Option String := none
  /-- The plugin that authenticates the user. -/
  plugin : Option String := none
  /-- Attributes of the plugin. -/
  tags : Attributes := Attributes.empty
  deriving DecidableEq

namespace User

/-- The attributes that an edit can touch. -/
inductive Part
  | password
  | firstName
  | middleName
  | lastName
  | active
  | admin
  | comment
  | plugin
  | tags
  deriving DecidableEq, Repr

instance : Attribute Part where
  all := [.password, .firstName, .middleName, .lastName, .active, .admin, .comment, .plugin, .tags]
  bit
    | .password => 0
    | .firstName => 1
    | .middleName => 2
    | .lastName => 3
    | .active => 4
    | .admin => 5
    | .comment => 6
    | .plugin => 7
    | .tags => 8
  label
    | .password => "PASSWORD"
    | .firstName => "FIRST_NAME"
    | .middleName => "MIDDLE_NAME"
    | .lastName => "LAST_NAME"
    | .active => "ACTIVE"
    | .admin => "ADMIN"
    | .comment => "COMMENT"
    | .plugin => "PLUGIN"
    | .tags => "TAGS"

inductive Edit
  | password (password : String)
  | firstName (name : Option String)
  | middleName (name : Option String)
  | lastName (name : Option String)
  | active (active : Bool)
  | admin (admin : Bool)
  | comment (comment : Option String)
  | plugin (plugin : Option String)
  | setTag (key value : String)
  | removeTag (key : String)
  deriving DecidableEq, Repr

namespace Edit

/-- The attribute that the edit touches. -/
def part : Edit → Part
  | .password _ => .password
  | .firstName _ => .firstName
  | .middleName _ => .middleName
  | .lastName _ => .lastName
  | .active _ => .active
  | .admin _ => .admin
  | .comment _ => .comment
  | .plugin _ => .plugin
  | .setTag _ _ => .tags
  | .removeTag _ => .tags

def apply (e : Edit) (u : User) : User :=
  match e with
  | .password v => { u with password := some v }
  | .firstName v => { u with firstName := v }
  | .middleName v => { u with middleName := v }
  | .lastName v => { u with lastName := v }
  | .active v => { u with active := v }
  | .admin v => { u with admin := v }
  | .comment v => { u with comment := v }
  | .plugin v => { u with plugin := v }
  | .setTag k v => { u with tags := u.tags.insert k v }
  | .removeTag k => { u with tags := u.tags.erase k }

end Edit
end User

/-- A user as it was and as it is to be. -/
abbrev UserDraft : Type := Draft User User.Part

namespace UserDraft

def applyEdit (d : UserDraft) (e : User.Edit) : UserDraft :=
  d.change e.part e.apply

/-- Applies edits one after the other. -/
def applyEdits (d : UserDraft) (edits : List User.Edit) : UserDraft :=
  edits.foldl applyEdit d

/-- Tags that are new or have a new text. -/
def tagsSet (d : UserDraft) : List (String × String) :=
  d.current.tags.entries.filter fun (key, value) => d.initial.tags.get? key != some value

/-- Tags that are there no longer. -/
def tagsRemoved (d : UserDraft) : List String :=
  d.initial.tags.keys.filter fun key => !d.current.tags.keys.contains key

end UserDraft
end SchemaChange
