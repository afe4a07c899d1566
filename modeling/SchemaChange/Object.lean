import SchemaChange.Column.Json
import SchemaChange.Column.Statements
import SchemaChange.Constraint.Json
import SchemaChange.Constraint.Statements
import SchemaChange.Package.Json
import SchemaChange.Package.Statements
import SchemaChange.User.Json
import SchemaChange.User.Statements

/-!
# Object — anything that can be changed

- `DesignObject`                                : a column, a constraint, a user or a package
- `DesignObject.toBatch`                        : the statements of the change
- `DesignObject.toJson`, `DesignObject.ofJson?` : the change in JSON, under the name of its kind
-/

namespace SchemaChange

open Json (Value Members)

/-! ## Drafts in JSON -/

namespace Draft

variable {V A : Type} [Attribute A]

/-- The members of a draft's record. -/
def toMembers (encode : V → Value) (d : Draft V A) : Members :=
  [ ("original", encode d.initial),
    ("current", encode d.current),
    ("dirty", .text d.marks.render),
    ("existing", .bool d.existing) ]

def marksOf? (v : Value) : Option (Marks A) :=
  (Json.textOf? v).bind Marks.parse?

/-- The wanted values have to be given; the old ones are the default values if they are not. -/
def ofMembers? (default : V) (decode? : Value → Option V) (m : Members) :
    Option (Draft V A) := do
  let initial ← m.field? "original" default decode?
  let current ← m.required? "current" decode?
  let marks ← m.field? "dirty" Marks.empty marksOf?
  let existing ← m.field? "existing" false Json.boolOf?
  return { initial, current, marks, existing }

/-- A draft is always an object. -/
def ofJson? (default : V) (decode? : Value → Option V) (v : Value) : Option (Draft V A) :=
  (Json.membersOf? v).bind (ofMembers? default decode?)

end Draft

/-! ## Objects -/

inductive DesignObject
  | column (draft : ColumnDraft)
  | constraint (constraint : Constraint)
  | user (draft : UserDraft)
  | package (package : Package)
  deriving DecidableEq

namespace DesignObject

def kindWord : DesignObject → String
  | .column _ => "column"
  | .constraint _ => "constraint"
  | .user _ => "user"
  | .package _ => "package"

def toBatch : DesignObject → Except Refusal Script.Batch
  | .column d => d.toBatch
  | .constraint c => c.toBatch
  | .user d => d.toBatch
  | .package p => p.toBatch

/-! ## JSON -/

/-- The members of the object's own record. -/
def bodyMembers : DesignObject → Members
  | .column d => d.toMembers Column.toJson
  | .constraint c => c.toMembers
  | .user d => d.toMembers User.toJson
  | .package p => p.toMembers

def toJson (o : DesignObject) : Value :=
  .object (("object", .text o.kindWord) :: o.bodyMembers)

/-- The object of the given kind with the given record. -/
def ofKind? (kind : String) (record : Value) : Option DesignObject :=
  match kind with
  | "column" => (Draft.ofJson? {} Column.ofJson? record).map .column
  | "constraint" => (Constraint.ofJson? record).map .constraint
  | "user" => (Draft.ofJson? {} User.ofJson? record).map .user
  | "package" => (Package.ofJson? record).map .package
  | _ => none

/-- The kind is a member of the record, or stands in front of the values of its fields. -/
def ofJson? : Value → Option DesignObject
  | .object m =>
      (Members.required? m "object" Json.textOf?).bind fun kind => ofKind? kind (.object m)
  | .array (.text kind :: values) => ofKind? kind (.array values)
  | _ => none

end DesignObject
end SchemaChange
