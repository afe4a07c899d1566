import SchemaChange.Naming
import SchemaChange.Text.UpperCase

/-!
# Constraint.Basic — constraints of tables

- `Constraint`           : a constraint to be added, or dropped and added again
- `Constraint.Kind`      : what it demands of the rows
- `Constraint.Rule`      : what becomes of referring rows
- `Constraint.Direction` : the order of the index behind it
- `Constraint.knownName` : the name under which the constraint is known to the database
-/

namespace SchemaChange
namespace Constraint

inductive Kind
  | primary
  | foreign
  | unique
  | check
  deriving DecidableEq, Repr

namespace Kind

/-- The kind as statements and system tables write it. -/
def keyword : Kind → String
  | .primary => "PRIMARY KEY"
  | .foreign => "FOREIGN KEY"
  | .unique => "UNIQUE"
  | .check => "CHECK"

def nameKind : Kind → NameKind
  | .primary => .primaryKey
  | .foreign => .foreignKey
  | .unique => .unique
  | .check => .check

def all : List Kind :=
  [.primary, .foreign, .unique, .check]

/-- Reads a keyword between blanks and in any case. -/
def ofKeyword? (s : String) : Option Kind :=
  all.find? fun kind => Text.upperCase (Text.trim s) == kind.keyword

end Kind

/-- What becomes of referring rows when the row they refer to goes or changes. -/
inductive Rule
  | restrict
  | noAction
  | cascade
  | setDefault
  | setNull
  deriving DecidableEq, Repr

namespace Rule

def keyword : Rule → String
  | .restrict => "RESTRICT"
  | .noAction => "NO ACTION"
  | .cascade => "CASCADE"
  | .setDefault => "SET DEFAULT"
  | .setNull => "SET NULL"

def all : List Rule :=
  [.restrict, .noAction, .cascade, .setDefault, .setNull]

/-- Reads a keyword between blanks and in any case. -/
def ofKeyword? (s : String) : Option Rule :=
  all.find? fun rule => Text.upperCase (Text.trim s) == rule.keyword

end Rule

inductive Direction
  | ascending
  | descending
  deriving DecidableEq, Repr

def Direction.keyword : Direction → String
  | .ascending => "ASC"
  | .descending => "DESC"

/-- The index behind a key. -/
structure Index where
  name : String
  sort : Direction := .ascending
  deriving DecidableEq, Repr

end Constraint

structure Constraint where
  /-- Empty until a name is given. -/
  name : String := ""
  kind : Constraint.Kind := .primary
  table : String := ""
  columns : List String := []
  referencedTable : Option String := none
  referencedColumns : List String := []
  updateRule : Constraint.Rule := .noAction
  deleteRule : Constraint.Rule := .noAction
  checkExpression : Option String := none
  index : Option Constraint.Index := none
  tablespace : Option String := none
  /-- The constraint exists, and is dropped before it is added. -/
  existing : Bool := false
  /-- The name at the time editing began. -/
  initialName : Option String := none
  /-- The name was given by hand, and is not to be replaced by a generated one. -/
  nameByHand : Bool := false
  deriving DecidableEq, Repr

namespace Constraint

/-! ## New constraints -/

def primaryKey (table : String) (columns : List String) : Constraint :=
  { kind := .primary, table := table, columns := columns }

def uniqueKey (table : String) (columns : List String) : Constraint :=
  { kind := .unique, table := table, columns := columns }

def foreignKey (table : String) (columns : List String) (referencedTable : String)
    (referencedColumns : List String) : Constraint :=
  { kind := .foreign, table := table, columns := columns,
    referencedTable := some referencedTable, referencedColumns := referencedColumns }

def checkOn (table expression : String) : Constraint :=
  { kind := .check, table := table, checkExpression := some expression }

/-! ## Names -/

/-- The name to drop the constraint by: the one it had when editing began, unless that is blank. -/
def knownName (c : Constraint) : String :=
  match c.initialName with
  | some name => if Text.isBlank name then c.name else name
  | none => c.name

def wantedName (c : Constraint) : NameRequest :=
  ⟨c.kind.nameKind, c.table⟩

end Constraint
end SchemaChange
