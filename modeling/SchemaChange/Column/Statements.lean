import SchemaChange.Column.Edit
import SchemaChange.Script.Batch
import SchemaChange.Sql.Expression
import SchemaChange.Sql.Literal

/-!
# Column.Statements — statements that create or alter a column

A new column is one `ALTER TABLE … ADD`, followed by its comment and by the statements that
generate its values. An existing column has its own statements for each attribute that was touched,
in a fixed order of the attributes.

- `Column.creation`        : the statements of a new column
- `Column.partStatements`  : the statements of one attribute of an existing column
- `ColumnDraft.alteration` : the statements of all attributes touched
- `ColumnDraft.toBatch`    : either, as a batch
-/

namespace SchemaChange
namespace Column

/-! ## Generated values -/

/-- The sequence to be written for a column that is no identity column. -/
def demandGenerator (a : AutoIncrement) : Except Refusal String :=
  demand .generatorName a.generatorName

/-- Writes the next value of the sequence into the column of each new row that has none. -/
def fillTrigger (c : Column) (a : AutoIncrement) (generator : String) : String :=
  "CREATE OR ALTER TRIGGER " ++ Sql.identifier (a.triggerFor (Text.trim c.table)) ++
    " FOR " ++ c.quotedTable ++
    " ACTIVE BEFORE INSERT POSITION 0 AS BEGIN IF (NEW." ++ c.quotedName ++
    " IS NULL) THEN NEW." ++ c.quotedName ++ " = NEXT VALUE FOR " ++
    Sql.identifier generator ++ "; END"

/-- Creates or restarts the sequence and attaches it to the column. -/
def sequenceStatements (c : Column) (a : AutoIncrement) (generator : String) : List String :=
  (if a.createGenerator then ["CREATE SEQUENCE " ++ Sql.identifier generator] else []) ++
    [ "ALTER SEQUENCE " ++ Sql.identifier generator ++ " RESTART WITH " ++
        Text.decimalInt a.startValue.toInt,
      c.fillTrigger a generator ]

/-- The statements that generate the values of a new column; none for an identity column, whose
definition says it all. -/
def newGenerator (c : Column) : Except Refusal (List String) :=
  match c.autoIncrement with
  | none => .ok []
  | some a =>
      if a.isIdentity then .ok []
      else (demandGenerator a).map (c.sequenceStatements a)

/-! ## New columns -/

def commentStatement (c : Column) (value : String) : String :=
  "COMMENT ON COLUMN " ++ c.quotedTable ++ "." ++ c.quotedName ++ " IS " ++ value

/-- What follows the type: the identity, or default, nullability and condition, which an identity
column does not take. -/
def valueClauses (c : Column) : String :=
  match c.autoIncrement.filter AutoIncrement.isIdentity with
  | some a =>
      " GENERATED BY DEFAULT AS IDENTITY (START WITH " ++ Text.decimalInt a.startValue.toInt ++ ")"
  | none =>
      optionalClause " DEFAULT "
          ((Text.nonBlank? c.defaultValue).map fun value => Sql.literal value c.group) ++
        (if c.nullable then "" else " NOT NULL") ++
        optionalClause " CHECK " ((Text.nonBlank? c.check).map Sql.grouped)

/-- A computed column has its expression and nothing else. -/
def definition (c : Column) : Except Refusal String :=
  match Text.nonBlank? c.computed with
  | some source => .ok (" COMPUTED BY " ++ Sql.grouped source)
  | none => c.storage.map fun storage => " " ++ storage ++ c.valueClauses

def creation (c : Column) : Except Refusal (List String) := do
  let _ ← demand .table (some c.table)
  let _ ← demand .name (some c.name)
  let generator ← c.newGenerator
  let definition ← c.definition
  let add :=
    "ALTER TABLE " ++ c.quotedTable ++ " ADD " ++ c.quotedName ++ definition ++
      (if c.primaryKey then " PRIMARY KEY" else "")
  let comment :=
    (Text.nonBlank? c.description).map fun text => c.commentStatement (Sql.quoteText text)
  return add :: comment.toList ++ generator

/-! ## Existing columns -/

def alterStatement (c : Column) (action : String) : String :=
  "ALTER TABLE " ++ c.quotedTable ++ " ALTER COLUMN " ++ c.quotedName ++ " " ++ action

/-- Equal names need no renaming. -/
def nameChange (initial current : Column) : List String :=
  if initial.name = current.name then []
  else
    [ "ALTER TABLE " ++ current.quotedTable ++ " ALTER COLUMN " ++ initial.quotedName ++ " TO " ++
        current.quotedName ]

/-- Changes the type to the given one, unless the system keeps the column. -/
def retyping (c : Column) (target : Except Refusal String) : Except Refusal (List String) :=
  if c.keptBySystem then .ok []
  else target.map fun text => [c.alterStatement ("TYPE " ++ text)]

def defaultAction (c : Column) : String :=
  match Text.nonBlank? c.defaultValue with
  | some value => "SET DEFAULT " ++ Sql.literal value c.group
  | none => "DROP DEFAULT"

/-- A computed column stays one: there is no statement that takes its expression away. -/
def recomputing (c : Column) : Except Refusal (List String) :=
  match Text.nonBlank? c.computed with
  | some source => .ok [c.alterStatement ("COMPUTED BY " ++ Sql.grouped source)]
  | none => .error .computedRemoved

/-- Restarts an identity; sets up a sequence; leaves a column alone that generates nothing. -/
def regenerating (c : Column) : Except Refusal (List String) :=
  match c.autoIncrement with
  | none => .ok []
  | some a =>
      if a.isIdentity then
        .ok [c.alterStatement ("RESTART WITH " ++ Text.decimalInt a.startValue.toInt)]
      else
        (demandGenerator a).map (c.sequenceStatements a)

/-- The statements of one attribute of an existing column. -/
def partStatements (initial current : Column) : Part → Except Refusal (List String)
  | .name => .ok (nameChange initial current)
  | .type => current.retyping current.typeClause
  | .nullable =>
      .ok [current.alterStatement (if current.nullable then "DROP NOT NULL" else "SET NOT NULL")]
  | .defaultValue => .ok [current.alterStatement current.defaultAction]
  | .computed => current.recomputing
  | .description => .ok [current.commentStatement (Sql.commentLiteral current.description)]
  | .domain => current.retyping current.storage
  | .autoIncrement => current.regenerating

end Column

namespace ColumnDraft

/-- The attribute has statements of its own: it was touched, and it is not the type of a column
whose domain was touched too. -/
def isWritten (d : ColumnDraft) (part : Column.Part) : Bool :=
  d.isMarked part && !(part == .type && d.isMarked .domain)

def writtenStatements (d : ColumnDraft) (part : Column.Part) : Except Refusal (List String) :=
  if d.isWritten part then Column.partStatements d.initial d.current part else .ok []

/-- The attributes in the order of their statements. -/
def writingOrder : List Column.Part :=
  [.name, .type, .nullable, .defaultValue, .computed, .description, .domain, .autoIncrement]

/-- The attributes whose refusals go before all others. -/
def checkedFirst : List Column.Part :=
  [.computed, .autoIncrement]

def alteration (d : ColumnDraft) : Except Refusal (List String) := do
  let _ ← demand .table (some d.current.table)
  let _ ← demand .name (some d.current.name)
  let _ ← checkedFirst.mapM d.writtenStatements
  let statements ← writingOrder.mapM d.writtenStatements
  return statements.flatten

def toBatch (d : ColumnDraft) : Except Refusal Script.Batch :=
  (if d.existing then d.alteration else d.current.creation).map Script.Batch.ofStatements

end ColumnDraft
end SchemaChange
