import SchemaChange.Catalog.Lookup
import SchemaChange.Constraint.Edit

/-!
# Constraint.Load — constraints from the system tables

A key is described by a row of its own, by the segments of the index behind it and, if it refers to
another key, by a row about the reference and the segments of the other index. A CHECK is described
by the source of a trigger.

- `conditionOfCheck` : the condition inside the source of a CHECK
- `Constraint.load`  : an existing constraint, ready to be edited
-/

namespace SchemaChange
namespace Constraint

/-! ## Queries -/

def catalogSql : String :=
  "SELECT RC.RDB$CONSTRAINT_NAME, RC.RDB$CONSTRAINT_TYPE, RC.RDB$INDEX_NAME, I.RDB$INDEX_TYPE " ++
  "FROM RDB$RELATION_CONSTRAINTS RC " ++
  "LEFT JOIN RDB$INDICES I ON I.RDB$INDEX_NAME = RC.RDB$INDEX_NAME " ++
  "WHERE RC.RDB$RELATION_NAME = ? AND RC.RDB$CONSTRAINT_NAME = ?"

def segmentsSql : String :=
  "SELECT RDB$FIELD_NAME FROM RDB$INDEX_SEGMENTS " ++
  "WHERE RDB$INDEX_NAME = ? ORDER BY RDB$FIELD_POSITION"

def referenceSql : String :=
  "SELECT REF.RDB$UPDATE_RULE, REF.RDB$DELETE_RULE, " ++
  "UQ.RDB$RELATION_NAME AS REF_TABLE, UQ.RDB$INDEX_NAME AS REF_INDEX " ++
  "FROM RDB$REF_CONSTRAINTS REF " ++
  "JOIN RDB$RELATION_CONSTRAINTS UQ ON UQ.RDB$CONSTRAINT_NAME = REF.RDB$CONST_NAME_UQ " ++
  "WHERE REF.RDB$CONSTRAINT_NAME = ?"

def checkSql : String :=
  "SELECT T.RDB$TRIGGER_SOURCE FROM RDB$CHECK_CONSTRAINTS CC " ++
  "JOIN RDB$TRIGGERS T ON T.RDB$TRIGGER_NAME = CC.RDB$TRIGGER_NAME " ++
  "WHERE CC.RDB$CONSTRAINT_NAME = ? ORDER BY T.RDB$TRIGGER_TYPE"

/-! ## Sources -/

/-- The condition without its keyword and without the parentheses at its two ends. -/
def conditionOfCheck (source : String) : String :=
  let trimmed := Text.trimChars source.toList
  let body :=
    match Text.afterKeyword? "CHECK".toList trimmed with
    | some rest => Text.trimChars rest
    | none => trimmed
  if 2 ≤ body.length ∧ body.head? = some '(' ∧ body.getLast? = some ')' then
    String.ofList (Text.trimChars body.tail.dropLast)
  else
    String.ofList body

/-! ## Loading -/

/-- The columns of an index, in the order of its segments. -/
def loadSegments (index : String) : Lookup LoadProblem (List String) := do
  let rows ← loadRows segmentsSql [index]
  return rows.filterMap fun row => row.text? "RDB$FIELD_NAME"

/-- The columns of the index behind a key; without an index there are none. -/
def loadColumns : Option String → Lookup LoadProblem (List String)
  | some index => loadSegments index
  | none => Lookup.done []

/-- A rule that is missing or unknown is the default one. -/
def loadedRule (row : Catalog.Row) (column : String) : Rule :=
  ((row.text? column).bind Rule.ofKeyword?).getD .noAction

/-- Adds the reference to a foreign key. -/
def withReference (name : String) (c : Constraint) : Lookup LoadProblem Constraint := do
  let rows ← loadRows referenceSql [name]
  let row ← headRow "foreign key reference" name rows
  let columns ← loadColumns (row.text? "REF_INDEX")
  return { c with
    referencedTable := row.text? "REF_TABLE"
    updateRule := loadedRule row "RDB$UPDATE_RULE"
    deleteRule := loadedRule row "RDB$DELETE_RULE"
    referencedColumns := columns }

def loadCheck (table name : String) : Lookup LoadProblem Constraint := do
  let rows ← loadRows checkSql [name]
  let source := (rows.head?.bind fun row => row.text? "RDB$TRIGGER_SOURCE").getD ""
  return checkOn table (conditionOfCheck source)

def loadKey (kind : Kind) (table : String) (index : Option String) :
    Lookup LoadProblem Constraint := do
  let columns ← loadColumns index
  return { kind := kind, table := table, columns := columns }

/-- The constraint without its name and its index. -/
def loadBody (table name : String) (index : Option String) :
    Kind → Lookup LoadProblem Constraint
  | .check => loadCheck table name
  | .primary => loadKey .primary table index
  | .unique => loadKey .unique table index
  | .foreign => do
      let key ← loadKey .foreign table index
      withReference name key

/-- The kind that the row names. -/
def loadKind (name : String) (row : Catalog.Row) : Lookup LoadProblem Kind :=
  match (row.text? "RDB$CONSTRAINT_TYPE").bind Kind.ofKeyword? with
  | some kind => Lookup.done kind
  | none => Lookup.fail (.notFound "constraint" name)

/-- The index of a row, unless it is one that the database made along with the constraint. -/
def loadedIndex (name : String) (row : Catalog.Row) : Option Index :=
  ((row.text? "RDB$INDEX_NAME").filter fun index =>
      index != name && !Catalog.isSystemName index).map fun index =>
    { name := index
      sort := if (row.integer? "RDB$INDEX_TYPE").getD 0 = 1 then .descending else .ascending }

def load (table name : String) : Lookup LoadProblem Constraint := do
  let rows ← loadRows catalogSql [table, name]
  let row ← headRow "constraint" name rows
  let kind ← loadKind name row
  let body ← loadBody table name (row.text? "RDB$INDEX_NAME") kind
  return { body with name := name, index := loadedIndex name row }.asExisting

end Constraint
end SchemaChange
