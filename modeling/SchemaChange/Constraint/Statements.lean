import SchemaChange.Constraint.Basic
import SchemaChange.Refusal
import SchemaChange.Script.Batch
import SchemaChange.Sql.Expression
import SchemaChange.Sql.Identifier

/-!
# Constraint.Statements — statements that add a constraint

A new constraint is one `ALTER TABLE … ADD`. An existing one cannot be altered: it is dropped by its
old name and added again.

- `Constraint.misplaced?` : a field that does not go with the kind
- `Constraint.clause`     : the definition
- `Constraint.toBatch`    : the statements, as a batch
-/

namespace SchemaChange
namespace Constraint

/-! ## What a kind carries -/

def hasReference (c : Constraint) : Bool :=
  (Text.nonBlank? c.referencedTable).isSome || !c.referencedColumns.isEmpty

/-- The first field that does not go with the kind. -/
def misplaced? (c : Constraint) : Option Field :=
  if c.kind = .check ∧ c.columns ≠ [] then some .columns
  else if c.kind ≠ .foreign ∧ c.hasReference then some .referencedTable
  else if c.kind ≠ .check ∧ (Text.nonBlank? c.checkExpression).isSome then some .checkExpression
  else none

def demandPayload (c : Constraint) : Except Refusal Unit :=
  match c.misplaced? with
  | some field => .error (.notAllowed field c.kind.keyword)
  | none => .ok ()

/-- One column or more, and no blank one. -/
def demandColumns (field : Field) (columns : List String) : Except Refusal Unit :=
  if columns = [] then .error (.noColumns field)
  else
    match columns.findIdx? Text.isBlank with
    | some position => .error (.blankEntry field position)
    | none => .ok ()

/-! ## Definitions -/

/-- The index and the tablespace of a key, where they are named. -/
def indexClauses (c : Constraint) : String :=
  (match c.index with
    | some index =>
        if Text.isBlank index.name then ""
        else
          " USING " ++ index.sort.keyword ++ " INDEX " ++
            Sql.identifier (Text.trim index.name)
    | none => "") ++
  (match Text.nonBlank? c.tablespace with
    | some tablespace => " TABLESPACE " ++ Sql.identifier tablespace
    | none => "")

/-- The columns of a PRIMARY KEY or UNIQUE constraint. -/
def keyClause (c : Constraint) : Except Refusal String := do
  demandColumns .columns c.columns
  return c.kind.keyword ++ " (" ++ Sql.identifierList c.columns ++ ")" ++ c.indexClauses

/-- The columns of a FOREIGN KEY, those they refer to, and the two rules. -/
def referenceClause (c : Constraint) : Except Refusal String := do
  demandColumns .columns c.columns
  let referenced ← demand .referencedTable c.referencedTable
  demandColumns .referencedColumns c.referencedColumns
  if c.columns.length ≠ c.referencedColumns.length then
    throw (.countMismatch c.columns.length c.referencedColumns.length)
  return c.kind.keyword ++ " (" ++ Sql.identifierList c.columns ++ ") REFERENCES " ++
    Sql.identifier referenced ++ " (" ++ Sql.identifierList c.referencedColumns ++
    ") ON UPDATE " ++ c.updateRule.keyword ++ " ON DELETE " ++ c.deleteRule.keyword ++
    c.indexClauses

/-- The condition of a CHECK, which has no index. -/
def checkClause (c : Constraint) : Except Refusal String := do
  let expression ← demand .checkExpression c.checkExpression
  return c.kind.keyword ++ " " ++ Sql.grouped expression

def clause (c : Constraint) : Except Refusal String := do
  c.demandPayload
  match c.kind with
  | .primary => c.keyClause
  | .unique => c.keyClause
  | .foreign => c.referenceClause
  | .check => c.checkClause

/-! ## Statements -/

def alterTable (c : Constraint) : String :=
  "ALTER TABLE " ++ Sql.identifier (Text.trim c.table)

def dropStatement (c : Constraint) (name : String) : String :=
  c.alterTable ++ " DROP CONSTRAINT " ++ Sql.identifier name

/-- Without a name the database gives the constraint one. -/
def addStatement (c : Constraint) (clause : String) : String :=
  if Text.isBlank c.name then c.alterTable ++ " ADD " ++ clause
  else
    c.alterTable ++ " ADD CONSTRAINT " ++ Sql.identifier (Text.trim c.name) ++ " " ++ clause

/-- Drops the constraint if it exists. -/
def dropping (c : Constraint) : Except Refusal (List String) :=
  if c.existing then
    (demand .name (some c.knownName)).map fun name => [c.dropStatement name]
  else
    .ok []

def statements (c : Constraint) : Except Refusal (List String) := do
  let _ ← demand .table (some c.table)
  let clause ← c.clause
  let dropped ← c.dropping
  return dropped ++ [c.addStatement clause]

def toBatch (c : Constraint) : Except Refusal Script.Batch :=
  c.statements.map Script.Batch.ofStatements

end Constraint
end SchemaChange
