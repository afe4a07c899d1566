import SchemaChange.Constraint.Basic

/-!
# Constraint.Edit — edits of a constraint

A constraint is edited in place. Only a name given by hand, the start of an edit, and the search for
a name touch its name; the search leaves every name alone that is there already.

- `Constraint.asExisting` : an existing constraint, to be dropped and added again
- `Constraint.Edit`       : the other edits
- `Constraint.ensureName` : a generated name for a constraint without one
-/

namespace SchemaChange
namespace Constraint

/-- From here on the constraint is dropped by the name it has now. -/
def asExisting (c : Constraint) : Constraint :=
  { c with existing := true, initialName := some c.name, nameByHand := false }

/-- A name given by hand. -/
def rename (c : Constraint) (name : String) : Constraint :=
  { c with name := name, nameByHand := true }

/-- The edits that need no catalog. -/
inductive Edit
  | rename (name : String)
  | kind (kind : Kind)
  | table (table : String)
  | columns (columns : List String)
  | addColumn (column : String)
  | referencedTable (table : Option String)
  | referencedColumns (columns : List String)
  | updateRule (rule : Rule)
  | deleteRule (rule : Rule)
  | checkExpression (expression : Option String)
  | index (index : Option Index)
  | tablespace (tablespace : Option String)
  deriving DecidableEq, Repr

def Edit.apply (e : Edit) (c : Constraint) : Constraint :=
  match e with
  | .rename v => c.rename v
  | .kind v => { c with kind := v }
  | .table v => { c with table := v }
  | .columns v => { c with columns := v }
  | .addColumn v => { c with columns := c.columns ++ [v] }
  | .referencedTable v => { c with referencedTable := v }
  | .referencedColumns v => { c with referencedColumns := v }
  | .updateRule v => { c with updateRule := v }
  | .deleteRule v => { c with deleteRule := v }
  | .checkExpression v => { c with checkExpression := v }
  | .index v => { c with index := v }
  | .tablespace v => { c with tablespace := v }

/-- The constraint has a name, or is to be left without one. -/
def isNamed (c : Constraint) : Bool :=
  c.nameByHand || !Text.isBlank c.name

/-- Gives a generated name to a constraint that has none. -/
def ensureName {ε : Type} (c : Constraint) : Lookup ε Constraint :=
  if c.isNamed then
    Lookup.done c
  else do
    let name ← c.wantedName.freshOrEmpty
    return { c with name := name }

end Constraint
end SchemaChange
