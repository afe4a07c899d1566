import SchemaChange.Text.Blank

/-!
# Column.AutoIncrement — how a column gets generated values

An identity column generates its values itself. Otherwise a sequence generates them and a trigger
writes them into new rows.
-/

namespace SchemaChange

structure AutoIncrement where
  /-- The sequence behind the column. -/
  generatorName : Option String := none
  /-- The value that the sequence or the identity starts with. -/
  startValue : Int64 := 0
  isIdentity : Bool := false
  /-- The sequence is still to be created. -/
  createGenerator : Bool := true
  triggerName : Option String := none
  deriving DecidableEq, Repr

namespace AutoIncrement

def identity (start : Int64) : AutoIncrement :=
  { isIdentity := true, createGenerator := false, startValue := start }

def generator (name : String) (start : Int64) : AutoIncrement :=
  { generatorName := some name, startValue := start }

/-- The sequence exists already. -/
def ofExistingGenerator (a : AutoIncrement) : AutoIncrement :=
  { a with createGenerator := false }

def withTrigger (a : AutoIncrement) (name : String) : AutoIncrement :=
  { a with triggerName := some name }

/-- The trigger on a table: the given name unless it is blank, else one made from the table's. -/
def triggerFor (a : AutoIncrement) (table : String) : String :=
  match a.triggerName with
  | some name => if Text.isBlank name then table ++ "_BI" else name
  | none => table ++ "_BI"

end AutoIncrement
end SchemaChange
