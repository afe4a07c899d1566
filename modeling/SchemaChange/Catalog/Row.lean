import SchemaChange.Catalog.Datum
import SchemaChange.Text.Split

/-!
# Catalog.Row — rows of an answer

- `Row.value?`   : the value of a named column, the first of that name
- `Row.text?`    : its text, trimmed, unless blank
- `Row.integer?` : its whole number
- `Row.truth?`   : its flag
- `isSystemName` : the names of things that the database makes for itself
-/

namespace SchemaChange
namespace Catalog

structure Row where
  columns : List String
  values : List Datum
  deriving DecidableEq, Repr

namespace Row

/-- Column names are compared up to the case of ASCII letters. A row may have fewer values than
columns. -/
def value? (r : Row) (name : String) : Option Datum :=
  match r.columns.findIdx? (fun column => Text.sameWord column.toList name.toList) with
  | some i => r.values[i]?
  | none => none

def text? (r : Row) (name : String) : Option String :=
  Text.nonBlank? ((r.value? name).bind Datum.text?)

def integer? (r : Row) (name : String) : Option Int64 :=
  (r.value? name).bind Datum.integer?

def truth? (r : Row) (name : String) : Option Bool :=
  (r.value? name).bind Datum.truth?

end Row

/-- Names that the system gives itself. -/
def isSystemName (name : String) : Bool :=
  "RDB$".toList.isPrefixOf name.toList

end Catalog
end SchemaChange
