import SchemaChange.Text.Blank
import SchemaChange.Script.Lexical

/-!
# Script.Batch — statements in order

A batch is a list of statements and the delimiter that ends each of them in a script. A semicolon
would not do as the delimiter: the bodies of packages and triggers contain it.

- `Batch.toScript` : the statements, each with the delimiter and a line end
- `Batch.parse`    : the statements of a script
- `Batch.append`   : more statements under the same delimiter
-/

namespace SchemaChange
namespace Script

def defaultDelimiter : String := "^"

structure Batch where
  statements : List String
  delimiter : String
  deriving DecidableEq, Repr

namespace Batch

/-- The statements under the default delimiter. -/
def ofStatements (statements : List String) : Batch :=
  ⟨statements, defaultDelimiter⟩

def push (b : Batch) (statement : String) : Batch :=
  { b with statements := b.statements ++ [statement] }

/-- The delimiter of the other batch is dropped. -/
def append (b other : Batch) : Batch :=
  { b with statements := b.statements ++ other.statements }

def toScript (b : Batch) : String :=
  String.join (b.statements.map fun statement => statement ++ b.delimiter ++ "\n")

/-- The trimmed text, unless it is blank. -/
def statement? (fragment : List Char) : Option String :=
  Text.nonBlank? (some (String.ofList fragment))

/-- An empty delimiter cuts nowhere: the whole script is one statement. -/
def parse (script delimiter : String) : Batch :=
  let pieces :=
    if delimiter.isEmpty then [script.toList] else fragments delimiter.toList script.toList
  ⟨pieces.filterMap statement?, delimiter⟩

/-- Reading the written script gives the batch back. -/
def isStable (b : Batch) : Bool :=
  parse b.toScript b.delimiter == b

end Batch
end Script
end SchemaChange
