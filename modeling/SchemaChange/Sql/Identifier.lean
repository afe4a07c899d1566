import SchemaChange.Text.Blank
import SchemaChange.Sql.Keyword

/-!
# Sql.Identifier — names in statements

A name is written bare when Firebird reads it back unchanged: upper-case ASCII letters, digits, `_`
and `$`, a letter first, and no reserved word. Every other name, the empty one included, is written
between double quotes with each double quote inside written twice.

- `identifier`     : the written form
- `identifierList` : trimmed names, written and separated by commas
-/

namespace SchemaChange
namespace Sql

/-- A character of a bare name. -/
def isBareChar (c : Char) : Bool :=
  c.isUpper || c.isDigit || c == '_' || c == '$'

def needsQuotes (name : String) : Bool :=
  match name.toList with
  | [] => true
  | c :: cs => !c.isUpper || !(c :: cs).all isBareChar || isReserved name

/-- Writes each double quote twice. -/
def doubleQuotes (cs : List Char) : List Char :=
  cs.flatMap fun c => if c = '\x22' then ['\x22', '\x22'] else [c]

/-- The name between double quotes. -/
def delimited (name : String) : String :=
  String.ofList ('\x22' :: doubleQuotes name.toList ++ ['\x22'])

def identifier (name : String) : String :=
  if needsQuotes name then delimited name else name

def identifierList (names : List String) : String :=
  ", ".intercalate (names.map fun name => identifier (Text.trim name))

end Sql
end SchemaChange
