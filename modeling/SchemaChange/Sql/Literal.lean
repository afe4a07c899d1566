import SchemaChange.Text.Blank
import SchemaChange.Sql.TypeCode

/-!
# Sql.Literal — values in statements

Values are taken as they are: a single quote inside a text is not escaped.

- `quoteText`      : a text between single quotes
- `literal`        : a value as its type group writes it
- `commentLiteral` : the value of a comment, `NULL` to remove it
-/

namespace SchemaChange
namespace Sql

def quoteText (value : String) : String :=
  "'" ++ value ++ "'"

def literal (value : String) (group : TypeGroup) : String :=
  if group.isQuoted then quoteText value else value

/-- A comment that is not blank is written untrimmed. -/
def commentLiteral : Option String → String
  | none => "NULL"
  | some text => if Text.isBlank text then "NULL" else quoteText text

end Sql
end SchemaChange
