import SchemaChange.Text.Blank

/-!
# Sql.Expression — expressions in parentheses

Where the grammar asks for an expression in parentheses, one pair is added unless the expression
already is one parenthesised group. Parentheses are counted wherever they stand, inside quotes too.

- `isGroup` : the first parenthesis is closed by the last character
- `grouped` : the trimmed expression as one group
-/

namespace SchemaChange
namespace Sql

/-- Counts open parentheses; they may drop to none at the last character only. A closing parenthesis
too many leaves the count at none. -/
def closesAtEnd : Nat → List Char → Bool
  | depth, [] => depth == 0
  | depth, c :: cs =>
      if c = '(' then
        closesAtEnd (depth + 1) cs
      else if c = ')' then
        if depth - 1 = 0 ∧ cs ≠ [] then false else closesAtEnd (depth - 1) cs
      else
        closesAtEnd depth cs

def isGroup (cs : List Char) : Bool :=
  cs.head? == some '(' && cs.getLast? == some ')' && closesAtEnd 0 cs

def grouped (expression : String) : String :=
  let trimmed := Text.trim expression
  if isGroup trimmed.toList then trimmed else "(" ++ trimmed ++ ")"

end Sql
end SchemaChange
