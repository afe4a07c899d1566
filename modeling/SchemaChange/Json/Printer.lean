import SchemaChange.Json.Value

/-!
# Json.Printer — trees as JSON texts

Two layouts: everything on one line without blanks, or one item or member a line with two blanks for
each level. In a string only the double quote, the backslash and the control characters below the
blank are escaped.

- `render`       : on one line
- `renderPretty` : one item or member a line
-/

namespace SchemaChange
namespace Json

/-! ## Strings -/

def hexDigit (n : Nat) : Char :=
  if n < 10 then Char.ofNat (48 + n) else Char.ofNat (87 + n)

/-- A character inside a string literal. -/
def escapeChar (c : Char) : List Char :=
  if c = '\x22' then ['\\', '\x22']
  else if c = '\\' then ['\\', '\\']
  else if c = '\x08' then ['\\', 'b']
  else if c = '\t' then ['\\', 't']
  else if c = '\n' then ['\\', 'n']
  else if c = '\x0c' then ['\\', 'f']
  else if c = '\r' then ['\\', 'r']
  else if c.toNat < 0x20 then
    ['\\', 'u', '0', '0', hexDigit (c.toNat / 16), hexDigit (c.toNat % 16)]
  else [c]

def stringLiteral (s : String) : List Char :=
  '\x22' :: s.toList.flatMap escapeChar ++ ['\x22']

/-- The literals that are no arrays or objects. -/
def scalarChars : Value → List Char
  | .null => ['n', 'u', 'l', 'l']
  | .bool true => ['t', 'r', 'u', 'e']
  | .bool false => ['f', 'a', 'l', 's', 'e']
  | .integer n => (Text.decimalInt n).toList
  | .real x => x.chars
  | .text s => stringLiteral s
  | .unpaired literal => '\x22' :: literal ++ ['\x22']
  | .array _ => []
  | .object _ => []

/-! ## On one line -/

mutual

def renderChars : Value → List Char
  | .array [] => ['[', ']']
  | .array (v :: vs) => '[' :: renderChars v ++ renderItems vs
  | .object [] => ['\x7b', '\x7d']
  | .object ((name, v) :: ms) =>
      '\x7b' :: stringLiteral name ++ ':' :: renderChars v ++ renderMembers ms
  | .null => scalarChars .null
  | .bool b => scalarChars (.bool b)
  | .integer n => scalarChars (.integer n)
  | .real x => scalarChars (.real x)
  | .text s => scalarChars (.text s)
  | .unpaired literal => scalarChars (.unpaired literal)

/-- The items behind the first one, and the end of the array. -/
def renderItems : List Value → List Char
  | [] => [']']
  | v :: vs => ',' :: renderChars v ++ renderItems vs

/-- The members behind the first one, and the end of the object. -/
def renderMembers : List (String × Value) → List Char
  | [] => ['\x7d']
  | (name, v) :: ms => ',' :: stringLiteral name ++ ':' :: renderChars v ++ renderMembers ms

end

def render (v : Value) : String :=
  String.ofList (renderChars v)

/-! ## One item or member a line -/

/-- A new line at the given level. -/
def lineStart (level : Nat) : List Char :=
  '\n' :: List.replicate (2 * level) ' '

mutual

def prettyChars (level : Nat) : Value → List Char
  | .array [] => ['[', ']']
  | .array (v :: vs) =>
      '[' :: lineStart (level + 1) ++ prettyChars (level + 1) v ++ prettyItems level vs
  | .object [] => ['\x7b', '\x7d']
  | .object ((name, v) :: ms) =>
      '\x7b' :: lineStart (level + 1) ++ stringLiteral name ++ ':' :: ' ' ::
        prettyChars (level + 1) v ++ prettyMembers level ms
  | .null => scalarChars .null
  | .bool b => scalarChars (.bool b)
  | .integer n => scalarChars (.integer n)
  | .real x => scalarChars (.real x)
  | .text s => scalarChars (.text s)
  | .unpaired literal => scalarChars (.unpaired literal)

/-- The items behind the first one of an array at the given level, and its end. -/
def prettyItems (level : Nat) : List Value → List Char
  | [] => lineStart level ++ [']']
  | v :: vs =>
      ',' :: lineStart (level + 1) ++ prettyChars (level + 1) v ++ prettyItems level vs

/-- The members behind the first one of an object at the given level, and its end. -/
def prettyMembers (level : Nat) : List (String × Value) → List Char
  | [] => lineStart level ++ ['\x7d']
  | (name, v) :: ms =>
      ',' :: lineStart (level + 1) ++ stringLiteral name ++ ':' :: ' ' ::
        prettyChars (level + 1) v ++ prettyMembers level ms

end

def renderPretty (v : Value) : String :=
  String.ofList (prettyChars 0 v)

end Json
end SchemaChange
