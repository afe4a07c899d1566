import SchemaChange.Json.Value

/-!
# Json.Reader — JSON texts to trees

The grammar is the strict one: no comments, no comma before a closing bracket, nothing behind the
value, no control characters in strings. Blanks are the four that JSON names.

- `outline?` : the tree of a text, with literals that stand for no value kept as they are
- `read?`    : the tree of a text in which every literal stands for a value and nesting is bounded
-/

namespace SchemaChange
namespace Json

def isJsonBlank (c : Char) : Bool :=
  c == ' ' || c == '\n' || c == '\t' || c == '\r'

def skipBlanks (cs : List Char) : List Char :=
  cs.dropWhile isJsonBlank

/-- What follows a word that the text begins with. -/
def afterWord : List Char → List Char → Option (List Char)
  | [], cs => some cs
  | _ :: _, [] => none
  | w :: ws, c :: cs => if w = c then afterWord ws cs else none

/-! ## Strings -/

/-- The number of four hexadecimal digits. -/
def fourHex? (a b c d : Char) : Option Nat :=
  Text.readHex? [a, b, c, d]

def isHighSurrogate (n : Nat) : Bool :=
  0xD800 ≤ n && n < 0xDC00

def isLowSurrogate (n : Nat) : Bool :=
  0xDC00 ≤ n && n < 0xE000

/-- The character that two surrogates name. -/
def surrogatePair (high low : Nat) : Char :=
  Char.ofNat (0x10000 + (high - 0xD800) * 0x400 + (low - 0xDC00))

/-- The character behind a backslash, for the escapes of one letter. -/
def shortEscape? : Char → Option Char
  | '\x22' => some '\x22'
  | '\\' => some '\\'
  | '/' => some '/'
  | 'b' => some '\x08'
  | 'f' => some '\x0c'
  | 'n' => some '\n'
  | 'r' => some '\r'
  | 't' => some '\t'
  | _ => none

/-- A piece of a string literal: a character, or the number of a `\\u` escape. -/
inductive Piece
  | char (c : Char)
  | unit (n : Nat)
  deriving DecidableEq, Repr

/-- The pieces of a string literal behind its opening quote, and what follows the closing one. -/
def readPieces : List Char → Option (List Piece × List Char)
  | [] => none
  | '\x22' :: cs => some ([], cs)
  | '\\' :: 'u' :: a :: b :: c :: d :: cs =>
      match fourHex? a b c d, readPieces cs with
      | some n, some (pieces, rest) => some (.unit n :: pieces, rest)
      | _, _ => none
  | '\\' :: c :: cs =>
      match shortEscape? c, readPieces cs with
      | some escaped, some (pieces, rest) => some (.char escaped :: pieces, rest)
      | _, _ => none
  | c :: cs =>
      if c.toNat < 0x20 then none
      else (readPieces cs).map fun (pieces, rest) => (.char c :: pieces, rest)

/-- The characters of the pieces; half of a surrogate pair is no character. -/
def joinPieces : List Piece → Option (List Char)
  | [] => some []
  | .char c :: pieces => (joinPieces pieces).map (c :: ·)
  | .unit n :: pieces =>
      if isHighSurrogate n then
        match pieces with
        | .unit m :: pieces =>
            if isLowSurrogate m then (joinPieces pieces).map (surrogatePair n m :: ·) else none
        | _ => none
      else if isLowSurrogate n then
        none
      else
        (joinPieces pieces).map (Char.ofNat n :: ·)

/-- The value of a string literal behind its opening quote. -/
def readStringValue (cs : List Char) : Option (Value × List Char) :=
  match readPieces cs with
  | none => none
  | some (pieces, rest) =>
      match joinPieces pieces with
      | some body => some (.text (String.ofList body), rest)
      | none => some (.unpaired (cs.take (cs.length - rest.length - 1)), rest)

/-- The name of a member behind its opening quote; a name is a text. -/
def readName (cs : List Char) : Option (String × List Char) :=
  match readPieces cs with
  | none => none
  | some (pieces, rest) => (joinPieces pieces).map fun body => (String.ofList body, rest)

/-! ## Numbers -/

/-- One or more digits and what follows them. -/
def readDigits (cs : List Char) : Option (List Char × List Char) :=
  match cs.takeWhile Char.isDigit with
  | [] => none
  | digits => some (digits, cs.dropWhile Char.isDigit)

/-- The digits before the point: a single zero, or digits that begin with another one. -/
def readWhole : List Char → Option (List Char × List Char)
  | '0' :: cs => some (['0'], cs)
  | cs => readDigits cs

def readFraction : List Char → Option (Option (List Char) × List Char)
  | '.' :: cs => (readDigits cs).map fun (digits, rest) => (some digits, rest)
  | cs => some (none, cs)

/-- The sign and digits behind the letter of an exponent. -/
def readPower : List Char → Option (Int × List Char)
  | '-' :: cs =>
      (readDigits cs).map fun (digits, rest) => (-(Nat.ofDigitChars 10 digits 0 : Int), rest)
  | '+' :: cs => (readDigits cs).map fun (digits, rest) => (Nat.ofDigitChars 10 digits 0, rest)
  | cs => (readDigits cs).map fun (digits, rest) => (Nat.ofDigitChars 10 digits 0, rest)

def readExponent : List Char → Option (Option Int × List Char)
  | 'e' :: cs => (readPower cs).map fun (power, rest) => (some power, rest)
  | 'E' :: cs => (readPower cs).map fun (power, rest) => (some power, rest)
  | cs => some (none, cs)

/-- A number literal behind its sign. -/
def readUnsigned (negative : Bool) (cs : List Char) : Option (Value × List Char) := do
  let (whole, cs) ← readWhole cs
  let (fraction, cs) ← readFraction cs
  let (exponent, cs) ← readExponent cs
  let literal : Numeral := ⟨negative, whole, fraction, exponent⟩
  match literal.integer? with
  | some n => return (.integer n, cs)
  | none => return (.real literal, cs)

def readNumber : List Char → Option (Value × List Char)
  | '-' :: cs => readUnsigned true cs
  | cs => readUnsigned false cs

/-! ## Values -/

/-- A value that is no array and no object. -/
def readScalar : List Char → Option (Value × List Char)
  | 'n' :: cs => (afterWord ['u', 'l', 'l'] cs).map fun rest => (.null, rest)
  | 't' :: cs => (afterWord ['r', 'u', 'e'] cs).map fun rest => (.bool true, rest)
  | 'f' :: cs => (afterWord ['a', 'l', 's', 'e'] cs).map fun rest => (.bool false, rest)
  | '\x22' :: cs => readStringValue cs
  | cs => readNumber cs

mutual

/-- Reads a value; the first argument bounds the number of values inside each other and in a row,
for which the length of the text is enough. -/
def readValue : Nat → List Char → Option (Value × List Char)
  | 0, _ => none
  | fuel + 1, cs =>
      match skipBlanks cs with
      | '[' :: cs =>
          match skipBlanks cs with
          | ']' :: rest => some (.array [], rest)
          | _ => (readItems fuel cs).map fun (items, rest) => (.array items, rest)
      | '\x7b' :: cs =>
          match skipBlanks cs with
          | '\x7d' :: rest => some (.object [], rest)
          | _ => (readMembers fuel cs).map fun (members, rest) => (.object members, rest)
      | cs => readScalar cs

/-- One or more items and the end of the array. -/
def readItems : Nat → List Char → Option (List Value × List Char)
  | 0, _ => none
  | fuel + 1, cs =>
      match readValue fuel cs with
      | none => none
      | some (v, rest) =>
          match skipBlanks rest with
          | ',' :: rest => (readItems fuel rest).map fun (vs, rest) => (v :: vs, rest)
          | ']' :: rest => some ([v], rest)
          | _ => none

/-- One or more members and the end of the object. -/
def readMembers : Nat → List Char → Option (Members × List Char)
  | 0, _ => none
  | fuel + 1, cs =>
      match skipBlanks cs with
      | '\x22' :: cs =>
          match readName cs with
          | none => none
          | some (name, rest) =>
              match skipBlanks rest with
              | ':' :: rest =>
                  match readValue fuel rest with
                  | none => none
                  | some (v, rest) =>
                      match skipBlanks rest with
                      | ',' :: rest =>
                          (readMembers fuel rest).map fun (ms, rest) => ((name, v) :: ms, rest)
                      | '\x7d' :: rest => some ([(name, v)], rest)
                      | _ => none
              | _ => none
      | _ => none

end

/-- The tree of a text whose literals need not stand for values. -/
def outline? (text : String) : Option Value :=
  let cs := text.toList
  match readValue (cs.length + 1) cs with
  | some (v, rest) => if (skipBlanks rest).isEmpty then some v else none
  | none => none

/-- How many arrays and objects may lie inside each other. -/
def nestingLimit : Nat := 127

/-- The tree of a text. -/
def read? (text : String) : Option Value :=
  (outline? text).filter (Value.usable nestingLimit)

end Json
end SchemaChange
