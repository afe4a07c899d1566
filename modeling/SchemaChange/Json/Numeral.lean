import SchemaChange.Text.Digits

/-!
# Json.Numeral — number literals

A number literal is kept in its parts until a value is asked for. A literal without fraction and
exponent is a whole number if it fits 64 bits; every other literal is a double.

- `Numeral`          : sign, digits before and behind the point, exponent
- `Numeral.integer?` : the whole number a literal stands for
- `Numeral.double?`  : the double a literal stands for
-/

namespace SchemaChange
namespace Json

/-- The parts of a literal as they are written; `exponent` holds the value of the exponent digits
with their sign. -/
structure Numeral where
  negative : Bool
  whole : List Char
  fraction : Option (List Char)
  exponent : Option Int
  deriving DecidableEq, Repr

namespace Numeral

/-- The whole numbers of 64 bits, signed or unsigned. Minus zero is a double. -/
def integer? (x : Numeral) : Option Int :=
  match x.fraction, x.exponent with
  | none, none =>
      let magnitude := Nat.ofDigitChars 10 x.whole 0
      -- Signed numbers go down to the negative of half the range.
      if x.negative then
        if 0 < magnitude ∧ magnitude ≤ 0x8000000000000000 then some (-(magnitude : Int)) else none
      else
        if magnitude < 0x10000000000000000 then some magnitude else none
  | _, _ => none

/-! ## Doubles -/

/-- Takes up digits as long as the value fits 64 bits, and counts the digits left over. -/
def absorb : Nat → List Char → Nat × Nat
  | value, [] => (value, 0)
  | value, c :: cs =>
      let longer := 10 * value + (c.toNat - 48)
      if longer < 0x10000000000000000 then absorb longer cs else (value, (c :: cs).length)

/-- A power of ten as a double, for exponents up to 308. -/
def powerOfTen (n : Nat) : Float :=
  Float.ofScientific 1 false n

/-- Scales by a power of ten, in steps of at most 308 places; nothing if the result is infinite.
Four steps make a zero of every significand. -/
def scaled : Nat → Float → Int → Option Float
  | 0, x, _ => some x
  | steps + 1, x, exponent =>
      if exponent.natAbs ≤ 308 then
        if 0 ≤ exponent then
          let product := x * powerOfTen exponent.natAbs
          if product.isInf then none else some product
        else
          some (x / powerOfTen exponent.natAbs)
      else if x == 0 then
        some x
      else if 0 ≤ exponent then
        none
      else
        scaled steps (x / powerOfTen 308) (exponent + 308)

/-- The double of a literal: its leading digits, as many as fit 64 bits, scaled by a power of ten.
Nothing for a literal beyond the range of doubles. -/
def double? (x : Numeral) : Option Float :=
  let (wholeValue, wholeLeft) := absorb 0 x.whole
  let behind := x.fraction.getD []
  let (significand, behindLeft) := absorb wholeValue behind
  let place : Int := (wholeLeft : Int) - ((behind.length - behindLeft : Nat) : Int)
  let magnitude := scaled 5 significand.toUInt64.toFloat (place + x.exponent.getD 0)
  if x.negative then magnitude.map (fun value => -value) else magnitude

/-- The literal, written in its parts. -/
def chars (x : Numeral) : List Char :=
  (if x.negative then ['-'] else []) ++ x.whole ++
    (match x.fraction with
      | none => []
      | some digits => '.' :: digits) ++
    (match x.exponent with
      | none => []
      | some e => 'e' :: (Text.decimalInt e).toList)

end Numeral
end Json
end SchemaChange
