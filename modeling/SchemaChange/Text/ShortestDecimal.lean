import SchemaChange.Text.Digits

/-!
# Text.ShortestDecimal — a binary fraction in the fewest digits

The text of a double is the decimal number of fewest digits that lies nearer to it than to any other
double, written out in full: no exponent, and no fraction part for whole numbers.

- `Binary`          : the exact value of a finite double, and the interval of reals that round to it
- `Binary.digitsAt` : the point of a decimal grid that names the value, if the grid has one
- `Binary.shortest` : the coarsest grid with such a point
- `doubleText`      : the whole text, with sign, infinities and the value that is no number
-/

namespace SchemaChange
namespace Text

/-- The number `significand · 2 ^ exponent`, with the significand of 53 bits or less. Where
`narrowBelow` holds, the next smaller double is only half as far away as the next greater one. -/
structure Binary where
  significand : Nat
  exponent : Int
  narrowBelow : Bool

namespace Binary

/-! ## Exact comparison on a decimal grid

All quantities are counted in quarters of the last binary place, so that the ends of the rounding
interval are whole numbers, and are then brought over the common denominator with `10 ^ place`. -/

/-- What a quarter of the last binary place is multiplied by. -/
def scale (b : Binary) (place : Int) : Nat :=
  Nat.pow 2 (b.exponent - 2).toNat * Nat.pow 10 (-place).toNat

/-- What a point of the grid `10 ^ place` is multiplied by. -/
def gridStep (b : Binary) (place : Int) : Nat :=
  Nat.pow 2 (2 - b.exponent).toNat * Nat.pow 10 place.toNat

def value (b : Binary) : Nat :=
  4 * b.significand

def lowEnd (b : Binary) : Nat :=
  4 * b.significand - (if b.narrowBelow then 1 else 2)

def highEnd (b : Binary) : Nat :=
  4 * b.significand + 2

/-- Below or at the bound: the ends of the interval belong to it when the significand is even. -/
def within (b : Binary) (low high : Nat) : Bool :=
  if b.significand % 2 = 0 then low ≤ high else low < high

/-- The multiple of `10 ^ place` that rounds to the number, the nearer one if there are two. -/
def digitsAt (b : Binary) (place : Int) : Option Nat :=
  let exact := b.value * b.scale place
  let step := b.gridStep place
  let below := exact / step
  let belowFits := b.within (b.lowEnd * b.scale place) (below * step)
  let aboveFits := b.within ((below + 1) * step) (b.highEnd * b.scale place)
  match belowFits, aboveFits with
  | true, true =>
      if exact - below * step ≤ (below + 1) * step - exact then some below else some (below + 1)
  | true, false => some below
  | false, true => some (below + 1)
  | false, false => none

/-- Looks through the grids from coarse to fine. -/
def shortestFrom (b : Binary) : Nat → Int → Nat × Int
  | 0, place => (0, place)
  | grids + 1, place =>
      match b.digitsAt place with
      | some digits => (digits, place)
      | none => shortestFrom b grids (place - 1)

/-- The fewest digits that name the number, and the place of the last of them. Every finite double
has its digits between the places 309 and -340. -/
def shortest (b : Binary) : Nat × Int :=
  b.shortestFrom 650 309

end Binary

/-! ## Written form -/

/-- The number `digits · 10 ^ place` without exponent. -/
def positional (digits : Nat) (place : Int) : String :=
  let shown := Nat.toDigits 10 digits
  if 0 ≤ place then
    String.ofList (shown ++ List.replicate place.toNat '0')
  else
    let fraction := (-place).toNat
    let padded := List.replicate (fraction + 1 - shown.length) '0' ++ shown
    let whole := padded.length - fraction
    String.ofList (padded.take whole ++ '.' :: padded.drop whole)

/-- The text of the double with the given bits. -/
def bitsText (bits : Nat) : String :=
  -- One bit of sign, 11 bits of exponent, 52 bits of fraction.
  let sign := if bits / 0x8000000000000000 % 2 = 1 then "-" else ""
  let exponent : Nat := bits / 0x10000000000000 % 0x800
  let fraction : Nat := bits % 0x10000000000000
  if exponent = 2047 then
    if fraction = 0 then sign ++ "inf" else "NaN"
  else if exponent = 0 ∧ fraction = 0 then
    sign ++ "0"
  else
    let number : Binary :=
      if exponent = 0 then ⟨fraction, -1074, false⟩
      else ⟨0x10000000000000 + fraction, (exponent : Int) - 1075, fraction == 0 && exponent != 1⟩
    let (digits, place) := number.shortest
    sign ++ positional digits place

def doubleText (x : Float) : String :=
  bitsText x.toBits.toNat

end Text
end SchemaChange
