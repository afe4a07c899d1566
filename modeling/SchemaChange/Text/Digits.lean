/-!
# Text.Digits — numbers as digits

Whole numbers are written in decimal without leading zeros, and read with any number of them. A
reader accepts ASCII digits alone: no grouping, no blanks, no digits of other scripts.

- `decimal`, `decimalInt`   : the written forms
- `readNat?`, `readInt?`    : their readers
- `hexadecimal`, `readHex?` : the same to base sixteen, for sets of bits
-/

namespace SchemaChange
namespace Text

/-! ## Base ten -/

def decimal (n : Nat) : String :=
  String.ofList (Nat.toDigits 10 n)

def decimalInt : Int → String
  | .ofNat n => decimal n
  | .negSucc n => "-" ++ decimal (n + 1)

/-- One or more decimal digits and nothing else. -/
def readNat? (cs : List Char) : Option Nat :=
  if cs ≠ [] ∧ cs.all Char.isDigit then some (Nat.ofDigitChars 10 cs 0) else none

/-- Digits with an optional sign in front. -/
def readInt? : List Char → Option Int
  | '-' :: cs => (readNat? cs).map fun n => -(n : Int)
  | '+' :: cs => (readNat? cs).map Int.ofNat
  | cs => (readNat? cs).map Int.ofNat

theorem readNat?_decimal (n : Nat) : readNat? (decimal n).toList = some n := by
  have digits : ∀ c ∈ Nat.toDigits 10 n, c.isDigit = true :=
    fun c hc => Nat.isDigit_of_mem_toDigits (by decide) (by decide) hc
  have nonempty : Nat.toDigits 10 n ≠ [] := Nat.toDigits_ne_nil
  simp only [readNat?, decimal, String.toList_ofList, List.all_eq_true]
  rw [if_pos ⟨nonempty, digits⟩, Nat.ofDigitChars_toDigits (by decide) (by decide)]

/-! ## Base sixteen -/

/-- Lower-case digits. -/
def hexadecimal (n : Nat) : String :=
  String.ofList (Nat.toDigits 16 n)

def hexValue? (c : Char) : Option Nat :=
  if '0' ≤ c ∧ c ≤ '9' then some (c.toNat - 48)
  else if 'a' ≤ c ∧ c ≤ 'f' then some (c.toNat - 87)
  else if 'A' ≤ c ∧ c ≤ 'F' then some (c.toNat - 55)
  else none

/-- The value of digits of either case behind a value already read. -/
def readHexFrom (value : Nat) : List Char → Option Nat
  | [] => some value
  | c :: cs =>
      match hexValue? c with
      | some digit => readHexFrom (16 * value + digit) cs
      | none => none

/-- One or more hexadecimal digits and nothing else. -/
def readHex? (cs : List Char) : Option Nat :=
  if cs = [] then none else readHexFrom 0 cs

end Text
end SchemaChange
