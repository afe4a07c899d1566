import Mathlib.Data.List.Basic
import Mathlib.Data.List.Induction
import SchemaChange.Text.Digits

/-!
# Proofs.Text.Digits — digits that are read as they were written

- `head_toDigits_ne_zero`  : no written number but zero begins with a zero
- `readNat?_eq_some`       : what is read as a number
- `IsNumeral`, `IsSigned`  : what digits stand for, without and with a sign
- `readInt?_eq_some`       : the reader of signed numbers takes these and no others
- `isSigned_decimalInt`    : written numbers are among them
- `readHex?_hexadecimal`   : hexadecimal digits are read again
-/

namespace SchemaChange
namespace Text

/-! ## Base ten -/

theorem isDigit_of_mem_toDigits {n : Nat} {c : Char} (h : c ∈ Nat.toDigits 10 n) :
    c.isDigit = true :=
  Nat.isDigit_of_mem_toDigits (by decide) (by decide) h

theorem digitChar_ne_zero {d : Nat} (positive : 0 < d) (small : d < 10) :
    Nat.digitChar d ≠ '0' := by
  have all : ∀ d < 10, 0 < d → Nat.digitChar d ≠ '0' := by decide
  exact all d small positive

theorem head_toDigits_ne_zero {n : Nat} (h : 0 < n) : (Nat.toDigits 10 n).head? ≠ some '0' := by
  induction n using Nat.strongRecOn with
  | ind n ih =>
      by_cases small : n < 10
      · rw [Nat.toDigits_of_lt_base small]
        simpa using digitChar_ne_zero h small
      · -- The digits in front of the last one are those of a tenth.
        have front := ih (n / 10) (by omega) (by omega)
        rw [Nat.toDigits_of_base_le (by decide) (by omega),
          List.head?_append_of_ne_nil _ Nat.toDigits_ne_nil]
        exact front

theorem readNat?_eq_some {digits : List Char} {n : Nat} :
    readNat? digits = some n ↔
      digits ≠ [] ∧ (∀ c ∈ digits, c.isDigit = true) ∧ Nat.ofDigitChars 10 digits 0 = n := by
  simp only [readNat?, List.all_eq_true]
  split
  · rename_i number
    rw [Option.some.injEq]
    exact ⟨fun value => ⟨number.1, number.2, value⟩, fun h => h.2.2⟩
  · rename_i other
    constructor
    · rintro ⟨⟩
    · rintro ⟨nonempty, digits, -⟩
      exact absurd ⟨nonempty, digits⟩ other

/-- One or more ASCII digits, and the number that they stand for. -/
inductive IsNumeral : List Char → Nat → Prop
  | digit {c : Char} : c.isDigit = true → IsNumeral [c] (c.toNat - '0'.toNat)
  | behind {cs : List Char} {n : Nat} {c : Char} :
      IsNumeral cs n → c.isDigit = true → IsNumeral (cs ++ [c]) (10 * n + (c.toNat - '0'.toNat))

/-- A numeral with an optional sign in front. -/
inductive IsSigned : List Char → Int → Prop
  | plain {cs : List Char} {n : Nat} : IsNumeral cs n → IsSigned cs n
  | plus {cs : List Char} {n : Nat} : IsNumeral cs n → IsSigned ('+' :: cs) n
  | minus {cs : List Char} {n : Nat} : IsNumeral cs n → IsSigned ('-' :: cs) (-n)

theorem ofDigitChars_concat (cs : List Char) (c : Char) :
    Nat.ofDigitChars 10 (cs ++ [c]) 0 = 10 * Nat.ofDigitChars 10 cs 0 + (c.toNat - '0'.toNat) := by
  simp [Nat.ofDigitChars]

theorem isNumeral_of_digits {cs : List Char} (nonempty : cs ≠ [])
    (digits : ∀ c ∈ cs, c.isDigit = true) : IsNumeral cs (Nat.ofDigitChars 10 cs 0) := by
  -- The last digit stands behind a shorter numeral, or alone.
  induction cs using List.reverseRecOn with
  | nil => exact absurd rfl nonempty
  | append_singleton cs c ih =>
      have last : c.isDigit = true := digits c (by simp)
      by_cases alone : cs = []
      · subst alone
        simpa [Nat.ofDigitChars] using IsNumeral.digit last
      · have front := ih alone fun d mem => digits d (by simp [mem])
        rw [ofDigitChars_concat]
        exact .behind front last

theorem IsNumeral.digits {cs : List Char} {n : Nat} (h : IsNumeral cs n) :
    cs ≠ [] ∧ (∀ c ∈ cs, c.isDigit = true) ∧ Nat.ofDigitChars 10 cs 0 = n := by
  induction h with
  | digit digit => simpa [Nat.ofDigitChars] using digit
  | @behind cs n c front digit ih =>
      rcases ih with ⟨-, digits, value⟩
      refine ⟨by simp, ?_, ?_⟩
      · intro d mem
        rcases List.mem_append.1 mem with inFront | last
        · exact digits d inFront
        · rwa [List.mem_singleton.1 last]
      · rw [ofDigitChars_concat, value]

theorem readNat?_iff_isNumeral {cs : List Char} {n : Nat} :
    readNat? cs = some n ↔ IsNumeral cs n := by
  rw [readNat?_eq_some]
  constructor
  · rintro ⟨nonempty, digits, rfl⟩
    exact isNumeral_of_digits nonempty digits
  · exact IsNumeral.digits

/-- No numeral begins with a sign, so the sign of a number is known by its first character. -/
theorem IsNumeral.head_ne {cs : List Char} {n : Nat} (h : IsNumeral cs n) {sign : Char}
    (other : sign.isDigit = false) (rest : List Char) : cs ≠ sign :: rest := by
  rintro rfl
  have digit := h.digits.2.1 sign List.mem_cons_self
  rw [other] at digit
  cases digit

theorem readInt?_eq_some {cs : List Char} {n : Int} : readInt? cs = some n ↔ IsSigned cs n := by
  constructor
  · intro h
    unfold readInt? at h
    split at h
    · -- The number is read first and negated then.
      rcases Option.map_eq_some_iff.1 h with ⟨m, read, rfl⟩
      rcases Option.bind_eq_some_iff.1 read with ⟨k, found, cast⟩
      cases cast
      exact .minus (readNat?_iff_isNumeral.1 found)
    · rcases Option.map_eq_some_iff.1 h with ⟨m, found, rfl⟩
      exact .plus (readNat?_iff_isNumeral.1 found)
    · rcases Option.map_eq_some_iff.1 h with ⟨m, found, rfl⟩
      exact .plain (readNat?_iff_isNumeral.1 found)
  · intro h
    cases h with
    | plus numeral => simp [readInt?, readNat?_iff_isNumeral.2 numeral]
    | minus numeral => simp [readInt?, readNat?_iff_isNumeral.2 numeral]
    | plain numeral =>
        unfold readInt?
        split
        · exact absurd rfl (numeral.head_ne rfl _)
        · exact absurd rfl (numeral.head_ne rfl _)
        · simp [readNat?_iff_isNumeral.2 numeral]

theorem isDigit_of_mem_decimalInt {n : Int} {c : Char} (h : c ∈ (decimalInt n).toList) :
    c = '-' ∨ c.isDigit = true := by
  have digit : ∀ m : Nat, c ∈ (decimal m).toList → c.isDigit = true := by
    intro m mem
    rw [decimal, String.toList_ofList] at mem
    exact isDigit_of_mem_toDigits mem
  cases n with
  | ofNat n => exact .inr (digit n h)
  | negSucc n =>
      have signed : c = '-' ∨ c ∈ (decimal (n + 1)).toList := by simpa [decimalInt] using h
      exact signed.imp_right (digit (n + 1))

theorem isSigned_decimalInt (n : Int) : IsSigned (decimalInt n).toList n := by
  have numeral : ∀ m : Nat, IsNumeral (decimal m).toList m :=
    fun m => readNat?_iff_isNumeral.1 (readNat?_decimal m)
  cases n with
  | ofNat n => exact .plain (numeral n)
  | negSucc n =>
      have signed : (decimalInt (Int.negSucc n)).toList = '-' :: (decimal (n + 1)).toList := by
        simp [decimalInt]
      rw [signed]
      exact .minus (numeral (n + 1))

theorem decimalInt_injective {m n : Int} (h : decimalInt m = decimalInt n) : m = n := by
  have read := readInt?_eq_some.2 (isSigned_decimalInt m)
  rw [h, readInt?_eq_some.2 (isSigned_decimalInt n)] at read
  exact (Option.some.inj read).symm

/-! ## Base sixteen -/

theorem hexValue?_digitChar {d : Nat} (small : d < 16) : hexValue? (Nat.digitChar d) = some d := by
  have all : ∀ d < 16, hexValue? (Nat.digitChar d) = some d := by decide
  exact all d small

theorem readHexFrom_append (value : Nat) (cs ds : List Char) :
    readHexFrom value (cs ++ ds) = (readHexFrom value cs).bind fun n => readHexFrom n ds := by
  induction cs generalizing value with
  | nil => rfl
  | cons c cs ih =>
      rw [List.cons_append, readHexFrom, readHexFrom]
      cases hexValue? c with
      | none => rfl
      | some digit => exact ih (16 * value + digit)

theorem readHexFrom_toDigits (n : Nat) : readHexFrom 0 (Nat.toDigits 16 n) = some n := by
  induction n using Nat.strongRecOn with
  | ind n ih =>
      by_cases small : n < 16
      · rw [Nat.toDigits_of_lt_base small, readHexFrom, hexValue?_digitChar small]
        simp [readHexFrom]
      · have front := ih (n / 16) (by omega)
        have last : n % 16 < 16 := Nat.mod_lt n (by decide)
        rw [Nat.toDigits_of_base_le (by decide) (by omega), readHexFrom_append, front,
          Option.bind_some, readHexFrom, hexValue?_digitChar last]
        simp only [readHexFrom, Option.some_inj]
        omega

/-- What is read as a number consists of digits. -/
theorem isSome_hexValue?_of_readHexFrom {cs : List Char} {value n : Nat}
    (h : readHexFrom value cs = some n) : ∀ c ∈ cs, (hexValue? c).isSome = true := by
  induction cs generalizing value with
  | nil => exact List.forall_mem_nil _
  | cons c cs ih =>
      rw [readHexFrom] at h
      cases digit : hexValue? c with
      | none =>
          rw [digit] at h
          cases h
      | some d =>
          rw [digit] at h
          rw [List.forall_mem_cons, digit]
          exact ⟨rfl, ih h⟩

theorem isSome_hexValue?_of_mem_toDigits {n : Nat} {c : Char} (h : c ∈ Nat.toDigits 16 n) :
    (hexValue? c).isSome = true :=
  isSome_hexValue?_of_readHexFrom (readHexFrom_toDigits n) c h

theorem readHex?_hexadecimal (n : Nat) : readHex? (hexadecimal n).toList = some n := by
  rw [hexadecimal, String.toList_ofList, readHex?, if_neg Nat.toDigits_ne_nil]
  exact readHexFrom_toDigits n

end Text
end SchemaChange
