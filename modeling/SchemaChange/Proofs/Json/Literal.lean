import SchemaChange.Json.Printer
import SchemaChange.Json.Reader
import SchemaChange.Proofs.Text.Digits

/-!
# Proofs.Json.Literal — literals that are read as they were written

A string may be followed by anything, a number by nothing that would go on with it.

- `readPieces_escaped`    : the pieces of a string literal
- `EndsNumber`            : what may follow a number
- `readNumber_decimalInt` : whole numbers of 64 bits
-/

namespace SchemaChange
namespace Json

/-! ## Strings -/

theorem fourHex?_hexDigit {n : Nat} (h : n < 0x20) :
    fourHex? '0' '0' (hexDigit (n / 16)) (hexDigit (n % 16)) = some n := by
  have all : ∀ n < 0x20,
      fourHex? '0' '0' (hexDigit (n / 16)) (hexDigit (n % 16)) = some n := by decide
  exact all n h

theorem joinPieces_unit {c : Char} (h : c.toNat < 0x20) (pieces : List Piece) :
    joinPieces (.unit c.toNat :: pieces) = (joinPieces pieces).map (c :: ·) := by
  have high : isHighSurrogate c.toNat = false := by
    simp only [isHighSurrogate, Bool.and_eq_false_iff, decide_eq_false_iff_not]
    omega
  have low : isLowSurrogate c.toNat = false := by
    simp only [isLowSurrogate, Bool.and_eq_false_iff, decide_eq_false_iff_not]
    omega
  rw [joinPieces.eq_def]
  simp only [high, low, Char.ofNat_toNat]
  rfl

theorem readPieces_verbatim {c : Char} (quote : c ≠ '\x22') (backslash : c ≠ '\\')
    (visible : ¬c.toNat < 0x20) (cs : List Char) :
    readPieces (c :: cs) = (readPieces cs).map fun (pieces, rest) => (.char c :: pieces, rest) := by
  rw [readPieces]
  · rw [if_neg visible]
  · exact quote
  · rintro a b d e tail rfl
    exact absurd rfl backslash
  · rintro d tail rfl
    exact absurd rfl backslash

theorem readPieces_short {letter c : Char} (h : shortEscape? letter = some c) (cs : List Char) :
    readPieces ('\\' :: letter :: cs) =
      (readPieces cs).map fun (pieces, rest) => (.char c :: pieces, rest) := by
  rw [readPieces]
  · rw [h]
    cases readPieces cs <;> rfl
  · rintro a b d e tail rfl
    cases h

theorem readPieces_unit {a b c d : Char} {n : Nat} (h : fourHex? a b c d = some n)
    (cs : List Char) :
    readPieces ('\\' :: 'u' :: a :: b :: c :: d :: cs) =
      (readPieces cs).map fun (pieces, rest) => (.unit n :: pieces, rest) := by
  rw [readPieces, h]
  cases readPieces cs <;> rfl

/-- The piece that a written character is read as. -/
def pieceOf (c : Char) : Piece :=
  if c.toNat < 0x20 ∧ c ∉ ['\x08', '\t', '\n', '\x0c', '\r'] then .unit c.toNat else .char c

theorem joinPieces_pieceOf (c : Char) (pieces : List Piece) :
    joinPieces (pieceOf c :: pieces) = (joinPieces pieces).map (c :: ·) := by
  unfold pieceOf
  split
  · rename_i control
    exact joinPieces_unit control.1 pieces
  · rfl

theorem readPieces_escapeChar (c : Char) (cs : List Char) :
    readPieces (escapeChar c ++ cs) =
      (readPieces cs).map fun (pieces, rest) => (pieceOf c :: pieces, rest) := by
  by_cases quote : c = '\x22'
  · subst quote
    exact readPieces_short rfl cs
  by_cases backslash : c = '\\'
  · subst backslash
    exact readPieces_short rfl cs
  -- Five more characters have an escape of one letter; the other control characters have numbers.
  by_cases short : c ∈ ['\x08', '\t', '\n', '\x0c', '\r']
  · simp only [List.mem_cons, List.not_mem_nil, or_false] at short
    rcases short with rfl | rfl | rfl | rfl | rfl <;> exact readPieces_short rfl cs
  · have others := short
    simp only [List.mem_cons, List.not_mem_nil, or_false, not_or] at others
    unfold escapeChar pieceOf
    simp only [quote, backslash, others, if_false]
    by_cases control : c.toNat < 0x20
    · rw [if_pos control, if_pos ⟨control, short⟩]
      exact readPieces_unit (fourHex?_hexDigit control) cs
    · rw [if_neg control, if_neg fun h => control h.1]
      exact readPieces_verbatim quote backslash control cs

theorem readPieces_escaped (cs rest : List Char) :
    readPieces (cs.flatMap escapeChar ++ '\x22' :: rest) = some (cs.map pieceOf, rest) := by
  induction cs with
  | nil => rfl
  | cons c cs ih =>
      rw [List.flatMap_cons, List.append_assoc, readPieces_escapeChar, ih]
      rfl

theorem joinPieces_map_pieceOf (cs : List Char) : joinPieces (cs.map pieceOf) = some cs := by
  induction cs with
  | nil => rfl
  | cons c cs ih =>
      rw [List.map_cons, joinPieces_pieceOf, ih]
      rfl

theorem stringLiteral_append (s : String) (rest : List Char) :
    stringLiteral s ++ rest = '\x22' :: (s.toList.flatMap escapeChar ++ '\x22' :: rest) := by
  simp [stringLiteral]

theorem readStringValue_escaped (s : String) (rest : List Char) :
    readStringValue (s.toList.flatMap escapeChar ++ '\x22' :: rest) = some (.text s, rest) := by
  rw [readStringValue, readPieces_escaped]
  simp only [joinPieces_map_pieceOf, String.ofList_toList]

theorem readName_escaped (s : String) (rest : List Char) :
    readName (s.toList.flatMap escapeChar ++ '\x22' :: rest) = some (s, rest) := by
  rw [readName, readPieces_escaped]
  simp only [joinPieces_map_pieceOf, Option.map_some, String.ofList_toList]

/-! ## Numbers -/

/-- What may follow a number. -/
def EndsNumber (rest : List Char) : Prop :=
  ∀ c, rest.head? = some c → c.isDigit = false ∧ c ≠ '.' ∧ c ≠ 'e' ∧ c ≠ 'E'

theorem endsNumber_nil : EndsNumber [] := by
  intro c h
  cases h

theorem endsNumber_cons {c : Char}
    (h : c.isDigit = false ∧ c ≠ '.' ∧ c ≠ 'e' ∧ c ≠ 'E') (cs : List Char) :
    EndsNumber (c :: cs) := by
  intro d hd
  cases hd
  exact h

theorem readDigits_append {digits rest : List Char} (all : ∀ c ∈ digits, c.isDigit = true)
    (nonempty : digits ≠ []) (stops : ∀ c, rest.head? = some c → c.isDigit = false) :
    readDigits (digits ++ rest) = some (digits, rest) := by
  have stop : rest.takeWhile Char.isDigit = [] ∧ rest.dropWhile Char.isDigit = rest := by
    cases rest with
    | nil => exact ⟨rfl, rfl⟩
    | cons c cs => simp [stops c rfl]
  unfold readDigits
  rw [List.takeWhile_append_of_pos all, List.dropWhile_append_of_pos all, stop.1, stop.2,
    List.append_nil]
  cases digits with
  | nil => exact absurd rfl nonempty
  | cons c cs => rfl

theorem readWhole_toDigits (n : Nat) {rest : List Char} (ends : EndsNumber rest) :
    readWhole (Nat.toDigits 10 n ++ rest) = some (Nat.toDigits 10 n, rest) := by
  have digits : readDigits (Nat.toDigits 10 n ++ rest) = some (Nat.toDigits 10 n, rest) :=
    readDigits_append (fun _ mem => Text.isDigit_of_mem_toDigits mem) Nat.toDigits_ne_nil
      fun c first => (ends c first).1
  cases Nat.eq_zero_or_pos n with
  | inl zero =>
      subst zero
      rfl
  | inr positive =>
      -- A zero in front would be a number of its own.
      rw [readWhole]
      · exact digits
      · intro tail zero
        have first := congrArg List.head? zero
        rw [List.head?_append_of_ne_nil _ Nat.toDigits_ne_nil] at first
        exact Text.head_toDigits_ne_zero positive first

theorem readFraction_of_endsNumber {rest : List Char} (ends : EndsNumber rest) :
    readFraction rest = some (none, rest) := by
  rw [readFraction]
  rintro tail rfl
  exact (ends '.' rfl).2.1 rfl

theorem readExponent_of_endsNumber {rest : List Char} (ends : EndsNumber rest) :
    readExponent rest = some (none, rest) := by
  rw [readExponent]
  · rintro tail rfl
    exact (ends 'e' rfl).2.2.1 rfl
  · rintro tail rfl
    exact (ends 'E' rfl).2.2.2 rfl

theorem readUnsigned_toDigits {negative : Bool} {n : Nat} {m : Int} {rest : List Char}
    (ends : EndsNumber rest)
    (h : (⟨negative, Nat.toDigits 10 n, none, none⟩ : Numeral).integer? = some m) :
    readUnsigned negative (Nat.toDigits 10 n ++ rest) = some (.integer m, rest) := by
  unfold readUnsigned
  rw [readWhole_toDigits n ends, Option.bind_eq_bind, Option.bind_some]
  simp only [readFraction_of_endsNumber ends, readExponent_of_endsNumber ends,
    Option.bind_eq_bind, Option.bind_some, h]
  rfl

/-- The digits of a number, with a minus sign in front of a negative one. -/
theorem toList_decimalInt (n : Int) :
    (Text.decimalInt n).toList =
      if n < 0 then '-' :: Nat.toDigits 10 n.natAbs else Nat.toDigits 10 n.natAbs := by
  cases n with
  | ofNat n =>
      have positive : ¬Int.ofNat n < 0 := Int.not_lt.2 (Int.natCast_nonneg n)
      rw [if_neg positive, Text.decimalInt, Text.decimal, String.toList_ofList]
      rfl
  | negSucc n =>
      rw [if_pos (Int.negSucc_lt_zero n), Text.decimalInt, String.toList_append, Text.decimal]
      simp

theorem head_decimalInt (n : Int) :
    ∃ c cs, (Text.decimalInt n).toList = c :: cs ∧ (c = '-' ∨ c.isDigit = true) := by
  rw [toList_decimalInt]
  split
  · exact ⟨_, _, rfl, .inl rfl⟩
  · rcases List.exists_cons_of_ne_nil (Nat.toDigits_ne_nil (n := n.natAbs) (b := 10)) with
      ⟨c, cs, digits⟩
    refine ⟨c, cs, digits, .inr ?_⟩
    exact Text.isDigit_of_mem_toDigits (by rw [digits]; exact List.mem_cons_self)

/-- Whole numbers of 64 bits, signed or unsigned, are read again. -/
theorem readNumber_decimalInt {n : Int} (low : -0x8000000000000000 ≤ n)
    (high : n < 0x10000000000000000) {rest : List Char} (ends : EndsNumber rest) :
    readNumber ((Text.decimalInt n).toList ++ rest) = some (.integer n, rest) := by
  have magnitude : Nat.ofDigitChars 10 (Nat.toDigits 10 n.natAbs) 0 = n.natAbs :=
    Nat.ofDigitChars_toDigits (by decide) (by decide)
  rw [toList_decimalInt]
  split
  · refine readUnsigned_toDigits ends ?_
    simp only [Numeral.integer?, magnitude, if_true]
    rw [if_pos (by omega)]
    congr 1
    omega
  · rw [readNumber]
    · refine readUnsigned_toDigits ends ?_
      simp only [Numeral.integer?, magnitude, Bool.false_eq_true, if_false]
      rw [if_pos (by omega)]
      congr 1
      omega
    · intro tail minus
      have first := congrArg List.head? minus
      rw [List.head?_append_of_ne_nil _ Nat.toDigits_ne_nil] at first
      have digit := Text.isDigit_of_mem_toDigits (List.mem_of_head? first)
      cases digit

end Json
end SchemaChange
