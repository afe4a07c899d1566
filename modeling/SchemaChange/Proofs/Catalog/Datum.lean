import SchemaChange.Catalog.Datum
import SchemaChange.Proofs.Sql.Value
import SchemaChange.Proofs.Text.Digits

/-!
# Proofs.Catalog.Datum — integers in whatever form

A database may return an integer as a number of one of three widths or as a text. All forms are read
alike, and a text is read as an integer exactly if it is one and fits into 64 bits.

- `Datum.Carries`           : the integer that a value stands for
- `Datum.integer?_eq_some`  : it is what is read of the value, and nothing else is read
- `Datum.ReadsText`         : what is read of a text
- `Datum.ReadsAlike`        : a number and its written form are read alike
-/

namespace SchemaChange
namespace Catalog
namespace Datum

/-- The integers of 64 bits; there is one more below zero than above. -/
def InRange (n : Int) : Prop :=
  -0x8000000000000000 ≤ n ∧ n ≤ 0x7FFFFFFFFFFFFFFF

theorem inRange_toInt (n : Int64) : InRange n.toInt :=
  ⟨n.le_toInt, n.toInt_le⟩

/-- The integer that a value stands for. A text may have blanks around its digits. -/
inductive Carries : Datum → Int → Prop
  | int16 (n : Int16) : Carries (.int16 n) n.toInt
  | int32 (n : Int32) : Carries (.int32 n) n.toInt
  | int64 (n : Int64) : Carries (.int64 n) n.toInt
  | text {s : String} {n : Int} :
      Text.IsSigned (Text.trim s).toList n → InRange n → Carries (.text s) n
  | decimal {s : String} {n : Int} :
      Text.IsSigned (Text.trim s).toList n → InRange n → Carries (.decimal s) n

/-! ## Texts -/

theorem readInt64?_eq_some {s : String} {n : Int64} :
    readInt64? s = some n ↔ Text.IsSigned (Text.trim s).toList n.toInt := by
  rw [← Text.readInt?_eq_some, Text.toList_trim]
  unfold readInt64?
  cases Text.readInt? (Text.trimChars s.toList) with
  | none => simp
  | some m =>
      by_cases fits : -0x8000000000000000 ≤ m ∧ m < 0x8000000000000000
      · have same : (Int64.ofInt m).toInt = m := Int64.toInt_ofInt_of_le fits.1 fits.2
        simp only [if_pos fits, Option.some_inj]
        rw [← Int64.toInt_inj, same]
      · -- Beyond the range there is no number of 64 bits to be read.
        have other : m ≠ n.toInt := by
          rintro rfl
          exact fits ⟨n.le_toInt, n.toInt_lt⟩
        simp [fits, other]

/-! ## All forms -/

theorem integer?_eq_some {d : Datum} {n : Int64} : d.integer? = some n ↔ d.Carries n.toInt := by
  constructor
  · intro read
    cases d with
    | int16 m =>
        have value : m.toInt64 = n := Option.some.inj read
        rw [← value, Int16.toInt_toInt64]
        exact .int16 m
    | int32 m =>
        have value : m.toInt64 = n := Option.some.inj read
        rw [← value, Int32.toInt_toInt64]
        exact .int32 m
    | int64 m =>
        have value : m = n := Option.some.inj read
        rw [value]
        exact .int64 n
    | text s => exact .text (readInt64?_eq_some.1 read) (inRange_toInt n)
    | decimal s => exact .decimal (readInt64?_eq_some.1 read) (inRange_toInt n)
    | null | bool | double | bytes => cases read
  · intro carries
    generalize value : n.toInt = k at carries
    cases carries with
    | int16 m =>
        refine congrArg some (Int64.toInt_inj.1 ?_)
        rw [Int16.toInt_toInt64, value]
    | int32 m =>
        refine congrArg some (Int64.toInt_inj.1 ?_)
        rw [Int32.toInt_toInt64, value]
    | int64 m => exact congrArg some (Int64.toInt_inj.1 value.symm)
    | text written => exact readInt64?_eq_some.2 (value ▸ written)
    | decimal written => exact readInt64?_eq_some.2 (value ▸ written)

theorem Carries.inRange {d : Datum} {n : Int} (h : d.Carries n) : InRange n := by
  cases h with
  | int16 m => exact Int16.toInt_toInt64 m ▸ inRange_toInt m.toInt64
  | int32 m => exact Int32.toInt_toInt64 m ▸ inRange_toInt m.toInt64
  | int64 m => exact inRange_toInt m
  | text _ fits => exact fits
  | decimal _ fits => exact fits

/-- Every integer that a value can stand for has a number of 64 bits. -/
theorem Carries.integer?_eq {d : Datum} {n : Int} (h : d.Carries n) :
    d.integer? = some (Int64.ofInt n) := by
  have same : (Int64.ofInt n).toInt = n :=
    Int64.toInt_ofInt_of_le h.inRange.1 (Int.lt_add_one_of_le h.inRange.2)
  exact integer?_eq_some.2 (same.symm ▸ h)

theorem integer?_map_eq_some {d : Datum} {n : Int} :
    d.integer?.map Int64.toInt = some n ↔ d.Carries n := by
  rw [Option.map_eq_some_iff]
  constructor
  · rintro ⟨m, read, rfl⟩
    exact integer?_eq_some.1 read
  · intro carries
    exact ⟨Int64.ofInt n, carries.integer?_eq,
      Int64.toInt_ofInt_of_le carries.inRange.1 (Int.lt_add_one_of_le carries.inRange.2)⟩

theorem integer?_eq_none {d : Datum} : d.integer? = none ↔ ¬∃ n, d.Carries n := by
  constructor
  · rintro unread ⟨n, carries⟩
    rw [carries.integer?_eq] at unread
    cases unread
  · intro nothing
    cases read : d.integer? with
    | none => rfl
    | some n => exact absurd ⟨_, integer?_eq_some.1 read⟩ nothing

/-- What is read of a value that comes as a text: the integer that the text stands for, if it is in
range. -/
structure ReadsText (d : Datum) (s : String) : Prop where
  some_iff : ∀ n : Int, d.integer?.map Int64.toInt = some n ↔
    Text.IsSigned (Text.trim s).toList n ∧ InRange n
  none_iff : d.integer? = none ↔ ¬∃ n, Text.IsSigned (Text.trim s).toList n ∧ InRange n

theorem readsText_of_carries_iff {d : Datum} {s : String}
    (h : ∀ n, d.Carries n ↔ Text.IsSigned (Text.trim s).toList n ∧ InRange n) :
    d.ReadsText s where
  some_iff := fun n => integer?_map_eq_some.trans (h n)
  none_iff := integer?_eq_none.trans (not_congr (exists_congr h))

theorem readsText_text (s : String) : (Datum.text s).ReadsText s := by
  refine readsText_of_carries_iff fun n => ⟨?_, fun h => .text h.1 h.2⟩
  rintro (_ | _ | _ | ⟨written, fits⟩)
  exact ⟨written, fits⟩

theorem readsText_decimal (s : String) : (Datum.decimal s).ReadsText s := by
  refine readsText_of_carries_iff fun n => ⟨?_, fun h => .decimal h.1 h.2⟩
  rintro (_ | _ | _ | _ | ⟨written, fits⟩)
  exact ⟨written, fits⟩

/-! ## Written numbers -/

/-- The number of a value that comes as a number. -/
def number? : Datum → Option Int
  | .int16 n => some n.toInt
  | .int32 n => some n.toInt
  | .int64 n => some n.toInt
  | _ => none

/-- A number, and its written form in either kind of text, stand for the same integer. -/
structure ReadsAlike (d : Datum) (n : Int) : Prop where
  number : d.integer?.map Int64.toInt = some n
  display : d.display = Text.decimalInt n
  text : (Datum.text d.display).integer? = d.integer?
  decimal : (Datum.decimal d.display).integer? = d.integer?

theorem carries_of_number? {d : Datum} {n : Int} (h : d.number? = some n) :
    d.Carries n ∧ d.display = Text.decimalInt n := by
  cases d with
  | int16 m =>
      cases h
      exact ⟨.int16 m, rfl⟩
  | int32 m =>
      cases h
      exact ⟨.int32 m, rfl⟩
  | int64 m =>
      cases h
      exact ⟨.int64 m, rfl⟩
  | null | bool | double | decimal | text | bytes => cases h

/-- The numbers are those of the widest kind. -/
theorem inRange_iff {n : Int} : InRange n ↔ ∃ d : Datum, d.number? = some n := by
  constructor
  · rintro ⟨low, high⟩
    refine ⟨.int64 (Int64.ofInt n), congrArg some ?_⟩
    exact Int64.toInt_ofInt_of_le low (Int.lt_add_one_of_le high)
  · rintro ⟨d, number⟩
    exact (carries_of_number? number).1.inRange

theorem isSigned_display (n : Int) :
    Text.IsSigned (Text.trim (Text.decimalInt n)).toList n := by
  have trimmed : Text.trim (Text.decimalInt n) = Text.decimalInt n :=
    Text.trim_eq_self_iff.2 (Sql.isWord_decimalInt n).trimmed
  rw [trimmed]
  exact Text.isSigned_decimalInt n

theorem readsAlike_of_number? {d : Datum} {n : Int} (h : d.number? = some n) :
    d.ReadsAlike n := by
  rcases carries_of_number? h with ⟨carries, display⟩
  have written := isSigned_display n
  have text : (Datum.text (Text.decimalInt n)).Carries n := .text written carries.inRange
  have decimal : (Datum.decimal (Text.decimalInt n)).Carries n := .decimal written carries.inRange
  refine ⟨integer?_map_eq_some.2 carries, display, ?_, ?_⟩
  · rw [display, text.integer?_eq, carries.integer?_eq]
  · rw [display, decimal.integer?_eq, carries.integer?_eq]

end Datum
end Catalog
end SchemaChange
