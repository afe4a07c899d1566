import SchemaChange.Proofs.Sql.Identifier
import SchemaChange.Proofs.Sql.Keyword

/-!
# Proofs.Sql.Recovery — names that are read back

The written form of a name tells which name it is: what stands between the quotes, with doubled
quotes halved, or the whole form if it has no quotes. Names without quotes are known by their
characters and by the list of reserved words.

- `nameOf`                 : the name that a written form stands for
- `IsRegular`              : names that are made of capital letters, digits, `_` and `$`
- `IsEncoding`             : what is asked of a way to write names
- `isEncoding_identifier`  : the one that statements use is such
-/

namespace SchemaChange
namespace Sql

open Script (Mode Reads fragments modeAfter pushFirst)

/-! ## Reading a name back -/

/-- Writes a pair of double quotes once. -/
def halveQuotes : List Char → List Char
  | '\x22' :: '\x22' :: cs => '\x22' :: halveQuotes cs
  | c :: cs => c :: halveQuotes cs
  | [] => []

/-- The name that a written form stands for. -/
def nameOf (written : String) : String :=
  match written.toList with
  | '\x22' :: inner => String.ofList (halveQuotes inner.dropLast)
  | _ => written

theorem halveQuotes_cons {c : Char} (other : c ≠ '\x22') (cs : List Char) :
    halveQuotes (c :: cs) = c :: halveQuotes cs := by
  simp [halveQuotes, other]

theorem halveQuotes_doubleQuotes (cs : List Char) : halveQuotes (doubleQuotes cs) = cs := by
  induction cs with
  | nil => rfl
  | cons c cs ih =>
      by_cases quote : c = '\x22'
      · subst quote
        simp [doubleQuotes_cons, halveQuotes, ih]
      · simp [doubleQuotes_cons, quote, halveQuotes_cons quote, ih]

theorem nameOf_of_head {written : String} (other : written.toList.head? ≠ some '\x22') :
    nameOf written = written := by
  unfold nameOf
  split
  · rename_i inner chars
    exact absurd (by simp [chars]) other
  · rfl

theorem nameOf_identifier (name : String) : nameOf (identifier name) = name := by
  cases quotes : needsQuotes name with
  | true =>
      have chars := toList_identifier_of_quoted quotes
      simp [nameOf, chars, halveQuotes_doubleQuotes]
  | false =>
      rw [identifier_of_bare quotes]
      refine nameOf_of_head fun quote => ?_
      have bare := (bare_of_needsQuotes quotes).2 _ (List.mem_of_head? quote)
      exact absurd bare (by decide)

/-! ## Names without quotes -/

/-- A capital letter, a digit, an underline or a dollar sign. -/
def IsRegularChar (c : Char) : Prop :=
  ('A' ≤ c ∧ c ≤ 'Z') ∨ ('0' ≤ c ∧ c ≤ '9') ∨ c = '_' ∨ c = '$'

/-- One or more regular characters, the first of them a letter. -/
def IsRegular (name : String) : Prop :=
  ∃ first rest, name.toList = first :: rest ∧ ('A' ≤ first ∧ first ≤ 'Z') ∧
    ∀ c ∈ rest, IsRegularChar c

theorem isUpper_iff {c : Char} : c.isUpper = true ↔ 'A' ≤ c ∧ c ≤ 'Z' := by
  have upper : c.isUpper = decide (65 ≤ c.val ∧ c.val ≤ 90) := rfl
  rw [upper, decide_eq_true_eq]
  rfl

theorem isBareChar_iff {c : Char} : isBareChar c = true ↔ IsRegularChar c := by
  have digit : c.isDigit = true ↔ '0' ≤ c ∧ c ≤ '9' := by
    have range : c.isDigit = (decide (48 ≤ c.val) && decide (c.val ≤ 57)) := rfl
    rw [range, Bool.and_eq_true, decide_eq_true_eq, decide_eq_true_eq]
    rfl
  simp only [isBareChar, IsRegularChar, Bool.or_eq_true, isUpper_iff, digit, beq_iff_eq, or_assoc]

theorem needsQuotes_eq_false_iff {name : String} :
    needsQuotes name = false ↔ IsRegular name ∧ name ∉ reservedWords := by
  have unreserved : isReserved name = false ↔ name ∉ reservedWords := by
    rw [← isReserved_iff, Bool.not_eq_true]
  unfold needsQuotes IsRegular
  cases chars : name.toList with
  | nil => simp
  | cons first rest =>
      have letter : first.isUpper = true → isBareChar first = true := by
        intro upper
        simp [isBareChar, upper]
      simp only [Bool.or_eq_false_iff, Bool.not_eq_false', List.all_cons, Bool.and_eq_true,
        List.all_eq_true, unreserved, List.cons.injEq]
      constructor
      · rintro ⟨⟨upper, -, bare⟩, free⟩
        exact ⟨⟨first, rest, ⟨rfl, rfl⟩, isUpper_iff.1 upper,
          fun c mem => isBareChar_iff.1 (bare c mem)⟩, free⟩
      · rintro ⟨⟨_, _, ⟨rfl, rfl⟩, range, regular⟩, free⟩
        have upper := isUpper_iff.2 range
        exact ⟨⟨upper, letter upper, fun c mem => isBareChar_iff.2 (regular c mem)⟩, free⟩

theorem length_le_doubleQuotes (cs : List Char) : cs.length ≤ (doubleQuotes cs).length := by
  induction cs with
  | nil => exact Nat.le_refl 0
  | cons c cs ih =>
      by_cases quote : c = '\x22' <;> simp [doubleQuotes_cons, quote] <;> omega

/-- The quotes make a name longer than it is. -/
theorem identifier_eq_self_iff {name : String} :
    identifier name = name ↔ needsQuotes name = false := by
  constructor
  · intro same
    by_contra quotes
    have chars := toList_identifier_of_quoted (by simpa using quotes)
    have lengths := congrArg List.length chars
    have longer := length_le_doubleQuotes name.toList
    rw [same] at lengths
    simp only [List.length_cons, List.length_append, List.length_nil] at lengths
    omega
  · exact identifier_of_bare

/-! ## Ways to write names -/

/-- The delimiter begins neither with a double quote nor with a regular character. -/
def BeginsApart (delimiter : List Char) : Prop :=
  ∃ first rest, delimiter = first :: rest ∧ first ≠ '\x22' ∧ ¬IsRegularChar first

theorem BeginsApart.sparesNames {delimiter : List Char} (h : BeginsApart delimiter) :
    SparesNames delimiter := by
  rcases h with ⟨first, rest, rfl, quote, regular⟩
  refine ⟨List.cons_ne_nil first rest, ?_⟩
  rintro c ⟨⟩
  exact ⟨quote, by rwa [← Bool.not_eq_true, isBareChar_iff]⟩

/-- What is asked of a way to write names. -/
structure IsEncoding (write : String → String) : Prop where
  /-- A name is read off its written form. -/
  recovered : ∀ name, nameOf (write name) = name
  /-- No two names have one written form. -/
  apart : ∀ name other, write name = write other → name = other
  /-- A name is its own written form if it is regular and not reserved, and only then. -/
  bare_iff : ∀ name, write name = name ↔ IsRegular name ∧ name ∉ reservedWords
  /-- A written name is not cut. -/
  whole : ∀ delimiter, BeginsApart delimiter → ∀ name,
    fragments delimiter (write name).toList = [(write name).toList]
  /-- Nothing is open at its end. -/
  closed : ∀ name, modeAfter .plain (write name).toList = .plain
  /-- What follows it is cut as if it stood alone. -/
  passed : ∀ delimiter, BeginsApart delimiter → ∀ name following,
    fragments delimiter ((write name).toList ++ following) =
      (write name).toList.foldr pushFirst (fragments delimiter following)

/-- Names can be read back from statements, wherever they come from. The test for reserved words,
which halves their table, knows all of them. -/
theorem isEncoding_identifier :
    IsEncoding identifier ∧ ∀ word, isReserved word = true ↔ word ∈ reservedWords := by
  refine ⟨?_, fun _ => isReserved_iff⟩
  constructor
  · exact nameOf_identifier
  · intro name other same
    have names := congrArg nameOf same
    simpa only [nameOf_identifier] using names
  · intro name
    exact identifier_eq_self_iff.trans needsQuotes_eq_false_iff
  · intro delimiter spared name
    exact (reads_identifier spared.sparesNames name []).fragments_eq
  · intro name
    exact (reads_identifier sparesNames_default name []).modeAfter_eq
  · intro delimiter spared name following
    exact (reads_identifier spared.sparesNames name following).fragmentsFrom_append

end Sql
end SchemaChange
