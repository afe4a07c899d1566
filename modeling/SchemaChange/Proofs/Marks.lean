import Mathlib.Data.List.Nodup
import SchemaChange.Proofs.Column.Edit
import SchemaChange.Proofs.Text.Digits
import SchemaChange.Proofs.Text.Source
import SchemaChange.Proofs.User.Edit

/-!
# Proofs.Marks — sets of attributes that are read as they were written

A set is written as the labels of its attributes and one number for all other bits. Each of these
parts stands for a set again, and together they are the set that was written.

- `IsPart`               : a text that may stand between vertical bars
- `ReadableAttribute`    : attributes whose labels tell them apart from each other and from numbers
- `Marks.parse?_render`  : a set is read as it was written
-/

namespace SchemaChange

/-! ## Parts between vertical bars -/

/-- The text may stand between vertical bars and blanks. -/
structure IsPart (cs : List Char) : Prop where
  trimmed : Text.IsTrimmed cs
  nonempty : cs ≠ []
  bar : '|' ∉ cs

namespace Text

theorem splitOnChar_of_not_mem {separator : Char} {cs : List Char} (h : separator ∉ cs) :
    splitOnChar separator cs = [cs] := by
  induction cs with
  | nil => rfl
  | cons c cs ih =>
      rw [List.mem_cons, not_or] at h
      rw [splitOnChar, if_neg (Ne.symm h.1), ih h.2]

theorem splitOnChar_append {separator : Char} {cs : List Char} (h : separator ∉ cs)
    (rest : List Char) :
    splitOnChar separator (cs ++ separator :: rest) = cs :: splitOnChar separator rest := by
  induction cs with
  | nil => rw [List.nil_append, splitOnChar, if_pos rfl]
  | cons c cs ih =>
      rw [List.mem_cons, not_or] at h
      rw [List.cons_append, splitOnChar, if_neg (Ne.symm h.1), ih h.2]

theorem not_mem_of_allSpaces {blanks : List Char} (h : AllSpaces blanks) : '|' ∉ blanks := by
  intro mem
  have space := h '|' mem
  cases space

/-- The pieces between vertical bars are the parts, with blanks around them. -/
theorem trimChars_splitOnChar {parts : List String} (h : ∀ part ∈ parts, IsPart part.toList)
    (nonempty : parts ≠ []) {before : List Char} (blank : AllSpaces before) :
    (splitOnChar '|' (before ++ (" | ".intercalate parts).toList)).map trimChars =
      parts.map String.toList := by
  induction parts generalizing before with
  | nil => exact absurd rfl nonempty
  | cons part rest ih =>
      have first := h part List.mem_cons_self
      have front : '|' ∉ before := not_mem_of_allSpaces blank
      cases rest with
      | nil =>
          have whole : '|' ∉ before ++ part.toList := by
            rw [List.mem_append, not_or]
            exact ⟨front, first.bar⟩
          rw [String.intercalate_singleton, splitOnChar_of_not_mem whole, List.map_singleton,
            trimChars_behind blank first.trimmed first.nonempty, List.map_singleton]
      | cons next others =>
          -- Of the two blanks at a bar one belongs to this piece and one to the next.
          have space : AllSpaces [' '] := List.forall_mem_singleton.2 rfl
          have piece : '|' ∉ before ++ part.toList ++ [' '] := by
            rw [List.mem_append, List.mem_append, not_or, not_or]
            exact ⟨⟨front, first.bar⟩, by decide⟩
          have chars : before ++ (" | ".intercalate (part :: next :: others)).toList =
              (before ++ part.toList ++ [' ']) ++
                '|' :: ([' '] ++ (" | ".intercalate (next :: others)).toList) := by
            rw [String.intercalate_cons_cons]
            simp
          have later := ih (fun p mem => h p (List.mem_cons_of_mem part mem))
            (List.cons_ne_nil _ _) space
          rw [chars, splitOnChar_append piece, List.map_cons, later,
            trimChars_between blank space first.trimmed first.nonempty]
          rfl

end Text

namespace Marks

variable {A : Type} [Attribute A]

/-! ## Numbers -/

/-- No blank is a hexadecimal digit. -/
theorem isSpace_of_isSome_hexValue? {c : Char} (h : (Text.hexValue? c).isSome = true) :
    Text.isSpace c = false := by
  cases space : Text.isSpace c with
  | false => rfl
  | true =>
      simp only [Text.isSpace, Bool.or_eq_true, Bool.and_eq_true, decide_eq_true_eq,
        beq_iff_eq] at space
      have other : ∀ low high : Char, 33 ≤ low.toNat → high.toNat ≤ 126 →
          ¬(low ≤ c ∧ c ≤ high) := by
        rintro low high hlow hhigh between
        simp only [Char.le_def, UInt32.le_iff_toNat_le, Char.toNat_val] at between
        omega
      rw [Text.hexValue?, if_neg (other '0' '9' (by decide) (by decide)),
        if_neg (other 'a' 'f' (by decide) (by decide)),
        if_neg (other 'A' 'F' (by decide) (by decide))] at h
      cases h

/-- The number of some bits, as a part. -/
def numberPart (bits : BitVec 16) : String :=
  "0x" ++ Text.hexadecimal bits.toNat

theorem toList_numberPart (bits : BitVec 16) :
    (numberPart bits).toList = '0' :: 'x' :: Nat.toDigits 16 bits.toNat := by
  rw [numberPart, Text.hexadecimal, String.toList_append]
  simp

theorem isPart_numberPart (bits : BitVec 16) : IsPart (numberPart bits).toList := by
  have digits : ∀ c ∈ Nat.toDigits 16 bits.toNat, (Text.hexValue? c).isSome = true :=
    fun c mem => Text.isSome_hexValue?_of_mem_toDigits mem
  rw [toList_numberPart]
  constructor
  · constructor
    · intro c hc
      cases hc
      rfl
    · refine Text.EndsFull.behind ?_ Nat.toDigits_ne_nil ['0', 'x']
      intro c hc
      exact isSpace_of_isSome_hexValue? (digits c (List.mem_of_getLast? hc))
  · exact List.cons_ne_nil _ _
  · rw [List.mem_cons, List.mem_cons, not_or, not_or]
    refine ⟨by decide, by decide, ?_⟩
    intro mem
    cases digits '|' mem

theorem readPart?_numberPart (bits : BitVec 16) :
    readPart? (numberPart bits).toList = some (⟨bits⟩ : Marks A) := by
  have number := Text.readHex?_hexadecimal bits.toNat
  rw [Text.hexadecimal, String.toList_ofList] at number
  have small : bits.toNat < 0x10000 := bits.isLt
  have read : readBits? (Nat.toDigits 16 bits.toNat) = some bits := by
    unfold readBits?
    split
    · -- A plus sign is no digit.
      rename_i rest plus
      have mem : '+' ∈ Nat.toDigits 16 bits.toNat := by
        rw [plus]
        exact List.mem_cons_self
      cases Text.isSome_hexValue?_of_mem_toDigits mem
    · simp only [number, if_pos small, BitVec.ofNat_toNat, BitVec.setWidth_eq]
  rw [toList_numberPart, readPart?, read]
  rfl

/-! ## Sets -/

/-- All sets in one. -/
def unionAll {A : Type} (sets : List (Marks A)) : Marks A :=
  sets.foldr union empty

theorem getLsbD_unionAll {A : Type} (sets : List (Marks A)) (i : Nat) :
    (unionAll sets).bits.getLsbD i = true ↔ ∃ m ∈ sets, m.bits.getLsbD i = true := by
  induction sets with
  | nil => simp [unionAll, empty]
  | cons m rest ih =>
      have step : (unionAll (m :: rest)).bits = m.bits ||| (unionAll rest).bits := rfl
      rw [step, BitVec.getLsbD_or, Bool.or_eq_true, ih, List.exists_mem_cons_iff]

/-- The parts of a written set, each with the set that it stands for. -/
def pieces (m : Marks A) : List (String × Marks A) :=
  m.attributes.map (fun a => (Attribute.label a, insert empty a)) ++
    if m.unnamed = 0 then [] else [(numberPart m.unnamed, ⟨m.unnamed⟩)]

theorem render_eq (m : Marks A) : m.render = " | ".intercalate (m.pieces.map Prod.fst) := by
  unfold render pieces
  rw [List.map_append, List.map_map]
  by_cases none : m.unnamed = 0
  · simp only [if_pos none]
    rfl
  · simp only [if_neg none]
    rfl

theorem readParts?_of_pieces {texts : List (List Char)} {pieces : List (String × Marks A)}
    (same : texts.map Text.trimChars = pieces.map fun piece => piece.1.toList)
    (readable : ∀ piece ∈ pieces, readPart? piece.1.toList = some piece.2) :
    readParts? texts = some (unionAll (pieces.map Prod.snd)) := by
  induction pieces generalizing texts with
  | nil =>
      cases List.map_eq_nil_iff.1 same
      rfl
  | cons piece rest ih =>
      rcases List.map_eq_cons_iff.1 same with ⟨text, others, rfl, trimmed, same⟩
      have first := readable piece List.mem_cons_self
      have later := ih same fun p mem => readable p (List.mem_cons_of_mem piece mem)
      rw [readParts?, trimmed, first, later]
      rfl

end Marks

/-! ## Labels -/

/-- Labels tell attributes apart, from each other and from numbers. -/
class ReadableAttribute (A : Type) [Attribute A] : Prop extends LawfulAttribute A where
  isPart_label : ∀ a : A, IsPart (Attribute.label a).toList
  label_ne_hexadecimal : ∀ (a : A) digits, (Attribute.label a).toList ≠ '0' :: 'x' :: digits
  nodup_labels : ((Attribute.all : List A).map fun a => (Attribute.label a).toList).Nodup

namespace Marks

variable {A : Type} [Attribute A] [ReadableAttribute A]

theorem readPart?_label (a : A) :
    readPart? (Attribute.label a).toList = some (insert empty a) := by
  have found : (Attribute.all : List A).find?
      (fun b => (Attribute.label b).toList == (Attribute.label a).toList) = some a := by
    cases h : (Attribute.all : List A).find?
        (fun b => (Attribute.label b).toList == (Attribute.label a).toList) with
    | none =>
        have none := List.find?_eq_none.1 h a (LawfulAttribute.mem_all a)
        simp at none
    | some b =>
        have found := List.find?_some h
        have same := eq_of_beq found
        have one := List.inj_on_of_nodup_map ReadableAttribute.nodup_labels
          (LawfulAttribute.mem_all b) (LawfulAttribute.mem_all a) same
        rw [one]
  rw [readPart?]
  · rw [found, Option.map_some]
  · exact ReadableAttribute.label_ne_hexadecimal a

theorem readable_of_mem_pieces {m : Marks A} {piece : String × Marks A} (h : piece ∈ m.pieces) :
    IsPart piece.1.toList ∧ readPart? piece.1.toList = some piece.2 := by
  rw [pieces, List.mem_append, List.mem_map] at h
  rcases h with ⟨a, -, rfl⟩ | other
  · exact ⟨ReadableAttribute.isPart_label a, readPart?_label a⟩
  · split at other
    · cases other
    · rw [List.mem_singleton] at other
      subst other
      exact ⟨isPart_numberPart m.unnamed, readPart?_numberPart m.unnamed⟩

/-- A bit of some part belongs to an attribute of the set or to none. -/
theorem exists_mem_pieces (m : Marks A) (i : Nat) :
    (∃ n ∈ m.pieces.map Prod.snd, n.bits.getLsbD i = true) ↔
      (∃ a, m.contains a = true ∧ Attribute.bit a = i) ∨ m.unnamed.getLsbD i = true := by
  have labels : (∃ n ∈ m.attributes.map (insert empty), n.bits.getLsbD i = true) ↔
      ∃ a, m.contains a = true ∧ Attribute.bit a = i := by
    simp [attributes, LawfulAttribute.mem_all, getLsbD_insert, empty]
  have numbers : (∃ n ∈ (if m.unnamed = 0 then [] else [⟨m.unnamed⟩] : List (Marks A)),
      n.bits.getLsbD i = true) ↔ m.unnamed.getLsbD i = true := by
    split
    · rename_i none
      simp [none]
    · simp
  have sets : m.pieces.map Prod.snd =
      m.attributes.map (insert empty) ++ if m.unnamed = 0 then [] else [⟨m.unnamed⟩] := by
    rw [pieces, List.map_append, List.map_map]
    split <;> rfl
  simp only [sets, List.mem_append, or_and_right, exists_or, labels, numbers]

/-- Every bit of a set belongs to an attribute or is left over, so the parts make up the set. -/
theorem unionAll_pieces (m : Marks A) : unionAll (m.pieces.map Prod.snd) = m := by
  have bits : (unionAll (m.pieces.map Prod.snd)).bits = m.bits := by
    apply BitVec.eq_of_getLsbD_eq
    intro i hi
    rw [Bool.eq_iff_iff, getLsbD_unionAll, exists_mem_pieces, unnamed,
      BitVec.getLsbD_and, BitVec.getLsbD_not]
    by_cases own : ∃ a : A, Attribute.bit a = i
    · -- The number leaves this bit out, so it comes from the label.
      have masked := (getLsbD_named i).2 own
      rcases own with ⟨a, rfl⟩
      constructor
      · rintro (⟨b, member, same⟩ | rest)
        · rwa [contains, same] at member
        · simp [masked] at rest
      · intro member
        exact .inl ⟨a, member, rfl⟩
    · have masked : (named (A := A)).getLsbD i = false := by
        rw [← Bool.not_eq_true, getLsbD_named]
        exact own
      have no : ¬∃ a, m.contains a = true ∧ Attribute.bit a = i := by
        rintro ⟨a, -, same⟩
        exact own ⟨a, same⟩
      rw [masked, or_iff_right no]
      simp [hi]
  exact congrArg Marks.mk bits

theorem isBlank_intercalate {part : String} (h : IsPart part.toList) (rest : List String) :
    Text.isBlank (" | ".intercalate (part :: rest)) = false := by
  rcases List.exists_cons_of_ne_nil h.nonempty with ⟨c, cs, chars⟩
  have full : Text.isSpace c = false := h.trimmed.head c (by rw [chars]; rfl)
  have first : ∃ tail, (" | ".intercalate (part :: rest)).toList = c :: tail := by
    cases rest with
    | nil => exact ⟨cs, by rw [String.intercalate_singleton, chars]⟩
    | cons next others =>
        rw [String.intercalate_cons_cons, String.toList_append, String.toList_append, chars]
        exact ⟨_, rfl⟩
  rcases first with ⟨tail, first⟩
  rw [Text.isBlank, first, List.all_cons, full, Bool.false_and]

/-- A set is read as it was written. -/
theorem parse?_render (m : Marks A) : parse? m.render = some m := by
  have whole := unionAll_pieces m
  have isPart : ∀ part ∈ m.pieces.map Prod.fst, IsPart part.toList := by
    intro part mem
    rcases List.mem_map.1 mem with ⟨piece, found, rfl⟩
    exact (readable_of_mem_pieces found).1
  have readable : ∀ piece ∈ m.pieces, readPart? piece.1.toList = some piece.2 :=
    fun piece mem => (readable_of_mem_pieces mem).2
  rw [render_eq, parse?]
  cases list : m.pieces with
  | nil =>
      rw [list] at whole
      rw [← whole]
      rfl
  | cons first rest =>
      rw [list] at whole isPart readable
      rw [List.map_cons, isBlank_intercalate (isPart first.1 List.mem_cons_self)]
      have split := Text.trimChars_splitOnChar isPart (List.cons_ne_nil _ _)
        (List.forall_mem_nil _)
      rw [List.nil_append, List.map_map] at split
      have read := readParts?_of_pieces split readable
      rw [whole] at read
      exact read

end Marks

/-! ## Columns and users -/

instance : ReadableAttribute Column.Part where
  isPart_label := by
    intro part
    cases part <;> exact ⟨Text.trimChars_eq_self_iff.1 (by decide), by decide, by decide⟩
  label_ne_hexadecimal := by
    intro part digits
    cases part <;> rintro ⟨⟩
  nodup_labels := by decide

instance : ReadableAttribute User.Part where
  isPart_label := by
    intro part
    cases part <;> exact ⟨Text.trimChars_eq_self_iff.1 (by decide), by decide, by decide⟩
  label_ne_hexadecimal := by
    intro part digits
    cases part <;> rintro ⟨⟩
  nodup_labels := by decide

end SchemaChange
