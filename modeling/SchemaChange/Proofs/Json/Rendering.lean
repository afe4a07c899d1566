import SchemaChange.Proofs.Json.Layout
import SchemaChange.Proofs.Json.Literal

/-!
# Proofs.Json.Rendering — trees that are read as they were written

Blanks between tokens are passed over, so what is read is told from the first character behind them.

- `IsPlain`           : the trees whose literals stand for whole numbers and texts
- `IsPlain.readsBack` : such a tree is read in any layout
- `IsPlain.read?_render`, `IsPlain.read?_renderPretty` : in the two that are written
-/

namespace SchemaChange
namespace Json

/-! ## Plain trees -/

/-- Every literal stands for a word, for a whole number of 64 bits or for a text, and at most
`levels` arrays and objects lie inside each other. -/
inductive IsPlain : Nat → Value → Prop
  | null (levels : Nat) : IsPlain levels .null
  | bool (levels : Nat) (b : Bool) : IsPlain levels (.bool b)
  | integer (levels : Nat) {n : Int} :
      -0x8000000000000000 ≤ n → n < 0x10000000000000000 → IsPlain levels (.integer n)
  | text (levels : Nat) (s : String) : IsPlain levels (.text s)
  | array {levels : Nat} {items : List Value} :
      (∀ v ∈ items, IsPlain levels v) → IsPlain (levels + 1) (.array items)
  | object {levels : Nat} {members : Members} :
      (∀ member ∈ members, IsPlain levels member.2) → IsPlain (levels + 1) (.object members)

theorem usableItems_eq_all (levels : Nat) (items : List Value) :
    usableItems levels items = items.all (Value.usable levels) := by
  induction items with
  | nil => rfl
  | cons v vs ih => rw [usableItems, ih, List.all_cons]

theorem usableMembers_eq_all (levels : Nat) (members : Members) :
    usableMembers levels members = members.all fun member => member.2.usable levels := by
  induction members with
  | nil => rfl
  | cons member ms ih => rw [usableMembers, ih, List.all_cons]

theorem IsPlain.usable {levels : Nat} {v : Value} (h : IsPlain levels v) :
    v.usable levels = true := by
  induction h with
  | null => rfl
  | bool => rfl
  | integer => rfl
  | text => rfl
  | array _ ih =>
      rw [Value.usable, Nat.add_sub_cancel, usableItems_eq_all, Bool.and_eq_true, List.all_eq_true]
      exact ⟨decide_eq_true (Nat.succ_pos _), ih⟩
  | object _ ih =>
      rw [Value.usable, Nat.add_sub_cancel, usableMembers_eq_all, Bool.and_eq_true,
        List.all_eq_true]
      exact ⟨decide_eq_true (Nat.succ_pos _), ih⟩


/-! ## First characters -/

/-- The character begins a value: it is no blank and ends no array. -/
def BeginsValue (c : Char) : Prop :=
  isJsonBlank c = false ∧ c ≠ ']'

theorem beginsValue_of_isDigit {c : Char} (h : c.isDigit = true) : BeginsValue c := by
  have other : ∀ d : Char, d.isDigit = false → c ≠ d := by
    rintro d no rfl
    rw [h] at no
    cases no
  refine ⟨?_, other ']' rfl⟩
  simp [isJsonBlank, other ' ' rfl, other '\n' rfl, other '\t' rfl, other '\r' rfl]

theorem skipBlanks_cons {c : Char} (h : isJsonBlank c = false) (cs : List Char) :
    skipBlanks (c :: cs) = c :: cs := by
  rw [skipBlanks, List.dropWhile_cons_of_neg (by rw [h]; exact Bool.false_ne_true)]

theorem skipBlanks_append {blanks : List Char} (h : AllBlank blanks) (cs : List Char) :
    skipBlanks (blanks ++ cs) = skipBlanks cs := by
  rw [skipBlanks, List.dropWhile_append_of_pos h, skipBlanks]

theorem readValue_blanks {blanks : List Char} (h : AllBlank blanks) (fuel : Nat)
    (cs : List Char) : readValue fuel (blanks ++ cs) = readValue fuel cs := by
  cases fuel with
  | zero => rfl
  | succ fuel => rw [readValue, readValue, skipBlanks_append h]

theorem IsPlain.begins {levels : Nat} {v : Value} (h : IsPlain levels v) (l : Layout)
    (level : Nat) : ∃ c cs, l.chars level v = c :: cs ∧ BeginsValue c := by
  cases h with
  | null => exact ⟨_, _, rfl, by decide, by decide⟩
  | bool _ b => cases b <;> exact ⟨_, _, rfl, by decide, by decide⟩
  | @integer _ n =>
      rcases head_decimalInt n with ⟨c, cs, chars, rfl | digit⟩
      · exact ⟨_, _, chars, by decide, by decide⟩
      · exact ⟨_, _, chars, beginsValue_of_isDigit digit⟩
  | text => exact ⟨_, _, rfl, by decide, by decide⟩
  | @array _ items => cases items <;> exact ⟨_, _, rfl, by decide, by decide⟩
  | @object _ members => rcases members with _ | ⟨⟨name, v⟩, ms⟩ <;>
      exact ⟨_, _, rfl, by decide, by decide⟩

theorem readValue_text (s : String) (fuel : Nat) (rest : List Char) :
    readValue (fuel + 1) (stringLiteral s ++ rest) = some (.text s, rest) := by
  rw [stringLiteral_append, readValue, skipBlanks_cons rfl]
  exact readStringValue_escaped s rest

theorem readValue_number {c : Char} (h : c = '-' ∨ c.isDigit = true) (fuel : Nat)
    (cs : List Char) : readValue (fuel + 1) (c :: cs) = readNumber (c :: cs) := by
  have other : ∀ d : Char, d ≠ '-' → d.isDigit = false → ∀ tail, c :: cs ≠ d :: tail := by
    rintro d sign no tail same
    cases same
    rcases h with minus | digit
    · exact sign minus
    · rw [digit] at no
      cases no
  have blank : isJsonBlank c = false := by
    rcases h with rfl | digit
    · rfl
    · exact (beginsValue_of_isDigit digit).1
  have scalar : readScalar (c :: cs) = readNumber (c :: cs) := by
    rw [readScalar]
    · exact other 'n' (by decide) rfl
    · exact other 't' (by decide) rfl
    · exact other 'f' (by decide) rfl
    · exact other '\x22' (by decide) rfl
  rw [readValue, skipBlanks_cons blank]
  split
  · rename_i chars
    exact absurd chars (other '[' (by decide) rfl _)
  · rename_i chars
    exact absurd chars (other '\x7b' (by decide) rfl _)
  · exact scalar

theorem readValue_items {c : Char} (begins : BeginsValue c) {blanks : List Char}
    (blank : AllBlank blanks) (fuel : Nat) (cs : List Char) :
    readValue (fuel + 1) ('[' :: (blanks ++ c :: cs)) =
      (readItems fuel (blanks ++ c :: cs)).map fun (items, rest) => (.array items, rest) := by
  rw [readValue, skipBlanks_cons rfl]
  simp only [skipBlanks_append blank, skipBlanks_cons begins.1]
  split
  · rename_i chars
    cases chars
    exact absurd rfl begins.2
  · rfl

theorem readValue_members {blanks : List Char} (blank : AllBlank blanks) (fuel : Nat)
    (cs : List Char) :
    readValue (fuel + 1) ('\x7b' :: (blanks ++ '\x22' :: cs)) =
      (readMembers fuel (blanks ++ '\x22' :: cs)).map fun (members, rest) =>
        (.object members, rest) := by
  rw [readValue, skipBlanks_cons rfl]
  simp only [skipBlanks_append blank, skipBlanks_cons (c := '\x22') rfl]
  rfl

/-! ## Reading -/

variable {l : Layout} {level : Nat}

/-- At every level the text of the value is read again, in front of anything that ends a number. -/
def ReadsBack (l : Layout) (v : Value) : Prop :=
  ∀ level fuel rest, (l.chars level v).length ≤ fuel → EndsNumber rest →
    readValue fuel (l.chars level v ++ rest) = some (v, rest)

theorem EndsNumber.behind {blanks rest : List Char} (blank : AllBlank blanks)
    (h : EndsNumber rest) : EndsNumber (blanks ++ rest) := by
  cases blanks with
  | nil => exact h
  | cons c cs =>
      have space := blank c List.mem_cons_self
      simp only [isJsonBlank, Bool.or_eq_true, beq_iff_eq] at space
      rcases space with ((rfl | rfl) | rfl) | rfl <;> exact endsNumber_cons (by decide) _

theorem endsNumber_items (items : List Value) (rest : List Char) :
    EndsNumber (l.items level items ++ rest) := by
  cases items with
  | nil =>
      rw [Layout.items, List.append_assoc]
      exact .behind (l.allBlank_lineStart level) (endsNumber_cons (by decide) _)
  | cons v vs => exact endsNumber_cons (by decide) _

theorem endsNumber_members (members : Members) (rest : List Char) :
    EndsNumber (l.members level members ++ rest) := by
  cases members with
  | nil =>
      rw [Layout.members, List.append_assoc]
      exact .behind (l.allBlank_lineStart level) (endsNumber_cons (by decide) _)
  | cons member ms => exact endsNumber_cons (by decide) _

/-- Each item takes up a character at least, so the length of the text is enough. -/
theorem readItems_rendered {v : Value} {items : List Value} (first : ReadsBack l v)
    (others : ∀ w ∈ items, ReadsBack l w) (level fuel : Nat) (rest : List Char)
    (enough : (l.chars (level + 1) v).length + (l.items level items).length ≤ fuel) :
    readItems fuel (l.lineStart (level + 1) ++ (l.chars (level + 1) v ++
      (l.items level items ++ rest))) = some (v :: items, rest) := by
  -- The rest of the list takes the place of the first item, with less fuel.
  induction items generalizing v fuel with
  | nil =>
      rw [Layout.items, List.length_append, List.length_singleton] at enough
      cases fuel with
      | zero => omega
      | succ fuel =>
          have value := first (level + 1) fuel (l.items level [] ++ rest) (by omega)
            (endsNumber_items _ _)
          rw [readItems, readValue_blanks (l.allBlank_lineStart _), value, Layout.items]
          simp only [List.append_assoc, skipBlanks_append (l.allBlank_lineStart level)]
          rfl
  | cons w ws ih =>
      rw [Layout.items, List.length_cons, List.length_append, List.length_append] at enough
      cases fuel with
      | zero => omega
      | succ fuel =>
          have value := first (level + 1) fuel (l.items level (w :: ws) ++ rest) (by omega)
            (endsNumber_items _ _)
          have later := ih (others w List.mem_cons_self)
            (fun x mem => others x (List.mem_cons_of_mem w mem)) fuel (by omega)
          rw [readItems, readValue_blanks (l.allBlank_lineStart _), value, Layout.items]
          simp only [List.cons_append, List.append_assoc, skipBlanks_cons (c := ',') rfl, later]
          rfl

theorem readMembers_rendered (name : String) {v : Value} {members : Members}
    (first : ReadsBack l v) (others : ∀ member ∈ members, ReadsBack l member.2) (level fuel : Nat)
    (rest : List Char)
    (enough : (stringLiteral name).length + (l.chars (level + 1) v).length +
      (l.members level members).length ≤ fuel) :
    readMembers fuel (l.lineStart (level + 1) ++ (stringLiteral name ++
      ':' :: (l.gap ++ (l.chars (level + 1) v ++ (l.members level members ++ rest))))) =
        some ((name, v) :: members, rest) := by
  induction members generalizing name v fuel with
  | nil =>
      rw [Layout.members, List.length_append, List.length_singleton] at enough
      cases fuel with
      | zero => omega
      | succ fuel =>
          have value := first (level + 1) fuel (l.members level [] ++ rest) (by omega)
            (endsNumber_members _ _)
          rw [readMembers, skipBlanks_append (l.allBlank_lineStart _), stringLiteral_append,
            skipBlanks_cons rfl]
          simp only [readName_escaped, skipBlanks_cons (c := ':') rfl,
            readValue_blanks l.allBlank_gap, value]
          rw [Layout.members]
          simp only [List.append_assoc, skipBlanks_append (l.allBlank_lineStart level)]
          rfl
  | cons member ms ih =>
      rcases member with ⟨other, w⟩
      rw [Layout.members] at enough
      simp only [List.length_cons, List.length_append] at enough
      cases fuel with
      | zero => omega
      | succ fuel =>
          have value := first (level + 1) fuel (l.members level ((other, w) :: ms) ++ rest)
            (by omega) (endsNumber_members _ _)
          have later := ih other (v := w) (others _ List.mem_cons_self)
            (fun x mem => others x (List.mem_cons_of_mem _ mem)) fuel (by omega)
          rw [readMembers, skipBlanks_append (l.allBlank_lineStart _), stringLiteral_append,
            skipBlanks_cons rfl]
          simp only [readName_escaped, skipBlanks_cons (c := ':') rfl,
            readValue_blanks l.allBlank_gap, value]
          rw [Layout.members]
          simp only [List.cons_append, List.append_assoc, skipBlanks_cons (c := ',') rfl, later]
          rfl

theorem IsPlain.readsBack {levels : Nat} {v : Value} (h : IsPlain levels v) (l : Layout) :
    ReadsBack l v := by
  -- Items and members read back by induction, and then the lists of them do.
  induction h with
  | null =>
      rintro level (_ | fuel) rest enough -
      · cases enough
      · rfl
  | bool _ b =>
      rintro level (_ | fuel) rest enough -
      · cases b <;> cases enough
      · cases b <;> rfl
  | @integer _ n low high =>
      rcases head_decimalInt n with ⟨c, cs, chars, first⟩
      rintro level (_ | fuel) rest enough ends
      · rw [Layout.chars, scalarChars, chars] at enough
        cases enough
      · -- A number is the only literal that a text behind it could go on with.
        have number := readNumber_decimalInt low high ends
        rw [Layout.chars, scalarChars]
        rw [chars, List.cons_append] at number ⊢
        rw [readValue_number first]
        exact number
  | text _ s =>
      rintro level (_ | fuel) rest enough -
      · cases enough
      · exact readValue_text s fuel rest
  | @array levels items plain ih =>
      rintro level (_ | fuel) rest enough -
      · cases items <;> cases enough
      · cases items with
        | nil => rfl
        | cons v vs =>
            rcases (plain v List.mem_cons_self).begins l (level + 1) with ⟨c, cs, chars, begins⟩
            rw [Layout.chars] at enough ⊢
            simp only [List.length_cons, List.length_append] at enough
            have items := readItems_rendered (ih v List.mem_cons_self)
              (fun w mem => ih w (List.mem_cons_of_mem v mem)) level fuel rest (by omega)
            simp only [List.cons_append, List.append_assoc]
            rw [chars, List.cons_append] at items ⊢
            rw [readValue_items begins (l.allBlank_lineStart _), items]
            rfl
  | @object levels members plain ih =>
      rintro level (_ | fuel) rest enough -
      · rcases members with _ | ⟨⟨name, v⟩, ms⟩ <;> cases enough
      · rcases members with _ | ⟨⟨name, v⟩, ms⟩
        · rfl
        · rw [Layout.chars] at enough ⊢
          simp only [List.length_cons, List.length_append] at enough
          have members := readMembers_rendered name (v := v) (ih _ List.mem_cons_self)
            (fun w mem => ih w (List.mem_cons_of_mem _ mem)) level fuel rest (by omega)
          simp only [List.cons_append, List.append_assoc]
          rw [stringLiteral_append] at members ⊢
          rw [readValue_members (l.allBlank_lineStart _), members]
          rfl

/-- In any layout the text of a tree within the limits is read as that tree. -/
theorem IsPlain.read?_chars {v : Value} (h : IsPlain nestingLimit v) (l : Layout) :
    read? (String.ofList (l.chars 0 v)) = some v := by
  have enough : (l.chars 0 v).length ≤ (l.chars 0 v).length + 1 := Nat.le_succ _
  have whole := h.readsBack l 0 _ [] enough endsNumber_nil
  rw [List.append_nil] at whole
  rw [read?, outline?, String.toList_ofList]
  simp only [whole]
  exact Option.filter_eq_some_iff.2 ⟨rfl, h.usable⟩

theorem IsPlain.read?_render {v : Value} (h : IsPlain nestingLimit v) :
    read? (render v) = some v := by
  rw [render, ← Layout.chars_oneLine 0 v]
  exact h.read?_chars .oneLine

theorem IsPlain.read?_renderPretty {v : Value} (h : IsPlain nestingLimit v) :
    read? (renderPretty v) = some v := by
  rw [renderPretty, ← Layout.chars_lines 0 v]
  exact h.read?_chars .lines

end Json
end SchemaChange
