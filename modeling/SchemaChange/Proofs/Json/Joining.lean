import Mathlib.Data.List.Forall2
import SchemaChange.Proofs.Json.Continuation

/-!
# Proofs.Json.Joining — texts of values, joined to an array

Texts that are read on their own can be put between brackets, with a comma behind each but the last.
They are read as the items of an array, which takes up a level of nesting itself.

- `arrayText`          : texts as the items of an array
- `outline?_arrayText` : the tree of the array
- `read?_arrayText`    : the tree within the limits
-/

namespace SchemaChange
namespace Json

/-- Texts as the items of an array. -/
def arrayText (texts : List String) : String :=
  "[" ++ ",".intercalate texts ++ "]"

/-- The rest of an array, behind one of its items. -/
def behindItem : List String → List Char
  | [] => [']']
  | text :: texts => ',' :: (text.toList ++ behindItem texts)

theorem toList_arrayText (text : String) (texts : List String) :
    (arrayText (text :: texts)).toList = '[' :: (text.toList ++ behindItem texts) := by
  have comma : (",".intercalate (text :: texts) ++ "]").toList =
      text.toList ++ behindItem texts := by
    induction texts generalizing text with
    | nil => simp [behindItem, String.intercalate_singleton]
    | cons next texts ih =>
        have later := ih next
        rw [String.toList_append] at later
        rw [String.intercalate_cons_cons, behindItem, ← later]
        simp
  rw [arrayText, String.append_assoc, String.toList_append, comma]
  rfl

theorem endsNumber_behindItem (texts : List String) : EndsNumber (behindItem texts) := by
  cases texts with
  | nil => exact endsNumber_cons (by decide) _
  | cons text texts => exact endsNumber_cons (by decide) _

/-- No value begins with the end of an array. -/
theorem readItems_close {cs tail : List Char} {fuel : Nat} (h : skipBlanks cs = ']' :: tail) :
    readItems fuel cs = none := by
  have value : ∀ n, readValue n cs = none := by
    rintro (_ | n)
    · rfl
    · have scalar : readScalar (']' :: tail) = none := rfl
      rw [readValue_scalar (by decide) (by decide) h, scalar]
  cases fuel with
  | zero => rfl
  | succ fuel => rw [readItems, value]

theorem outline?_eq_some {text : String} {v : Value} :
    outline? text = some v ↔ ∃ rest,
      readValue (text.toList.length + 1) text.toList = some (v, rest) ∧ skipBlanks rest = [] := by
  rw [outline?]
  generalize readValue (text.toList.length + 1) text.toList = found
  rcases found with _ | ⟨w, tail⟩
  · simp
  · simp only [List.isEmpty_iff, Option.some.injEq, Prod.mk.injEq]
    constructor
    · intro h
      split at h
      · rename_i blank
        cases h
        exact ⟨tail, ⟨rfl, rfl⟩, blank⟩
      · cases h
    · rintro ⟨rest, ⟨rfl, rfl⟩, blank⟩
      exact if_pos blank

theorem skipBlanks_behind {rest : List Char} (blank : skipBlanks rest = []) {c : Char}
    (visible : isJsonBlank c = false) (cs : List Char) :
    skipBlanks (rest ++ c :: cs) = c :: cs := by
  unfold skipBlanks at blank
  rw [skipBlanks, List.dropWhile_append, blank]
  exact skipBlanks_cons visible cs

theorem readValue_item {text : String} {v : Value} (h : outline? text = some v) {fuel : Nat}
    (enough : text.toList.length < fuel) (texts : List String) :
    ∃ rest, skipBlanks rest = [] ∧
      readValue fuel (text.toList ++ behindItem texts) = some (v, rest ++ behindItem texts) := by
  rcases outline?_eq_some.1 h with ⟨rest, read, blank⟩
  have sep : Separates rest (behindItem texts) := fun _ => endsNumber_behindItem texts
  exact ⟨rest, blank, (readsOnWith (text.toList.length + 1)).1 enough read sep⟩

/-- Each item leaves the fuel that the rest of the array needs. -/
theorem readItems_texts {text : String} {texts : List String} {v : Value} {vs : List Value}
    (first : outline? text = some v)
    (others : List.Forall₂ (fun text v => outline? text = some v) texts vs) {fuel : Nat}
    (enough : text.toList.length + (behindItem texts).length < fuel) :
    readItems fuel (text.toList ++ behindItem texts) = some (v :: vs, []) := by
  induction others generalizing text v fuel with
  | nil =>
      cases fuel with
      | zero => cases enough
      | succ fuel =>
          rw [behindItem, List.length_singleton] at enough
          rcases readValue_item first (Nat.lt_of_succ_lt_succ enough) [] with ⟨rest, blank, read⟩
          rw [readItems, read]
          simp only [behindItem, skipBlanks_behind blank (c := ']') rfl]
  | @cons next w texts ws second _ ih =>
      cases fuel with
      | zero => cases enough
      | succ fuel =>
          rw [behindItem, List.length_cons, List.length_append] at enough
          have firstFuel : text.toList.length < fuel := by omega
          have otherFuel : next.toList.length + (behindItem texts).length < fuel := by omega
          rcases readValue_item first firstFuel (next :: texts) with ⟨rest, blank, read⟩
          rw [readItems, read]
          simp only [behindItem, skipBlanks_behind blank (c := ',') rfl, ih second otherFuel,
            Option.map_some]

/-- Texts of values are read as the items of an array. -/
theorem outline?_arrayText {texts : List String} {vs : List Value}
    (items : List.Forall₂ (fun text v => outline? text = some v) texts vs) :
    outline? (arrayText texts) = some (.array vs) := by
  refine outline?_eq_some.2 ⟨[], ?_, rfl⟩
  cases items with
  | nil => rfl
  | @cons text v texts vs first others =>
      have read : readItems (arrayText (text :: texts)).toList.length
          (text.toList ++ behindItem texts) = some (v :: vs, []) := by
        refine readItems_texts first others ?_
        rw [toList_arrayText, List.length_cons, List.length_append]
        omega
      have opens : skipBlanks ('[' :: (text.toList ++ behindItem texts)) =
          '[' :: (text.toList ++ behindItem texts) := skipBlanks_cons rfl _
      have others : ∀ tail, skipBlanks (text.toList ++ behindItem texts) ≠ ']' :: tail := by
        intro tail close
        rw [readItems_close close] at read
        cases read
      rw [toList_arrayText] at read ⊢
      rw [readValue_array opens others, read]
      rfl

/-- An array is within the limits if its items leave a level for it. -/
theorem read?_arrayText {texts : List String} {vs : List Value}
    (items : List.Forall₂ (fun text v => read? text = some v) texts vs) :
    read? (arrayText texts) =
      if vs.all (Value.usable (nestingLimit - 1)) then some (.array vs) else none := by
  have outlines : List.Forall₂ (fun text v => outline? text = some v) texts vs := by
    refine items.imp ?_
    intro text v read
    exact (Option.filter_eq_some_iff.1 read).1
  rw [read?, outline?_arrayText outlines, Option.filter_some, Value.usable, usableItems_eq_all]
  simp [nestingLimit]

end Json
end SchemaChange
