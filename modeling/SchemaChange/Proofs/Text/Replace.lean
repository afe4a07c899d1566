import Mathlib.Data.List.Basic
import SchemaChange.Proofs.Text.Trim
import SchemaChange.Text.Replace

/-!
# Proofs.Text.Replace — replacing keeps a text trimmed

Where a trimmed text takes the place of every occurrence, the ends of the whole text come from it or
from the source, and no text that is there disappears.

- `isTrimmed_replaceAll` : both ends stay free of blanks
- `replaceAll_ne_empty`  : something is left
-/

namespace SchemaChange
namespace Text

variable {sought replacement : List Char}

theorem replaceFrom_ne_nil (full : replacement ≠ []) {cs : List Char} (h : cs ≠ []) :
    replaceFrom sought replacement 0 cs ≠ [] := by
  cases cs with
  | nil => exact absurd rfl h
  | cons c cs =>
      rw [replaceFrom]
      split
      · exact List.append_ne_nil_of_left_ne_nil full _
      · exact List.cons_ne_nil _ _

theorem startsFull_replaceFrom (full : replacement ≠ []) (starts : StartsFull replacement)
    {cs : List Char} (h : StartsFull cs) : StartsFull (replaceFrom sought replacement 0 cs) := by
  intro x hx
  cases cs with
  | nil => cases hx
  | cons c cs =>
      rw [replaceFrom] at hx
      split at hx
      · rw [List.head?_append_of_ne_nil _ full] at hx
        exact starts x hx
      · exact h x hx

/-- The end of an occurrence may be the end of the text, whatever part of it is still to be passed
over. -/
theorem endsFull_replaceFrom (full : replacement ≠ []) (ends : EndsFull replacement)
    (skip : Nat) {cs : List Char} (h : EndsFull cs) :
    EndsFull (replaceFrom sought replacement skip cs) := by
  intro x hx
  induction cs generalizing skip with
  | nil => simp [replaceFrom] at hx
  | cons c cs ih =>
      have tail : EndsFull cs := by
        intro d hd
        exact h d (by simp [List.getLast?_cons, hd])
      cases skip with
      | succ skip => exact ih skip tail hx
      | zero =>
          rw [replaceFrom] at hx
          split at hx
          · -- An occurrence: the end is that of the replacement, or of what is behind it.
            rw [List.getLast?_append, Option.or_eq_some_iff] at hx
            rcases hx with later | ⟨-, last⟩
            · exact ih _ tail later
            · exact ends x last
          · -- The character stays. It is the last one unless something is left behind it.
            cases hcs : cs with
            | nil =>
                subst hcs
                exact h x hx
            | cons d ds =>
                have more : replaceFrom sought replacement 0 cs ≠ [] :=
                  replaceFrom_ne_nil full (by simp [hcs])
                rw [← List.singleton_append, List.getLast?_append_of_ne_nil _ more] at hx
                exact ih 0 tail hx

theorem isTrimmed_replaceAll {sought replacement source : String} (full : replacement ≠ "")
    (trimmed : IsTrimmed replacement.toList) (h : IsTrimmed source.toList) :
    IsTrimmed (replaceAll sought replacement source).toList := by
  have full' : replacement.toList ≠ [] := by simpa using full
  unfold replaceAll
  split
  · exact h
  · rw [String.toList_ofList]
    exact ⟨startsFull_replaceFrom full' trimmed.head h.head,
      endsFull_replaceFrom full' trimmed.last 0 h.last⟩

theorem replaceAll_ne_empty {sought replacement source : String} (full : replacement ≠ "")
    (h : source ≠ "") : replaceAll sought replacement source ≠ "" := by
  have full' : replacement.toList ≠ [] := by simpa using full
  have h' : source.toList ≠ [] := by simpa using h
  unfold replaceAll
  split
  · exact h
  · simpa using replaceFrom_ne_nil full' h'

end Text
end SchemaChange
