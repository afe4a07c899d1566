import Mathlib.Data.List.Chain
import SchemaChange.Sql.Keyword

/-!
# Proofs.Sql.Keyword — the search for reserved words

Halving a sorted list finds what is in the list: of the two halves around a word only one can hold
what is sought.

- `searchSorted_iff` : the search in any sorted list
- `isReserved_iff`   : the test whether a name is a reserved word
-/

namespace SchemaChange
namespace Sql

variable {word middle : String} {below above : List String}

/-! ## Sorted lists around a word -/

/-- A word that is smaller than the one in the middle can only stand in front of it. -/
theorem mem_around_of_lt (sorted : (below ++ middle :: above).Pairwise (· < ·))
    (less : word < middle) : word ∈ below ++ middle :: above ↔ word ∈ below := by
  have behind : ∀ other ∈ middle :: above, word ≠ other := by
    have front := (List.pairwise_cons.1 (List.pairwise_append.1 sorted).2.1).1
    intro other mem same
    rcases List.mem_cons.1 mem with rfl | later
    · exact String.lt_irrefl other (same ▸ less)
    · exact String.lt_asymm less (same ▸ front other later)
  have absent : word ∉ middle :: above := fun mem => behind word mem rfl
  rw [List.mem_append, or_iff_left absent]

/-- A word that is greater than the one in the middle can only stand behind it. -/
theorem mem_around_of_gt (sorted : (below ++ middle :: above).Pairwise (· < ·))
    (greater : middle < word) : word ∈ below ++ middle :: above ↔ word ∈ above := by
  have apart := (List.pairwise_append.1 sorted).2.2
  have absent : word ∉ below := by
    intro mem
    exact String.lt_asymm greater (apart word mem middle List.mem_cons_self)
  have other : word ≠ middle := by
    rintro rfl
    exact String.lt_irrefl word greater
  rw [List.mem_append, or_iff_right absent, List.mem_cons, or_iff_right other]

/-! ## The search -/

/-- One halving: the word in the middle, or the half that can hold the word. -/
theorem searchSorted_around (halvings : Nat) (words : List String) {middle : String}
    {above : List String} (split : words.drop (words.length / 2) = middle :: above) :
    searchSorted word (halvings + 1) words =
      if word = middle then true
      else if word < middle then searchSorted word halvings (words.take (words.length / 2))
      else searchSorted word halvings above := by
  simp only [searchSorted, split]

theorem searchSorted_iff {halvings : Nat} {words : List String}
    (sorted : words.Pairwise (· < ·)) (enough : words.length ≤ halvings) :
    searchSorted word halvings words = true ↔ word ∈ words := by
  -- Each half is shorter than the list, so the number of halvings lasts.
  induction halvings generalizing words with
  | zero =>
      have empty : words = [] := List.length_eq_zero_iff.1 (Nat.le_zero.1 enough)
      simp [searchSorted, empty]
  | succ halvings ih =>
      cases split : words.drop (words.length / 2) with
      | nil =>
          have short := List.drop_eq_nil_iff.1 split
          have empty : words = [] := List.length_eq_zero_iff.1 (by omega)
          simp [searchSorted, empty]
      | cons middle above =>
          have whole : words.take (words.length / 2) ++ middle :: above = words := by
            rw [← split, List.take_append_drop]
          have lengths := congrArg List.length whole
          simp only [List.length_append, List.length_cons] at lengths
          have ordered := sorted
          rw [← whole] at ordered
          rw [searchSorted_around halvings words split]
          by_cases same : word = middle
          · subst same
            rw [if_pos rfl, ← whole]
            simp
          · rw [if_neg same]
            by_cases less : word < middle
            · have front : (words.take (words.length / 2)).Pairwise (· < ·) :=
                sorted.sublist (List.take_sublist _ _)
              rw [if_pos less, ih front (by omega), ← mem_around_of_lt ordered less, whole]
            · have greater : middle < word := by
                have le := String.not_lt.1 less
                exact String.not_le.1 fun ge => same (String.le_antisymm ge le)
              have behind : above.Pairwise (· < ·) :=
                (List.pairwise_cons.1 (List.pairwise_append.1 ordered).2.1).2
              rw [if_neg less, ih behind (by omega), ← mem_around_of_gt ordered greater, whole]

/-! ## The reserved words -/

theorem pairwise_reservedWords : reservedWords.Pairwise (· < ·) := by
  have rising : reservedWords.IsChain (· < ·) := by decide +kernel
  exact List.isChain_iff_pairwise.1 rising

/-- The search agrees with the list, whatever the word is. -/
theorem isReserved_iff : isReserved word = true ↔ word ∈ reservedWords :=
  searchSorted_iff pairwise_reservedWords (Nat.le_refl _)

end Sql
end SchemaChange
