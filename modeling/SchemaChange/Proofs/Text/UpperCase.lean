import Mathlib.Data.List.Basic
import SchemaChange.Proofs.Text.Trim
import SchemaChange.Text.UpperCase

/-!
# Proofs.Text.UpperCase — upper case makes no blanks

No character that is not blank has a blank in its upper-case form, which is looked up in the tables
once for all. So a trimmed text stays trimmed in upper case.

- `isSpace_of_mem_upperChar` : a character's upper-case form has no blank in it
- `isTrimmed_upperCase`      : upper case keeps both ends
-/

namespace SchemaChange
namespace Text

/-! ## Blank code points -/

/-- The ranges of the code points of blanks. -/
def spaceRanges : List (Nat × Nat) :=
  [(9, 13), (0x20, 0x20), (0x85, 0x85), (0xA0, 0xA0), (0x1680, 0x1680), (0x2000, 0x200A),
    (0x2028, 0x2029), (0x202F, 0x202F), (0x205F, 0x205F), (0x3000, 0x3000)]

theorem exists_range_of_isSpace {c : Char} (h : isSpace c = true) :
    ∃ range ∈ spaceRanges, range.1 ≤ c.toNat ∧ c.toNat ≤ range.2 := by
  simp only [isSpace, Bool.or_eq_true, Bool.and_eq_true, decide_eq_true_eq, beq_iff_eq] at h
  simp only [spaceRanges, List.mem_cons, List.not_mem_nil, or_false, exists_eq_or_imp,
    exists_eq_left]
  omega

theorem toNat_ofNat_or (n : Nat) : (Char.ofNat n).toNat = n ∨ (Char.ofNat n).toNat = 0 := by
  by_cases valid : n.isValidChar
  · have code : Char.ofNat n = Char.ofNatAux n valid := dif_pos valid
    exact .inl (by rw [code]; rfl)
  · have zero : Char.ofNat n = '\x00' := dif_neg valid
    exact .inr (by rw [zero]; rfl)

theorem isSpace_ofNat_of_outside {n : Nat}
    (h : ∀ range ∈ spaceRanges, n < range.1 ∨ range.2 < n) : isSpace (Char.ofNat n) = false := by
  rw [← Bool.not_eq_true]
  intro space
  rcases exists_range_of_isSpace space with ⟨range, hrange, low, high⟩
  rcases toNat_ofNat_or n with same | zero
  · rw [same] at low high
    rcases h range hrange with below | above <;> omega
  · have positive : ∀ range ∈ spaceRanges, 0 < range.1 := by decide
    have := positive range hrange
    omega

/-! ## The tables -/

/-- No upper-case form in a run is a blank. -/
theorem caseRuns_avoid_spaces :
    ∀ run ∈ caseRuns, ∀ range ∈ spaceRanges,
      (run.2.1 : Int) + run.2.2.2 < range.1 ∨ (range.2 : Int) < run.1 + run.2.2.2 := by
  decide +kernel

theorem caseExpansions_avoid_spaces :
    ∀ entry ∈ caseExpansions, entry.2 ≠ [] ∧ ∀ n ∈ entry.2, isSpace (Char.ofNat n) = false := by
  decide +kernel

theorem isSpace_toUpper_ascii :
    ∀ n < 0x80, isSpace (Char.ofNat n) = false → isSpace (Char.ofNat n).toUpper = false := by
  decide +kernel

/-- What a run makes of a code point is no blank. -/
theorem isSpace_shiftedBy {n : Nat} {run : Nat × Nat × Nat × Int} {c : Char}
    (hrun : run ∈ caseRuns) (h : shiftedBy n run = some c) : isSpace c = false := by
  rcases run with ⟨first, last, stride, shift⟩
  rw [shiftedBy] at h
  split at h
  · -- Code points that are no characters become zero, which is no blank either.
    rename_i inside
    have : Char.ofNat ((n : Int) + shift).toNat = c := by simpa using h
    subst this
    refine isSpace_ofNat_of_outside ?_
    intro range hrange
    have avoided := caseRuns_avoid_spaces _ hrun range hrange
    have positive : ∀ range ∈ spaceRanges, 0 < range.1 := by decide
    have := positive range hrange
    simp only at avoided
    omega
  · cases h

/-! ## Texts -/

theorem upperChar_ne_nil (c : Char) : upperChar c ≠ [] := by
  unfold upperChar
  split
  · exact List.cons_ne_nil _ _
  · split
    · rename_i codes found
      rcases List.lookup_eq_some_iff.1 found with ⟨before, behind, entry, -⟩
      have := caseExpansions_avoid_spaces (c.toNat, codes) (by simp [entry])
      simpa using this.1
    · exact List.cons_ne_nil _ _

theorem isSpace_of_mem_upperChar {c x : Char} (h : isSpace c = false) (hx : x ∈ upperChar c) :
    isSpace x = false := by
  unfold upperChar at hx
  split at hx
  · rename_i ascii
    have upper := isSpace_toUpper_ascii c.toNat ascii
    rw [Char.ofNat_toNat] at upper
    rw [List.mem_singleton.1 hx]
    exact upper h
  · split at hx
    · rename_i codes found
      rcases List.lookup_eq_some_iff.1 found with ⟨before, behind, entry, -⟩
      have avoided := caseExpansions_avoid_spaces (c.toNat, codes) (by simp [entry])
      rcases List.mem_map.1 hx with ⟨n, hn, rfl⟩
      exact avoided.2 n hn
    · rw [List.mem_singleton.1 hx]
      cases found : caseRuns.findSome? (shiftedBy c.toNat) with
      | none => exact h
      | some upper =>
          rcases List.exists_of_findSome?_eq_some found with ⟨run, hrun, shifted⟩
          exact isSpace_shiftedBy hrun shifted

/-- Replacing each character by texts without blanks keeps both ends. -/
theorem IsTrimmed.flatMap {f : Char → List Char} (full : ∀ c, f c ≠ [])
    (h : ∀ c x, isSpace c = false → x ∈ f c → isSpace x = false) {cs : List Char}
    (trimmed : IsTrimmed cs) : IsTrimmed (cs.flatMap f) := by
  constructor
  · intro x hx
    cases cs with
    | nil => cases hx
    | cons c cs =>
        rw [List.flatMap_cons, List.head?_append_of_ne_nil _ (full c)] at hx
        exact h c x (trimmed.head c rfl) (List.mem_of_head? hx)
  · intro x hx
    rcases List.eq_nil_or_concat' cs with rfl | ⟨init, c, rfl⟩
    · cases hx
    · rw [List.flatMap_append, List.flatMap_singleton,
        List.getLast?_append_of_ne_nil _ (full c)] at hx
      exact h c x (trimmed.last c List.getLast?_concat) (List.mem_of_getLast? hx)

theorem isTrimmed_upperCase {s : String} (h : IsTrimmed s.toList) :
    IsTrimmed (upperCase s).toList := by
  rw [upperCase, String.toList_ofList]
  exact h.flatMap upperChar_ne_nil fun c x => isSpace_of_mem_upperChar

theorem upperCase_ne_empty {s : String} (h : s ≠ "") : upperCase s ≠ "" := by
  rw [ne_eq, ← String.toList_inj] at h ⊢
  rw [upperCase, String.toList_ofList, String.toList_empty, List.flatMap_eq_nil_iff]
  intro nothing
  cases hs : s.toList with
  | nil => exact h hs
  | cons c cs => exact upperChar_ne_nil c (nothing c (by rw [hs]; exact List.mem_cons_self))

end Text
end SchemaChange
