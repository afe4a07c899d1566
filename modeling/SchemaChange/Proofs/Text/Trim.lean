import Mathlib.Data.List.Basic
import Mathlib.Data.List.TakeWhile
import SchemaChange.Text.Blank

/-!
# Proofs.Text.Trim — texts without blanks at their ends

- `IsTrimmed`             : neither end of a text is blank
- `IsTrimmed.append`      : nor are the ends of two texts in a row
- `trimChars_eq_self_iff` : trimming leaves such texts alone, and no others
- `nonBlank?_eq_some`     : what is left of a text that is not blank
-/

namespace SchemaChange
namespace Text

/-- The text does not begin with a blank. -/
def StartsFull (cs : List Char) : Prop :=
  ∀ c, cs.head? = some c → isSpace c = false

/-- The text does not end in a blank. -/
def EndsFull (cs : List Char) : Prop :=
  ∀ c, cs.getLast? = some c → isSpace c = false

/-- Neither end is blank; the empty text has no end. -/
structure IsTrimmed (cs : List Char) : Prop where
  head : StartsFull cs
  last : EndsFull cs

/-! ## Texts behind one another -/

theorem StartsFull.append {cs : List Char} (h : StartsFull cs) (nonempty : cs ≠ [])
    (ds : List Char) : StartsFull (cs ++ ds) := by
  intro c hc
  rw [List.head?_append_of_ne_nil _ nonempty] at hc
  exact h c hc

theorem EndsFull.append {cs ds : List Char} (hcs : EndsFull cs) (hds : EndsFull ds) :
    EndsFull (cs ++ ds) := by
  intro c hc
  rw [List.getLast?_append, Option.or_eq_some_iff] at hc
  rcases hc with hc | ⟨-, hc⟩
  · exact hds c hc
  · exact hcs c hc

theorem EndsFull.behind {ds : List Char} (h : EndsFull ds) (nonempty : ds ≠ []) (cs : List Char) :
    EndsFull (cs ++ ds) := by
  intro c hc
  rw [List.getLast?_append_of_ne_nil _ nonempty] at hc
  exact h c hc

theorem IsTrimmed.append {cs ds : List Char} (h : IsTrimmed cs) (nonempty : cs ≠ [])
    (last : EndsFull ds) : IsTrimmed (cs ++ ds) :=
  ⟨h.head.append nonempty ds, h.last.append last⟩

/-- A text between two characters that are not blank. -/
theorem isTrimmed_between {c d : Char} (hc : isSpace c = false) (hd : isSpace d = false)
    (cs : List Char) : IsTrimmed (c :: (cs ++ [d])) := by
  constructor
  · intro x hx
    have : c = x := by simpa using hx
    rwa [← this]
  · intro x hx
    rw [← List.cons_append, List.getLast?_append] at hx
    have : d = x := by simpa using hx
    rwa [← this]

/-! ## Both ends of a text -/

theorem startsFull_trimStart (cs : List Char) : StartsFull (trimStart cs) := by
  intro c h
  have first := List.head?_dropWhile_not isSpace cs
  unfold trimStart at h
  rw [h] at first
  exact first

theorem trimStart_of_startsFull {cs : List Char} (h : StartsFull cs) : trimStart cs = cs := by
  cases cs with
  | nil => rfl
  | cons c cs => simp [trimStart, h c rfl]

theorem trimEnd_eq_reverse (cs : List Char) : trimEnd cs = (trimStart cs.reverse).reverse := rfl

theorem endsFull_trimEnd (cs : List Char) : EndsFull (trimEnd cs) := by
  intro c h
  rw [trimEnd_eq_reverse, List.getLast?_reverse] at h
  exact startsFull_trimStart cs.reverse c h

theorem trimEnd_of_endsFull {cs : List Char} (h : EndsFull cs) : trimEnd cs = cs := by
  have first : StartsFull cs.reverse := by
    intro c hc
    exact h c (by simpa using hc)
  rw [trimEnd_eq_reverse, trimStart_of_startsFull first, List.reverse_reverse]

theorem trimEnd_prefix (cs : List Char) : trimEnd cs <+: cs := by
  -- What is left at the end of the reversed text is the beginning of the text.
  have suffix : trimStart cs.reverse <:+ cs.reverse := List.dropWhile_suffix isSpace
  rw [trimEnd_eq_reverse, ← List.reverse_reverse cs, List.reverse_prefix]
  simpa using suffix

/-- Cutting blanks off the end keeps the other end. -/
theorem head_trimEnd {cs : List Char} {c : Char} (h : (trimEnd cs).head? = some c) :
    cs.head? = some c := by
  rcases trimEnd_prefix cs with ⟨rest, hrest⟩
  rw [← hrest, List.head?_append, h]
  rfl

/-- Nothing is cut off up to a character that is not blank. -/
theorem prefix_trimEnd {c : Char} (full : isSpace c = false) (cs ds : List Char) :
    cs ++ [c] <+: trimEnd (cs ++ c :: ds) := by
  have suffix : c :: cs.reverse <:+ trimStart (ds.reverse ++ c :: cs.reverse) := by
    unfold trimStart
    rw [List.dropWhile_append]
    split
    · simp [full]
    · exact List.suffix_append _ _
  have reversed : (cs ++ c :: ds).reverse = ds.reverse ++ c :: cs.reverse := by simp
  rw [trimEnd_eq_reverse, reversed, ← List.reverse_suffix, List.reverse_reverse]
  simpa using suffix

theorem isTrimmed_trimChars (cs : List Char) : IsTrimmed (trimChars cs) where
  head := fun c h => startsFull_trimStart cs c (head_trimEnd h)
  last := endsFull_trimEnd (trimStart cs)

theorem trimChars_eq_self_iff {cs : List Char} : trimChars cs = cs ↔ IsTrimmed cs := by
  constructor
  · intro h
    rw [← h]
    exact isTrimmed_trimChars cs
  · intro h
    rw [trimChars, trimStart_of_startsFull h.head, trimEnd_of_endsFull h.last]

theorem trimChars_cons_of_isSpace {c : Char} (h : isSpace c = true) (cs : List Char) :
    trimChars (c :: cs) = trimChars cs := by
  simp [trimChars, trimStart, h]

theorem trimStart_eq_nil_iff {cs : List Char} : trimStart cs = [] ↔ ∀ c ∈ cs, isSpace c = true :=
  List.dropWhile_eq_nil_iff

theorem trimChars_eq_nil_iff {cs : List Char} :
    trimChars cs = [] ↔ ∀ c ∈ cs, isSpace c = true := by
  rw [← trimStart_eq_nil_iff]
  constructor
  · intro h
    cases hcs : trimStart cs with
    | nil => rfl
    | cons c rest =>
        -- The first character that is left is not blank, so the end cannot be cut off up to it.
        have first : isSpace c = false := startsFull_trimStart cs c (by rw [hcs]; rfl)
        rw [trimChars, trimEnd_eq_reverse, hcs, List.reverse_eq_nil_iff,
          trimStart_eq_nil_iff] at h
        have : isSpace c = true := h c (by simp)
        rw [first] at this
        cases this
  · intro h
    rw [trimChars, h]
    rfl

/-! ## Texts that are not blank -/

theorem trim_eq_self_iff {s : String} : trim s = s ↔ IsTrimmed s.toList := by
  rw [← String.toList_inj, toList_trim, trimChars_eq_self_iff]

theorem isTrimmed_trim (s : String) : IsTrimmed (trim s).toList := by
  rw [toList_trim]
  exact isTrimmed_trimChars s.toList

theorem trim_trim (s : String) : trim (trim s) = trim s :=
  trim_eq_self_iff.2 (isTrimmed_trim s)

theorem isBlank_iff {s : String} : isBlank s = true ↔ trim s = "" := by
  rw [← String.toList_inj, toList_trim, isBlank, List.all_eq_true]
  exact trimChars_eq_nil_iff.symm

theorem isBlank_eq_false_iff {s : String} : isBlank s = false ↔ trim s ≠ "" := by
  rw [ne_eq, ← isBlank_iff, Bool.not_eq_true]

/-- What is left of a text that is not blank is trimmed and not empty. -/
theorem nonBlank?_eq_some {value : Option String} {text : String}
    (h : nonBlank? value = some text) : trim text = text ∧ text ≠ "" := by
  cases value with
  | none => cases h
  | some s =>
      rw [nonBlank?_some] at h
      split at h
      · cases h
      · rename_i full
        have : trim s = text := by simpa using h
        subst this
        refine ⟨trim_eq_self_iff.2 (isTrimmed_trim s), ?_⟩
        exact isBlank_eq_false_iff.1 (by simpa using full)

theorem isBlank_trim {s : String} (full : isBlank s = false) : isBlank (trim s) = false := by
  rw [isBlank_eq_false_iff, trim_trim]
  exact isBlank_eq_false_iff.1 full

theorem trim_getD_of_nonBlank? {value : Option String} {text : String}
    (h : nonBlank? value = some text) : trim (value.getD "") = text := by
  cases value with
  | none => cases h
  | some s =>
      rw [nonBlank?_some] at h
      split at h
      · cases h
      · exact Option.some_inj.1 h

theorem nonBlank?_of_full {s : String} (full : isBlank s = false) :
    nonBlank? (some s) = some (trim s) := by
  rw [nonBlank?_some, full]
  rfl

theorem nonBlank?_of_blank {s : String} (blank : isBlank s = true) :
    nonBlank? (some s) = none := by
  rw [nonBlank?_some, blank]
  rfl

theorem nonBlank?_of_trimmed {s : String} (h : trim s = s) (hs : s ≠ "") :
    nonBlank? (some s) = some s := by
  have full : isBlank s = false := isBlank_eq_false_iff.2 (by rwa [h])
  rw [nonBlank?_of_full full, h]

end Text
end SchemaChange
