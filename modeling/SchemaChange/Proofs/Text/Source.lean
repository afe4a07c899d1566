import SchemaChange.Proofs.Text.Trim
import SchemaChange.Text.Split

/-!
# Proofs.Text.Source — sources as the system tables keep them

A source begins with a keyword in whatever case, and has blanks in front of it, behind it and at the
end. What stands behind the keyword is often put between two marks.

- `IsBehind`       : the text that a source has behind its keyword
- `IsBehind.found` : the text is found there, and `IsBehind.found_nothing` if there is none
- `between_iff`    : a text between two marks
-/

namespace SchemaChange
namespace Text

/-- Nothing but blanks. -/
def AllSpaces (cs : List Char) : Prop :=
  ∀ c ∈ cs, isSpace c = true

/-- Behind the keyword, which may be in any case, the source has the text and nothing but blanks
around it. -/
def IsBehind (keyword : String) (source : String) (text : List Char) : Prop :=
  ∃ before word gap after, AllSpaces before ∧ AllSpaces gap ∧ AllSpaces after ∧
    sameWord word keyword.toList = true ∧
    source.toList = before ++ (word ++ (gap ++ text)) ++ after

/-! ## Blanks around a text -/

theorem trimStart_append_of_allSpaces {before : List Char} (h : AllSpaces before)
    (cs : List Char) : trimStart (before ++ cs) = trimStart cs := by
  have none : before.dropWhile isSpace = [] := List.dropWhile_eq_nil_iff.2 h
  unfold trimStart
  rw [List.dropWhile_append, none]
  rfl

theorem trimEnd_append_of_allSpaces {after : List Char} (h : AllSpaces after) (cs : List Char) :
    trimEnd (cs ++ after) = trimEnd cs := by
  have reversed : AllSpaces after.reverse := by
    intro c hc
    exact h c (List.mem_reverse.1 hc)
  rw [trimEnd_eq_reverse, trimEnd_eq_reverse, List.reverse_append,
    trimStart_append_of_allSpaces reversed]

/-- A trimmed text is what is left of it between blanks. -/
theorem trimChars_between {before after cs : List Char} (hbefore : AllSpaces before)
    (hafter : AllSpaces after) (trimmed : IsTrimmed cs) (nonempty : cs ≠ []) :
    trimChars (before ++ cs ++ after) = cs := by
  have first : StartsFull (cs ++ after) := trimmed.head.append nonempty after
  rw [trimChars, List.append_assoc, trimStart_append_of_allSpaces hbefore,
    trimStart_of_startsFull first, trimEnd_append_of_allSpaces hafter,
    trimEnd_of_endsFull trimmed.last]

theorem trimChars_behind {before cs : List Char} (hbefore : AllSpaces before)
    (trimmed : IsTrimmed cs) (nonempty : cs ≠ []) : trimChars (before ++ cs) = cs := by
  have between := trimChars_between hbefore (List.forall_mem_nil _) trimmed nonempty
  rwa [List.append_nil] at between

/-- What is cut off at the ends of a text are blanks. -/
theorem exists_blanks_around (cs : List Char) :
    ∃ before after, AllSpaces before ∧ AllSpaces after ∧
      cs = before ++ trimChars cs ++ after := by
  refine ⟨cs.takeWhile isSpace, ((trimStart cs).reverse.takeWhile isSpace).reverse, ?_, ?_, ?_⟩
  · intro c mem
    exact List.mem_takeWhile_imp mem
  · intro c mem
    exact List.mem_takeWhile_imp (List.mem_reverse.1 mem)
  · have cut : trimStart cs =
        trimChars cs ++ ((trimStart cs).reverse.takeWhile isSpace).reverse := by
      rw [trimChars, trimEnd, ← List.reverse_append, List.takeWhile_append_dropWhile,
        List.reverse_reverse]
    rw [List.append_assoc, ← cut, trimStart, List.takeWhile_append_dropWhile]

/-! ## Keywords -/

theorem toLower_of_isSpace {c : Char} (h : isSpace c = true) : c.toLower = c := by
  have low : ¬(65 ≤ c.toNat ∧ c.toNat ≤ 90) := by
    simp only [isSpace, Bool.or_eq_true, Bool.and_eq_true, decide_eq_true_eq, beq_iff_eq] at h
    omega
  exact dif_neg low

theorem length_of_sameWord {word keyword : List Char} (h : sameWord word keyword = true) :
    word.length = keyword.length := by
  have same := congrArg List.length (eq_of_beq h)
  rwa [List.length_map, List.length_map] at same

/-- A word without blanks. -/
structure IsKeyword (keyword : String) : Prop where
  nonempty : keyword ≠ ""
  full : keyword.toList.all (fun c => !isSpace c.toLower) = true

section Keyword

variable {keyword : String} {word : List Char}

theorem IsKeyword.word_ne_nil (h : IsKeyword keyword)
    (same : sameWord word keyword.toList = true) : word ≠ [] := by
  rintro rfl
  have none := List.eq_nil_of_length_eq_zero (length_of_sameWord same).symm
  exact h.nonempty (String.toList_inj.1 none)

/-- Whatever its case, no blank is in it. -/
theorem IsKeyword.isTrimmed_word (h : IsKeyword keyword)
    (same : sameWord word keyword.toList = true) : IsTrimmed word := by
  have full : ∀ c ∈ word, isSpace c = false := by
    intro c mem
    have lower : c.toLower ∈ keyword.toList.map Char.toLower := by
      rw [← eq_of_beq same]
      exact List.mem_map_of_mem mem
    rcases List.mem_map.1 lower with ⟨d, letter, equal⟩
    rw [← Bool.not_eq_true]
    intro space
    have other := List.all_eq_true.1 h.full d letter
    rw [equal, toLower_of_isSpace space, space] at other
    cases other
  exact ⟨fun c first => full c (List.mem_of_head? first),
    fun c last => full c (List.mem_of_getLast? last)⟩

end Keyword

theorem afterKeyword?_append {word keyword : List Char} (h : sameWord word keyword = true)
    (rest : List Char) : afterKeyword? keyword (word ++ rest) = some rest := by
  have length := length_of_sameWord h
  rw [afterKeyword?, ← length, List.take_left, List.drop_left, if_pos h]

theorem afterKeyword?_eq_some {keyword cs rest : List Char}
    (h : afterKeyword? keyword cs = some rest) :
    ∃ word, sameWord word keyword = true ∧ cs = word ++ rest := by
  unfold afterKeyword? at h
  split at h
  · rename_i same
    cases h
    exact ⟨_, same, (List.take_append_drop _ _).symm⟩
  · cases h

/-- A text that is one blank behind its keyword. -/
theorem isBehind_of_blank {keyword source : String} {text : List Char}
    (chars : source.toList = keyword.toList ++ ' ' :: text) : IsBehind keyword source text := by
  refine ⟨[], keyword.toList, [' '], [], List.forall_mem_nil _, List.forall_mem_singleton.2 rfl,
    List.forall_mem_nil _, beq_self_eq_true _, ?_⟩
  simp [chars]

section Behind

variable {keyword source : String} {text : List Char} (h : IsKeyword keyword)

include h

/-- The text is found behind the keyword of the trimmed source, which is not blank. -/
theorem IsBehind.found (behind : IsBehind keyword source text) (trimmed : IsTrimmed text)
    (nonempty : text ≠ []) :
    isBlank source = false ∧ ∃ rest,
      afterKeyword? keyword.toList (trimChars (trim source).toList) = some rest ∧
        trimChars rest = text := by
  rcases behind with ⟨before, word, gap, after, hbefore, hgap, hafter, same, chars⟩
  have full := h.word_ne_nil same
  have last : EndsFull (gap ++ text) := trimmed.last.behind nonempty gap
  have inner : IsTrimmed (word ++ (gap ++ text)) :=
    ⟨(h.isTrimmed_word same).head.append full _,
      last.behind (List.append_ne_nil_of_right_ne_nil gap nonempty) word⟩
  have cut : trimChars source.toList = word ++ (gap ++ text) := by
    rw [chars]
    exact trimChars_between hbefore hafter inner (List.append_ne_nil_of_left_ne_nil full _)
  constructor
  · rw [isBlank_eq_false_iff, ne_eq, ← String.toList_inj, toList_trim, cut]
    simp [full]
  · refine ⟨gap ++ text, ?_, ?_⟩
    · rw [← toList_trim, trim_trim, toList_trim, cut]
      exact afterKeyword?_append same _
    · exact trimChars_behind hgap trimmed nonempty

/-- And if there is no text, nothing is found behind the keyword. -/
theorem IsBehind.found_nothing (behind : IsBehind keyword source []) :
    afterKeyword? keyword.toList (trimChars source.toList) = some [] := by
  rcases behind with ⟨before, word, gap, after, hbefore, hgap, hafter, same, chars⟩
  have blanks : AllSpaces (gap ++ after) := List.forall_mem_append.2 ⟨hgap, hafter⟩
  have regrouped : source.toList = before ++ word ++ (gap ++ after) := by
    rw [chars]
    simp
  have cut := trimChars_between hbefore blanks (h.isTrimmed_word same) (h.word_ne_nil same)
  have found := afterKeyword?_append same []
  rwa [regrouped, cut, ← List.append_nil word]

end Behind

/-! ## Marks -/

/-- The two ends of a text of two characters or more are there in front of and behind the rest. -/
theorem between_iff {first last : Char} {cs : List Char} :
    (2 ≤ cs.length ∧ cs.head? = some first ∧ cs.getLast? = some last) ↔
      ∃ inner, cs = first :: (inner ++ [last]) := by
  constructor
  · rintro ⟨long, hfirst, hlast⟩
    cases cs with
    | nil => cases hfirst
    | cons c rest =>
        have nonempty : rest ≠ [] := by
          rintro rfl
          simp at long
        have same : c = first := by simpa using hfirst
        rw [List.getLast?_cons_of_ne_nil nonempty, List.getLast?_eq_getLast_of_ne_nil nonempty,
          Option.some_inj] at hlast
        refine ⟨rest.dropLast, ?_⟩
        rw [same, ← hlast, List.dropLast_append_getLast nonempty]
  · rintro ⟨inner, rfl⟩
    refine ⟨?_, rfl, ?_⟩
    · rw [List.length_cons, List.length_append, List.length_singleton]
      omega
    · rw [← List.cons_append, List.getLast?_concat]

theorem between_content (first last : Char) (inner : List Char) :
    (first :: (inner ++ [last])).tail.dropLast = inner := by
  rw [List.tail_cons, List.dropLast_concat]

end Text
end SchemaChange
