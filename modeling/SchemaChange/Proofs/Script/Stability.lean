import SchemaChange.Proofs.Script.Rendering

/-!
# Proofs.Script.Stability — scripts that are read as they were written

The statements of a script are written, each with the delimiter, and read again. Whether they come
back depends on how each of them ends: behind plain text the delimiter cuts once more, but a quoted
text, a quoted name or a comment that is still open takes it in. A line comment is open again once
the line end behind it has been trimmed off.

The delimiter is one character here, and no part of a mark can arise where it follows.

- `IsWhole`                      : a text in which the scanner finds no delimiter
- `IsStatement`                  : what every statement of a script is
- `modeBefore`                   : the mode behind a text that a given character follows
- `IsWhole.fragments_of_closed`  : behind plain text the delimiter cuts
- `IsWhole.fragments_of_open`    : elsewhere it belongs to the text
- `Batch.parse_toScript_eq_iff`  : the statements of a script come back if they end in plain text
-/

namespace SchemaChange
namespace Script

/-! ## Texts without a cut -/

/-- Read from the mode, the text is one fragment. -/
def IsWhole (delimiter : List Char) (mode : Mode) (text : List Char) : Prop :=
  fragmentsFrom delimiter mode 0 text = [text]

theorem pushFirst_eq_singleton_iff {c : Char} {text : List Char} {texts : List (List Char)}
    (nonempty : texts ≠ []) : pushFirst c texts = [c :: text] ↔ texts = [text] := by
  rcases List.exists_cons_of_ne_nil nonempty with ⟨first, others, rfl⟩
  simp [pushFirst]

theorem isWhole_cons {delimiter : List Char} {mode : Mode} {c : Char} {cs : List Char} :
    IsWhole delimiter mode (c :: cs) ↔
      (mode = .plain → ¬delimiter <+: c :: cs) ∧
        IsWhole delimiter (mode.next c cs.head?) cs := by
  unfold IsWhole
  by_cases uncut : mode = .plain → ¬delimiter <+: c :: cs
  · rw [fragmentsFrom_cons uncut,
      pushFirst_eq_singleton_iff (fragmentsFrom_ne_nil delimiter _ 0 cs)]
    exact (and_iff_right uncut).symm
  · -- A cut at the first character leaves an empty fragment in front.
    have cut : mode = .plain ∧ delimiter.isPrefixOf (c :: cs) = true := by
      rw [List.isPrefixOf_iff_prefix]
      simpa using uncut
    rw [fragmentsFrom, if_pos cut]
    constructor
    · intro h
      cases (List.cons.inj h).1
    · intro h
      exact absurd h.1 uncut

/-- Blanks in front of a text belong to no mark, so the text is read behind them as before. -/
theorem IsWhole.trimStart {delimiter text : List Char} (h : IsWhole delimiter .plain text) :
    IsWhole delimiter .plain (Text.trimStart text) := by
  induction text with
  | nil => exact h
  | cons c cs ih =>
      unfold Text.trimStart at ih ⊢
      cases blank : Text.isSpace c with
      | false =>
          rw [List.dropWhile_cons_of_neg (by rw [blank]; exact Bool.false_ne_true)]
          exact h
      | true =>
          rw [List.dropWhile_cons_of_pos blank]
          have later := (isWhole_cons.1 h).2
          rw [Mode.next_of_isSpace blank] at later
          exact ih later

/-- What every statement of a script is. -/
structure IsStatement (delimiter : List Char) (s : String) : Prop where
  trimmed : Text.trim s = s
  nonempty : s ≠ ""
  whole : IsWhole delimiter .plain s.toList

section Delimiter

variable {delimiter : List Char} (hd : delimiter ≠ [])

include hd

/-- If the first cut is not inside a text, nothing is cut where the text stands alone. -/
theorem isWhole_of_append {text more front : List Char} {others : List (List Char)}
    (h : fragments delimiter (text ++ more) = (text ++ front) :: others) :
    IsWhole delimiter .plain text := by
  rcases reads_or_cut delimiter .plain text with ⟨r, read⟩ | ⟨before, rest, rfl, read⟩
  · exact read.fragments_eq
  · -- A delimiter inside the text cuts there, whatever follows the text.
    have seen : Reads delimiter .plain before (delimiter ++ (rest ++ more)) .plain := by
      have longer : delimiter.length ≤ (delimiter ++ rest).length := by simp
      have nonempty : delimiter ++ rest ≠ [] := by simp [hd]
      rw [← List.append_assoc]
      exact read.extend longer nonempty more
    have cut := seen.fragments_append hd
    simp only [List.append_assoc] at h cut
    rw [h] at cut
    have same := congrArg List.length (List.cons.inj cut).1
    have := List.length_pos_iff.2 hd
    simp only [List.length_append] at same
    omega

/-- The texts between the cuts have none themselves. -/
theorem IsSplit.isWhole {script : List Char} {texts : List (List Char)}
    (h : IsSplit delimiter script texts) : ∀ text ∈ texts, IsWhole delimiter .plain text := by
  induction h with
  | last read =>
      intro text htext
      rw [List.mem_singleton] at htext
      subst htext
      exact read.fragments_eq
  | @cut text rest texts read later ih =>
      intro other hother
      rcases List.mem_cons.1 hother with rfl | hother
      · have cut := read.fragments_append hd
        rw [List.append_assoc, ← List.append_nil other, List.append_assoc] at cut
        exact isWhole_of_append hd cut
      · exact ih other hother

theorem IsWhole.trimEnd {text : List Char} (h : IsWhole delimiter .plain text) :
    IsWhole delimiter .plain (Text.trimEnd text) := by
  rcases Text.trimEnd_prefix text with ⟨blanks, same⟩
  rw [← same, IsWhole] at h
  exact isWhole_of_append hd h

/-- Trimming makes no cut. -/
theorem isStatement_of_mem {script : List Char} {s : String}
    (h : s ∈ statementsOf delimiter script) : IsStatement delimiter s := by
  rcases List.mem_filterMap.1 h with ⟨text, htext, found⟩
  have whole := (isSplit_fragments hd script).isWhole hd text htext
  rcases Text.nonBlank?_eq_some found with ⟨trimmed, nonempty⟩
  refine ⟨trimmed, nonempty, ?_⟩
  rw [statement?_eq] at found
  split at found
  · cases found
  · have same : Text.trim (String.ofList text) = s := Option.some.inj found
    rw [← same, Text.toList_trim, String.toList_ofList, Text.trimChars]
    exact whole.trimStart.trimEnd hd

end Delimiter

/-! ## What the delimiter meets -/

/-- The mode behind a text that the given character follows. -/
def modeBefore (following : Option Char) : Mode → List Char → Mode
  | mode, [] => mode
  | mode, c :: cs => modeBefore following (mode.next c (cs.head?.or following)) cs

section OneCharacter

variable {c : Char} {mode : Mode} {text : List Char}

theorem singleton_prefix_cons {x : Char} {xs : List Char} : [c] <+: x :: xs ↔ c = x := by
  rw [List.cons_prefix_cons]
  exact and_iff_left (List.nil_prefix)

/-- A text without a cut is passed over as a whole, whatever follows it. -/
theorem IsWhole.fragmentsFrom_append (h : IsWhole [c] mode text) (rest : List Char) :
    fragmentsFrom [c] mode 0 (text ++ rest) =
      text.foldr pushFirst (fragmentsFrom [c] (modeBefore rest.head? mode text) 0 rest) := by
  induction text generalizing mode with
  | nil => rfl
  | cons x xs ih =>
      rcases isWhole_cons.1 h with ⟨uncut, later⟩
      have uncut' : mode = .plain → ¬[c] <+: x :: (xs ++ rest) := by
        simpa only [singleton_prefix_cons] using uncut
      rw [List.cons_append, fragmentsFrom_cons uncut']
      cases xs with
      | nil => rfl -- The last character of the text has what follows in view.
      | cons y ys => exact congrArg (pushFirst x) (ih later)

/-- A delimiter that belongs to no mark does not change what comes before it. -/
theorem Mode.next_eq_plain_iff {x : Char} (star : c ≠ '*') (uncut : mode = .plain → c ≠ x) :
    mode.next x (some c) = .plain ↔ mode.next x none = .plain := by
  cases mode with
  | plain =>
      have dashes : ¬(x = '-' ∧ c = '-') := by
        rintro ⟨rfl, dash⟩
        exact uncut rfl dash
      simp [Mode.next, dashes, star]
  | blockComment =>
      -- The end of a comment is not plain text before both of its characters are read.
      have inside : ∀ p : Prop, [Decidable p] →
          (if p then Mode.closingComment else Mode.blockComment) ≠ .plain := by
        intro p _
        split <;> simp
      exact iff_of_false (inside _) (inside _)
  | quotedText => rfl
  | quotedName => rfl
  | lineComment => rfl
  | openingComment => rfl
  | closingComment => rfl

theorem IsWhole.modeBefore_eq_plain_iff (star : c ≠ '*') (h : IsWhole [c] mode text) :
    modeBefore (some c) mode text = .plain ↔ modeAfter mode text = .plain := by
  induction text generalizing mode with
  | nil => rfl
  | cons x xs ih =>
      rcases isWhole_cons.1 h with ⟨uncut, later⟩
      cases xs with
      | nil =>
          refine Mode.next_eq_plain_iff star ?_
          simpa only [singleton_prefix_cons] using uncut
      | cons y ys => exact ih later

/-- Behind plain text the delimiter cuts. -/
theorem IsWhole.fragments_of_closed (star : c ≠ '*') (h : IsWhole [c] .plain text)
    (closed : modeAfter .plain text = .plain) (rest : List Char) :
    fragments [c] (text ++ c :: rest) = text :: fragments [c] rest := by
  have plain : modeBefore (some c) .plain text = .plain :=
    (h.modeBefore_eq_plain_iff star).2 closed
  calc
    fragments [c] (text ++ c :: rest)
        = text.foldr pushFirst
            (fragmentsFrom [c] (modeBefore (some c) .plain text) 0 (c :: rest)) :=
              h.fragmentsFrom_append (c :: rest)
    _ = text.foldr pushFirst (fragments [c] ([c] ++ rest)) := by
              rw [plain]
              rfl
    _ = text.foldr pushFirst ([] :: fragments [c] rest) := by
              rw [fragments_delimiter (List.cons_ne_nil c [])]
    _ = text :: fragments [c] rest := by
              rw [foldr_pushFirst_cons, List.append_nil]

/-- Where a quote or a comment is open the delimiter belongs to the text. -/
theorem IsWhole.fragments_of_open (star : c ≠ '*') (h : IsWhole [c] .plain text)
    (unfinished : modeAfter .plain text ≠ .plain) (rest : List Char) :
    ∃ behind others, fragments [c] (text ++ c :: rest) = (text ++ c :: behind) :: others := by
  have uncut : modeBefore (some c) .plain text = .plain → ¬[c] <+: c :: rest := by
    intro plain
    exact absurd ((h.modeBefore_eq_plain_iff star).1 plain) unfinished
  -- Whatever follows, the scanner goes on with the text that the delimiter has been put to.
  rcases List.exists_cons_of_ne_nil (fragmentsFrom_ne_nil [c]
    ((modeBefore (some c) .plain text).next c rest.head?) 0 rest) with ⟨behind, others, found⟩
  refine ⟨behind, others, ?_⟩
  calc
    fragments [c] (text ++ c :: rest)
        = text.foldr pushFirst
            (fragmentsFrom [c] (modeBefore (some c) .plain text) 0 (c :: rest)) :=
              h.fragmentsFrom_append (c :: rest)
    _ = text.foldr pushFirst ((c :: behind) :: others) := by
              rw [fragmentsFrom_cons uncut, found, pushFirst]
    _ = (text ++ c :: behind) :: others :=
              foldr_pushFirst_cons text (c :: behind) others

end OneCharacter

/-! ## Statements that are read again -/

section Statements

variable {c : Char} (star : c ≠ '*') {s : String} (h : IsStatement [c] s)

include star h

theorem statementsOf_of_closed (closed : modeAfter .plain s.toList = .plain) (rest : List Char) :
    statementsOf [c] (s.toList ++ c :: rest) = s :: statementsOf [c] rest := by
  rw [statementsOf, h.whole.fragments_of_closed star closed, List.filterMap_cons,
    Batch.statement?_of_trimmed h.trimmed h.nonempty, statementsOf]

/-- A statement with an open end does not come back, but one that is longer. -/
theorem statementsOf_of_open (full : Text.isSpace c = false)
    (unfinished : modeAfter .plain s.toList ≠ .plain) (rest : List Char) (others : List String) :
    statementsOf [c] (s.toList ++ c :: rest) ≠ s :: others := by
  rcases h.whole.fragments_of_open star unfinished rest with ⟨behind, texts, found⟩
  have starts : Text.StartsFull (s.toList ++ c :: behind) :=
    (Text.trim_eq_self_iff.1 h.trimmed).head.append (by simpa using h.nonempty) _
  -- The delimiter is not blank, so trimming goes no further than up to it.
  have longer :
      s.toList ++ [c] <+: (Text.trim (String.ofList (s.toList ++ c :: behind))).toList := by
    rw [Text.toList_trim, String.toList_ofList, Text.trimChars,
      Text.trimStart_of_startsFull starts]
    exact Text.prefix_trimEnd full _ _
  have nonblank : Text.isBlank (String.ofList (s.toList ++ c :: behind)) = false := by
    rw [Text.isBlank_eq_false_iff]
    intro nothing
    rw [nothing] at longer
    simpa using longer.length_le
  intro same
  rw [statementsOf, found, List.filterMap_cons, statement?_eq, nonblank] at same
  have first : Text.trim (String.ofList (s.toList ++ c :: behind)) = s := (List.cons.inj same).1
  have tooLong : (s.toList ++ [c]).length ≤ s.toList.length := by
    rw [first] at longer
    exact longer.length_le
  rw [List.length_append, List.length_singleton] at tooLong
  omega

end Statements

/-- Statements of a script come back exactly if all of them end in plain text. -/
theorem statementsOf_toScript_iff {c : Char} (full : Text.isSpace c = false) (star : c ≠ '*')
    {statements : List String} (h : ∀ s ∈ statements, IsStatement [c] s) :
    statementsOf [c] (Batch.toScript ⟨statements, String.singleton c⟩).toList = statements ↔
      ∀ s ∈ statements, modeAfter .plain s.toList = .plain := by
  have newline : [c].head? ≠ some '\n' := by
    intro found
    rw [Option.some.inj found] at full
    cases full
  induction statements with
  | nil =>
      constructor
      · intro _ s hs
        cases hs
      · intro _
        rfl
  | cons s statements ih =>
      have first := h s List.mem_cons_self
      have later := ih fun other hother => h other (List.mem_cons_of_mem _ hother)
      have script : (Batch.toScript ⟨s :: statements, String.singleton c⟩).toList =
          s.toList ++ c :: '\n' :: (Batch.toScript ⟨statements, String.singleton c⟩).toList := by
        rw [Batch.toList_toScript_cons, String.toList_singleton]
        simp
      rw [script, List.forall_mem_cons]
      by_cases closed : modeAfter .plain s.toList = .plain
      · -- The statement comes back, and the other ones stand behind a line end.
        rw [statementsOf_of_closed star first closed,
          statementsOf_newline (List.cons_ne_nil c []) newline]
        simpa [closed] using later
      · constructor
        · intro same
          exact absurd same (statementsOf_of_open star first full closed _ _)
        · intro all
          exact absurd all.1 closed

/-- What is read from a script and written comes back exactly if each statement, read alone, ends
in plain text. Read alone no statement is cut. -/
theorem Batch.parse_toScript_eq_iff (script : String) {c : Char} (full : Text.isSpace c = false)
    (star : c ≠ '*') :
    let b := Batch.parse script (String.singleton c)
    (∀ s ∈ b.statements, fragments [c] s.toList = [s.toList]) ∧
      (Batch.parse b.toScript (String.singleton c) = b ↔
        ∀ s ∈ b.statements, modeAfter .plain s.toList = .plain) := by
  intro b
  have hd : [c] ≠ [] := List.cons_ne_nil c []
  have hd' : String.singleton c ≠ "" := by
    rw [ne_eq, ← String.toList_inj, String.toList_singleton]
    exact hd
  have read : b = ⟨statementsOf [c] script.toList, String.singleton c⟩ := by
    show Batch.parse script (String.singleton c) = _
    rw [Batch.parse_eq script hd', String.toList_singleton, statementsOf]
  have given : ∀ s ∈ statementsOf [c] script.toList, IsStatement [c] s :=
    fun s hs => isStatement_of_mem hd hs
  rw [read]
  refine ⟨fun s hs => (given s hs).whole, ?_⟩
  rw [← statementsOf_toScript_iff full star given, Batch.parse_eq _ hd', String.toList_singleton,
    Batch.mk.injEq, and_iff_left rfl]
  rfl

/-- Delimiters in a text and in a comment. The comment loses the line end behind it, and takes in
the delimiter when it is read again. -/
theorem Batch.parse_toScript_eq_iff_comment :
    let b := Batch.parse "A '^'^B -- z^\n^C" (String.singleton '^')
    (Text.isSpace '^' = false ∧ '^' ≠ '*') ∧ b.statements = ["A '^'", "B -- z^", "C"] ∧
      (∀ s ∈ b.statements, fragments ['^'] s.toList = [s.toList]) ∧
      (Batch.parse b.toScript (String.singleton '^') = b ↔
        ∀ s ∈ b.statements, modeAfter .plain s.toList = .plain) ∧
      Batch.parse b.toScript (String.singleton '^') ≠ b := by
  intro b
  have full : Text.isSpace '^' = false := by decide
  have star : '^' ≠ '*' := by decide
  have read : b.statements = ["A '^'", "B -- z^", "C"] := by decide +kernel
  have back := Batch.parse_toScript_eq_iff "A '^'^B -- z^\n^C" full star
  refine ⟨⟨full, star⟩, read, back.1, back.2, ?_⟩
  intro same
  have closed := back.2.1 same "B -- z^" (by rw [read]; decide)
  have comment : modeAfter .plain "B -- z^".toList = .lineComment := by decide +kernel
  rw [comment] at closed
  cases closed

end Script
end SchemaChange
