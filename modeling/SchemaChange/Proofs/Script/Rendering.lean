import SchemaChange.Proofs.Script.Split
import SchemaChange.Proofs.Text.Trim

/-!
# Proofs.Script.Rendering — reading a written script

A script is written with a delimiter and a line end behind each statement. Reading it gives the
statements back if each of them, followed by the delimiter, is cut at its end and not before.

- `EndsAtCut`            : the first cut of the statement and the delimiter is between them
- `statementsOf`         : the statements of a script, over characters
- `IsReadable`           : a statement that reading can give back
- `Batch.parse_toScript` : the batch comes back
-/

namespace SchemaChange
namespace Script

/-! ## The cut behind a statement -/

/-- The statement is read up to its end, where it is cut if the delimiter follows. -/
def EndsAtCut (delimiter statement : List Char) : Prop :=
  Reads delimiter .plain statement delimiter .plain

/-- The scanner agrees: what it finds up to the first cut is the statement. -/
theorem endsAtCut_iff {delimiter statement : List Char} (hd : delimiter ≠ []) :
    EndsAtCut delimiter statement ↔
      fragments delimiter (statement ++ delimiter) = [statement, []] := by
  constructor
  · intro h
    have read : Reads delimiter .plain statement (delimiter ++ []) .plain := by
      simpa [EndsAtCut] using h
    have cut := read.fragments_append hd
    rw [List.append_nil] at cut
    rw [cut]
    rfl
  · -- The scanner's first fragment shows how far reading went.
    intro h
    rcases reads_or_cut delimiter .plain (statement ++ delimiter) with
      ⟨r, read⟩ | ⟨text, rest, split, read⟩
    · rw [read.fragments_eq] at h
      simp at h
    · rw [split, read.fragments_append hd] at h
      have same : text = statement := (List.cons.inj h).1
      subst same
      have nothing : rest = [] := by
        rw [List.append_assoc, List.append_cancel_left_eq] at split
        simpa using split
      simpa [EndsAtCut, nothing] using read

/-! ## Statements of a written script -/

/-- The statements of a script, over characters. -/
def statementsOf (delimiter script : List Char) : List String :=
  (fragments delimiter script).filterMap Batch.statement?

theorem statement?_cons_of_isSpace {c : Char} (h : Text.isSpace c = true) (text : List Char) :
    Batch.statement? (c :: text) = Batch.statement? text := by
  have trimmed : Text.trim (String.ofList (c :: text)) = Text.trim (String.ofList text) := by
    rw [← String.toList_inj, Text.toList_trim, Text.toList_trim, String.toList_ofList,
      String.toList_ofList, Text.trimChars_cons_of_isSpace h]
  have blank : Text.isBlank (String.ofList (c :: text)) = Text.isBlank (String.ofList text) := by
    rw [Bool.eq_iff_iff, Text.isBlank_iff, Text.isBlank_iff, trimmed]
  rw [statement?_eq, statement?_eq, trimmed, blank]

/-- A blank in plain text opens nothing. -/
theorem Mode.next_of_isSpace {c : Char} (h : Text.isSpace c = true) (following : Option Char) :
    Mode.plain.next c following = .plain := by
  have other : ∀ d : Char, Text.isSpace d = false → c ≠ d := by
    rintro d hd rfl
    rw [h] at hd
    cases hd
  simp [Mode.next, other '-' (by decide), other '/' (by decide), other '\x27' (by decide),
    other '\x22' (by decide)]

/-- A blank that begins no delimiter goes to the text behind it. -/
theorem fragments_cons_of_isSpace {delimiter : List Char} (hd : delimiter ≠ []) {c : Char}
    (h : Text.isSpace c = true) (hc : delimiter.head? ≠ some c) (script : List Char) :
    fragments delimiter (c :: script) = pushFirst c (fragments delimiter script) := by
  have uncut : Mode.plain = .plain → ¬delimiter <+: c :: script := by
    intro _ found
    rcases List.exists_cons_of_ne_nil hd with ⟨d, ds, rfl⟩
    rw [List.cons_prefix_cons] at found
    exact hc (by rw [List.head?_cons, found.1])
  rw [fragments, fragmentsFrom_cons uncut, Mode.next_of_isSpace h, fragments]

/-- The line end behind a delimiter goes to the next text, and is trimmed off. -/
theorem statementsOf_newline {delimiter : List Char} (hd : delimiter ≠ [])
    (hnl : delimiter.head? ≠ some '\n') (script : List Char) :
    statementsOf delimiter ('\n' :: script) = statementsOf delimiter script := by
  have blank : Text.isSpace '\n' = true := by decide
  rcases List.exists_cons_of_ne_nil (fragmentsFrom_ne_nil delimiter .plain 0 script) with
    ⟨first, others, found⟩
  rw [statementsOf, statementsOf, fragments_cons_of_isSpace hd blank hnl, fragments, found,
    pushFirst, List.filterMap_cons, List.filterMap_cons, statement?_cons_of_isSpace blank]

theorem statementsOf_statement {delimiter statement : List Char} (hd : delimiter ≠ [])
    (h : EndsAtCut delimiter statement) (script : List Char) :
    statementsOf delimiter (statement ++ delimiter ++ script) =
      (Batch.statement? statement).toList ++ statementsOf delimiter script := by
  have seen : Reads delimiter .plain statement (delimiter ++ script) .plain :=
    h.extend (Nat.le_refl _) hd script
  rw [statementsOf, seen.fragments_append hd, List.filterMap_cons, statementsOf]
  cases Batch.statement? statement <;> rfl

/-! ## The batch comes back -/

/-- A statement that reading can give back. -/
structure IsReadable (delimiter statement : String) : Prop where
  trimmed : Text.trim statement = statement
  nonempty : statement ≠ ""
  endsAtCut : EndsAtCut delimiter.toList statement.toList

theorem Batch.statement?_of_trimmed {s : String} (trimmed : Text.trim s = s) (nonempty : s ≠ "") :
    Batch.statement? s.toList = some s := by
  rw [Batch.statement?, String.ofList_toList]
  exact Text.nonBlank?_of_trimmed trimmed nonempty

theorem IsReadable.statement?_eq {delimiter statement : String}
    (h : IsReadable delimiter statement) :
    Batch.statement? statement.toList = some statement :=
  Batch.statement?_of_trimmed h.trimmed h.nonempty

/-- The characters of a written script. -/
theorem Batch.toList_toScript_cons (statement : String) (statements : List String)
    (delimiter : String) :
    (Batch.toScript ⟨statement :: statements, delimiter⟩).toList =
      statement.toList ++ delimiter.toList ++
        '\n' :: (Batch.toScript ⟨statements, delimiter⟩).toList := by
  simp [Batch.toScript, String.join_cons]

theorem statementsOf_toScript {delimiter : String} (hd : delimiter ≠ "")
    (hnl : delimiter.toList.head? ≠ some '\n') {statements : List String}
    (h : ∀ s ∈ statements, IsReadable delimiter s) :
    statementsOf delimiter.toList (Batch.toScript ⟨statements, delimiter⟩).toList =
      statements := by
  have hd' : delimiter.toList ≠ [] := by simpa using hd
  induction statements with
  | nil => rfl
  | cons statement statements ih =>
      have first := h statement List.mem_cons_self
      have others : ∀ s ∈ statements, IsReadable delimiter s :=
        fun s hs => h s (List.mem_cons_of_mem _ hs)
      calc
        statementsOf delimiter.toList (Batch.toScript ⟨statement :: statements, delimiter⟩).toList
            = (Batch.statement? statement.toList).toList ++ statementsOf delimiter.toList
                ('\n' :: (Batch.toScript ⟨statements, delimiter⟩).toList) := by
                  rw [Batch.toList_toScript_cons, statementsOf_statement hd' first.endsAtCut]
        _ = [statement] ++ statementsOf delimiter.toList
              (Batch.toScript ⟨statements, delimiter⟩).toList := by
                rw [first.statement?_eq, statementsOf_newline hd' hnl, Option.toList_some]
        _ = statement :: statements := by
              rw [ih others, List.singleton_append]

theorem Batch.parse_of_readable (b : Batch) (hd : b.delimiter ≠ "")
    (hnl : b.delimiter.toList.head? ≠ some '\n')
    (h : ∀ s ∈ b.statements, IsReadable b.delimiter s) :
    Batch.parse b.toScript b.delimiter = b := by
  rcases b with ⟨statements, delimiter⟩
  have same := statementsOf_toScript hd hnl h
  unfold statementsOf at same
  rw [Batch.parse_eq _ hd, same]

/-- Reading a written script is the identity on batches of trimmed statements that end where they
are cut. -/
theorem Batch.parse_toScript (b : Batch) (hd : b.delimiter ≠ "")
    (hnl : b.delimiter.toList.head? ≠ some '\n')
    (trimmed : ∀ s ∈ b.statements, Text.trim s = s ∧ s ≠ "")
    (cut : ∀ s ∈ b.statements, EndsAtCut b.delimiter.toList s.toList) :
    Batch.parse b.toScript b.delimiter = b := by
  refine b.parse_of_readable hd hnl ?_
  intro s hs
  rcases trimmed s hs with ⟨same, nonempty⟩
  exact ⟨same, nonempty, cut s hs⟩

/-- Delimiters in a text and in a comment, and the end of a delimiter in front of a whole one. -/
theorem Batch.parse_toScript_quoted :
    (∀ s ∈ ["SELECT 'a;//b'", "SELECT 1 /* ;// */", "A//"],
      EndsAtCut ";//".toList s.toList) ∧
      Batch.parse (Batch.toScript ⟨["SELECT 'a;//b'", "SELECT 1 /* ;// */", "A//"], ";//"⟩) ";//" =
        ⟨["SELECT 'a;//b'", "SELECT 1 /* ;// */", "A//"], ";//"⟩ := by
  have found : ∀ s ∈ ["SELECT 'a;//b'", "SELECT 1 /* ;// */", "A//"],
      fragments ";//".toList (s.toList ++ ";//".toList) = [s.toList, []] := by
    decide +kernel
  have cut : ∀ s ∈ ["SELECT 'a;//b'", "SELECT 1 /* ;// */", "A//"],
      EndsAtCut ";//".toList s.toList :=
    fun s hs => (endsAtCut_iff (by decide)).2 (found s hs)
  exact ⟨cut, Batch.parse_toScript _ (by decide) (by decide) (by decide +kernel) cut⟩

end Script
end SchemaChange
