import SchemaChange.Proofs.Column.Edit
import SchemaChange.Proofs.Column.Refusal

/-!
# Proofs.Column.Undoing — edits that were taken back

A mark stays when an edit is taken back, so the attributes that were touched are written although
nothing changed. Of a complete column all of them can be written but one: the source of a column
that is not computed.

- `Column.IsComplete`                : the column has all that its statements need
- `ColumnDraft.losesSource_iff`      : when a source counts as lost behind edits
- `ColumnDraft.refused_iff_restored` : what is refused of edits that were taken back
-/

namespace SchemaChange
namespace Column

/-- The column has a table, a name and a type, and if a sequence is to generate its values, the
sequence has a name. -/
structure IsComplete (c : Column) : Prop where
  table : Text.isBlank c.table = false
  name : Text.isBlank c.name = false
  type : ∃ clause, c.typeClause? = some clause
  generator : ∀ a, c.autoIncrement = some a →
    a.isIdentity = true ∨ ∃ generator, Text.nonBlank? a.generatorName = some generator

variable {c : Column}

theorem IsComplete.not_lacksType (h : c.IsComplete) : ¬c.LacksType := by
  rw [← c.typeClause?_eq_none_iff]
  rcases h.type with ⟨clause, known⟩
  rw [known]
  exact Option.some_ne_none clause

theorem IsComplete.not_lacksGenerator (h : c.IsComplete) : ¬c.LacksGenerator := by
  rintro ⟨a, given, sequence, unnamed⟩
  rcases h.generator a given with identity | ⟨generator, named⟩
  · rw [sequence] at identity
    cases identity
  · rw [unnamed] at named
    cases named

end Column

namespace ColumnDraft

open Column (Edit)

variable {was : Column} {edits : List Edit} {d : ColumnDraft}

theorem touches_computed_iff {e : Edit} : e.part = .computed ↔ ∃ source, e = .computed source := by
  cases e <;> simp [Edit.part]

/-- The source is asked for behind every edit of it, whether it was there before or not. -/
theorem losesSource_iff (account : Account was true edits d) :
    d.LosesSource ↔
      (∃ source, .computed source ∈ edits) ∧ Text.nonBlank? d.current.computed = none := by
  have touched : d.isMarked .computed = true ↔ ∃ source, Edit.computed source ∈ edits := by
    rw [account.marked]
    constructor
    · rintro ⟨e, mem, touches⟩
      rcases touches_computed_iff.1 touches with ⟨source, rfl⟩
      exact ⟨source, mem⟩
    · rintro ⟨source, mem⟩
      exact ⟨_, mem, rfl⟩
  rw [LosesSource, touched]
  exact and_iff_right account.existing

/-- Of a column that is complete behind the edits nothing but a lost source is refused. -/
theorem refusedFor_of_isComplete (account : Account was true edits d)
    (complete : d.current.IsComplete) :
    RefusedFor d.toBatch
      [⟨(∃ source, .computed source ∈ edits) ∧ Text.nonBlank? d.current.computed = none,
        .computedRemoved⟩] := by
  -- Four of the five reasons are the want of something that a complete column has.
  refine d.refusedFor_toBatch.congr fun r => ?_
  simp [reasons, complete.table, complete.name, complete.not_lacksGenerator,
    complete.not_lacksType, losesSource_iff account]

/-- Edits that were all taken back are refused for one reason only: the source of a column that is
not computed was touched. It counts as removed although it was never there. -/
theorem refused_iff_restored (complete : was.IsComplete)
    (restored : (applyEdits (.ofExisting was) edits).current = was) :
    let d := applyEdits (.ofExisting was) edits
    (∀ r, d.toBatch = .error r ↔
        ((∃ source, .computed source ∈ edits) ∧ Text.nonBlank? was.computed = none) ∧
          r = .computedRemoved) ∧
      ((∃ b, d.toBatch = .ok b) ↔
        ¬((∃ source, .computed source ∈ edits) ∧ Text.nonBlank? was.computed = none)) := by
  intro d
  have account : Account was true edits d := account_applyEdits was true edits
  have same : d.current = was := restored
  have refused := refusedFor_of_isComplete account (same.symm ▸ complete)
  rw [same] at refused
  refine ⟨fun r => ?_, ?_⟩
  · rw [refused r]
    simp [eq_comm]
  · rw [refused.succeeds]
    simp

/-- A computed column. -/
def total : Column :=
  { table := "T", name := "TOTAL", typeCode := .numeric, computed := some "A + B" }

theorem refused_iff_restored_computed :
    let edits : List Edit :=
      [.computed (some "A * B"), .name "PRODUCT", .computed (some "A + B"), .name "TOTAL"]
    (total.IsComplete ∧ (applyEdits (.ofExisting total) edits).current = total) ∧
      ∃ b, (applyEdits (.ofExisting total) edits).toBatch = .ok b := by
  intro edits
  have complete : total.IsComplete := ⟨by decide, by decide, ⟨"NUMERIC", by decide⟩, nofun⟩
  have restored : (applyEdits (.ofExisting total) edits).current = total := by decide
  have kept : Text.nonBlank? total.computed ≠ none := by decide
  exact ⟨⟨complete, restored⟩, (refused_iff_restored complete restored).2.2 fun lost => kept lost.2⟩

/-- A column that is not computed. -/
def plain : Column :=
  { table := "T", name := "C", typeCode := .integer }

/-- A source that was given and taken away again is told to be removed. -/
theorem restoredSource_refused :
    let d := applyEdits (.ofExisting plain) [.computed (some "A + B"), .computed none]
    plain.IsComplete ∧ d.current = plain ∧ d.toBatch = .error .computedRemoved := by
  intro d
  have complete : plain.IsComplete := ⟨by decide, by decide, ⟨"INTEGER", by decide⟩, nofun⟩
  exact ⟨complete, by decide, by decide +kernel⟩

end ColumnDraft
end SchemaChange
