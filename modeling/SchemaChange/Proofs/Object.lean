import SchemaChange.Object
import SchemaChange.Proofs.Column.Words
import SchemaChange.Proofs.Constraint.Words
import SchemaChange.Proofs.Package.Words
import SchemaChange.Proofs.User.Words

/-!
# Proofs.Object — written changes can be read back

Names never cut a script, and the texts that statements take over do so only if they are not safe.
So the script of a change gives the same statements back, whatever the names in it are.

- `DesignObject.insertions`       : the texts that the statements of an object take over
- `DesignObject.parse_of_toBatch` : its script is read back as it was written
-/

namespace SchemaChange
namespace DesignObject

open Script (Batch IsWord)

/-- The texts that the statements of an object take over. -/
def insertions : DesignObject → List Sql.Insertion
  | .column d => d.insertions
  | .constraint c => c.insertions
  | .user d => d.insertions
  | .package p => p.insertions

theorem isWord_of_mem {o : DesignObject} {b : Batch} (h : o.toBatch = .ok b)
    (safe : ∀ i ∈ o.insertions, i.IsSafe) : ∀ s ∈ b.statements, IsWord s := by
  cases o with
  | column d => exact ColumnDraft.isWord_of_mem h safe
  | constraint c => exact Constraint.isWord_of_mem h safe
  | user d => exact UserDraft.isWord_of_mem h safe
  | package p => exact Package.isWord_of_mem h safe

theorem delimiter_of_toBatch {o : DesignObject} {b : Batch} (h : o.toBatch = .ok b) :
    b.delimiter = "^" := by
  have written : ∀ (x : Except Refusal (List String)), x.map Batch.ofStatements = .ok b →
      b.delimiter = "^" := by
    intro x hx
    rcases map_eq_ok.1 hx with ⟨statements, -, rfl⟩
    rfl
  cases o with
  | column d => exact written _ h
  | constraint c => exact written _ h
  | user d => exact written _ h
  | package p => exact written _ h

/-- Names are free; only the texts that are taken over have to be safe. -/
theorem parse_of_toBatch (o : DesignObject) (b : Batch) (h : o.toBatch = .ok b)
    (safe : ∀ i ∈ o.insertions, i.IsSafe) : Batch.parse b.toScript "^" = b := by
  have cut := delimiter_of_toBatch h
  rw [← cut]
  refine b.parse_of_readable ?_ ?_ ?_
  · simp [cut]
  · simp [cut]
  · intro s hs
    rw [cut]
    exact (isWord_of_mem h safe s hs).isReadable

/-- A column whose names have delimiters, quotes, a line end and the marks of comments in them. -/
def oddlyNamed : DesignObject :=
  .column (.ofNew
    { table := "T^1", name := "a\"--\n/*", computed := some "B || '^'",
      description := some "/* -- ^", autoIncrement := some (.generator "G^" 1) })

theorem parse_of_toBatch_oddlyNamed :
    ∃ b, oddlyNamed.toBatch = .ok b ∧ b.statements.length = 5 ∧
      oddlyNamed.insertions = [.verbatim "B || '^'", .quoted "/* -- ^"] ∧
      (∀ i ∈ oddlyNamed.insertions, i.IsSafe) ∧ Batch.parse b.toScript "^" = b := by
  have safe : ∀ i ∈ oddlyNamed.insertions, i.IsSafe := by
    decide +kernel
  exact ⟨_, rfl, rfl, by decide +kernel, safe, parse_of_toBatch oddlyNamed _ rfl safe⟩

end DesignObject
end SchemaChange
