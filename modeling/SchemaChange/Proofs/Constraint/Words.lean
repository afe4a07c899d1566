import SchemaChange.Constraint.Statements
import SchemaChange.Proofs.Refusal
import SchemaChange.Proofs.Sql.Value

/-!
# Proofs.Constraint.Words — statements of constraints stay whole

Table, columns, index and tablespace are names, so nothing but the condition of a CHECK is taken
over as it is.

- `Constraint.insertions`    : the condition, if there is one
- `Constraint.isWord_of_mem` : the statements stay whole
-/

namespace SchemaChange
namespace Constraint

open Script (IsWord IsTail IsJoint IsLead)
open Sql (Insertion isWord_identifier)

/-- The texts that the statements of a constraint take over. -/
def insertions (c : Constraint) : List Insertion :=
  Sql.bareInsertions c.checkExpression

/-! ## Keywords -/

theorem Kind.isWord_keyword (kind : Kind) : IsWord kind.keyword := by
  cases kind <;> exact Script.isWord_ofList _ rfl

theorem Rule.isWord_keyword (rule : Rule) : IsWord rule.keyword := by
  cases rule <;> exact Script.isWord_ofList _ rfl

theorem Direction.isWord_keyword (direction : Direction) : IsWord direction.keyword := by
  cases direction <;> exact Script.isWord_ofList _ rfl

variable {c : Constraint}

/-! ## Definitions -/

theorem isTail_indexClauses (c : Constraint) : IsTail c.indexClauses := by
  refine IsTail.append ?_ ?_
  · -- The index; its sort order is a keyword.
    split
    · rename_i index _
      split
      · exact Script.isTail_empty
      · have front : IsJoint " USING " := Script.isJoint_ofList _ rfl
        have behind : IsJoint " INDEX " := Script.isJoint_ofList _ rfl
        have sort := front.word index.sort.isWord_keyword
        have name := behind.word (isWord_identifier (Text.trim index.name))
        rw [String.append_assoc]
        exact sort.append name
    · exact Script.isTail_empty
  · -- The tablespace.
    split
    · rename_i tablespace _
      have lead : IsJoint " TABLESPACE " := Script.isJoint_ofList _ rfl
      exact lead.word (isWord_identifier tablespace)
    · exact Script.isTail_empty

theorem ne_nil_of_demandColumns {field : Field} {columns : List String}
    (h : demandColumns field columns = .ok ()) : columns ≠ [] := by
  rintro rfl
  cases h

/-- The columns in parentheses behind a word. -/
theorem isWord_columnList {s lead : String} (hs : IsWord s) (hk : IsJoint lead)
    {columns : List String} (nonempty : columns ≠ []) :
    IsWord (s ++ lead ++ Sql.identifierList columns ++ ")") := by
  have close : IsTail ")" := Script.isTail_ofList _ rfl
  exact (hs.joint hk (Sql.isWord_identifierList nonempty)).append close

theorem isWord_keyClause {clause : String} (h : c.keyClause = .ok clause) : IsWord clause := by
  rcases bind_eq_ok.1 h with ⟨_, demanded, h⟩
  cases h
  have lead : IsJoint " (" := Script.isJoint_ofList _ rfl
  have columns := isWord_columnList c.kind.isWord_keyword lead (ne_nil_of_demandColumns demanded)
  exact columns.append c.isTail_indexClauses

theorem isWord_referenceClause {clause : String} (h : c.referenceClause = .ok clause) :
    IsWord clause := by
  rcases bind_eq_ok.1 h with ⟨_, demanded, h⟩
  rcases bind_eq_ok.1 h with ⟨referenced, -, h⟩
  rcases bind_eq_ok.1 h with ⟨_, demandedReferenced, h⟩
  split at h
  · cases h
  · cases h
    have lead : IsJoint " (" := Script.isJoint_ofList _ rfl
    have target : IsJoint ") REFERENCES " := Script.isJoint_ofList _ rfl
    have update : IsJoint ") ON UPDATE " := Script.isJoint_ofList _ rfl
    have delete : IsJoint " ON DELETE " := Script.isJoint_ofList _ rfl
    have columns := Sql.isWord_identifierList (ne_nil_of_demandColumns demanded)
    have referencedColumns :=
      Sql.isWord_identifierList (ne_nil_of_demandColumns demandedReferenced)
    have key := (c.kind.isWord_keyword.joint lead columns).joint target
      (isWord_identifier referenced)
    have rules := ((key.joint lead referencedColumns).joint update
      c.updateRule.isWord_keyword).joint delete c.deleteRule.isWord_keyword
    exact rules.append c.isTail_indexClauses

theorem isWord_checkClause {clause : String} (h : c.checkClause = .ok clause)
    (safe : ∀ i ∈ c.insertions, i.IsSafe) : IsWord clause := by
  rcases bind_eq_ok.1 h with ⟨expression, demanded, h⟩
  cases h
  have word : IsWord expression := Sql.isWord_of_bareInsertions (demand_eq_ok.1 demanded) safe
  have blank : IsJoint " " := Script.isJoint_ofList _ rfl
  exact c.kind.isWord_keyword.joint blank (Sql.isWord_grouped word)

theorem isWord_clause {clause : String} (h : c.clause = .ok clause)
    (safe : ∀ i ∈ c.insertions, i.IsSafe) : IsWord clause := by
  rcases bind_eq_ok.1 h with ⟨_, -, h⟩
  cases hkind : c.kind with
  | primary =>
      rw [hkind] at h
      exact isWord_keyClause h
  | unique =>
      rw [hkind] at h
      exact isWord_keyClause h
  | foreign =>
      rw [hkind] at h
      exact isWord_referenceClause h
  | check =>
      rw [hkind] at h
      exact isWord_checkClause h safe

/-! ## Statements -/

theorem isWord_alterTable (c : Constraint) : IsWord c.alterTable := by
  have lead : IsLead "ALTER TABLE " := Script.isLead_ofList _ rfl
  exact lead.word (isWord_identifier _)

theorem isWord_dropStatement (c : Constraint) (name : String) : IsWord (c.dropStatement name) := by
  have verb : IsJoint " DROP CONSTRAINT " := Script.isJoint_ofList _ rfl
  exact c.isWord_alterTable.joint verb (isWord_identifier name)

theorem isWord_addStatement (c : Constraint) {clause : String} (h : IsWord clause) :
    IsWord (c.addStatement clause) := by
  unfold addStatement
  split
  · have verb : IsJoint " ADD " := Script.isJoint_ofList _ rfl
    exact c.isWord_alterTable.joint verb h
  · have verb : IsJoint " ADD CONSTRAINT " := Script.isJoint_ofList _ rfl
    have blank : IsJoint " " := Script.isJoint_ofList _ rfl
    exact (c.isWord_alterTable.joint verb (isWord_identifier _)).joint blank h

theorem isWord_of_mem_dropping {statements : List String} (h : c.dropping = .ok statements) :
    ∀ s ∈ statements, IsWord s := by
  unfold dropping at h
  split at h
  · rcases map_eq_ok.1 h with ⟨name, -, rfl⟩
    exact List.forall_mem_singleton.2 (c.isWord_dropStatement name)
  · cases h
    exact List.forall_mem_nil _

theorem isWord_of_mem {b : Script.Batch} (h : c.toBatch = .ok b)
    (safe : ∀ i ∈ c.insertions, i.IsSafe) : ∀ s ∈ b.statements, IsWord s := by
  rcases map_eq_ok.1 h with ⟨statements, written, rfl⟩
  rcases bind_eq_ok.1 written with ⟨table, -, written⟩
  rcases bind_eq_ok.1 written with ⟨clause, hclause, written⟩
  rcases bind_eq_ok.1 written with ⟨dropped, hdropped, written⟩
  cases written
  have added := c.isWord_addStatement (isWord_clause hclause safe)
  exact List.forall_mem_append.2
    ⟨isWord_of_mem_dropping hdropped, List.forall_mem_singleton.2 added⟩

end Constraint
end SchemaChange
