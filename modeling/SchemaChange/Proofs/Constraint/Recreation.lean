import SchemaChange.Constraint.Load
import SchemaChange.Constraint.Statements
import SchemaChange.Proofs.Catalog.Lookup
import SchemaChange.Proofs.Refusal

/-!
# Proofs.Constraint.Recreation — constraints that are loaded and written

Whatever its kind, a constraint is loaded in the same way around its body: the row of its own says
the kind and the index, and it is there already. Without an edit it is dropped and added again.

- `Constraint.finds_load`          : what is loaded around a body
- `Constraint.body_of_finds_load`  : the body inside what is loaded
- `Constraint.toBatch_eq_ok`       : when the statements are written
- `Constraint.toBatch_of_existing` : the two statements of an existing constraint
-/

namespace SchemaChange
namespace Constraint

open Sql (identifier)
open Script (Batch)

/-! ## Loading -/

variable {catalog : Catalog} {table name : String} {row : Catalog.Row} {rest : List Catalog.Row}
variable {kind : Kind}

theorem finds_loadKind
    (h : (row.text? "RDB$CONSTRAINT_TYPE").bind Kind.ofKeyword? = some kind) :
    (loadKind name row).Finds catalog kind := by
  unfold loadKind
  rw [h]
  exact Lookup.finds_done.2 rfl

theorem named_of_finds_loadKind (h : (loadKind name row).Finds catalog kind) :
    (row.text? "RDB$CONSTRAINT_TYPE").bind Kind.ofKeyword? = some kind := by
  unfold loadKind at h
  split at h
  · rename_i found given
    rw [given, Lookup.finds_done.1 h]
  · exact absurd h Lookup.not_finds_fail

/-- The name and the index come to the body of every constraint alike. -/
theorem finds_load {body : Constraint}
    (answer : catalog ⟨catalogSql, [.text table, .text name]⟩ = .ok (row :: rest))
    (named : (row.text? "RDB$CONSTRAINT_TYPE").bind Kind.ofKeyword? = some kind)
    (found : (loadBody table name (row.text? "RDB$INDEX_NAME") kind).Finds catalog body) :
    (load table name).Finds catalog
      { body with name := name, index := loadedIndex name row }.asExisting := by
  refine finds_row.2 ⟨row, rest, answer, ?_⟩
  refine Lookup.finds_bind.2 ⟨kind, finds_loadKind named, ?_⟩
  exact Lookup.finds_bind.2 ⟨body, found, Lookup.finds_pure.2 rfl⟩

/-- Nothing is loaded but from a row that names a kind. -/
theorem body_of_finds_load {c : Constraint} (h : (load table name).Finds catalog c) :
    ∃ row rest kind body, catalog ⟨catalogSql, [.text table, .text name]⟩ = .ok (row :: rest) ∧
      (row.text? "RDB$CONSTRAINT_TYPE").bind Kind.ofKeyword? = some kind ∧
      (loadBody table name (row.text? "RDB$INDEX_NAME") kind).Finds catalog body ∧
      c = { body with name := name, index := loadedIndex name row }.asExisting := by
  rcases finds_row.1 h with ⟨row, rest, answer, behindRow⟩
  rcases Lookup.finds_bind.1 behindRow with ⟨kind, kindFound, behindKind⟩
  rcases Lookup.finds_bind.1 behindKind with ⟨body, bodyFound, behindBody⟩
  exact ⟨row, rest, kind, body, answer, named_of_finds_loadKind kindFound, bodyFound,
    (Lookup.finds_pure.1 behindBody).symm⟩

/-! ## Statements -/

theorem toBatch_eq_ok {c : Constraint} {b : Batch} :
    c.toBatch = .ok b ↔ Text.isBlank c.table = false ∧
      ∃ clause dropped, c.clause = .ok clause ∧ c.dropping = .ok dropped ∧
        Batch.ofStatements (dropped ++ [c.addStatement clause]) = b := by
  unfold toBatch statements
  rw [map_eq_ok]
  constructor
  · rintro ⟨statements, written, rfl⟩
    rcases bind_eq_ok.1 written with ⟨table, tableGiven, written⟩
    rcases bind_eq_ok.1 written with ⟨clause, clauseWritten, written⟩
    rcases bind_eq_ok.1 written with ⟨dropped, dropWritten, written⟩
    cases written
    exact ⟨(demand_some_eq_ok.1 tableGiven).1, clause, dropped, clauseWritten, dropWritten, rfl⟩
  · rintro ⟨tableFull, clause, dropped, clauseWritten, dropWritten, rfl⟩
    refine ⟨dropped ++ [c.addStatement clause], ?_, rfl⟩
    refine bind_eq_ok.2 ⟨Text.trim c.table, demand_some_eq_ok.2 ⟨tableFull, rfl⟩, ?_⟩
    refine bind_eq_ok.2 ⟨clause, clauseWritten, ?_⟩
    exact bind_eq_ok.2 ⟨dropped, dropWritten, rfl⟩

theorem knownName_of_initialName {c : Constraint} (initialName : c.initialName = some c.name) :
    c.knownName = c.name := by
  unfold knownName
  rw [initialName]
  exact ite_self c.name

/-- A constraint that has the name it was loaded with is dropped and added again. -/
theorem toBatch_of_existing {c : Constraint} {clause : String}
    (table : Text.isBlank c.table = false) (name : Text.isBlank c.name = false)
    (existing : c.existing = true) (initialName : c.initialName = some c.name)
    (written : c.clause = .ok clause) :
    c.toBatch = .ok (Batch.ofStatements
      [ "ALTER TABLE " ++ identifier (Text.trim c.table) ++ " DROP CONSTRAINT " ++
          identifier (Text.trim c.name),
        "ALTER TABLE " ++ identifier (Text.trim c.table) ++ " ADD CONSTRAINT " ++
          identifier (Text.trim c.name) ++ " " ++ clause ]) := by
  have dropped : c.dropping = .ok [c.dropStatement (Text.trim c.name)] := by
    unfold dropping
    rw [if_pos existing, knownName_of_initialName initialName, map_eq_ok]
    exact ⟨Text.trim c.name, demand_some_eq_ok.2 ⟨name, rfl⟩, rfl⟩
  have added : c.addStatement clause =
      c.alterTable ++ " ADD CONSTRAINT " ++ identifier (Text.trim c.name) ++ " " ++ clause := by
    simp [addStatement, name]
  refine toBatch_eq_ok.2 ⟨table, clause, _, written, dropped, ?_⟩
  rw [added]
  rfl

end Constraint
end SchemaChange
