import SchemaChange.Proofs.Constraint.Loaded

/-!
# Proofs.Constraint.Index — what is written for the index of a key

The index of a key is the last thing that is written for it, so without an index the statements are
the same up to there. Loading passes over an index that has the name of its constraint, and with it
over the order of that index.

- `Constraint.toBatch_withoutIndex` : the statements of a key with and without its index
- `Constraint.descends_of_load`     : the index of a key that was loaded, if it descends
- `Constraint.sameName_ascends`     : an index that descends and comes back ascending
-/

namespace SchemaChange
namespace Constraint

open Sql (identifier)
open Script (Batch)

/-! ## Statements without an index -/

/-- The constraint, over the index that the database makes by itself. -/
def withoutIndex (c : Constraint) : Constraint :=
  { c with index := none }

section Without

variable {c : Constraint}

theorem indexClauses_withoutIndex (tablespace : c.tablespace = none) :
    c.withoutIndex.indexClauses = "" := by
  simp [indexClauses, withoutIndex, tablespace]

theorem keyClause_withoutIndex (tablespace : c.tablespace = none) {clause : String}
    (written : c.keyClause = .ok clause) :
    ∃ bare, c.withoutIndex.keyClause = .ok bare ∧ clause = bare ++ c.indexClauses := by
  rcases bind_eq_ok.1 written with ⟨_, columns, written⟩
  cases written
  refine ⟨_, bind_eq_ok.2 ⟨(), columns, rfl⟩, ?_⟩
  rw [indexClauses_withoutIndex tablespace, String.append_empty]
  rfl

theorem referenceClause_withoutIndex (tablespace : c.tablespace = none) {clause : String}
    (written : c.referenceClause = .ok clause) :
    ∃ bare, c.withoutIndex.referenceClause = .ok bare ∧ clause = bare ++ c.indexClauses := by
  rcases bind_eq_ok.1 written with ⟨_, columns, written⟩
  rcases bind_eq_ok.1 written with ⟨referenced, target, written⟩
  rcases bind_eq_ok.1 written with ⟨_, referencedColumns, written⟩
  split at written
  · cases written
  · rename_i same
    cases written
    refine ⟨_, bind_eq_ok.2 ⟨(), columns, bind_eq_ok.2 ⟨referenced, target,
      bind_eq_ok.2 ⟨(), referencedColumns, if_neg same⟩⟩⟩, ?_⟩
    rw [indexClauses_withoutIndex tablespace, String.append_empty]
    rfl

/-- Whatever the kind of the key, its index is written at the end. -/
theorem clause_withoutIndex (key : c.kind ≠ .check) (tablespace : c.tablespace = none)
    {clause : String} (written : c.clause = .ok clause) :
    ∃ bare, c.withoutIndex.clause = .ok bare ∧ clause = bare ++ c.indexClauses := by
  have same : c.withoutIndex.kind = c.kind := rfl
  rcases bind_eq_ok.1 written with ⟨_, payload, written⟩
  cases kind : c.kind with
  | primary =>
      rw [kind] at written
      rcases keyClause_withoutIndex tablespace written with ⟨bare, without, rfl⟩
      refine ⟨bare, bind_eq_ok.2 ⟨(), payload, ?_⟩, rfl⟩
      rw [same, kind]
      exact without
  | unique =>
      rw [kind] at written
      rcases keyClause_withoutIndex tablespace written with ⟨bare, without, rfl⟩
      refine ⟨bare, bind_eq_ok.2 ⟨(), payload, ?_⟩, rfl⟩
      rw [same, kind]
      exact without
  | foreign =>
      rw [kind] at written
      rcases referenceClause_withoutIndex tablespace written with ⟨bare, without, rfl⟩
      refine ⟨bare, bind_eq_ok.2 ⟨(), payload, ?_⟩, rfl⟩
      rw [same, kind]
      exact without
  | check => exact absurd kind key

theorem addStatement_append (c : Constraint) (front back : String) :
    c.addStatement (front ++ back) = c.addStatement front ++ back := by
  unfold addStatement
  split <;> simp [String.append_assoc]

/-- With its index, the statement that adds a key is longer by the clause of the index. -/
theorem toBatch_withoutIndex (key : c.kind ≠ .check) (tablespace : c.tablespace = none)
    (existing : c.existing = true) {b : Batch} (written : c.toBatch = .ok b) :
    ∃ dropped added, c.withoutIndex.toBatch = .ok (Batch.ofStatements [dropped, added]) ∧
      b = Batch.ofStatements [dropped, added ++ c.indexClauses] := by
  rcases toBatch_eq_ok.1 written with ⟨table, clause, dropped, hclause, hdropped, rfl⟩
  rcases clause_withoutIndex key tablespace hclause with ⟨bare, without, rfl⟩
  -- What is dropped is the constraint alone, whatever its index is.
  have sameDropping : c.withoutIndex.dropping = .ok dropped := hdropped
  unfold dropping at hdropped
  rw [if_pos existing] at hdropped
  rcases map_eq_ok.1 hdropped with ⟨known, -, rfl⟩
  refine ⟨c.dropStatement known, c.addStatement bare, ?_, ?_⟩
  · exact toBatch_eq_ok.2 ⟨table, bare, _, without, sameDropping, rfl⟩
  · rw [addStatement_append]
    rfl

end Without

/-! ## Loading -/

variable {catalog : Catalog} {table name index : String} {row : Catalog.Row}
variable {rest : List Catalog.Row} {kind : Kind} {c : Constraint} {b : Batch}

/-- No constraint is loaded with a tablespace. -/
theorem IsBodyIn.tablespace {stored : Option String} {body : Constraint}
    (h : IsBodyIn catalog table name stored kind body) : body.tablespace = none := by
  cases h <;> rfl

theorem IsBodyIn.kind_eq {stored : Option String} {body : Constraint}
    (h : IsBodyIn catalog table name stored kind body) : body.kind = kind := by
  cases h <;> rfl

theorem indexClauses_of_loadedIndex (indexed : row.text? "RDB$INDEX_NAME" = some index)
    (own : Catalog.isSystemName index = false)
    (descending : row.integer? "RDB$INDEX_TYPE" = some 1)
    (loaded : c.index = loadedIndex name row) (tablespace : c.tablespace = none) :
    c.indexClauses =
      if index = name then "" else " USING DESC INDEX " ++ identifier index := by
  rcases Catalog.Row.text?_eq_some indexed with ⟨trimmed, nonempty⟩
  have full : Text.isBlank index = false := Text.isBlank_eq_false_iff.2 (by rwa [trimmed])
  unfold loadedIndex at loaded
  rw [indexed, descending] at loaded
  by_cases same : index = name
  · -- The index passes for one that the database made along with the constraint.
    have none : c.index = none := by simp [loaded, same]
    simp [indexClauses, none, tablespace, same]
  · have given : c.index = some ⟨index, .descending⟩ := by simp [loaded, same, own]
    simp [indexClauses, given, tablespace, full, trimmed, same, Direction.keyword]

/-- A key that was loaded is added with its descending index, except for an index that has the name
of the key: then no index is written at all. -/
theorem descends_of_load
    (answer : catalog ⟨catalogSql, [.text table, .text name]⟩ = .ok (row :: rest))
    (named : (row.text? "RDB$CONSTRAINT_TYPE").bind Kind.ofKeyword? = some kind)
    (key : kind ≠ .check)
    (indexed : row.text? "RDB$INDEX_NAME" = some index)
    (own : Catalog.isSystemName index = false)
    (descending : row.integer? "RDB$INDEX_TYPE" = some 1)
    (loaded : ((load table name).run catalog).result = .ok c)
    (written : c.toBatch = .ok b) :
    ∃ dropped added, c.withoutIndex.toBatch = .ok (Batch.ofStatements [dropped, added]) ∧
      b = Batch.ofStatements [dropped,
        added ++ if index = name then "" else " USING DESC INDEX " ++ identifier index] := by
  rcases body_of_finds_load loaded with
    ⟨row', rest', kind', body, answer', named', found, built⟩
  -- There is one answer to the query, so this is the row in question.
  cases Except.ok.inj (answer.symm.trans answer')
  cases Option.some.inj (named.symm.trans named')
  have content := isBodyIn_of_finds found
  have kindEq : c.kind = kind := by
    rw [built]
    exact content.kind_eq
  have tablespace : c.tablespace = none := by
    rw [built]
    exact content.tablespace
  have existing : c.existing = true := by
    rw [built]
    rfl
  have indexEq : c.index = loadedIndex name row := by
    rw [built]
    rfl
  rw [← indexClauses_of_loadedIndex indexed own descending indexEq tablespace]
  exact toBatch_withoutIndex (by rwa [kindEq]) tablespace existing written

/-- The row of a unique key over a descending index. -/
def descendingRow (index : String) : Catalog.Row :=
  ⟨["RDB$CONSTRAINT_TYPE", "RDB$INDEX_NAME", "RDB$INDEX_TYPE"],
    [.text "UNIQUE", .text index, .int16 1]⟩

/-- The system tables of a database with that key, on one column. -/
def descendingCatalog (index : String) : Catalog :=
  .ofAnswers
    [ (⟨catalogSql, [.text "T", .text "UQ_T"]⟩, [descendingRow index]),
      (⟨segmentsSql, [.text index]⟩, [segmentRow "CODE"]) ]

/-- What is loaded for the key. -/
def uniqueCode (index : Option Index) : Constraint :=
  { uniqueKey "T" ["CODE"] with name := "UQ_T", index := index }.asExisting

theorem descends_of_load_unique :
    (descendingCatalog "IX_CODE" ⟨catalogSql, [.text "T", .text "UQ_T"]⟩ =
          .ok [descendingRow "IX_CODE"] ∧
        ((descendingRow "IX_CODE").text? "RDB$CONSTRAINT_TYPE").bind Kind.ofKeyword? =
          some .unique ∧
        Kind.unique ≠ .check ∧
        (descendingRow "IX_CODE").text? "RDB$INDEX_NAME" = some "IX_CODE" ∧
        Catalog.isSystemName "IX_CODE" = false ∧
        (descendingRow "IX_CODE").integer? "RDB$INDEX_TYPE" = some 1) ∧
      ∃ c, ((load "T" "UQ_T").run (descendingCatalog "IX_CODE")).result = .ok c ∧
        c.toBatch = .ok (Batch.ofStatements
          [ "ALTER TABLE T DROP CONSTRAINT UQ_T",
            "ALTER TABLE T ADD CONSTRAINT UQ_T UNIQUE (CODE) USING DESC INDEX IX_CODE" ]) := by
  have answer : descendingCatalog "IX_CODE" ⟨catalogSql, [.text "T", .text "UQ_T"]⟩ =
      .ok [descendingRow "IX_CODE"] := by
    decide +kernel
  have named : ((descendingRow "IX_CODE").text? "RDB$CONSTRAINT_TYPE").bind Kind.ofKeyword? =
      some .unique := by
    decide +kernel
  have key : Kind.unique ≠ .check := by decide
  have indexed : (descendingRow "IX_CODE").text? "RDB$INDEX_NAME" = some "IX_CODE" := by
    decide +kernel
  have own : Catalog.isSystemName "IX_CODE" = false := by decide +kernel
  have descending : (descendingRow "IX_CODE").integer? "RDB$INDEX_TYPE" = some 1 := by
    decide +kernel
  have loaded : ((load "T" "UQ_T").run (descendingCatalog "IX_CODE")).result =
      .ok (uniqueCode (some ⟨"IX_CODE", .descending⟩)) := by
    decide +kernel
  have written : ∃ b, (uniqueCode (some ⟨"IX_CODE", .descending⟩)).toBatch = .ok b :=
    ⟨_, rfl⟩
  refine ⟨⟨answer, named, key, indexed, own, descending⟩, _, loaded, ?_⟩
  rcases written with ⟨b, written⟩
  rcases descends_of_load answer named key indexed own descending loaded written with
    ⟨dropped, added, without, rfl⟩
  have bare : (uniqueCode none).toBatch = .ok (Batch.ofStatements
      [ "ALTER TABLE T DROP CONSTRAINT UQ_T",
        "ALTER TABLE T ADD CONSTRAINT UQ_T UNIQUE (CODE)" ]) := by
    decide +kernel
  have both : Batch.ofStatements [dropped, added] = Batch.ofStatements
      [ "ALTER TABLE T DROP CONSTRAINT UQ_T",
        "ALTER TABLE T ADD CONSTRAINT UQ_T UNIQUE (CODE)" ] :=
    Except.ok.inj (without.symm.trans bare)
  cases both
  rw [written]
  decide +kernel

/-- An index that has the name of its constraint descends, and comes back without its order. -/
theorem sameName_ascends :
    (descendingCatalog "UQ_T" ⟨catalogSql, [.text "T", .text "UQ_T"]⟩ =
          .ok [descendingRow "UQ_T"] ∧
        ((descendingRow "UQ_T").text? "RDB$CONSTRAINT_TYPE").bind Kind.ofKeyword? =
          some .unique ∧
        (descendingRow "UQ_T").text? "RDB$INDEX_NAME" = some "UQ_T" ∧
        Catalog.isSystemName "UQ_T" = false ∧
        (descendingRow "UQ_T").integer? "RDB$INDEX_TYPE" = some 1) ∧
      ∃ c dropped added, ((load "T" "UQ_T").run (descendingCatalog "UQ_T")).result = .ok c ∧
        c.toBatch = .ok (Batch.ofStatements [dropped, added]) ∧
        added = "ALTER TABLE T ADD CONSTRAINT UQ_T UNIQUE (CODE)" ∧
        ¬" USING DESC INDEX ".toList <:+: added.toList := by
  have loaded : ((load "T" "UQ_T").run (descendingCatalog "UQ_T")).result =
      .ok (uniqueCode none) := by
    decide +kernel
  have written : (uniqueCode none).toBatch = .ok (Batch.ofStatements
      [ "ALTER TABLE T DROP CONSTRAINT UQ_T",
        "ALTER TABLE T ADD CONSTRAINT UQ_T UNIQUE (CODE)" ]) := by
    decide +kernel
  refine ⟨⟨?_, ?_, ?_, ?_, ?_⟩, uniqueCode none, _, _, loaded, written, rfl, ?_⟩ <;>
    decide +kernel

end Constraint
end SchemaChange
