import SchemaChange.Column.Statements
import SchemaChange.Proofs.Refusal

/-!
# Proofs.Column.Creation — what the statements of a new column leave out

A computed column has its expression and nothing else, an identity column has neither default nor
condition, and a column on a domain has no type of its own. What is left out has no influence on the
statements: new columns that differ in nothing else have the same ones.

- `Column.Alike`            : columns that differ in nothing but what is left out
- `Column.creation_congr`   : what the statements of a new column depend on
- `Column.Generates`        : the statements that generate the values of a new column
- `ColumnDraft.toBatch_of_alike` : columns alike have the same statements
-/

namespace SchemaChange
namespace Column

open Sql (identifier)
open Script (Batch)

/-! ## Columns alike -/

/-- The sequence that generates the values; an identity column has none. -/
def sequence? (c : Column) : Option AutoIncrement :=
  c.autoIncrement.filter fun a => !a.isIdentity

/-- The columns differ in nothing but what is left out of both definitions. -/
inductive Alike (a b : Column) : Prop
  /-- Both are computed from the same source. -/
  | computed {source : String} (left : Text.nonBlank? a.computed = some source)
      (right : Text.nonBlank? b.computed = some source) (table : a.table = b.table)
      (name : a.name = b.name) (primaryKey : a.primaryKey = b.primaryKey)
      (description : a.description = b.description) (sequence : a.sequence? = b.sequence?)
  /-- Both are identity columns that start with the same value. -/
  | identity {first second : AutoIncrement} (left : a.autoIncrement = some first)
      (right : b.autoIncrement = some second) (leftIdentity : first.isIdentity = true)
      (rightIdentity : second.isIdentity = true) (start : first.startValue = second.startValue)
      (rest : b = { a with
        defaultValue := b.defaultValue
        nullable := b.nullable
        check := b.check
        autoIncrement := b.autoIncrement })
  /-- Both are based on the same domain. -/
  | domain {domain : String} (based : Text.nonBlank? a.domain = some domain)
      (rest : b = { a with
        typeName := b.typeName
        size := b.size
        scale := b.scale
        subtype := b.subtype
        charset := b.charset
        collate := b.collate })

/-! ## What the statements depend on -/

variable {a b : Column}

theorem sequenceStatements_congr (table : a.table = b.table) (name : a.name = b.name) :
    a.sequenceStatements = b.sequenceStatements := by
  funext config generator
  unfold sequenceStatements fillTrigger quotedTable quotedName
  rw [table, name]

theorem newGenerator_eq (c : Column) :
    c.newGenerator =
      match c.sequence? with
      | none => .ok []
      | some config => (demandGenerator config).map (c.sequenceStatements config) := by
  unfold newGenerator sequence?
  cases c.autoIncrement with
  | none => rfl
  | some config =>
      simp only [Option.filter_some]
      cases config.isIdentity <;> rfl

theorem newGenerator_congr (table : a.table = b.table) (name : a.name = b.name)
    (sequence : a.sequence? = b.sequence?) : a.newGenerator = b.newGenerator := by
  rw [newGenerator_eq, newGenerator_eq, sequence, sequenceStatements_congr table name]

/-- Nothing else of a new column reaches its statements. -/
theorem creation_congr (table : a.table = b.table) (name : a.name = b.name)
    (definition : a.definition = b.definition) (primaryKey : a.primaryKey = b.primaryKey)
    (description : a.description = b.description) (sequence : a.sequence? = b.sequence?) :
    a.creation = b.creation := by
  unfold creation commentStatement quotedTable quotedName
  rw [table, name, definition, primaryKey, description, newGenerator_congr table name sequence]

/-! ## What is left out -/

theorem definition_of_computed {c : Column} {source : String}
    (h : Text.nonBlank? c.computed = some source) :
    c.definition = .ok (" COMPUTED BY " ++ Sql.grouped source) := by
  rw [definition, h]

theorem sequence?_of_identity {c : Column} {config : AutoIncrement}
    (h : c.autoIncrement = some config) (identity : config.isIdentity = true) :
    c.sequence? = none := by
  simp [sequence?, h, identity]

theorem valueClauses_of_identity {c : Column} {config : AutoIncrement}
    (h : c.autoIncrement = some config) (identity : config.isIdentity = true) :
    c.valueClauses =
      " GENERATED BY DEFAULT AS IDENTITY (START WITH " ++
        Text.decimalInt config.startValue.toInt ++ ")" := by
  have kept : c.autoIncrement.filter AutoIncrement.isIdentity = some config := by
    simp [h, identity]
  rw [valueClauses, kept]

theorem storage_of_domain {c : Column} {domain : String}
    (h : Text.nonBlank? c.domain = some domain) : c.storage = .ok (identifier domain) := by
  rw [storage, quotedDomain?, h]
  rfl

/-- What is kept and what stands behind it make up the definition of a stored column. -/
theorem definition_congr (computed : a.computed = b.computed) (storage : a.storage = b.storage)
    (values : a.valueClauses = b.valueClauses) : a.definition = b.definition := by
  unfold definition
  rw [computed, storage, values]

theorem creation_of_alike (h : Alike a b) : a.creation = b.creation := by
  cases h with
  | computed left right table name primaryKey description sequence =>
      refine creation_congr table name ?_ primaryKey description sequence
      rw [definition_of_computed left, definition_of_computed right]
  | identity left right leftIdentity rightIdentity start rest =>
      -- An identity says where it starts, and there is no sequence beside it.
      have values : a.valueClauses = b.valueClauses := by
        rw [valueClauses_of_identity left leftIdentity,
          valueClauses_of_identity right rightIdentity, start]
      have sequence : a.sequence? = b.sequence? := by
        rw [sequence?_of_identity left leftIdentity, sequence?_of_identity right rightIdentity]
      have storage : a.storage = b.storage := by
        rw [rest]
        rfl
      exact creation_congr (by rw [rest]) (by rw [rest])
        (definition_congr (by rw [rest]) storage values) (by rw [rest]) (by rw [rest]) sequence
  | domain based rest =>
      have values : a.valueClauses = b.valueClauses := by
        rw [rest]
        rfl
      have storage : a.storage = b.storage := by
        have same : b.domain = a.domain := by rw [rest]
        rw [storage_of_domain based, storage_of_domain (same ▸ based)]
      have sequence : a.sequence? = b.sequence? := by
        rw [rest]
        rfl
      exact creation_congr (by rw [rest]) (by rw [rest])
        (definition_congr (by rw [rest]) storage values) (by rw [rest]) (by rw [rest]) sequence

/-! ## The statements in a row -/

/-- The comment of a column, unless it is blank. -/
def describing (c : Column) : List String :=
  match Text.nonBlank? c.description with
  | some text => [c.commentStatement (Sql.quoteText text)]
  | none => []

/-- The statements that generate the values of a new column: the sequence comes first, then the
trigger. -/
inductive Generates (c : Column) : List String → Prop
  | nothing (none : c.sequence? = none) : Generates c []
  | sequence {config : AutoIncrement} {generator : String} (found : c.sequence? = some config)
      (named : Text.nonBlank? config.generatorName = some generator) :
      Generates c
        ((if config.createGenerator then ["CREATE SEQUENCE " ++ identifier generator] else []) ++
          [ "ALTER SEQUENCE " ++ identifier generator ++ " RESTART WITH " ++
              Text.decimalInt config.startValue.toInt,
            c.fillTrigger config generator ])

theorem generates_of_newGenerator {c : Column} {statements : List String}
    (h : c.newGenerator = .ok statements) : c.Generates statements := by
  rw [newGenerator_eq] at h
  cases found : c.sequence? with
  | none =>
      rw [found] at h
      cases h
      exact .nothing found
  | some config =>
      rw [found] at h
      rcases map_eq_ok.1 h with ⟨generator, named, rfl⟩
      exact .sequence found (demand_eq_ok.1 named)

/-- The column is added, then described, then its values are generated. -/
def IsCreation (c : Column) (statements : List String) : Prop :=
  ∃ definition generating, c.Generates generating ∧
    statements =
      ("ALTER TABLE " ++ identifier (Text.trim c.table) ++ " ADD " ++ identifier c.name ++
        definition) :: c.describing ++ generating

theorem isCreation_of_creation {c : Column} {statements : List String}
    (h : c.creation = .ok statements) : c.IsCreation statements := by
  rcases bind_eq_ok.1 h with ⟨table, -, h⟩
  rcases bind_eq_ok.1 h with ⟨name, -, h⟩
  rcases bind_eq_ok.1 h with ⟨generator, generated, h⟩
  rcases bind_eq_ok.1 h with ⟨definition, -, h⟩
  cases h
  have comment : c.describing =
      ((Text.nonBlank? c.description).map fun text =>
        c.commentStatement (Sql.quoteText text)).toList := by
    unfold describing
    cases Text.nonBlank? c.description <;> rfl
  refine ⟨definition ++ if c.primaryKey then " PRIMARY KEY" else "", generator,
    generates_of_newGenerator generated, ?_⟩
  rw [comment, ← String.append_assoc]
  rfl

end Column

namespace ColumnDraft

open Column (Alike IsCreation)

/-- New columns that differ in nothing but what is left out of both definitions are refused alike or
have the same statements: the column is added, then described, then its values are generated. -/
theorem toBatch_of_alike {a b : Column} (h : Alike a b) :
    toBatch (.ofNew a) = toBatch (.ofNew b) ∧
      ∀ batch, toBatch (.ofNew a) = .ok batch →
        ∃ statements, batch = Script.Batch.ofStatements statements ∧ IsCreation a statements := by
  have fresh : ∀ c : Column, toBatch (.ofNew c) = c.creation.map Script.Batch.ofStatements :=
    fun _ => rfl
  rw [fresh, fresh, Column.creation_of_alike h]
  refine ⟨rfl, ?_⟩
  intro batch written
  rw [← Column.creation_of_alike h] at written
  rcases map_eq_ok.1 written with ⟨statements, created, rfl⟩
  exact ⟨statements, rfl, Column.isCreation_of_creation created⟩

/-- A computed column, given as an identity column with a type and as a plain one on a domain; an
identity column with and without a default; and a column on a domain with another type. -/
theorem toBatch_of_alike_leftOut :
    let sum : Column :=
      { table := "T", name := "Sum", computed := some " A + B ", typeCode := .integer,
        autoIncrement := some (.identity 1) }
    let plainSum : Column :=
      { table := "T", name := "Sum", computed := some "A + B", domain := some "D",
        nullable := false }
    let key : Column := { table := "T", name := "ID", autoIncrement := some (.identity 5) }
    let keptKey : Column := { key with defaultValue := some "7", check := some "ID > 0" }
    let code : Column := { table := "T", name := "CODE", domain := some "D" }
    let longCode : Column := { code with typeName := "BLOB", size := some 9 }
    (Alike sum plainSum ∧ Alike key keptKey ∧ Alike code longCode) ∧
      toBatch (.ofNew sum) = toBatch (.ofNew plainSum) ∧
      toBatch (.ofNew key) = toBatch (.ofNew keptKey) ∧
      toBatch (.ofNew longCode) = .ok (.ofStatements ["ALTER TABLE T ADD CODE D"]) := by
  intro sum plainSum key keptKey code longCode
  have left : Text.nonBlank? sum.computed = some "A + B" := by decide +kernel
  have right : Text.nonBlank? plainSum.computed = some "A + B" := by decide +kernel
  have based : Text.nonBlank? code.domain = some "D" := by decide +kernel
  have sums : Alike sum plainSum := .computed left right rfl rfl rfl rfl rfl
  have keys : Alike key keptKey := .identity rfl rfl rfl rfl rfl rfl
  have codes : Alike code longCode := .domain based rfl
  refine ⟨⟨sums, keys, codes⟩, (toBatch_of_alike sums).1, (toBatch_of_alike keys).1, ?_⟩
  rw [← (toBatch_of_alike codes).1]
  decide +kernel

end ColumnDraft
end SchemaChange
