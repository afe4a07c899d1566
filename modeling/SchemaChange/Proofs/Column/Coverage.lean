import SchemaChange.Proofs.Column.Alteration
import SchemaChange.Proofs.Column.Words

/-!
# Proofs.Column.Coverage — changes of a column reach the database

Where a value of an existing column has been changed, some statement carries the change, or no
statements are written at all. There is one exception: a column that is to generate its values no
longer goes on generating them, and nothing is said about it.

- `Column.Carries`                         : statements that carry the change of an attribute
- `Column.exists_carries`                  : the statements of an attribute carry its change
- `Column.carries_of_mem_partStatements`   : and say nothing else
- `ColumnDraft.exists_carries_iff`         : which changes are carried
- `ColumnDraft.autoIncrement_not_carried`  : one that is not
-/

namespace SchemaChange
namespace Column

open Sql (identifier)

/-! ## Statements that carry a change -/

/-- The statement takes the attribute of a column from what it was to what it is now. -/
inductive Carries (was now : Column) : Part → String → Prop
  | rename :
      Carries was now .name
        ("ALTER TABLE " ++ now.quotedTable ++ " ALTER COLUMN " ++ was.quotedName ++ " TO " ++
          now.quotedName)
  | retype {clause : String} :
      now.typeClause? = some clause →
      Carries was now .type (now.alterStatement ("TYPE " ++ clause))
  | admitNull :
      now.nullable = true → Carries was now .nullable (now.alterStatement "DROP NOT NULL")
  | refuseNull :
      now.nullable = false → Carries was now .nullable (now.alterStatement "SET NOT NULL")
  | setDefault {value : String} :
      Text.nonBlank? now.defaultValue = some value →
      Carries was now .defaultValue
        (now.alterStatement ("SET DEFAULT " ++ Sql.literal value now.group))
  | dropDefault :
      Text.nonBlank? now.defaultValue = none →
      Carries was now .defaultValue (now.alterStatement "DROP DEFAULT")
  | recompute {source : String} :
      Text.nonBlank? now.computed = some source →
      Carries was now .computed (now.alterStatement ("COMPUTED BY " ++ Sql.grouped source))
  | describe :
      Carries was now .description (now.commentStatement (Sql.commentLiteral now.description))
  | takeDomain {name : String} :
      Text.nonBlank? now.domain = some name →
      Carries was now .domain (now.alterStatement ("TYPE " ++ identifier name))
  | leaveDomain {clause : String} :
      Text.nonBlank? now.domain = none → now.typeClause? = some clause →
      Carries was now .domain (now.alterStatement ("TYPE " ++ clause))
  | restartIdentity {a : AutoIncrement} :
      now.autoIncrement = some a → a.isIdentity = true →
      Carries was now .autoIncrement
        (now.alterStatement ("RESTART WITH " ++ Text.decimalInt a.startValue.toInt))
  | attachSequence {a : AutoIncrement} {generator : String} :
      now.autoIncrement = some a → a.isIdentity = false →
      Text.nonBlank? a.generatorName = some generator →
      Carries was now .autoIncrement (now.fillTrigger a generator)

variable {was now : Column} {texts : List String}

/-- A retyping that is not left out has one statement. -/
theorem eq_of_retyping (free : now.keptBySystem = false) {target : Except Refusal String}
    (h : now.retyping target = .ok texts) :
    ∃ text, target = .ok text ∧ texts = [now.alterStatement ("TYPE " ++ text)] := by
  unfold retyping at h
  rw [free] at h
  rcases map_eq_ok.1 h with ⟨text, found, rfl⟩
  exact ⟨text, found, rfl⟩

theorem carries_of_storage {text : String} (h : now.storage = .ok text) :
    Carries was now .domain (now.alterStatement ("TYPE " ++ text)) := by
  unfold storage quotedDomain? at h
  cases named : Text.nonBlank? now.domain with
  | some name =>
      rw [named] at h
      cases h
      exact .takeDomain named
  | none =>
      rw [named] at h
      exact .leaveDomain named (typeClause_eq_ok.1 h)

theorem exists_carries_of_regenerating {a : AutoIncrement} (config : now.autoIncrement = some a)
    (h : now.regenerating = .ok texts) : ∃ s ∈ texts, Carries was now .autoIncrement s := by
  unfold regenerating at h
  rw [config] at h
  cases identity : a.isIdentity with
  | true =>
      simp only [identity, if_true] at h
      cases h
      exact ⟨_, List.mem_singleton_self _, .restartIdentity config identity⟩
  | false =>
      simp only [identity, Bool.false_eq_true, if_false] at h
      rcases map_eq_ok.1 h with ⟨generator, named, rfl⟩
      -- The trigger that fills the column stands last, behind the statements of the sequence.
      refine ⟨now.fillTrigger a generator, ?_,
        .attachSequence config identity (demand_eq_ok.1 named)⟩
      exact List.mem_append_right _ (List.mem_cons_of_mem _ List.mem_cons_self)

/-- The statements of an attribute carry its change, unless there is none to carry. -/
theorem exists_carries {part : Part} (free : now.keptBySystem = false)
    (renamed : part = .name → was.name ≠ now.name)
    (generated : part = .autoIncrement → now.autoIncrement ≠ none)
    (h : partStatements was now part = .ok texts) : ∃ s ∈ texts, Carries was now part s := by
  cases part with
  | name =>
      cases h
      unfold nameChange
      rw [if_neg (renamed rfl)]
      exact ⟨_, List.mem_singleton_self _, .rename⟩
  | type =>
      rcases eq_of_retyping free h with ⟨clause, found, rfl⟩
      exact ⟨_, List.mem_singleton_self _, .retype (typeClause_eq_ok.1 found)⟩
  | nullable =>
      cases h
      refine ⟨_, List.mem_singleton_self _, ?_⟩
      cases nullable : now.nullable with
      | true => exact .admitNull nullable
      | false => exact .refuseNull nullable
  | defaultValue =>
      cases h
      refine ⟨_, List.mem_singleton_self _, ?_⟩
      unfold defaultAction
      cases value : Text.nonBlank? now.defaultValue with
      | some text => exact .setDefault value
      | none => exact .dropDefault value
  | computed =>
      have h : now.recomputing = .ok texts := h
      unfold recomputing at h
      cases source : Text.nonBlank? now.computed with
      | some text =>
          rw [source] at h
          cases h
          exact ⟨_, List.mem_singleton_self _, .recompute source⟩
      | none =>
          rw [source] at h
          cases h
  | description =>
      cases h
      exact ⟨_, List.mem_singleton_self _, .describe⟩
  | domain =>
      rcases eq_of_retyping free h with ⟨text, found, rfl⟩
      exact ⟨_, List.mem_singleton_self _, carries_of_storage found⟩
  | autoIncrement =>
      cases config : now.autoIncrement with
      | none => exact absurd config (generated rfl)
      | some a => exact exists_carries_of_regenerating config h

/-! ## Nothing else is written -/

variable {s : String}

/-- The statement creates a sequence or restarts one. -/
def PreparesSequence (s : String) : Prop :=
  ∃ rest, s = "CREATE SEQUENCE " ++ rest ∨ s = "ALTER SEQUENCE " ++ rest

theorem carries_of_mem_retyping {part : Part} {target : Except Refusal String}
    (carries : ∀ text, target = .ok text →
      Carries was now part (now.alterStatement ("TYPE " ++ text)))
    (h : now.retyping target = .ok texts) (hs : s ∈ texts) : Carries was now part s := by
  unfold retyping at h
  split at h
  · cases h
    cases hs
  · rcases map_eq_ok.1 h with ⟨text, found, rfl⟩
    rw [List.mem_singleton] at hs
    exact hs ▸ carries text found

theorem carries_of_mem_regenerating (h : now.regenerating = .ok texts) (hs : s ∈ texts) :
    Carries was now .autoIncrement s ∨ PreparesSequence s := by
  unfold regenerating at h
  cases config : now.autoIncrement with
  | none =>
      rw [config] at h
      cases h
      cases hs
  | some a =>
      cases identity : a.isIdentity with
      | true =>
          simp only [config, identity, if_true] at h
          cases h
          rw [List.mem_singleton] at hs
          exact .inl (hs ▸ .restartIdentity config identity)
      | false =>
          simp only [config, identity, Bool.false_eq_true, if_false] at h
          rcases map_eq_ok.1 h with ⟨generator, named, rfl⟩
          -- The sequence, where it starts, and the trigger.
          rcases List.mem_append.1 hs with create | restart
          · split at create
            · exact .inr ⟨_, .inl (List.mem_singleton.1 create)⟩
            · cases create
          · rcases List.mem_pair.1 restart with rfl | rfl
            · refine .inr ⟨Sql.identifier generator ++ " RESTART WITH " ++
                Text.decimalInt a.startValue.toInt, .inr ?_⟩
              simp only [String.append_assoc]
            · exact .inl (.attachSequence config identity (demand_eq_ok.1 named))

/-- Every statement of an attribute carries its change or gets a sequence ready. -/
theorem carries_of_mem_partStatements {part : Part} (h : partStatements was now part = .ok texts)
    (hs : s ∈ texts) : Carries was now part s ∨ PreparesSequence s := by
  cases part with
  | name =>
      cases h
      unfold nameChange at hs
      split at hs
      · cases hs
      · rw [List.mem_singleton] at hs
        exact .inl (hs ▸ .rename)
  | type =>
      refine .inl (carries_of_mem_retyping ?_ h hs)
      exact fun clause found => .retype (typeClause_eq_ok.1 found)
  | nullable =>
      cases h
      rw [List.mem_singleton] at hs
      subst hs
      cases nullable : now.nullable with
      | true => exact .inl (.admitNull nullable)
      | false => exact .inl (.refuseNull nullable)
  | defaultValue =>
      cases h
      rw [List.mem_singleton] at hs
      subst hs
      unfold defaultAction
      cases value : Text.nonBlank? now.defaultValue with
      | some text => exact .inl (.setDefault value)
      | none => exact .inl (.dropDefault value)
  | computed =>
      have h : now.recomputing = .ok texts := h
      unfold recomputing at h
      cases source : Text.nonBlank? now.computed with
      | some text =>
          rw [source] at h
          cases h
          rw [List.mem_singleton] at hs
          exact .inl (hs ▸ .recompute source)
      | none =>
          rw [source] at h
          cases h
  | description =>
      cases h
      rw [List.mem_singleton] at hs
      exact .inl (hs ▸ .describe)
  | domain => exact .inl (carries_of_mem_retyping (fun _ found => carries_of_storage found) h hs)
  | autoIncrement => exact carries_of_mem_regenerating h hs

end Column

namespace ColumnDraft

open Column (Part Setter Carries partStatements)
open Script (Batch)

/-! ## Changes behind edits -/

/-- What is written for an attribute is among the statements of the draft. -/
theorem exists_mem_statements {d : ColumnDraft} (existing : d.existing = true) {b : Batch}
    (written : d.toBatch = .ok b) {part : Part} (hpart : d.isWritten part = true) :
    ∃ texts, partStatements d.initial d.current part = .ok texts ∧ ∀ s ∈ texts, s ∈ b.statements := by
  rcases (toBatch_eq_ok existing).1 written with ⟨⟨-, -, found⟩, rfl⟩
  rcases found part hpart with ⟨texts, h⟩
  refine ⟨texts, h, ?_⟩
  intro s hs
  refine List.mem_flatMap.2 ⟨part, List.mem_filter.2 ⟨mem_writingOrder part, hpart⟩, ?_⟩
  rw [partTexts_of_ok h]
  exact hs

/-- A change of a column that the system does not keep is carried by a statement, if statements are
written at all, unless the column is to generate its values no longer. The change of a type may be
left to the statement of a domain that was touched too. -/
theorem exists_carries_iff {was : Column} (free : was.keptBySystem = false)
    {edits : List Column.Edit} {d : ColumnDraft} (run : d = applyEdits (.ofExisting was) edits)
    {b : Batch} (written : d.toBatch = .ok b) {s : Setter}
    (changed : s.read d.current ≠ s.read was) :
    (∃ statement ∈ b.statements, Carries was d.current s.part statement ∨
        s.part = .type ∧ d.isMarked .domain = true ∧ Carries was d.current .domain statement) ↔
      ¬(s.part = .autoIncrement ∧ d.current.autoIncrement = none) := by
  have account : Account was true edits d := by
    rw [run]
    exact account_applyEdits was true edits
  have marked := account.changed s changed
  have free' : d.current.keptBySystem = false := by
    rw [← free]
    exact congrArg (fun base => base.2.2.2) account.base
  constructor
  · -- A statement for generated values needs some that are to be generated.
    rintro ⟨statement, -, carries | ⟨type, -⟩⟩ ⟨generated, nothing⟩
    · rw [generated] at carries
      cases carries with
      | restartIdentity config => rw [nothing] at config; cases config
      | attachSequence config => rw [nothing] at config; cases config
    · rw [type] at generated
      cases generated
  · intro rest
    by_cases left : s.part = .type ∧ d.isMarked .domain = true
    · -- The type is left to the domain.
      have hpart : d.isWritten .domain = true :=
        isWritten_iff.2 ⟨left.2, fun both => by cases both.1⟩
      rcases exists_mem_statements account.existing written hpart with ⟨texts, found, mem⟩
      rw [account.initial] at found
      have renamed : Part.domain = .name → was.name ≠ d.current.name := by
        intro h
        cases h
      have generated : Part.domain = .autoIncrement → d.current.autoIncrement ≠ none := by
        intro h
        cases h
      rcases Column.exists_carries free' renamed generated found with ⟨statement, hs, carries⟩
      exact ⟨statement, mem statement hs, .inr ⟨left.1, left.2, carries⟩⟩
    · have hpart : d.isWritten s.part = true := isWritten_iff.2 ⟨marked, left⟩
      rcases exists_mem_statements account.existing written hpart with ⟨texts, found, mem⟩
      rw [account.initial] at found
      have renamed : s.part = .name → was.name ≠ d.current.name := by
        intro h
        cases s with
        | name => exact Ne.symm changed
        | _ => cases h
      have generated : s.part = .autoIncrement → d.current.autoIncrement ≠ none :=
        fun h nothing => rest ⟨h, nothing⟩
      rcases Column.exists_carries free' renamed generated found with ⟨statement, hs, carries⟩
      exact ⟨statement, mem statement hs, .inl carries⟩

/-- A column that numbers its rows. -/
def numbered : Column :=
  { table := "T", name := "ID", autoIncrement := some (.identity 1) }

theorem exists_carries_iff_restarted :
    let d := applyEdits (.ofExisting numbered) [.autoIncrement (some (.identity 7))]
    let b := Batch.ofStatements ["ALTER TABLE T ALTER COLUMN ID RESTART WITH 7"]
    (numbered.keptBySystem = false ∧ d.toBatch = .ok b ∧
        Setter.autoIncrement.read d.current ≠ Setter.autoIncrement.read numbered) ∧
      ∃ statement ∈ b.statements, Carries numbered d.current .autoIncrement statement := by
  intro d b
  have free : numbered.keptBySystem = false := by decide
  have written : d.toBatch = .ok b := by decide +kernel
  have changed : Setter.autoIncrement.read d.current ≠ Setter.autoIncrement.read numbered := by
    show some (AutoIncrement.identity 7) ≠ some (.identity 1)
    decide
  refine ⟨⟨free, written, changed⟩, ?_⟩
  rcases (exists_carries_iff free rfl written changed).2 (by decide) with
    ⟨statement, hs, carries | ⟨type, -⟩⟩
  · exact ⟨statement, hs, carries⟩
  · cases type

/-- The rows of a column that is to number them no longer go on being numbered, and no statement
and no refusal tells of it. -/
theorem autoIncrement_not_carried :
    let d := applyEdits (.ofExisting numbered) [.autoIncrement none]
    numbered.keptBySystem = false ∧ d.toBatch = .ok (Batch.ofStatements []) ∧
      Setter.autoIncrement.read d.current ≠ Setter.autoIncrement.read numbered ∧
      ¬∃ statement ∈ (Batch.ofStatements []).statements,
        Carries numbered d.current .autoIncrement statement := by
  intro d
  have changed : Setter.autoIncrement.read d.current ≠ Setter.autoIncrement.read numbered := by
    show none ≠ some (AutoIncrement.identity 1)
    decide
  refine ⟨by decide, by decide +kernel, changed, ?_⟩
  rintro ⟨statement, hs, -⟩
  cases hs

end ColumnDraft
end SchemaChange
