import SchemaChange.Proofs.Column.Alteration
import SchemaChange.Proofs.Reason

/-!
# Proofs.Column.Refusal — why no statements are written for a column

Some checks come before all statements, others are made where a statement is put together. Whatever
is wrong with a column, the refusal tells the first of five reasons, in the same order for a new
column and for an existing one.

- `Column.LacksGenerator`, `Column.LacksType` : what may be missing
- `ColumnDraft.partReasons` : the reasons of each attribute of an existing column
- `ColumnDraft.reasons`     : the reasons of a draft, in their order
- `ColumnDraft.refused_iff_firstReason` : nothing else is in the way
-/

namespace SchemaChange
namespace Column

/-- A sequence is to generate the values, and it has no name. -/
def LacksGenerator (c : Column) : Prop :=
  ∃ a, c.autoIncrement = some a ∧ a.isIdentity = false ∧ Text.nonBlank? a.generatorName = none

/-- The type has no name, and its code stands for none. -/
def LacksType (c : Column) : Prop :=
  Text.isBlank c.typeName = true ∧ c.typeCode.name? = none

variable (c : Column)

/-! ## Types and domains -/

theorem typeClause?_eq_none_iff : c.typeClause? = none ↔ c.LacksType := by
  rw [typeClause?, Option.map_eq_none_iff, baseType?, LacksType]
  cases Text.isBlank c.typeName <;> simp

theorem refusedFor_typeClause :
    RefusedFor c.typeClause [⟨c.LacksType, .unnamedType c.typeCode⟩] := by
  unfold typeClause
  rw [← c.typeClause?_eq_none_iff]
  cases c.typeClause? with
  | none => exact refusedFor_singleton (fun _ => rfl) (absurd rfl)
  | some clause => exact refusedFor_singleton nofun fun _ => ⟨clause, rfl⟩

/-- A domain takes the place of a type. -/
theorem refusedFor_storage :
    RefusedFor c.storage
      [⟨Text.nonBlank? c.domain = none ∧ c.LacksType, .unnamedType c.typeCode⟩] := by
  unfold storage quotedDomain?
  cases Text.nonBlank? c.domain with
  | none =>
      refine c.refusedFor_typeClause.congr fun r => ?_
      simp
  | some name => exact refusedFor_singleton nofun fun _ => ⟨_, rfl⟩

/-- The type of a column that the system keeps is not written. -/
theorem refusedFor_retyping {target : Except Refusal String} {p : Prop} {refusal : Refusal}
    (h : RefusedFor target [⟨p, refusal⟩]) :
    RefusedFor (c.retyping target) [⟨c.keptBySystem = false ∧ p, refusal⟩] := by
  unfold retyping
  cases c.keptBySystem with
  | true => exact refusedFor_singleton nofun fun _ => ⟨[], rfl⟩
  | false =>
      refine (h.map _).congr fun r => ?_
      simp

/-! ## Computed and generated values -/

theorem refusedFor_recomputing :
    RefusedFor c.recomputing [⟨Text.nonBlank? c.computed = none, .computedRemoved⟩] := by
  unfold recomputing
  cases Text.nonBlank? c.computed with
  | none => exact refusedFor_singleton (fun _ => rfl) (absurd rfl)
  | some source => exact refusedFor_singleton nofun fun _ => ⟨_, rfl⟩

/-- Values are taken from a sequence unless the column is an identity column. -/
theorem refusedFor_sequence (a : AutoIncrement) (whole : List String)
    (ofSequence : String → List String) :
    RefusedFor (if a.isIdentity then .ok whole else (demandGenerator a).map ofSequence)
      [⟨a.isIdentity = false ∧ Text.nonBlank? a.generatorName = none, .missing .generatorName⟩] := by
  cases a.isIdentity with
  | true => exact refusedFor_singleton nofun fun _ => ⟨whole, rfl⟩
  | false =>
      refine ((refusedFor_demand .generatorName a.generatorName).map ofSequence).congr fun r => ?_
      simp

theorem refusedFor_newGenerator :
    RefusedFor c.newGenerator [⟨c.LacksGenerator, .missing .generatorName⟩] := by
  unfold newGenerator LacksGenerator
  cases c.autoIncrement with
  | none => exact refusedFor_singleton nofun fun _ => ⟨[], rfl⟩
  | some a =>
      refine (refusedFor_sequence a [] (c.sequenceStatements a)).congr fun r => ?_
      simp

theorem refusedFor_regenerating :
    RefusedFor c.regenerating [⟨c.LacksGenerator, .missing .generatorName⟩] := by
  unfold regenerating LacksGenerator
  cases c.autoIncrement with
  | none => exact refusedFor_singleton nofun fun _ => ⟨[], rfl⟩
  | some a =>
      refine (refusedFor_sequence a _ (c.sequenceStatements a)).congr fun r => ?_
      simp

/-! ## New columns -/

/-- A computed column has no type of its own. -/
theorem refusedFor_definition :
    RefusedFor c.definition
      [⟨Text.nonBlank? c.computed = none ∧ Text.nonBlank? c.domain = none ∧ c.LacksType,
        .unnamedType c.typeCode⟩] := by
  unfold definition
  cases Text.nonBlank? c.computed with
  | some source => exact refusedFor_singleton nofun fun _ => ⟨_, rfl⟩
  | none =>
      refine (c.refusedFor_storage.map _).congr fun r => ?_
      simp

theorem refusedFor_creation :
    RefusedFor c.creation
      [ ⟨Text.isBlank c.table = true, .missing .table⟩,
        ⟨Text.isBlank c.name = true, .missing .name⟩,
        ⟨c.LacksGenerator, .missing .generatorName⟩,
        ⟨Text.nonBlank? c.computed = none ∧ Text.nonBlank? c.domain = none ∧ c.LacksType,
          .unnamedType c.typeCode⟩ ] := by
  refine (refusedFor_demand_some .table c.table).bind fun _ _ => ?_
  refine (refusedFor_demand_some .name c.name).bind fun _ _ => ?_
  refine c.refusedFor_newGenerator.bind fun _ _ => ?_
  exact c.refusedFor_definition.bind fun _ _ => refusedFor_ok _

end Column

namespace ColumnDraft

open Column (Part partStatements)

variable (d : ColumnDraft)

/-! ## Existing columns -/

/-- What may stand in the way of the statements of an attribute. -/
def partReasons : Part → List Reason
  | .type => [⟨d.current.keptBySystem = false ∧ d.current.LacksType,
      .unnamedType d.current.typeCode⟩]
  | .computed => [⟨Text.nonBlank? d.current.computed = none, .computedRemoved⟩]
  | .domain => [⟨d.current.keptBySystem = false ∧
      Text.nonBlank? d.current.domain = none ∧ d.current.LacksType,
      .unnamedType d.current.typeCode⟩]
  | .autoIncrement => [⟨d.current.LacksGenerator, .missing .generatorName⟩]
  | .name => []
  | .nullable => []
  | .defaultValue => []
  | .description => []

theorem refusedFor_partStatements (part : Part) :
    RefusedFor (partStatements d.initial d.current part) (d.partReasons part) := by
  cases part with
  | type => exact d.current.refusedFor_retyping d.current.refusedFor_typeClause
  | computed => exact d.current.refusedFor_recomputing
  | domain => exact d.current.refusedFor_retyping d.current.refusedFor_storage
  | autoIncrement => exact d.current.refusedFor_regenerating
  | name => exact refusedFor_ok _
  | nullable => exact refusedFor_ok _
  | defaultValue => exact refusedFor_ok _
  | description => exact refusedFor_ok _

/-- An attribute that is not written stands in nobody's way. -/
theorem refusedFor_writtenStatements (part : Part) :
    RefusedFor (d.writtenStatements part)
      (if d.isWritten part then d.partReasons part else []) := by
  unfold writtenStatements
  cases d.isWritten part with
  | true => exact d.refusedFor_partStatements part
  | false => exact refusedFor_ok []

/-- The source of a computed column was touched and is gone. -/
def LosesSource : Prop :=
  d.existing = true ∧ d.isMarked .computed = true ∧ Text.nonBlank? d.current.computed = none

/-- The values that are to be generated are written down: for a new column always, for an existing
one if they were touched. -/
def WritesGenerator : Prop :=
  d.existing = true → d.isMarked .autoIncrement = true

/-- The type is written down. A new column has a type if it is neither computed nor based on a
domain. An existing one has its type written if its domain was touched and is gone, or if its type
was touched and its domain was not; unless the system keeps the column. -/
def WritesType : Prop :=
  if d.existing then
    d.current.keptBySystem = false ∧
      (d.isMarked .domain = true ∧ Text.nonBlank? d.current.domain = none ∨
        d.isMarked .type = true ∧ d.isMarked .domain = false)
  else
    Text.nonBlank? d.current.computed = none ∧ Text.nonBlank? d.current.domain = none

/-- What may stand in the way of a column's statements. -/
def reasons : List Reason :=
  [ ⟨Text.isBlank d.current.table = true, .missing .table⟩,
    ⟨Text.isBlank d.current.name = true, .missing .name⟩,
    ⟨d.LosesSource, .computedRemoved⟩,
    ⟨d.WritesGenerator ∧ d.current.LacksGenerator, .missing .generatorName⟩,
    ⟨d.WritesType ∧ d.current.LacksType, .unnamedType d.current.typeCode⟩ ]

/-- The two attributes that are looked at before all others. -/
theorem refusedFor_checkedFirst (existing : d.existing = true) :
    RefusedFor (checkedFirst.mapM d.writtenStatements)
      [ ⟨d.LosesSource, .computedRemoved⟩,
        ⟨d.WritesGenerator ∧ d.current.LacksGenerator, .missing .generatorName⟩ ] := by
  refine (RefusedFor.mapM fun part _ => d.refusedFor_writtenStatements part).congr fun r => ?_
  have computed : d.isWritten .computed = d.isMarked .computed := Bool.and_true _
  have autoIncrement : d.isWritten .autoIncrement = d.isMarked .autoIncrement := Bool.and_true _
  simp only [checkedFirst, List.flatMap_cons, List.flatMap_nil, computed, autoIncrement,
    partReasons, LosesSource, WritesGenerator, existing]
  cases d.isMarked .computed <;> cases d.isMarked .autoIncrement <;> simp

/-- Behind those checks only the type is left to be refused, be it written for its own sake or for
want of a domain. -/
theorem writesType_of_holds (existing : d.existing = true) (source : ¬d.LosesSource)
    (generator : ¬(d.WritesGenerator ∧ d.current.LacksGenerator)) {part : Part}
    (written : d.isWritten part = true) {reason : Reason} (mem : reason ∈ d.partReasons part)
    (holds : reason.holds) :
    (d.WritesType ∧ d.current.LacksType) ∧ reason.refusal = .unnamedType d.current.typeCode := by
  rcases isWritten_iff.1 written with ⟨marked, single⟩
  unfold WritesType
  rw [if_pos existing]
  cases part with
  | type =>
      cases List.mem_singleton.1 mem
      rcases holds with ⟨free, untyped⟩
      have alone : d.isMarked .domain = false :=
        Bool.eq_false_iff.2 fun domain => single ⟨rfl, domain⟩
      exact ⟨⟨⟨free, .inr ⟨marked, alone⟩⟩, untyped⟩, rfl⟩
  | domain =>
      cases List.mem_singleton.1 mem
      rcases holds with ⟨free, gone, untyped⟩
      exact ⟨⟨⟨free, .inl ⟨marked, gone⟩⟩, untyped⟩, rfl⟩
  | computed =>
      cases List.mem_singleton.1 mem
      exact absurd ⟨existing, marked, holds⟩ source
  | autoIncrement =>
      cases List.mem_singleton.1 mem
      exact absurd ⟨fun _ => marked, holds⟩ generator
  | name => cases mem
  | nullable => cases mem
  | defaultValue => cases mem
  | description => cases mem

theorem exists_holds_of_writesType (existing : d.existing = true) (writes : d.WritesType)
    (untyped : d.current.LacksType) :
    ∃ part, d.isWritten part = true ∧ ∃ reason ∈ d.partReasons part, reason.holds := by
  unfold WritesType at writes
  rw [if_pos existing] at writes
  rcases writes with ⟨free, ⟨marked, gone⟩ | ⟨marked, alone⟩⟩
  · have written : d.isWritten .domain = true := (isWritten_iff_of_ne_type .domain nofun).2 marked
    exact ⟨.domain, written, _, List.mem_singleton_self _, free, gone, untyped⟩
  · have written : d.isWritten .type = true := isWritten_type_iff.2 ⟨marked, alone⟩
    exact ⟨.type, written, _, List.mem_singleton_self _, free, untyped⟩

theorem refusedFor_writingOrder (existing : d.existing = true) (source : ¬d.LosesSource)
    (generator : ¬(d.WritesGenerator ∧ d.current.LacksGenerator)) :
    RefusedFor (writingOrder.mapM d.writtenStatements)
      [⟨d.WritesType ∧ d.current.LacksType, .unnamedType d.current.typeCode⟩] := by
  refine (RefusedFor.mapM fun part _ => d.refusedFor_writtenStatements part).congr fun r => ?_
  have owner : ∀ reason, reason ∈ writingOrder.flatMap (fun part =>
      if d.isWritten part then d.partReasons part else []) ↔
        ∃ part, d.isWritten part = true ∧ reason ∈ d.partReasons part := by
    intro reason
    simp [List.mem_flatMap, mem_writingOrder]
  have typed : ∀ reason ∈ writingOrder.flatMap (fun part =>
      if d.isWritten part then d.partReasons part else []), reason.holds →
        (d.WritesType ∧ d.current.LacksType) ∧
          reason.refusal = .unnamedType d.current.typeCode := by
    intro reason mem holds
    rcases (owner reason).1 mem with ⟨part, written, mem⟩
    exact d.writesType_of_holds existing source generator written mem holds
  rw [firstReason_iff_of_alike fun reason mem holds => (typed reason mem holds).2]
  simp only [firstReason_cons, not_firstReason_nil, and_false, or_false]
  refine and_congr_left' ⟨?_, ?_⟩
  · rintro ⟨reason, mem, holds⟩
    exact (typed reason mem holds).1
  · rintro ⟨writes, untyped⟩
    rcases d.exists_holds_of_writesType existing writes untyped with
      ⟨part, written, reason, mem, holds⟩
    exact ⟨reason, (owner reason).2 ⟨part, written, mem⟩, holds⟩

theorem refusedFor_alteration (existing : d.existing = true) :
    RefusedFor d.alteration d.reasons := by
  refine (refusedFor_demand_some .table d.current.table).bind fun _ _ => ?_
  refine (refusedFor_demand_some .name d.current.name).bind fun _ _ => ?_
  have checked := d.refusedFor_checkedFirst existing
  refine checked.bind fun groups passed => ?_
  have free := checked.succeeds.1 ⟨groups, passed⟩
  simp only [List.forall_mem_cons] at free
  rcases free with ⟨source, generator, -⟩
  exact (d.refusedFor_writingOrder existing source generator).bind fun _ _ => refusedFor_ok _

/-! ## All columns -/

theorem refusedFor_toBatch : RefusedFor d.toBatch d.reasons := by
  unfold toBatch
  refine RefusedFor.map ?_ _
  split
  · rename_i existing
    exact d.refusedFor_alteration existing
  · rename_i fresh
    refine d.current.refusedFor_creation.congr fun r => ?_
    -- A new column has no source to lose, and whatever it generates is written.
    simp [reasons, LosesSource, WritesGenerator, WritesType, fresh, and_assoc]

/-- The statements of a column are refused for the first of five reasons that holds; without a
reason they are written. The reasons name the table, the name, the computed source, the sequence and
the type, in this order. -/
theorem refused_iff_firstReason :
    (∀ r, d.toBatch = .error r ↔ FirstReason d.reasons r) ∧
      ((∃ b, d.toBatch = .ok b) ↔ ∀ reason ∈ d.reasons, ¬reason.holds) ∧
      d.reasons.map (fun reason => reason.refusal.field.key) =
        ["table", "name", "computed", "generator_name", "type"] :=
  ⟨d.refusedFor_toBatch, d.refusedFor_toBatch.succeeds, rfl⟩

/-- A column without a name, whose values no sequence is named for, is told that it has no name. -/
example : toBatch (.ofNew { table := "T", name := " ", autoIncrement := some {} }) =
    .error (.missing .name) := by
  decide +kernel

end ColumnDraft
end SchemaChange
