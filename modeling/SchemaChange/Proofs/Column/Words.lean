import SchemaChange.Column.Statements
import SchemaChange.Proofs.Column.TypeClause
import SchemaChange.Proofs.Refusal

/-!
# Proofs.Column.Words — statements of columns stay whole

Every statement of a new or of an existing column leads from plain text back to plain text, whatever
the names in it are, if the texts it takes over are safe.

- `Column.creationInsertions` : the texts that the statements of a new column take over
- `Column.partInsertions`     : those of the statements of one attribute
- `ColumnDraft.insertions`    : those of a draft
- `ColumnDraft.isWord_of_mem` : its statements stay whole
-/

namespace SchemaChange

open Script (IsWord IsTail IsJoint IsLead)
open Sql (Insertion isWord_identifier)

theorem isTail_optionalClause {leadIn : String} (hk : IsJoint leadIn) {text : Option String}
    (h : ∀ s, text = some s → IsWord s) : IsTail (optionalClause leadIn text) := by
  cases text with
  | none => exact Script.isTail_empty
  | some s => exact hk.word (h s rfl)

namespace Column

/-! ## Texts taken over -/

def typeInsertions (c : Column) : List Insertion :=
  c.typeClause?.toList.map .verbatim

/-- A domain is a name. -/
def storageInsertions (c : Column) : List Insertion :=
  match c.quotedDomain? with
  | some _ => []
  | none => c.typeInsertions

def defaultInsertions (c : Column) : List Insertion :=
  (Text.nonBlank? c.defaultValue).toList.map fun value => .ofLiteral value c.group

/-- An identity column takes neither default nor condition. -/
def valueInsertions (c : Column) : List Insertion :=
  match c.autoIncrement.filter AutoIncrement.isIdentity with
  | some _ => []
  | none => c.defaultInsertions ++ Sql.bareInsertions c.check

def definitionInsertions (c : Column) : List Insertion :=
  match Text.nonBlank? c.computed with
  | some _ => Sql.bareInsertions c.computed
  | none => c.storageInsertions ++ c.valueInsertions

def creationInsertions (c : Column) : List Insertion :=
  c.definitionInsertions ++ Sql.quotedInsertions c.description

def partInsertions (c : Column) : Part → List Insertion
  | .type => if c.keptBySystem then [] else c.typeInsertions
  | .defaultValue => c.defaultInsertions
  | .computed => Sql.bareInsertions c.computed
  | .description => Sql.commentInsertions c.description
  | .domain => if c.keptBySystem then [] else c.storageInsertions
  | .name => []
  | .nullable => []
  | .autoIncrement => []

variable {c : Column}

/-! ## Pieces of statements -/

theorem isWord_quotedTable (c : Column) : IsWord c.quotedTable :=
  isWord_identifier _

theorem isWord_quotedName (c : Column) : IsWord c.quotedName :=
  isWord_identifier _

theorem typeClause_eq_ok {clause : String} :
    c.typeClause = .ok clause ↔ c.typeClause? = some clause := by
  unfold typeClause
  cases c.typeClause? with
  | none => simp
  | some found => simp

theorem isWord_typeClause {clause : String} (h : c.typeClause = .ok clause)
    (safe : ∀ i ∈ c.typeInsertions, i.IsSafe) : IsWord clause := by
  have found := typeClause_eq_ok.1 h
  rcases isTrimmed_typeClause found with ⟨trimmed, nonempty⟩
  have closes := safe (.verbatim clause) (by simp [typeInsertions, found])
  exact Sql.isWord_verbatim closes (Text.trim_eq_self_iff.2 trimmed) nonempty

theorem isWord_storage {text : String} (h : c.storage = .ok text)
    (safe : ∀ i ∈ c.storageInsertions, i.IsSafe) : IsWord text := by
  unfold storageInsertions at safe
  unfold storage at h
  cases named : c.quotedDomain? with
  | some domain =>
      rw [named] at h
      cases h
      rcases Option.map_eq_some_iff.1 named with ⟨name, -, rfl⟩
      exact isWord_identifier name
  | none =>
      rw [named] at h safe
      exact isWord_typeClause h safe

theorem isWord_default {value : String} (h : Text.nonBlank? c.defaultValue = some value)
    (safe : ∀ i ∈ c.defaultInsertions, i.IsSafe) : IsWord (Sql.literal value c.group) := by
  rcases Text.nonBlank?_eq_some h with ⟨trimmed, nonempty⟩
  exact Sql.isWord_literal (safe _ (by simp [defaultInsertions, h])) trimmed nonempty

theorem isTail_valueClauses (safe : ∀ i ∈ c.valueInsertions, i.IsSafe) :
    IsTail c.valueClauses := by
  unfold valueInsertions at safe
  unfold valueClauses
  cases identity : c.autoIncrement.filter AutoIncrement.isIdentity with
  | some a =>
      -- Nothing is taken over but a number.
      have start : IsJoint " GENERATED BY DEFAULT AS IDENTITY (START WITH " :=
        Script.isJoint_ofList _ rfl
      have close : IsTail ")" := Script.isTail_ofList _ rfl
      exact (start.word (Sql.isWord_decimalInt a.startValue.toInt)).append close
  | none =>
      rw [identity] at safe
      rcases List.forall_mem_append.1 safe with ⟨hdefault, hcheck⟩
      have default : IsTail (optionalClause " DEFAULT "
          ((Text.nonBlank? c.defaultValue).map fun value => Sql.literal value c.group)) := by
        refine isTail_optionalClause (Script.isJoint_ofList _ rfl) ?_
        intro s hs
        rcases Option.map_eq_some_iff.1 hs with ⟨value, found, rfl⟩
        exact isWord_default found hdefault
      have nullability : IsTail (if c.nullable then "" else " NOT NULL") := by
        split
        · exact Script.isTail_empty
        · exact Script.isTail_ofList _ rfl
      have condition : IsTail
          (optionalClause " CHECK " ((Text.nonBlank? c.check).map Sql.grouped)) := by
        refine isTail_optionalClause (Script.isJoint_ofList _ rfl) ?_
        intro s hs
        rcases Option.map_eq_some_iff.1 hs with ⟨expression, found, rfl⟩
        exact Sql.isWord_grouped (Sql.isWord_of_bareInsertions found hcheck)
      exact (default.append nullability).append condition

theorem isTail_definition {text : String} (h : c.definition = .ok text)
    (safe : ∀ i ∈ c.definitionInsertions, i.IsSafe) : IsTail text := by
  unfold definitionInsertions at safe
  unfold definition at h
  cases computed : Text.nonBlank? c.computed with
  | some source =>
      rw [computed] at h safe
      cases h
      have lead : IsJoint " COMPUTED BY " := Script.isJoint_ofList _ rfl
      exact lead.word (Sql.isWord_grouped (Sql.isWord_of_bareInsertions computed safe))
  | none =>
      rw [computed] at h safe
      rcases map_eq_ok.1 h with ⟨storage, hstorage, rfl⟩
      have blank : IsJoint " " := Script.isJoint_ofList _ rfl
      rcases List.forall_mem_append.1 safe with ⟨hsafe, hvalues⟩
      exact (blank.word (isWord_storage hstorage hsafe)).append (isTail_valueClauses hvalues)

/-! ## Whole statements -/

theorem isWord_commentStatement (c : Column) {value : String} (h : IsWord value) :
    IsWord (c.commentStatement value) := by
  have lead : IsLead "COMMENT ON COLUMN " := Script.isLead_ofList _ rfl
  have dot : IsJoint "." := Script.isJoint_ofList _ rfl
  have verb : IsJoint " IS " := Script.isJoint_ofList _ rfl
  exact ((lead.word c.isWord_quotedTable).joint dot c.isWord_quotedName).joint verb h

theorem isWord_alterStatement (c : Column) {action : String} (h : IsWord action) :
    IsWord (c.alterStatement action) := by
  have lead : IsLead "ALTER TABLE " := Script.isLead_ofList _ rfl
  have verb : IsJoint " ALTER COLUMN " := Script.isJoint_ofList _ rfl
  have blank : IsJoint " " := Script.isJoint_ofList _ rfl
  exact ((lead.word c.isWord_quotedTable).joint verb c.isWord_quotedName).joint blank h

theorem isWord_fillTrigger (c : Column) (a : AutoIncrement) (generator : String) :
    IsWord (c.fillTrigger a generator) := by
  have lead : IsLead "CREATE OR ALTER TRIGGER " := Script.isLead_ofList _ rfl
  have table : IsJoint " FOR " := Script.isJoint_ofList _ rfl
  have condition : IsJoint " ACTIVE BEFORE INSERT POSITION 0 AS BEGIN IF (NEW." :=
    Script.isJoint_ofList _ rfl
  have target : IsJoint " IS NULL) THEN NEW." := Script.isJoint_ofList _ rfl
  have source : IsJoint " = NEXT VALUE FOR " := Script.isJoint_ofList _ rfl
  have close : IsTail "; END" := Script.isTail_ofList _ rfl
  have head := (lead.word (isWord_identifier (a.triggerFor (Text.trim c.table)))).joint table
    c.isWord_quotedTable
  have body := ((head.joint condition c.isWord_quotedName).joint target c.isWord_quotedName).joint
    source (isWord_identifier generator)
  exact body.append close

theorem isWord_of_mem_sequenceStatements (c : Column) (a : AutoIncrement) (generator : String) :
    ∀ s ∈ c.sequenceStatements a generator, IsWord s := by
  have sequence := isWord_identifier generator
  have restart : IsWord ("ALTER SEQUENCE " ++ Sql.identifier generator ++ " RESTART WITH " ++
      Text.decimalInt a.startValue.toInt) := by
    have lead : IsLead "ALTER SEQUENCE " := Script.isLead_ofList _ rfl
    have verb : IsJoint " RESTART WITH " := Script.isJoint_ofList _ rfl
    exact (lead.word sequence).joint verb (Sql.isWord_decimalInt a.startValue.toInt)
  refine List.forall_mem_append.2 ⟨?_, ?_⟩
  · split
    · have lead : IsLead "CREATE SEQUENCE " := Script.isLead_ofList _ rfl
      exact List.forall_mem_singleton.2 (lead.word sequence)
    · exact List.forall_mem_nil _
  · refine List.forall_mem_cons.2 ⟨restart, ?_⟩
    exact List.forall_mem_singleton.2 (c.isWord_fillTrigger a generator)

/-! ## New columns -/

theorem isWord_of_mem_newGenerator {statements : List String}
    (h : c.newGenerator = .ok statements) : ∀ s ∈ statements, IsWord s := by
  unfold newGenerator at h
  split at h
  · cases h
    exact List.forall_mem_nil _
  · split at h
    · cases h
      exact List.forall_mem_nil _
    · rcases map_eq_ok.1 h with ⟨generator, -, rfl⟩
      exact c.isWord_of_mem_sequenceStatements _ generator

theorem isWord_of_mem_creation {statements : List String} (h : c.creation = .ok statements)
    (safe : ∀ i ∈ c.creationInsertions, i.IsSafe) : ∀ s ∈ statements, IsWord s := by
  rcases bind_eq_ok.1 h with ⟨table, -, h⟩
  rcases bind_eq_ok.1 h with ⟨name, -, h⟩
  rcases bind_eq_ok.1 h with ⟨generator, hgenerator, h⟩
  rcases bind_eq_ok.1 h with ⟨definition, hdefinition, h⟩
  cases h
  rcases List.forall_mem_append.1 safe with ⟨hdef, hcomment⟩
  refine List.forall_mem_append.2 ⟨List.forall_mem_cons.2 ⟨?_, ?_⟩, ?_⟩
  · -- The column itself.
    have lead : IsLead "ALTER TABLE " := Script.isLead_ofList _ rfl
    have verb : IsJoint " ADD " := Script.isJoint_ofList _ rfl
    have column := (lead.word c.isWord_quotedTable).joint verb c.isWord_quotedName
    have key : IsTail (if c.primaryKey then " PRIMARY KEY" else "") := by
      split
      · exact Script.isTail_ofList _ rfl
      · exact Script.isTail_empty
    exact (column.append (isTail_definition hdefinition hdef)).append key
  · -- Its comment.
    intro s hs
    rcases Option.map_eq_some_iff.1 (Option.mem_toList.1 hs) with ⟨text, found, rfl⟩
    exact c.isWord_commentStatement (Sql.isWord_of_quotedInsertions found hcomment)
  · exact isWord_of_mem_newGenerator hgenerator

/-! ## Existing columns -/

theorem isWord_of_mem_nameChange (initial c : Column) : ∀ s ∈ nameChange initial c, IsWord s := by
  unfold nameChange
  split
  · exact List.forall_mem_nil _
  · have lead : IsLead "ALTER TABLE " := Script.isLead_ofList _ rfl
    have verb : IsJoint " ALTER COLUMN " := Script.isJoint_ofList _ rfl
    have target : IsJoint " TO " := Script.isJoint_ofList _ rfl
    have column := (lead.word c.isWord_quotedTable).joint verb initial.isWord_quotedName
    exact List.forall_mem_singleton.2 (column.joint target c.isWord_quotedName)

theorem isWord_of_mem_retyping {target : Except Refusal String} {statements : List String}
    (h : c.retyping target = .ok statements)
    (word : ∀ text, c.keptBySystem = false → target = .ok text → IsWord text) :
    ∀ s ∈ statements, IsWord s := by
  unfold retyping at h
  split at h
  · cases h
    exact List.forall_mem_nil _
  · rename_i free
    rcases map_eq_ok.1 h with ⟨text, htext, rfl⟩
    have verb : IsLead "TYPE " := Script.isLead_ofList _ rfl
    have action := verb.word (word text (by simpa using free) htext)
    exact List.forall_mem_singleton.2 (c.isWord_alterStatement action)

theorem isWord_defaultAction (safe : ∀ i ∈ c.defaultInsertions, i.IsSafe) :
    IsWord c.defaultAction := by
  unfold defaultAction
  split
  · rename_i value found
    have verb : IsLead "SET DEFAULT " := Script.isLead_ofList _ rfl
    exact verb.word (isWord_default found safe)
  · exact Script.isWord_ofList _ rfl

theorem isWord_of_mem_recomputing {statements : List String}
    (h : c.recomputing = .ok statements)
    (safe : ∀ i ∈ Sql.bareInsertions c.computed, i.IsSafe) : ∀ s ∈ statements, IsWord s := by
  unfold recomputing at h
  split at h
  · rename_i source found
    cases h
    have verb : IsLead "COMPUTED BY " := Script.isLead_ofList _ rfl
    have group := Sql.isWord_grouped (Sql.isWord_of_bareInsertions found safe)
    exact List.forall_mem_singleton.2 (c.isWord_alterStatement (verb.word group))
  · cases h

theorem isWord_of_mem_regenerating {statements : List String}
    (h : c.regenerating = .ok statements) : ∀ s ∈ statements, IsWord s := by
  unfold regenerating at h
  split at h
  · cases h
    exact List.forall_mem_nil _
  · rename_i a _
    split at h
    · cases h
      have verb : IsLead "RESTART WITH " := Script.isLead_ofList _ rfl
      have action := verb.word (Sql.isWord_decimalInt a.startValue.toInt)
      exact List.forall_mem_singleton.2 (c.isWord_alterStatement action)
    · rcases map_eq_ok.1 h with ⟨generator, -, rfl⟩
      exact c.isWord_of_mem_sequenceStatements a generator

theorem isWord_of_mem_partStatements {initial : Column} {part : Part} {statements : List String}
    (h : partStatements initial c part = .ok statements)
    (safe : ∀ i ∈ c.partInsertions part, i.IsSafe) : ∀ s ∈ statements, IsWord s := by
  cases part with
  | name =>
      cases h
      exact isWord_of_mem_nameChange initial c
  | type =>
      refine isWord_of_mem_retyping h ?_
      intro text free htext
      simp only [partInsertions, free] at safe
      exact isWord_typeClause htext safe
  | nullable =>
      cases h
      refine List.forall_mem_singleton.2 (c.isWord_alterStatement ?_)
      split
      · exact Script.isWord_ofList _ rfl
      · exact Script.isWord_ofList _ rfl
  | defaultValue =>
      cases h
      exact List.forall_mem_singleton.2 (c.isWord_alterStatement (isWord_defaultAction safe))
  | computed => exact isWord_of_mem_recomputing h safe
  | description =>
      cases h
      have value : IsWord (Sql.commentLiteral c.description) := Sql.isWord_commentLiteral safe
      exact List.forall_mem_singleton.2 (c.isWord_commentStatement value)
  | domain =>
      refine isWord_of_mem_retyping h ?_
      intro text free htext
      simp only [partInsertions, free] at safe
      exact isWord_storage htext safe
  | autoIncrement => exact isWord_of_mem_regenerating h

end Column

namespace ColumnDraft

variable {d : ColumnDraft}

/-- The texts that the statements of a draft take over. -/
def insertions (d : ColumnDraft) : List Insertion :=
  if d.existing then (writingOrder.filter d.isWritten).flatMap d.current.partInsertions
  else d.current.creationInsertions

theorem isWord_of_mem_alteration {statements : List String} (h : d.alteration = .ok statements)
    (safe : ∀ part ∈ writingOrder, d.isWritten part = true →
      ∀ i ∈ d.current.partInsertions part, i.IsSafe) : ∀ s ∈ statements, IsWord s := by
  rcases bind_eq_ok.1 h with ⟨table, -, h⟩
  rcases bind_eq_ok.1 h with ⟨name, -, h⟩
  rcases bind_eq_ok.1 h with ⟨checked, -, h⟩
  rcases bind_eq_ok.1 h with ⟨written, hwritten, h⟩
  cases h
  intro s hs
  -- The statement belongs to one attribute, which was touched or has no statements.
  rcases List.mem_flatten.1 hs with ⟨group, hgroup, hs⟩
  rcases exists_of_mapM_eq_ok hwritten hgroup with ⟨part, hpart, h⟩
  unfold writtenStatements at h
  split at h
  · rename_i marked
    exact Column.isWord_of_mem_partStatements h (safe part hpart marked) s hs
  · cases h
    cases hs

theorem isWord_of_mem {b : Script.Batch} (h : d.toBatch = .ok b)
    (safe : ∀ i ∈ d.insertions, i.IsSafe) : ∀ s ∈ b.statements, IsWord s := by
  unfold toBatch at h
  rcases map_eq_ok.1 h with ⟨statements, written, rfl⟩
  unfold insertions at safe
  split at written
  · rename_i existing
    rw [if_pos existing] at safe
    refine isWord_of_mem_alteration written ?_
    intro part hpart marked i hi
    exact safe i (List.mem_flatMap.2 ⟨part, List.mem_filter.2 ⟨hpart, marked⟩, hi⟩)
  · rename_i fresh
    rw [if_neg fresh] at safe
    exact Column.isWord_of_mem_creation written safe

end ColumnDraft
end SchemaChange
