import Mathlib.Data.List.Flatten
import Mathlib.Data.List.Pairwise
import SchemaChange.Proofs.Column.Edit
import SchemaChange.Proofs.Refusal
import SchemaChange.Proofs.Sql.Identifier

/-!
# Proofs.Column.Alteration — the attributes of a column are altered one by one

The statements of an existing column are those of its attributes in a row. What is written for one
attribute, and whether it can be written at all, does not depend on the others; only that the type
is left to the domain where both were touched.

- `ColumnDraft.only`              : the draft with one attribute touched
- `ColumnDraft.alteration_eq_ok`  : the statements of all attributes touched
- `Column.ChangesType`            : statements that change the type of a column
- `ColumnDraft.Composes`          : how the statements of a draft are put together
-/

namespace SchemaChange
namespace Column

open Sql (identifier EndsName endsName_of_blank)

/-! ## Statements that change a type -/

/-- The statement gives a column of a table another type. -/
def ChangesType (statement : String) : Prop :=
  ∃ table column target, statement =
    "ALTER TABLE " ++ identifier table ++ " ALTER COLUMN " ++ identifier column ++
      (" TYPE " ++ target)

/-- Of two beginnings of one text, one is the beginning of the other. -/
theorem not_prefix_append {first second : String} (longer : ¬first.toList <+: second.toList)
    (shorter : ¬second.toList <+: first.toList) (rest : String) :
    ¬first.toList <+: (second ++ rest).toList := by
  intro found
  have opens : second.toList <+: (second ++ rest).toList := by
    rw [String.toList_append]
    exact List.prefix_append _ _
  rcases List.prefix_or_prefix_of_prefix found opens with h | h
  · exact longer h
  · exact shorter h

/-- Names do not hide what is done to the column. -/
theorem action_eq {table column table' column' action action' : String}
    (blank : action.toList.head? = some ' ') (blank' : action'.toList.head? = some ' ')
    (h : "ALTER TABLE " ++ identifier table ++ " ALTER COLUMN " ++ identifier column ++ action =
      "ALTER TABLE " ++ identifier table' ++ " ALTER COLUMN " ++ identifier column' ++ action') :
    action = action' := by
  -- Either name ends in front of a blank, so what follows the names is the same as well.
  have verb : ∀ text : List Char, EndsName (" ALTER COLUMN ".toList ++ text) :=
    fun text => endsName_of_blank rfl
  have chars := congrArg String.toList h
  simp only [String.toList_append, List.append_assoc, List.append_cancel_left_eq] at chars
  have behindTable := (Sql.identifier_append_cancel (verb _) (verb _) chars).2
  rw [List.append_cancel_left_eq] at behindTable
  have behindColumn := (Sql.identifier_append_cancel (endsName_of_blank blank)
    (endsName_of_blank blank') behindTable).2
  exact String.toList_inj.1 behindColumn

/-- What is done to the column tells whether its type changes. -/
theorem not_changesType_of_action {table column action : String}
    (blank : action.toList.head? = some ' ') (other : ¬" TYPE ".toList <+: action.toList) :
    ¬ChangesType
      ("ALTER TABLE " ++ identifier table ++ " ALTER COLUMN " ++ identifier column ++ action) := by
  rintro ⟨table', column', target, same⟩
  have blank' : (" TYPE " ++ target).toList.head? = some ' ' := by
    rw [String.toList_append]
    rfl
  refine other ?_
  rw [action_eq blank blank' same, String.toList_append]
  exact List.prefix_append _ _

/-- So does the beginning of a statement that alters no table. -/
theorem not_changesType_of_lead {lead rest : String}
    (longer : ¬"ALTER TABLE ".toList <+: lead.toList)
    (shorter : ¬lead.toList <+: "ALTER TABLE ".toList) : ¬ChangesType (lead ++ rest) := by
  rintro ⟨table, column, target, same⟩
  refine not_prefix_append longer shorter rest ?_
  rw [same]
  simp only [String.toList_append, List.append_assoc]
  exact List.prefix_append _ _

theorem not_changesType_alterStatement (c : Column) {action : String}
    (h : ¬"TYPE ".toList <+: action.toList) : ¬ChangesType (c.alterStatement action) := by
  have other : ¬" TYPE ".toList <+: (" " ++ action).toList := by
    rw [String.toList_append]
    intro found
    exact h ((List.prefix_append_right_inj [' ']).1 found)
  unfold alterStatement
  rw [String.append_assoc]
  refine not_changesType_of_action ?_ other
  rw [String.toList_append]
  rfl

theorem not_changesType_of_mem_nameChange {initial c : Column} {s : String}
    (h : s ∈ nameChange initial c) : ¬ChangesType s := by
  unfold nameChange at h
  split at h
  · cases h
  · rw [List.mem_singleton] at h
    subst h
    have other : ¬" TYPE ".toList <+: (" TO " ++ c.quotedName).toList :=
      not_prefix_append (by decide) (by decide) _
    rw [String.append_assoc]
    refine not_changesType_of_action ?_ other
    rw [String.toList_append]
    rfl

theorem not_changesType_commentStatement (c : Column) (value : String) :
    ¬ChangesType (c.commentStatement value) := by
  unfold commentStatement
  simp only [String.append_assoc]
  exact not_changesType_of_lead (by decide) (by decide)

theorem not_changesType_of_mem_sequenceStatements {c : Column} {a : AutoIncrement}
    {generator s : String} (h : s ∈ c.sequenceStatements a generator) : ¬ChangesType s := by
  unfold sequenceStatements at h
  -- The sequence, where it starts, and the trigger: none of them alters a table.
  rcases List.mem_append.1 h with h | h
  · split at h
    · rw [List.mem_singleton] at h
      subst h
      exact not_changesType_of_lead (by decide) (by decide)
    · cases h
  · rcases List.mem_pair.1 h with rfl | rfl
    · simp only [String.append_assoc]
      exact not_changesType_of_lead (by decide) (by decide)
    · unfold fillTrigger
      simp only [String.append_assoc]
      exact not_changesType_of_lead (by decide) (by decide)

theorem not_changesType_of_mem_recomputing {c : Column} {texts : List String}
    (h : c.recomputing = .ok texts) {s : String} (hs : s ∈ texts) : ¬ChangesType s := by
  unfold recomputing at h
  split at h
  · cases h
    rw [List.mem_singleton] at hs
    subst hs
    exact c.not_changesType_alterStatement (not_prefix_append (by decide) (by decide) _)
  · cases h

theorem not_changesType_of_mem_regenerating {c : Column} {texts : List String}
    (h : c.regenerating = .ok texts) {s : String} (hs : s ∈ texts) : ¬ChangesType s := by
  unfold regenerating at h
  split at h
  · cases h
    cases hs
  · split at h
    · cases h
      rw [List.mem_singleton] at hs
      subst hs
      exact c.not_changesType_alterStatement (not_prefix_append (by decide) (by decide) _)
    · rcases map_eq_ok.1 h with ⟨generator, -, rfl⟩
      exact not_changesType_of_mem_sequenceStatements hs

/-- Of the statements of an existing column only those of the type and of the domain change its
type. -/
theorem part_of_changesType {initial c : Column} {part : Part} {texts : List String}
    (h : partStatements initial c part = .ok texts) {s : String} (hs : s ∈ texts)
    (changes : ChangesType s) : part = .type ∨ part = .domain := by
  -- What follows the name of the column is never `TYPE` for another attribute.
  cases part with
  | type => exact .inl rfl
  | domain => exact .inr rfl
  | name =>
      cases h
      exact absurd changes (not_changesType_of_mem_nameChange hs)
  | nullable =>
      cases h
      rw [List.mem_singleton] at hs
      subst hs
      refine absurd changes (c.not_changesType_alterStatement ?_)
      split <;> decide
  | defaultValue =>
      cases h
      rw [List.mem_singleton] at hs
      subst hs
      refine absurd changes (c.not_changesType_alterStatement ?_)
      unfold defaultAction
      split
      · exact not_prefix_append (by decide) (by decide) _
      · decide
  | computed => exact absurd changes (not_changesType_of_mem_recomputing h hs)
  | description =>
      cases h
      rw [List.mem_singleton] at hs
      subst hs
      exact absurd changes (c.not_changesType_commentStatement _)
  | autoIncrement => exact absurd changes (not_changesType_of_mem_regenerating h hs)

theorem retyping_cases {c : Column} {target : Except Refusal String} {texts : List String}
    (h : c.retyping target = .ok texts) : texts = [] ∨ ∃ s, texts = [s] := by
  unfold retyping at h
  split at h
  · cases h
    exact .inl rfl
  · rcases map_eq_ok.1 h with ⟨text, -, rfl⟩
    exact .inr ⟨_, rfl⟩

/-- No two statements of one attribute change the type. -/
theorem pairwise_partStatements {initial c : Column} {part : Part} {texts : List String}
    (h : partStatements initial c part = .ok texts) :
    texts.Pairwise fun s t => ¬(ChangesType s ∧ ChangesType t) := by
  by_cases retyped : part = .type ∨ part = .domain
  · have single : texts = [] ∨ ∃ s, texts = [s] := by
      rcases retyped with rfl | rfl
      · exact retyping_cases h
      · exact retyping_cases h
    rcases single with rfl | ⟨s, rfl⟩
    · exact List.Pairwise.nil
    · exact List.pairwise_singleton _ s
  · refine List.pairwise_of_forall_mem_list ?_
    rintro s hs t - ⟨changes, -⟩
    exact retyped (part_of_changesType h hs changes)

end Column

namespace ColumnDraft

open Column (Part partStatements)
open Script (Batch)

/-! ## One attribute -/

/-- The draft with the attribute touched and no other one. -/
def only (d : ColumnDraft) (part : Part) : ColumnDraft :=
  { d with marks := Marks.empty.insert part }

/-- The draft with one more attribute touched. -/
def mark (d : ColumnDraft) (part : Part) : ColumnDraft :=
  { d with marks := d.marks.insert part }

/-- The attributes that have statements, in the order of the statements. -/
def writtenParts (d : ColumnDraft) : List Part :=
  writingOrder.filter d.isWritten

/-- What is written if the attribute is the only one touched; nothing if that is refused. -/
def aloneStatements (d : ColumnDraft) (part : Part) : List String :=
  resultsOf ((d.only part).toBatch.map Batch.statements)

variable {d : ColumnDraft}

theorem mem_writingOrder (part : Part) : part ∈ writingOrder := by
  cases part <;> decide

theorem isMarked_mark {part other : Part} :
    (d.mark part).isMarked other = true ↔ part = other ∨ d.isMarked other = true :=
  Marks.contains_insert d.marks part other

theorem isMarked_only {part other : Part} :
    (d.only part).isMarked other = true ↔ part = other := by
  have inserted : (d.only part).isMarked other = true ↔
      part = other ∨ (Marks.empty : Marks Part).contains other = true :=
    Marks.contains_insert Marks.empty part other
  rw [inserted, Marks.contains_empty, Bool.false_eq_true, or_false]

/-- The type is left to the domain where both were touched. -/
theorem isWritten_iff {part : Part} :
    d.isWritten part = true ↔
      d.isMarked part = true ∧ ¬(part = .type ∧ d.isMarked .domain = true) := by
  rw [isWritten, Bool.and_eq_true, Bool.not_eq_true', ← Bool.not_eq_true, Bool.and_eq_true,
    beq_iff_eq]

theorem isWritten_iff_of_ne_type (part : Part) (other : part ≠ .type) :
    d.isWritten part = true ↔ d.isMarked part = true := by
  rw [isWritten_iff]
  exact and_iff_left fun both => other both.1

theorem isWritten_type_iff :
    d.isWritten .type = true ↔ d.isMarked .type = true ∧ d.isMarked .domain = false := by
  rw [isWritten_iff, and_iff_right rfl, Bool.not_eq_true]

theorem isWritten_only {part other : Part} :
    (d.only part).isWritten other = true ↔ part = other := by
  rw [isWritten_iff, isMarked_only, isMarked_only]
  constructor
  · exact And.left
  · rintro rfl
    refine ⟨rfl, ?_⟩
    rintro ⟨rfl, domain⟩
    cases domain

/-! ## All attributes -/

/-- The statements of one attribute, nothing if they are refused. -/
def partTexts (d : ColumnDraft) (part : Part) : List String :=
  resultsOf (partStatements d.initial d.current part)

theorem flatMap_ite {α β : Type} (p : α → Bool) (f : α → List β) (xs : List α) :
    xs.flatMap (fun a => if p a then f a else []) = (xs.filter p).flatMap f := by
  induction xs with
  | nil => rfl
  | cons a xs ih =>
      rw [List.flatMap_cons, ih]
      cases h : p a with
      | true => simp [h]
      | false => simp [h]

theorem exists_writtenStatements_iff {part : Part} :
    (∃ texts, d.writtenStatements part = .ok texts) ↔
      (d.isWritten part = true → ∃ texts, partStatements d.initial d.current part = .ok texts) := by
  unfold writtenStatements
  cases d.isWritten part <;> simp

/-- Whatever comes first, the statements are there exactly if those of each attribute are. -/
theorem alteration_eq_ok {statements : List String} :
    d.alteration = .ok statements ↔
      (Text.isBlank d.current.table = false ∧ Text.isBlank d.current.name = false ∧
        ∀ part, d.isWritten part = true →
          ∃ texts, partStatements d.initial d.current part = .ok texts) ∧
      statements = d.writtenParts.flatMap d.partTexts := by
  have texts : writingOrder.flatMap (fun part => resultsOf (d.writtenStatements part)) =
      d.writtenParts.flatMap d.partTexts := by
    rw [writtenParts, ← flatMap_ite]
    congr 1
    funext part
    unfold writtenStatements
    cases d.isWritten part <;> rfl
  unfold alteration
  constructor
  · intro h
    rcases bind_eq_ok.1 h with ⟨table, htable, h⟩
    rcases bind_eq_ok.1 h with ⟨name, hname, h⟩
    rcases bind_eq_ok.1 h with ⟨checked, -, h⟩
    rcases bind_eq_ok.1 h with ⟨written, hwritten, h⟩
    cases h
    rcases mapM_lists_eq_ok.1 hwritten with ⟨found, rfl⟩
    refine ⟨⟨exists_demand_some_iff.1 ⟨table, htable⟩, exists_demand_some_iff.1 ⟨name, hname⟩, ?_⟩,
      ?_⟩
    · intro part
      exact exists_writtenStatements_iff.1 (found part (mem_writingOrder part))
    · rw [← texts, List.flatMap_def]
  · rintro ⟨⟨htable, hname, found⟩, rfl⟩
    have found' : ∀ part, ∃ texts, d.writtenStatements part = .ok texts :=
      fun part => exists_writtenStatements_iff.2 (found part)
    rcases exists_demand_some_iff.2 htable with ⟨table, htable⟩
    rcases exists_demand_some_iff.2 hname with ⟨name, hname⟩
    refine bind_eq_ok.2 ⟨table, htable, bind_eq_ok.2 ⟨name, hname, ?_⟩⟩
    -- What is checked first is looked at once more with all the others.
    refine bind_eq_ok.2 ⟨_, mapM_lists_eq_ok.2 ⟨fun part _ => found' part, rfl⟩, ?_⟩
    refine bind_eq_ok.2 ⟨_, mapM_lists_eq_ok.2 ⟨fun part _ => found' part, rfl⟩, ?_⟩
    rw [← texts, List.flatMap_def]
    rfl

theorem partTexts_of_ok {part : Part} {texts : List String}
    (h : partStatements d.initial d.current part = .ok texts) : d.partTexts part = texts := by
  rw [partTexts, h, resultsOf]

theorem writtenParts_only (part : Part) : (d.only part).writtenParts = [part] := by
  have alone : (d.only part).isWritten = fun other => decide (part = other) := by
    funext other
    rw [Bool.eq_iff_iff, isWritten_only, decide_eq_true_iff]
  rw [writtenParts, alone]
  cases part <;> rfl

section Existing

variable (existing : d.existing = true)

include existing

theorem toBatch_eq_ok {b : Batch} :
    d.toBatch = .ok b ↔
      (Text.isBlank d.current.table = false ∧ Text.isBlank d.current.name = false ∧
        ∀ part, d.isWritten part = true →
          ∃ texts, partStatements d.initial d.current part = .ok texts) ∧
      b = Batch.ofStatements (d.writtenParts.flatMap d.partTexts) := by
  rw [toBatch, if_pos existing, map_eq_ok]
  constructor
  · rintro ⟨statements, h, rfl⟩
    rcases alteration_eq_ok.1 h with ⟨found, rfl⟩
    exact ⟨found, rfl⟩
  · rintro ⟨found, rfl⟩
    exact ⟨_, alteration_eq_ok.2 ⟨found, rfl⟩, rfl⟩

theorem toBatch_only_eq_ok {part : Part} {b : Batch} :
    (d.only part).toBatch = .ok b ↔
      Text.isBlank d.current.table = false ∧ Text.isBlank d.current.name = false ∧
        ∃ texts, partStatements d.initial d.current part = .ok texts ∧
          b = Batch.ofStatements texts := by
  have written := toBatch_eq_ok (d := d.only part) existing (b := b)
  rw [written, writtenParts_only, List.flatMap_singleton]
  constructor
  · rintro ⟨⟨table, name, found⟩, rfl⟩
    rcases found part (isWritten_only.2 rfl) with ⟨texts, h⟩
    exact ⟨table, name, texts, h, by rw [partTexts_of_ok h]⟩
  · rintro ⟨table, name, texts, h, rfl⟩
    have same : (d.only part).partTexts part = texts := partTexts_of_ok h
    refine ⟨⟨table, name, ?_⟩, by rw [same]⟩
    intro other alone
    rw [isWritten_only] at alone
    subst alone
    exact ⟨texts, h⟩

/-- Where a column can be altered at all, an attribute alone has its own statements. -/
theorem aloneStatements_eq (table : Text.isBlank d.current.table = false)
    (name : Text.isBlank d.current.name = false) : d.aloneStatements = d.partTexts := by
  funext part
  unfold aloneStatements
  cases h : partStatements d.initial d.current part with
  | ok texts =>
      have written := (toBatch_only_eq_ok existing).2 ⟨table, name, texts, h, rfl⟩
      rw [written, partTexts_of_ok h]
      rfl
  | error refusal =>
      -- What is refused among other attributes is refused alone too.
      have refused : d.partTexts part = [] := by
        rw [partTexts, h, resultsOf]
      rw [refused]
      cases written : (d.only part).toBatch with
      | error => rfl
      | ok b =>
          rcases (toBatch_only_eq_ok existing).1 written with ⟨-, -, texts, found, -⟩
          rw [h] at found
          cases found

theorem statements_eq {b : Batch} (h : d.toBatch = .ok b) :
    b = Batch.ofStatements (d.writtenParts.flatMap d.aloneStatements) := by
  rcases (toBatch_eq_ok existing).1 h with ⟨⟨table, name, -⟩, same⟩
  rw [same, aloneStatements_eq existing table name]

/-- At most one attribute with statements changes the type. -/
theorem pairwise_not_changesType {b : Batch} (h : d.toBatch = .ok b) :
    b.statements.Pairwise fun s t => ¬(Column.ChangesType s ∧ Column.ChangesType t) := by
  rcases (toBatch_eq_ok existing).1 h with ⟨⟨-, -, found⟩, rfl⟩
  have texts : ∀ part ∈ d.writtenParts,
      partStatements d.initial d.current part = .ok (d.partTexts part) := by
    intro part hpart
    rcases found part (List.mem_filter.1 hpart).2 with ⟨texts, h⟩
    rw [partTexts_of_ok h, h]
  refine List.pairwise_flatMap.2 ⟨fun part hpart => Column.pairwise_partStatements (texts part hpart), ?_⟩
  -- Between two attributes: the type and the domain are not written both.
  have different : d.writtenParts.Pairwise (· ≠ ·) := by
    refine List.Pairwise.filter d.isWritten ?_
    decide
  refine different.imp_of_mem ?_
  rintro part other hpart hother unequal s hs t ht ⟨changes, changes'⟩
  have written := isWritten_iff.1 (List.mem_filter.1 hpart).2
  have written' := isWritten_iff.1 (List.mem_filter.1 hother).2
  rcases Column.part_of_changesType (texts part hpart) hs changes with rfl | rfl
  · rcases Column.part_of_changesType (texts other hother) ht changes' with rfl | rfl
    · exact unequal rfl
    · exact written.2 ⟨rfl, written'.1⟩
  · rcases Column.part_of_changesType (texts other hother) ht changes' with rfl | rfl
    · exact written'.2 ⟨rfl, written.1⟩
    · exact unequal rfl

end Existing

/-! ## Drafts with different marks -/

theorem flatMap_writtenParts_sublist {d d' : ColumnDraft}
    (h : ∀ part, d.isWritten part = true → d'.isWritten part = true) (f : Part → List String) :
    (d.writtenParts.flatMap f).Sublist (d'.writtenParts.flatMap f) :=
  (List.monotone_filter_right writingOrder h).flatMap f

/-- What is said of the statements of an existing column, whatever is marked. -/
structure Composes (d : ColumnDraft) : Prop where
  /-- They can be written exactly if those of every attribute can be written alone. -/
  written_iff : (∃ b, d.toBatch = .ok b) ↔
    Text.isBlank d.current.table = false ∧ Text.isBlank d.current.name = false ∧
      ∀ part, d.isWritten part = true → ∃ b, (d.only part).toBatch = .ok b
  /-- They are those of the attributes alone, in a fixed order of the attributes. -/
  statements : ∀ b, d.toBatch = .ok b →
    b = Batch.ofStatements
      (([.name, .type, .nullable, .defaultValue, .computed, .description, .domain,
        .autoIncrement].filter d.isWritten).flatMap d.aloneStatements)
  untouched : (∀ part, d.isMarked part = false) → ∀ b, d.toBatch = .ok b → b.statements = []
  /-- One more mark takes nothing away, but for the type that is left to the domain. -/
  marking : ∀ part b b', d.toBatch = .ok b → (d.mark part).toBatch = .ok b' →
    (part = .domain → d.isMarked .type = false) → b.statements.Sublist b'.statements
  markingDomain : ∀ b', (d.mark .domain).toBatch = .ok b' →
    (([.name, .nullable, .defaultValue, .computed, .description, .domain,
      .autoIncrement].filter d.isWritten).flatMap d.aloneStatements).Sublist b'.statements
  /-- No two statements change the type. -/
  retyping : ∀ b, d.toBatch = .ok b →
    b.statements.Pairwise fun s t => ¬(Column.ChangesType s ∧ Column.ChangesType t)

/-- The statements of an existing column are put together attribute by attribute. -/
theorem composes_of_existing (d : ColumnDraft) (existing : d.existing = true) : Composes d where
  written_iff := by
    constructor
    · rintro ⟨b, h⟩
      rcases (toBatch_eq_ok existing).1 h with ⟨⟨table, name, found⟩, -⟩
      refine ⟨table, name, ?_⟩
      intro part written
      rcases found part written with ⟨texts, h⟩
      exact ⟨_, (toBatch_only_eq_ok existing).2 ⟨table, name, texts, h, rfl⟩⟩
    · rintro ⟨table, name, alone⟩
      refine ⟨_, (toBatch_eq_ok existing).2 ⟨⟨table, name, ?_⟩, rfl⟩⟩
      intro part written
      rcases alone part written with ⟨b, h⟩
      rcases (toBatch_only_eq_ok existing).1 h with ⟨-, -, texts, h, -⟩
      exact ⟨texts, h⟩
  statements := fun b h => statements_eq existing h
  untouched := by
    intro clean b h
    have nothing : d.writtenParts = [] := by
      refine List.filter_eq_nil_iff.2 ?_
      intro part _
      rw [isWritten_iff, clean part]
      simp
    rw [statements_eq existing h, nothing]
    rfl
  marking := by
    intro part b b' h h' kept
    rw [statements_eq existing h, statements_eq (d := d.mark part) existing h']
    refine flatMap_writtenParts_sublist ?_ d.aloneStatements
    intro other
    rw [isWritten_iff, isWritten_iff, isMarked_mark, isMarked_mark]
    -- Only the type can lose its statement, and only if the new mark is that of the domain.
    rintro ⟨marked, free⟩
    refine ⟨.inr marked, ?_⟩
    rintro ⟨rfl, rfl | domain⟩
    · rw [kept rfl] at marked
      cases marked
    · exact free ⟨rfl, domain⟩
  markingDomain := by
    intro b' h'
    have others : writingOrder.filter (· ≠ .type) =
        [.name, .nullable, .defaultValue, .computed, .description, .domain, .autoIncrement] := rfl
    rw [statements_eq (d := d.mark .domain) existing h', ← others, List.filter_filter]
    refine List.Sublist.flatMap (List.monotone_filter_right writingOrder ?_) d.aloneStatements
    intro other
    rw [Bool.and_eq_true, decide_eq_true_iff, isWritten_iff, isWritten_iff, isMarked_mark]
    rintro ⟨⟨marked, -⟩, single⟩
    exact ⟨.inr marked, fun both => single both.1⟩
  retyping := fun b h => pairwise_not_changesType existing h

/-- A column that was renamed, given a type and given a domain. -/
def renamedAndRetyped : ColumnDraft where
  initial := { table := "T", name := "A" }
  current := { table := "T", name := "B", size := some 20, domain := some "D" }
  marks := ((Marks.empty.insert .domain).insert .type).insert .name
  existing := true

theorem composes_of_existing_renamed :
    renamedAndRetyped.existing = true ∧ Composes renamedAndRetyped ∧
      renamedAndRetyped.toBatch = .ok (Batch.ofStatements
        ["ALTER TABLE T ALTER COLUMN A TO B", "ALTER TABLE T ALTER COLUMN B TYPE D"]) :=
  ⟨rfl, composes_of_existing renamedAndRetyped rfl, by decide +kernel⟩

end ColumnDraft
end SchemaChange
