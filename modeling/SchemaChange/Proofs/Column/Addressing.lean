import SchemaChange.Proofs.Column.Coverage

/-!
# Proofs.Column.Addressing — statements name the column that is there

An existing column is renamed before anything else is done to it. So the statement that renames it
knows it by its old name, and all statements behind that by its new one. What a statement names is
read off its text, whatever the names are.

- `Column.renameText`, `Column.alterText`, `Column.commentText`, `Column.triggerText` : the statements about
  a column
- `Column.Mentions` : the column that a statement can be read to be about
- `Column.Concerns` : statements about a column that leave its name alone
- `Column.Concerns.eq_of_mentions` : they can be read in no other way
- `ColumnDraft.addresses_applyEdits` : the statements behind a run of setters
-/

namespace SchemaChange
namespace Column

open Sql (identifier endsName_of_blank endsName_of_head)

/-! ## Statements about a column -/

def renameText (table old new : String) : String :=
  "ALTER TABLE " ++ identifier table ++ " ALTER COLUMN " ++ identifier old ++ " TO " ++
    identifier new

def alterText (table column action : String) : String :=
  "ALTER TABLE " ++ identifier table ++ " ALTER COLUMN " ++ identifier column ++ " " ++ action

def commentText (table column value : String) : String :=
  "COMMENT ON COLUMN " ++ identifier table ++ "." ++ identifier column ++ " IS " ++ value

/-- A trigger names a column twice: the one that it looks at and the one that it fills. -/
def triggerText (trigger table checked filled source : String) : String :=
  "CREATE OR ALTER TRIGGER " ++ identifier trigger ++ " FOR " ++ identifier table ++
    " ACTIVE BEFORE INSERT POSITION 0 AS BEGIN IF (NEW." ++ identifier checked ++
    " IS NULL) THEN NEW." ++ identifier filled ++ " = " ++ source

/-- The statement can be read to be about a column of a table. -/
inductive Mentions (table column statement : String) : Prop
  | altered (action : String) (text : statement = alterText table column action)
  | described (value : String) (text : statement = commentText table column value)
  | checked (trigger filled source : String)
      (text : statement = triggerText trigger table column filled source)
  | filled (trigger checked source : String)
      (text : statement = triggerText trigger table checked column source)

/-- The statement is about a column of a table and leaves its name alone, or it gets a sequence
ready. -/
inductive Concerns (table column : String) : String → Prop
  | altered {action : String} (stays : ¬"TO ".toList <+: action.toList) :
      Concerns table column (alterText table column action)
  | described (value : String) : Concerns table column (commentText table column value)
  | filled (trigger source : String) :
      Concerns table column (triggerText trigger table column column source)
  | created (rest : String) : Concerns table column ("CREATE SEQUENCE " ++ rest)
  | restarted (rest : String) : Concerns table column ("ALTER SEQUENCE " ++ rest)

/-! ## Reading a statement -/

/-- What a statement does is told by its first nine characters. -/
def opening (statement : String) : String :=
  String.ofList (statement.toList.take 9)

theorem opening_append {lead : String} (long : 9 ≤ lead.toList.length) (rest : String) :
    opening (lead ++ rest) = opening lead := by
  rw [opening, opening, String.toList_append, List.take_append_of_le_length long]

@[simp] theorem opening_alterTable (rest : String) :
    opening ("ALTER TABLE " ++ rest) = "ALTER TAB" := by
  rw [opening_append (by decide)]
  decide

@[simp] theorem opening_comment (rest : String) :
    opening ("COMMENT ON COLUMN " ++ rest) = "COMMENT O" := by
  rw [opening_append (by decide)]
  decide

@[simp] theorem opening_trigger (rest : String) :
    opening ("CREATE OR ALTER TRIGGER " ++ rest) = "CREATE OR" := by
  rw [opening_append (by decide)]
  decide

@[simp] theorem opening_createSequence (rest : String) :
    opening ("CREATE SEQUENCE " ++ rest) = "CREATE SE" := by
  rw [opening_append (by decide)]
  decide

@[simp] theorem opening_alterSequence (rest : String) :
    opening ("ALTER SEQUENCE " ++ rest) = "ALTER SEQ" := by
  rw [opening_append (by decide)]
  decide

@[simp] theorem opening_renameText (table old new : String) :
    opening (renameText table old new) = "ALTER TAB" := by
  unfold renameText
  simp only [String.append_assoc, opening_alterTable]

@[simp] theorem opening_alterText (table column action : String) :
    opening (alterText table column action) = "ALTER TAB" := by
  unfold alterText
  simp only [String.append_assoc, opening_alterTable]

@[simp] theorem opening_commentText (table column value : String) :
    opening (commentText table column value) = "COMMENT O" := by
  unfold commentText
  simp only [String.append_assoc, opening_comment]

@[simp] theorem opening_triggerText (trigger table checked filled source : String) :
    opening (triggerText trigger table checked filled source) = "CREATE OR" := by
  unfold triggerText
  simp only [String.append_assoc, opening_trigger]

theorem ne_of_opening {s t : String} (h : opening s ≠ opening t) : s ≠ t :=
  fun same => h (congrArg opening same)

/-- Two names with a fixed text between them are told by what they and that text make up. -/
theorem names_append_cancel {a b a' b' : String} {x y : List Char} {between : String} {c : Char}
    (head : between.toList.head? = some c) (ends : c ≠ '\x22' ∧ Sql.isBareChar c = false)
    (hx : Sql.EndsName x) (hy : Sql.EndsName y)
    (h : (identifier a).toList ++ (between.toList ++ ((identifier b).toList ++ x)) =
      (identifier a').toList ++ (between.toList ++ ((identifier b').toList ++ y))) :
    a = a' ∧ b = b' ∧ x = y := by
  have front : ∀ text : List Char, Sql.EndsName (between.toList ++ text) := by
    intro text
    refine endsName_of_head (c := c) ?_ ends
    rw [List.head?_append, head]
    rfl
  rcases Sql.identifier_append_cancel (front _) (front _) h with ⟨first, behind⟩
  rw [List.append_cancel_left_eq] at behind
  rcases Sql.identifier_append_cancel hx hy behind with ⟨second, rest⟩
  exact ⟨first, second, rest⟩

theorem alterText_eq {table column action table' column' action' : String}
    (h : alterText table column action = alterText table' column' action') :
    table = table' ∧ column = column' ∧ action = action' := by
  unfold alterText at h
  have chars := congrArg String.toList h
  simp only [String.toList_append, List.append_assoc, List.append_cancel_left_eq] at chars
  have blank : ∀ text : List Char, Sql.EndsName (" ".toList ++ text) :=
    fun text => endsName_of_blank rfl
  rcases names_append_cancel rfl (by decide) (blank _) (blank _) chars with ⟨tables, columns, rest⟩
  rw [List.append_cancel_left_eq] at rest
  exact ⟨tables, columns, String.toList_inj.1 rest⟩

theorem commentText_eq {table column value table' column' value' : String}
    (h : commentText table column value = commentText table' column' value') :
    table = table' ∧ column = column' := by
  unfold commentText at h
  have chars := congrArg String.toList h
  simp only [String.toList_append, List.append_assoc, List.append_cancel_left_eq] at chars
  have blank : ∀ text : List Char, Sql.EndsName (" IS ".toList ++ text) :=
    fun text => endsName_of_blank rfl
  rcases names_append_cancel rfl (by decide) (blank _) (blank _) chars with ⟨tables, columns, -⟩
  exact ⟨tables, columns⟩

theorem triggerText_eq {trigger table checked filled source : String}
    {trigger' table' checked' filled' source' : String}
    (h : triggerText trigger table checked filled source =
      triggerText trigger' table' checked' filled' source') :
    table = table' ∧ checked = checked' ∧ filled = filled' := by
  unfold triggerText at h
  have chars := congrArg String.toList h
  simp only [String.toList_append, List.append_assoc, List.append_cancel_left_eq] at chars
  have body : ∀ text : List Char, Sql.EndsName
      (" ACTIVE BEFORE INSERT POSITION 0 AS BEGIN IF (NEW.".toList ++ text) :=
    fun text => endsName_of_blank rfl
  have value : ∀ text : List Char, Sql.EndsName (" = ".toList ++ text) :=
    fun text => endsName_of_blank rfl
  rcases names_append_cancel rfl (by decide) (body _) (body _) chars with ⟨-, tables, behind⟩
  rw [List.append_cancel_left_eq] at behind
  rcases names_append_cancel rfl (by decide) (value _) (value _) behind with ⟨looked, written, -⟩
  exact ⟨tables, looked, written⟩

/-! ### What is read is what was written -/

theorem Concerns.eq_of_mentions {table column s : String} (h : Concerns table column s)
    {table' column' : String} (read : Mentions table' column' s) :
    table' = table ∧ column' = column := by
  -- Either the statement opens otherwise than it is read, or both write the names in one place.
  cases h with
  | @altered action _ =>
      rcases read with ⟨_, same⟩ | ⟨_, same⟩ | ⟨_, _, _, same⟩ | ⟨_, _, _, same⟩
      · rcases alterText_eq same with ⟨tables, columns, -⟩
        exact ⟨tables.symm, columns.symm⟩
      · exact absurd same (ne_of_opening (by simp))
      · exact absurd same (ne_of_opening (by simp))
      · exact absurd same (ne_of_opening (by simp))
  | described value =>
      rcases read with ⟨_, same⟩ | ⟨_, same⟩ | ⟨_, _, _, same⟩ | ⟨_, _, _, same⟩
      · exact absurd same (ne_of_opening (by simp))
      · rcases commentText_eq same with ⟨tables, columns⟩
        exact ⟨tables.symm, columns.symm⟩
      · exact absurd same (ne_of_opening (by simp))
      · exact absurd same (ne_of_opening (by simp))
  | filled trigger source =>
      rcases read with ⟨_, same⟩ | ⟨_, same⟩ | ⟨_, _, _, same⟩ | ⟨_, _, _, same⟩
      · exact absurd same (ne_of_opening (by simp))
      · exact absurd same (ne_of_opening (by simp))
      · rcases triggerText_eq same with ⟨tables, looked, -⟩
        exact ⟨tables.symm, looked.symm⟩
      · rcases triggerText_eq same with ⟨tables, -, written⟩
        exact ⟨tables.symm, written.symm⟩
  | created rest =>
      rcases read with ⟨_, same⟩ | ⟨_, same⟩ | ⟨_, _, _, same⟩ | ⟨_, _, _, same⟩ <;>
        exact absurd same (ne_of_opening (by simp))
  | restarted rest =>
      rcases read with ⟨_, same⟩ | ⟨_, same⟩ | ⟨_, _, _, same⟩ | ⟨_, _, _, same⟩ <;>
        exact absurd same (ne_of_opening (by simp))

theorem renameText_eq_alterText (table old new : String) :
    renameText table old new = alterText table old ("TO " ++ identifier new) := by
  have verb : (" TO " : String) = " " ++ "TO " := rfl
  unfold renameText alterText
  simp only [verb, String.append_assoc]

theorem Concerns.ne_renameText {table column s : String} (h : Concerns table column s)
    (table' old new : String) : s ≠ renameText table' old new := by
  cases h with
  | @altered action stays =>
      intro same
      rw [renameText_eq_alterText] at same
      rcases alterText_eq same with ⟨-, -, rfl⟩
      refine stays ?_
      rw [String.toList_append]
      exact List.prefix_append _ _
  | described value => exact ne_of_opening (by simp)
  | filled trigger source => exact ne_of_opening (by simp)
  | created rest => exact ne_of_opening (by simp)
  | restarted rest => exact ne_of_opening (by simp)

/-! ## What is written -/

variable {was now : Column} {texts : List String} {s : String}

theorem fillTrigger_eq_triggerText (c : Column) (a : AutoIncrement) (generator : String) :
    c.fillTrigger a generator =
      triggerText (a.triggerFor (Text.trim c.table)) (Text.trim c.table) c.name c.name
        ("NEXT VALUE FOR " ++ identifier generator ++ "; END") := by
  have verb : (" = NEXT VALUE FOR " : String) = " = " ++ "NEXT VALUE FOR " := rfl
  unfold fillTrigger quotedTable quotedName triggerText
  simp only [verb, String.append_assoc]

/-- Only the statement of the name renames the column. -/
theorem concerns_of_carries {part : Part} (other : part ≠ .name) (h : Carries was now part s) :
    Concerns (Text.trim now.table) now.name s := by
  -- Whatever is done to the column, it is not `TO`.
  cases h with
  | rename => exact absurd rfl other
  | retype => exact .altered (not_prefix_append (by decide) (by decide) _)
  | admitNull => exact .altered (by decide)
  | refuseNull => exact .altered (by decide)
  | setDefault => exact .altered (not_prefix_append (by decide) (by decide) _)
  | dropDefault => exact .altered (by decide)
  | recompute => exact .altered (not_prefix_append (by decide) (by decide) _)
  | describe => exact .described _
  | takeDomain => exact .altered (not_prefix_append (by decide) (by decide) _)
  | leaveDomain => exact .altered (not_prefix_append (by decide) (by decide) _)
  | restartIdentity => exact .altered (not_prefix_append (by decide) (by decide) _)
  | attachSequence =>
      rw [fillTrigger_eq_triggerText]
      exact .filled _ _

theorem concerns_of_mem_partStatements {part : Part} (other : part ≠ .name)
    (h : partStatements was now part = .ok texts) (hs : s ∈ texts) :
    Concerns (Text.trim now.table) now.name s := by
  rcases carries_of_mem_partStatements h hs with carries | ⟨rest, rfl | rfl⟩
  · exact concerns_of_carries other carries
  · exact .created rest
  · exact .restarted rest

end Column

namespace ColumnDraft

open Column (Concerns Mentions nameChange partStatements renameText)
open Script (Batch)

/-! ## Statements behind edits -/

variable {d : ColumnDraft} {b : Batch}

/-- The statements of all attributes but the name. -/
def otherStatements (d : ColumnDraft) : List String :=
  (d.writtenParts.filter (· ≠ .name)).flatMap d.partTexts

/-- Renaming comes first. Where the name was not touched it is the same, and there is nothing to
rename either. -/
theorem statements_eq_nameChange_append (existing : d.existing = true)
    (kept : d.isMarked .name = false → d.initial.name = d.current.name)
    (written : d.toBatch = .ok b) :
    b.statements = nameChange d.initial d.current ++ d.otherStatements := by
  have first : d.partTexts .name = nameChange d.initial d.current := partTexts_of_ok rfl
  have others : d.writtenParts.filter (· ≠ .name) = writingOrder.tail.filter d.isWritten := by
    rw [writtenParts, List.filter_comm]
    rfl
  rcases (toBatch_eq_ok existing).1 written with ⟨-, rfl⟩
  show d.writtenParts.flatMap d.partTexts = _
  rw [otherStatements, others, writtenParts, writingOrder, List.filter_cons, List.tail_cons]
  cases renamed : d.isWritten .name with
  | true => rw [if_pos rfl, List.flatMap_cons, first]
  | false =>
      have unmarked : d.isMarked .name = false := by
        rw [← Bool.not_eq_true] at renamed ⊢
        exact fun marked => renamed (isWritten_iff.2 ⟨marked, fun both => by cases both.1⟩)
      have nothing : nameChange d.initial d.current = [] := if_pos (kept unmarked)
      rw [if_neg Bool.false_ne_true, nothing, List.nil_append]

/-- All other statements find the column under its present name. -/
theorem concerns_of_mem_otherStatements (existing : d.existing = true)
    (written : d.toBatch = .ok b) {s : String} (hs : s ∈ d.otherStatements) :
    Concerns (Text.trim d.current.table) d.current.name s := by
  rcases (toBatch_eq_ok existing).1 written with ⟨⟨-, -, found⟩, -⟩
  rcases List.mem_flatMap.1 hs with ⟨part, hpart, hs⟩
  rcases List.mem_filter.1 hpart with ⟨hpart, other⟩
  rcases found part (List.mem_filter.1 hpart).2 with ⟨texts, h⟩
  rw [partTexts_of_ok h] at hs
  exact Column.concerns_of_mem_partStatements (of_decide_eq_true other) h hs

theorem Account.name_eq_of_not_isMarked {values : Column} {existing : Bool}
    {edits : List Column.Edit} (account : Account values existing edits d)
    (unmarked : d.isMarked .name = false) : d.initial.name = d.current.name := by
  rw [account.initial]
  by_contra different
  have marked : d.isMarked .name = true :=
    account.changed .name fun same => different same.symm
  rw [unmarked] at marked
  cases marked

/-- Where the statements of an existing column are written, it is renamed exactly if it has another
name, by the first of them. The others are about the column by its present name, and cannot be read
to be about another one. -/
theorem addresses_applyEdits {was : Column} {edits : List Column.Edit} {b : Batch}
    (written : toBatch (applyEdits (.ofExisting was) edits) = .ok b) :
    let now := (applyEdits (.ofExisting was) edits).current
    ((∃ s ∈ b.statements, ∃ table old new, s = renameText table old new) ↔ now.name ≠ was.name) ∧
      ∃ rest,
        b.statements = (if now.name = was.name then []
          else [renameText (Text.trim was.table) was.name now.name]) ++ rest ∧
        ∀ s ∈ rest, Concerns (Text.trim was.table) now.name s ∧
          ∀ table column, Mentions table column s →
            table = Text.trim was.table ∧ column = now.name := by
  intro now
  have account : Account was true edits (applyEdits (.ofExisting was) edits) :=
    account_applyEdits was true edits
  -- No setter moves a column to another table.
  have table : now.table = was.table := congrArg Prod.fst account.base
  have change : nameChange was now = if now.name = was.name then []
      else [renameText (Text.trim was.table) was.name now.name] := by
    rw [nameChange, ← table]
    simp only [eq_comm]
    rfl
  have split := statements_eq_nameChange_append account.existing account.name_eq_of_not_isMarked
    written
  rw [account.initial, change] at split
  have concerns : ∀ s ∈ otherStatements (applyEdits (.ofExisting was) edits),
      Concerns (Text.trim was.table) now.name s := by
    intro s hs
    rw [← table]
    exact concerns_of_mem_otherStatements account.existing written hs
  refine ⟨⟨?_, ?_⟩, _, split, fun s hs => ⟨concerns s hs, ?_⟩⟩
  · -- None of the others renames, so nothing does where the first is left out.
    rintro ⟨s, hs, table', old, new, renames⟩ same
    rw [split, if_pos same, List.nil_append] at hs
    exact (concerns s hs).ne_renameText table' old new renames
  · intro different
    refine ⟨renameText (Text.trim was.table) was.name now.name, ?_, _, _, _, rfl⟩
    rw [split, if_neg different]
    exact List.mem_append_left _ (List.mem_singleton_self _)
  · exact fun table' column read => (concerns s hs).eq_of_mentions read

/-- A column whose name cannot do without quotes. -/
def oddlyNamed : Column :=
  { table := " Orders ", name := "a TO b" }

theorem addresses_applyEdits_oddlyNamed :
    let edits : List Column.Edit := [.name "C", .autoIncrement (some (.generator "G" 5)),
      .description (some "in cents"), .name "c\x22d", .nullable false]
    let b := Batch.ofStatements
      [ "ALTER TABLE \x22Orders\x22 ALTER COLUMN \x22a TO b\x22 TO \x22c\x22\x22d\x22",
        "ALTER TABLE \x22Orders\x22 ALTER COLUMN \x22c\x22\x22d\x22 SET NOT NULL",
        "COMMENT ON COLUMN \x22Orders\x22.\x22c\x22\x22d\x22 IS 'in cents'",
        "CREATE SEQUENCE G",
        "ALTER SEQUENCE G RESTART WITH 5",
        "CREATE OR ALTER TRIGGER \x22Orders_BI\x22 FOR \x22Orders\x22 " ++
          "ACTIVE BEFORE INSERT POSITION 0 AS BEGIN IF (NEW.\x22c\x22\x22d\x22 IS NULL) " ++
          "THEN NEW.\x22c\x22\x22d\x22 = NEXT VALUE FOR G; END" ]
    toBatch (applyEdits (.ofExisting oddlyNamed) edits) = .ok b ∧
      (∃ s ∈ b.statements, ∃ table old new, s = renameText table old new) ∧
      ∃ rest, b.statements = renameText "Orders" "a TO b" "c\x22d" :: rest ∧
        ∀ s ∈ rest, Concerns "Orders" "c\x22d" s := by
  intro edits b
  have written : toBatch (applyEdits (.ofExisting oddlyNamed) edits) = .ok b := by decide +kernel
  have table : Text.trim oddlyNamed.table = "Orders" := by decide +kernel
  have renamed : (applyEdits (.ofExisting oddlyNamed) edits).current.name ≠ oddlyNamed.name := by
    decide
  rcases addresses_applyEdits written with ⟨renames, rest, split, concerns⟩
  rw [if_neg renamed, table] at split
  rw [table] at concerns
  exact ⟨written, renames.2 renamed, rest, split, fun s hs => (concerns s hs).1⟩

end ColumnDraft
end SchemaChange
