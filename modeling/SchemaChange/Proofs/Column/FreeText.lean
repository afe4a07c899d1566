import SchemaChange.Proofs.Column.Alteration
import SchemaChange.Proofs.Frame

/-!
# Proofs.Column.FreeText — descriptions of columns

The description of a column is the literal of a comment. A column that is created is described
without the blanks around the text, a column that is there with the text as it is given.

- `Column.commentHead`                : the statement of a comment in front of its literal
- `Column.writesText_creation`        : a column that is created
- `ColumnDraft.writesText_alteration` : a column that is there
-/

namespace SchemaChange

namespace Column

/-- The statement of a comment, as far as it stands in front of the literal. -/
def commentHead (c : Column) : String :=
  "COMMENT ON COLUMN " ++ c.quotedTable ++ "." ++ c.quotedName ++ " IS"

/-- The column with a description. -/
def described (c : Column) (text : String) : Column :=
  { c with description := some text }

theorem commentStatement_eq (c : Column) (literal : String) :
    c.commentStatement literal = "" ++ c.commentHead ++ " " ++ literal ++ "" := by
  have head : (" IS " : String) = " IS" ++ " " := by decide
  unfold commentStatement commentHead
  rw [head]
  simp only [String.empty_append, String.append_empty, String.append_assoc]

/-! ## Columns that are created -/

/-- The statement that adds a column. -/
def additionText (c : Column) (definition : String) : String :=
  "ALTER TABLE " ++ c.quotedTable ++ " ADD " ++ c.quotedName ++ definition ++
    (if c.primaryKey then " PRIMARY KEY" else "")

theorem creation_described (c : Column) {x : String} (full : Text.isBlank x = false) :
    (c.described x).creation = demand .table (some c.table) >>= fun _ =>
      demand .name (some c.name) >>= fun _ => c.newGenerator >>= fun generator =>
        c.definition >>= fun definition =>
          .ok (c.additionText definition ::
            c.commentStatement (Sql.quoteText (Text.trim x)) :: generator) := by
  have given : Text.nonBlank? (some x) = some (Text.trim x) := Text.nonBlank?_of_full full
  have steps : (c.described x).creation = demand .table (some c.table) >>= fun _ =>
      demand .name (some c.name) >>= fun _ => c.newGenerator >>= fun generator =>
        c.definition >>= fun definition =>
          .ok (c.additionText definition ::
            (((Text.nonBlank? (some x)).map fun text =>
              c.commentStatement (Sql.quoteText text)).toList ++ generator)) := rfl
  rw [steps, given]
  rfl

theorem writesText_creation (c : Column) :
    WritesText c.commentHead Text.trim fun x => (c.described x).creation := by
  refine WritesText.congr ?_ fun x full => c.creation_described full
  refine .bind fun _ _ => .bind fun _ _ => .bind fun generator _ => .bind fun definition _ => ?_
  refine .of_frame ⟨[c.additionText definition], "", "", generator⟩ ?_
  intro x _
  rw [commentStatement_eq]
  rfl

end Column

namespace ColumnDraft

open Column (Part)

/-! ## Columns that are there -/

/-- No other attribute looks at the description. -/
theorem partStatements_described (initial c : Column) {part : Part} (other : part ≠ .description)
    (x : String) :
    Column.partStatements initial (c.described x) part = Column.partStatements initial c part := by
  cases part with
  | description => exact absurd rfl other
  | name | type | nullable | defaultValue | computed | domain | autoIncrement => rfl

theorem writtenStatements_description_of_ne (d : ColumnDraft) {part : Part}
    (other : part ≠ .description) (x : String) :
    (d.applyEdit (.description (some x))).writtenStatements part =
      (d.mark .description).writtenStatements part := by
  have statements := partStatements_described d.initial d.current other x
  have written : (d.applyEdit (.description (some x))).isWritten part =
      (d.mark .description).isWritten part := rfl
  rw [writtenStatements, writtenStatements, written]
  exact congrArg (fun texts => if (d.mark .description).isWritten part then texts else .ok [])
    statements

theorem writtenStatements_description (d : ColumnDraft) {x : String}
    (full : Text.isBlank x = false) :
    (d.applyEdit (.description (some x))).writtenStatements .description =
      .ok [d.current.commentStatement (Sql.quoteText x)] := by
  have marked : (d.applyEdit (.description (some x))).isMarked .description = true :=
    (Draft.isMarked_change d _ _ _).2 (.inl rfl)
  have written : (d.applyEdit (.description (some x))).isWritten .description = true := by
    rw [isWritten, marked]
    rfl
  have literal : Sql.commentLiteral (some x) = Sql.quoteText x := by
    rw [Sql.commentLiteral, full]
    rfl
  rw [writtenStatements, if_pos written, ← literal]
  rfl

/-- The statements in front of the comment and behind it are the same for all texts. -/
theorem alteration_description (d : ColumnDraft) {front back : List Part}
    (order : writingOrder = front ++ .description :: back)
    (others : ∀ part ∈ front ++ back, part ≠ .description) {x : String}
    (full : Text.isBlank x = false) :
    (d.applyEdit (.description (some x))).alteration =
      demand .table (some d.current.table) >>= fun _ =>
        demand .name (some d.current.name) >>= fun _ =>
          checkedFirst.mapM (d.mark .description).writtenStatements >>= fun _ =>
            front.mapM (d.mark .description).writtenStatements >>= fun first =>
              back.mapM (d.mark .description).writtenStatements >>= fun last =>
                .ok (first.flatten ++
                  d.current.commentStatement (Sql.quoteText x) :: last.flatten) := by
  have around := mapM_around (d.writtenStatements_description full)
    fun part mem => d.writtenStatements_description_of_ne (others part mem) x
  have checks : checkedFirst.mapM (d.applyEdit (.description (some x))).writtenStatements =
      checkedFirst.mapM (d.mark .description).writtenStatements := by
    refine mapM_congr ?_
    intro part checked
    refine d.writtenStatements_description_of_ne ?_ x
    rintro rfl
    exact absurd checked (by decide)
  unfold alteration
  rw [checks, order, around]
  congr 1
  funext _
  congr 1
  funext _
  congr 1
  funext _
  cases front.mapM (d.mark .description).writtenStatements with
  | error r => rfl
  | ok first =>
      cases back.mapM (d.mark .description).writtenStatements with
      | error r => rfl
      | ok last =>
          change Except.ok _ = Except.ok _
          rw [List.flatten_append, List.flatten_cons, List.singleton_append]

theorem writesText_alteration (d : ColumnDraft) :
    WritesText d.current.commentHead id fun x =>
      (d.applyEdit (.description (some x))).alteration := by
  rcases exists_around (by decide) (mem_writingOrder .description) with ⟨front, back, order, others⟩
  refine WritesText.congr ?_ fun x full => d.alteration_description order others full
  refine .bind fun _ _ => .bind fun _ _ => .bind fun _ _ => .bind fun first _ =>
    .bind fun last _ => ?_
  refine .of_frame ⟨first.flatten, "", "", last.flatten⟩ ?_
  intro x _
  rw [Column.commentStatement_eq]
  rfl

end ColumnDraft
end SchemaChange
