import SchemaChange.Proofs.Constraint.Recreation
import SchemaChange.Proofs.Reason
import SchemaChange.Proofs.Sql.Identifier

/-!
# Proofs.Constraint.Refusal — which constraints can be written

The fields of a constraint can be filled in any combination, so what does not go with the kind is
looked at before what the kind asks for, and the name to drop a constraint by comes last. Whatever
is not refused is added, and dropped before if it exists.

- `Constraint.columnReasons`    : what may be wrong with a list of columns
- `Constraint.misplacedReasons` : what does not go with the kind
- `Constraint.ownReasons`       : what the kind asks for
- `Constraint.reasons`          : all of it, in its order
- `Constraint.adds_unless_firstReason` : nothing else is in the way
-/

namespace SchemaChange
namespace Constraint

open Sql (identifier)
open Script (Batch)

/-! ## Columns -/

/-- There is a column, and none of them is blank. -/
def columnReasons (field : Field) (columns : List String) : List Reason :=
  [ ⟨columns = [], .noColumns field⟩,
    ⟨∃ column ∈ columns, Text.isBlank column = true,
      .blankEntry field (columns.findIdx Text.isBlank)⟩ ]

theorem refusedFor_demandColumns (field : Field) (columns : List String) :
    RefusedFor (demandColumns field columns) (columnReasons field columns) := by
  intro r
  unfold demandColumns columnReasons
  by_cases none : columns = []
  · simp [none]
  · cases blank : columns.findIdx? Text.isBlank with
    | none =>
        have full : ¬∃ column ∈ columns, Text.isBlank column = true := by
          simpa using List.findIdx?_eq_none_iff.1 blank
        simp [none, full]
    | some position =>
        rcases List.findIdx?_eq_some_iff_findIdx_eq.1 blank with ⟨within, rfl⟩
        have found : ∃ column ∈ columns, Text.isBlank column = true :=
          List.findIdx_lt_length.1 within
        simp [none, found]

/-! ## Definitions -/

variable (c : Constraint)

/-- A CHECK has no columns, nothing but a FOREIGN KEY refers to another table, and nothing but a
CHECK has a condition. -/
def misplacedReasons : List Reason :=
  [ ⟨c.kind = .check ∧ c.columns ≠ [], .notAllowed .columns c.kind.keyword⟩,
    ⟨c.kind ≠ .foreign ∧ (Text.nonBlank? c.referencedTable ≠ none ∨ c.referencedColumns ≠ []),
      .notAllowed .referencedTable c.kind.keyword⟩,
    ⟨c.kind ≠ .check ∧ Text.nonBlank? c.checkExpression ≠ none,
      .notAllowed .checkExpression c.kind.keyword⟩ ]

theorem refusedFor_demandPayload : RefusedFor c.demandPayload c.misplacedReasons := by
  have checks : c.demandPayload =
      if c.kind = .check ∧ c.columns ≠ [] then .error (.notAllowed .columns c.kind.keyword)
      else if c.kind ≠ .foreign ∧ c.hasReference then
        .error (.notAllowed .referencedTable c.kind.keyword)
      else if c.kind ≠ .check ∧ (Text.nonBlank? c.checkExpression).isSome then
        .error (.notAllowed .checkExpression c.kind.keyword)
      else .ok () := by
    unfold demandPayload misplaced?
    split_ifs <;> rfl
  rw [checks]
  refine (((refusedFor_ok ()).check _).check _ |>.check _).congr fun r => ?_
  simp [misplacedReasons, hasReference, Option.isSome_iff_ne_none]

/-- A key has columns, a FOREIGN KEY refers to as many of another table, and a CHECK has a
condition. -/
def ownReasons : List Reason :=
  [ ⟨c.kind ≠ .check ∧ c.columns = [], .noColumns .columns⟩,
    ⟨c.kind ≠ .check ∧ ∃ column ∈ c.columns, Text.isBlank column = true,
      .blankEntry .columns (c.columns.findIdx Text.isBlank)⟩,
    ⟨c.kind = .foreign ∧ Text.nonBlank? c.referencedTable = none, .missing .referencedTable⟩,
    ⟨c.kind = .foreign ∧ c.referencedColumns = [], .noColumns .referencedColumns⟩,
    ⟨c.kind = .foreign ∧ ∃ column ∈ c.referencedColumns, Text.isBlank column = true,
      .blankEntry .referencedColumns (c.referencedColumns.findIdx Text.isBlank)⟩,
    ⟨c.kind = .foreign ∧ c.columns.length ≠ c.referencedColumns.length,
      .countMismatch c.columns.length c.referencedColumns.length⟩,
    ⟨c.kind = .check ∧ Text.nonBlank? c.checkExpression = none, .missing .checkExpression⟩ ]

theorem refusedFor_keyClause : RefusedFor c.keyClause (columnReasons .columns c.columns) :=
  (refusedFor_demandColumns .columns c.columns).bind fun _ _ => refusedFor_ok _

theorem refusedFor_referenceClause :
    RefusedFor c.referenceClause
      (columnReasons .columns c.columns ++
        ([⟨Text.nonBlank? c.referencedTable = none, .missing .referencedTable⟩] ++
          (columnReasons .referencedColumns c.referencedColumns ++
            [⟨c.columns.length ≠ c.referencedColumns.length,
              .countMismatch c.columns.length c.referencedColumns.length⟩]))) := by
  refine (refusedFor_demandColumns .columns c.columns).bind fun _ _ => ?_
  refine (refusedFor_demand .referencedTable c.referencedTable).bind fun _ _ => ?_
  refine (refusedFor_demandColumns .referencedColumns c.referencedColumns).bind fun _ _ => ?_
  refine refusedFor_singleton ?_ ?_
  · intro differ
    rw [if_pos differ]
    rfl
  · intro same
    rw [if_neg same]
    exact ⟨_, rfl⟩

theorem refusedFor_checkClause :
    RefusedFor c.checkClause
      [⟨Text.nonBlank? c.checkExpression = none, .missing .checkExpression⟩] :=
  (refusedFor_demand .checkExpression c.checkExpression).bind fun _ _ => refusedFor_ok _

theorem refusedFor_clause : RefusedFor c.clause (c.misplacedReasons ++ c.ownReasons) := by
  refine c.refusedFor_demandPayload.bind fun _ _ => ?_
  unfold ownReasons
  cases kind : c.kind with
  | primary =>
      refine c.refusedFor_keyClause.congr fun r => ?_
      simp [columnReasons]
  | unique =>
      refine c.refusedFor_keyClause.congr fun r => ?_
      simp [columnReasons]
  | foreign =>
      refine c.refusedFor_referenceClause.congr fun r => ?_
      simp [columnReasons]
  | check =>
      refine c.refusedFor_checkClause.congr fun r => ?_
      simp

/-! ## Statements -/

/-- The constraint exists, and neither the name it had nor the one it has now tells which it is. -/
def LacksKnownName : Prop :=
  c.existing = true ∧ Text.nonBlank? c.initialName = none ∧ Text.isBlank c.name = true

theorem isBlank_knownName_iff :
    Text.isBlank c.knownName = true ↔
      Text.nonBlank? c.initialName = none ∧ Text.isBlank c.name = true := by
  unfold knownName
  cases c.initialName with
  | none => simp
  | some name =>
      rw [Text.nonBlank?_some]
      cases blank : Text.isBlank name with
      | true => simp [blank]
      | false => simp [blank]

theorem refusedFor_dropping :
    RefusedFor c.dropping [⟨c.LacksKnownName, .missing .name⟩] := by
  unfold dropping LacksKnownName
  cases c.existing with
  | false => exact refusedFor_singleton nofun fun _ => ⟨[], rfl⟩
  | true =>
      refine ((refusedFor_demand_some .name c.knownName).map _).congr fun r => ?_
      simp [isBlank_knownName_iff]

/-- What may stand in the way of a constraint's statements. -/
def reasons : List Reason :=
  ⟨Text.isBlank c.table = true, .missing .table⟩ ::
    (c.misplacedReasons ++ c.ownReasons ++ [⟨c.LacksKnownName, .missing .name⟩])

theorem refusedFor_toBatch : RefusedFor c.toBatch c.reasons := by
  refine RefusedFor.map ?_ _
  unfold reasons statements
  rw [List.append_assoc]
  refine (refusedFor_demand_some .table c.table).bind fun _ _ => ?_
  refine c.refusedFor_clause.bind fun _ _ => ?_
  exact c.refusedFor_dropping.bind fun _ _ => refusedFor_ok _

/-! ## What is written -/

/-- The statement adds a constraint to a table. -/
def Adds (table statement : String) : Prop :=
  ∃ definition, statement = "ALTER TABLE " ++ identifier table ++ " ADD " ++ definition

/-- The statement drops a constraint of a table. -/
def Drops (table name statement : String) : Prop :=
  statement = "ALTER TABLE " ++ identifier table ++ " DROP CONSTRAINT " ++ identifier name

theorem adds_addStatement (clause : String) :
    Adds (Text.trim c.table) (c.addStatement clause) := by
  unfold addStatement alterTable
  split
  · exact ⟨clause, rfl⟩
  · refine ⟨"CONSTRAINT " ++ identifier (Text.trim c.name) ++ " " ++ clause, ?_⟩
    have verb : (" ADD CONSTRAINT " : String) = " ADD " ++ "CONSTRAINT " := rfl
    simp only [verb, String.append_assoc]

/-- Whatever the names are, what is added is not dropped. -/
theorem Adds.not_drops {table statement : String} (h : Adds table statement)
    (table' name : String) : ¬Drops table' name statement := by
  rcases h with ⟨definition, rfl⟩
  intro same
  have chars := congrArg String.toList same
  simp only [String.toList_append, List.append_assoc, List.append_cancel_left_eq] at chars
  -- Behind the table the one text goes on with `ADD` and the other with `DROP`.
  have verbs := (Sql.identifier_append_cancel (Sql.endsName_of_blank rfl)
    (Sql.endsName_of_blank rfl) chars).2
  cases verbs

theorem dropping_eq_ok {dropped : List String} (h : c.dropping = .ok dropped) :
    dropped =
      if c.existing then
        ["ALTER TABLE " ++ identifier (Text.trim c.table) ++ " DROP CONSTRAINT " ++
          identifier (Text.trim c.knownName)]
      else [] := by
  unfold dropping at h
  split at h
  · rename_i existing
    rcases map_eq_ok.1 h with ⟨name, demanded, rfl⟩
    rw [if_pos existing, (demand_some_eq_ok.1 demanded).2]
    rfl
  · rename_i fresh
    cases h
    rw [if_neg fresh]

/-- A constraint is refused for the first of twelve reasons that holds. Without a reason one
statement adds it, and one in front of that drops it if it exists. -/
theorem adds_unless_firstReason :
    (∀ r, c.toBatch = .error r ↔ FirstReason c.reasons r) ∧
      ((∀ reason ∈ c.reasons, ¬reason.holds) ↔
        ∃ added, Adds (Text.trim c.table) added ∧ (∀ table name, ¬Drops table name added) ∧
          c.toBatch = .ok (Batch.ofStatements
            ((if c.existing then
                ["ALTER TABLE " ++ identifier (Text.trim c.table) ++ " DROP CONSTRAINT " ++
                  identifier (Text.trim c.knownName)]
              else []) ++ [added]))) ∧
      c.reasons.map (fun reason => reason.refusal.field.key) =
        ["table", "columns", "referenced_table", "check_expression", "columns", "columns",
          "referenced_table", "referenced_columns", "referenced_columns", "referenced_columns",
          "check_expression", "name"] := by
  refine ⟨c.refusedFor_toBatch, ⟨?_, ?_⟩, rfl⟩
  · intro free
    rcases c.refusedFor_toBatch.succeeds.2 free with ⟨b, written⟩
    rcases toBatch_eq_ok.1 written with ⟨-, clause, dropped, -, hdropped, rfl⟩
    have added := c.adds_addStatement clause
    refine ⟨c.addStatement clause, added, added.not_drops, ?_⟩
    rw [written, c.dropping_eq_ok hdropped]
  · rintro ⟨added, -, -, written⟩
    exact c.refusedFor_toBatch.succeeds.1 ⟨_, written⟩

/-- A misplaced condition is told before a blank column. -/
example : toBatch { uniqueKey "T" ["A", ""] with checkExpression := some "A > 0" } =
    .error (.notAllowed .checkExpression "UNIQUE") := by
  decide +kernel

end Constraint
end SchemaChange
