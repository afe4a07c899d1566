import SchemaChange.Proofs.Constraint.Check
import SchemaChange.Proofs.Constraint.Key
import SchemaChange.Proofs.Constraint.Words

/-!
# Proofs.Constraint.Loaded — what can be refused of a constraint that was loaded

Whatever the system tables say, a constraint that was loaded carries what goes with its kind and
nothing else, and no column of it is blank. So its statements are refused for a few reasons only,
and never because a field does not go with the kind.

- `Constraint.IsBodyIn`         : what is loaded for a kind, whatever the answers are
- `Constraint.IsLoaded`         : a constraint as loading leaves it
- `Constraint.LackCondition`    : rows that have no condition for a CHECK
- `Constraint.Obstacle`         : what then stands in the way of its statements
- `Constraint.isLoaded_of_load` : nothing else does
-/

namespace SchemaChange
namespace Constraint

open Script (Batch)

/-! ## Columns -/

/-- The columns are the segments of the index; without an index there are none. -/
def HasColumns (catalog : Catalog) : Option String → List String → Prop
  | some index, columns => HasSegments catalog index columns
  | none, columns => columns = []

theorem hasColumns_of_finds {catalog : Catalog} {index : Option String} {columns : List String}
    (h : (loadColumns index).Finds catalog columns) : HasColumns catalog index columns := by
  cases index with
  | none => exact (Lookup.finds_done.1 h).symm
  | some index =>
      rcases Lookup.finds_bind.1 h with ⟨rows, asked, found⟩
      exact ⟨rows, finds_loadRows.1 asked, Lookup.finds_pure.1 found⟩

/-- Segments without a name are passed over. -/
theorem HasColumns.full {catalog : Catalog} {index : Option String} {columns : List String}
    (h : HasColumns catalog index columns) : ∀ column ∈ columns, Text.isBlank column = false := by
  intro column mem
  cases index with
  | none =>
      have none : columns = [] := h
      rw [none] at mem
      cases mem
  | some index =>
      have segments : HasSegments catalog index columns := h
      rcases segments.trim_of_mem mem with ⟨trimmed, nonempty⟩
      exact Text.isBlank_eq_false_iff.2 (by rwa [trimmed])

/-! ## Bodies -/

/-- The source of a CHECK is that of the first row, and empty without rows. -/
def checkSource (rows : List Catalog.Row) : String :=
  (rows.head?.bind fun row => row.text? "RDB$TRIGGER_SOURCE").getD ""

/-- The source as the first row stores it, if there is a row and it has a text there. -/
def storedSource? (rows : List Catalog.Row) : Option String :=
  (rows.head?.bind fun row => row.value? "RDB$TRIGGER_SOURCE").bind Catalog.Datum.text?

theorem checkSource_eq (rows : List Catalog.Row) :
    checkSource rows = (Text.nonBlank? (storedSource? rows)).getD "" := by
  cases rows with
  | nil => rfl
  | cons row rest => rfl

/-- The rows about a CHECK have no condition in them: no source, or one without a condition. -/
def LackCondition (rows : List Catalog.Row) : Prop :=
  ∀ source, storedSource? rows = some source → LacksCondition source

theorem isBlank_condition_iff {rows : List Catalog.Row} :
    Text.isBlank (conditionOfCheck (checkSource rows)) = true ↔ LackCondition rows := by
  unfold LackCondition
  rw [checkSource_eq]
  cases storedSource? rows with
  | none =>
      rw [Text.nonBlank?_none, Option.getD_none]
      exact iff_of_true (isBlank_conditionOfCheck_iff.2 (lacksCondition_of_blank rfl)) nofun
  | some source =>
      simp only [Option.some_inj, forall_eq']
      by_cases blank : Text.isBlank source = true
      · -- A blank source counts as none, and has no condition in it.
        rw [Text.nonBlank?_of_blank blank, Option.getD_none]
        exact iff_of_true (isBlank_conditionOfCheck_iff.2 (lacksCondition_of_blank rfl))
          (lacksCondition_of_blank blank)
      · rw [Bool.not_eq_true] at blank
        rw [Text.nonBlank?_of_full blank, Option.getD_some, conditionOfCheck_trim]
        exact isBlank_conditionOfCheck_iff

/-- What is loaded for each kind, whatever the answers are. -/
inductive IsBodyIn (catalog : Catalog) (table name : String) (index : Option String) :
    Kind → Constraint → Prop
  | check {rows : List Catalog.Row} (answer : catalog ⟨checkSql, [.text name]⟩ = .ok rows) :
      IsBodyIn catalog table name index .check
        (checkOn table (conditionOfCheck (checkSource rows)))
  | primary {columns : List String} (segments : HasColumns catalog index columns) :
      IsBodyIn catalog table name index .primary (primaryKey table columns)
  | unique {columns : List String} (segments : HasColumns catalog index columns) :
      IsBodyIn catalog table name index .unique (uniqueKey table columns)
  | foreign {columns referencedColumns : List String} {row : Catalog.Row}
      {rest : List Catalog.Row} (segments : HasColumns catalog index columns)
      (answer : catalog ⟨referenceSql, [.text name]⟩ = .ok (row :: rest))
      (referenced : HasColumns catalog (row.text? "REF_INDEX") referencedColumns) :
      IsBodyIn catalog table name index .foreign
        { kind := .foreign
          table := table
          columns := columns
          referencedTable := row.text? "REF_TABLE"
          updateRule := loadedRule row "RDB$UPDATE_RULE"
          deleteRule := loadedRule row "RDB$DELETE_RULE"
          referencedColumns := referencedColumns }

section Body

variable {catalog : Catalog} {table name : String} {index : Option String} {kind : Kind}
variable {body : Constraint}

theorem key_of_finds (h : (loadKey kind table index).Finds catalog body) :
    ∃ columns, HasColumns catalog index columns ∧
      body = { kind := kind, table := table, columns := columns } := by
  rcases Lookup.finds_bind.1 h with ⟨columns, segments, found⟩
  exact ⟨columns, hasColumns_of_finds segments, (Lookup.finds_pure.1 found).symm⟩

theorem isBodyIn_of_finds (h : (loadBody table name index kind).Finds catalog body) :
    IsBodyIn catalog table name index kind body := by
  cases kind with
  | check =>
      rcases Lookup.finds_bind.1 h with ⟨rows, asked, found⟩
      cases Lookup.finds_pure.1 found
      exact .check (finds_loadRows.1 asked)
  | primary =>
      rcases key_of_finds h with ⟨columns, segments, rfl⟩
      exact .primary segments
  | unique =>
      rcases key_of_finds h with ⟨columns, segments, rfl⟩
      exact .unique segments
  | foreign =>
      rcases Lookup.finds_bind.1 h with ⟨key, keyFound, behindKey⟩
      rcases key_of_finds keyFound with ⟨columns, segments, rfl⟩
      rcases finds_row.1 behindKey with ⟨row, rest, answer, behindRow⟩
      rcases Lookup.finds_bind.1 behindRow with ⟨referencedColumns, referenced, found⟩
      cases Lookup.finds_pure.1 found
      exact .foreign segments answer (hasColumns_of_finds referenced)

end Body

/-! ## Constraints that were loaded -/

/-- Nothing is there that does not go with the kind. -/
def CarriesOwn (c : Constraint) : Prop :=
  match c.kind with
  | .check => c.columns = [] ∧ c.referencedTable = none ∧ c.referencedColumns = []
  | .primary => c.referencedTable = none ∧ c.referencedColumns = [] ∧ c.checkExpression = none
  | .unique => c.referencedTable = none ∧ c.referencedColumns = [] ∧ c.checkExpression = none
  | .foreign => c.checkExpression = none

/-- A constraint as loading leaves it. -/
structure IsLoaded (catalog : Catalog) (table name : String) (c : Constraint) : Prop where
  existing : c.existing = true
  initialName : c.initialName = some name
  named : c.name = name
  nameByHand : c.nameByHand = false
  onTable : c.table = table
  payload : c.CarriesOwn
  columnsFull : ∀ column ∈ c.columns, Text.isBlank column = false
  referencedTableFull : ∀ referenced, c.referencedTable = some referenced →
    Text.isBlank referenced = false
  referencedColumnsFull : ∀ column ∈ c.referencedColumns, Text.isBlank column = false
  /-- A CHECK has a condition, which is blank only where there is none in its source. -/
  condition : c.kind = .check → ∃ rows expression, catalog ⟨checkSql, [.text name]⟩ = .ok rows ∧
    c.checkExpression = some expression ∧ (Text.isBlank expression = true ↔ LackCondition rows)

theorem IsBodyIn.isLoaded {catalog : Catalog} {table name : String} {index : Option String}
    {kind : Kind} {body : Constraint} (h : IsBodyIn catalog table name index kind body)
    (own : Option Index) :
    IsLoaded catalog table name { body with name := name, index := own }.asExisting := by
  have empty : ∀ column ∈ ([] : List String), Text.isBlank column = false :=
    List.forall_mem_nil _
  cases h with
  | check answer =>
      exact ⟨rfl, rfl, rfl, rfl, rfl, ⟨rfl, rfl, rfl⟩, empty, nofun, empty,
        fun _ => ⟨_, _, answer, rfl, isBlank_condition_iff⟩⟩
  | primary segments =>
      exact ⟨rfl, rfl, rfl, rfl, rfl, ⟨rfl, rfl, rfl⟩, segments.full, nofun, empty, nofun⟩
  | unique segments =>
      exact ⟨rfl, rfl, rfl, rfl, rfl, ⟨rfl, rfl, rfl⟩, segments.full, nofun, empty, nofun⟩
  | foreign segments answer referenced =>
      refine ⟨rfl, rfl, rfl, rfl, rfl, rfl, segments.full, ?_, referenced.full, nofun⟩
      intro target given
      rcases Catalog.Row.text?_eq_some given with ⟨trimmed, nonempty⟩
      exact Text.isBlank_eq_false_iff.2 (by rwa [trimmed])

/-! ## Refusals -/

/-- What stands in the way of the statements of a constraint that was loaded under a name. Of a
CHECK it is told by the source that the system tables have for the name. -/
inductive Obstacle (catalog : Catalog) (name : String) (c : Constraint) : Refusal → Prop
  | table (blank : Text.isBlank c.table = true) : Obstacle catalog name c (.missing .table)
  | name (blank : Text.isBlank c.name = true) : Obstacle catalog name c (.missing .name)
  | columns (key : c.kind ≠ .check) (none : c.columns = []) :
      Obstacle catalog name c (.noColumns .columns)
  | referencedTable (foreign : c.kind = .foreign) (none : c.referencedTable = none) :
      Obstacle catalog name c (.missing .referencedTable)
  | referencedColumns (foreign : c.kind = .foreign) (none : c.referencedColumns = []) :
      Obstacle catalog name c (.noColumns .referencedColumns)
  | counts (foreign : c.kind = .foreign)
      (differ : c.columns.length ≠ c.referencedColumns.length) :
      Obstacle catalog name c (.countMismatch c.columns.length c.referencedColumns.length)
  | condition {rows : List Catalog.Row} (check : c.kind = .check)
      (answer : catalog ⟨checkSql, [.text name]⟩ = .ok rows) (lack : LackCondition rows) :
      Obstacle catalog name c (.missing .checkExpression)

theorem demandPayload_of_carriesOwn {c : Constraint} (h : c.CarriesOwn) :
    c.demandPayload = .ok () := by
  have placed : c.misplaced? = none := by
    unfold CarriesOwn at h
    cases kind : c.kind with
    | check =>
        simp only [kind] at h
        simp [misplaced?, hasReference, kind, h]
    | primary =>
        simp only [kind] at h
        simp [misplaced?, hasReference, kind, h]
    | unique =>
        simp only [kind] at h
        simp [misplaced?, hasReference, kind, h]
    | foreign =>
        simp only [kind] at h
        simp [misplaced?, kind, h]
  rw [demandPayload, placed]

/-- Of columns that are not blank nothing but an empty list is refused. -/
theorem demandColumns_eq_error {field : Field} {columns : List String} {r : Refusal}
    (full : ∀ column ∈ columns, Text.isBlank column = false) :
    demandColumns field columns = .error r ↔ columns = [] ∧ .noColumns field = r := by
  have found : columns.findIdx? Text.isBlank = none :=
    List.findIdx?_eq_none_iff.2 full
  by_cases none : columns = []
  · simp [demandColumns, none]
  · simp [demandColumns, none, found]

section Refusals

variable {catalog : Catalog} {table name : String} {c : Constraint} {r : Refusal}

theorem IsLoaded.dropping_eq (h : IsLoaded catalog table name c) :
    c.dropping = (demand .name (some c.name)).map fun known => [c.dropStatement known] := by
  have known : c.knownName = c.name := by
    refine knownName_of_initialName ?_
    rw [h.named]
    exact h.initialName
  unfold dropping
  rw [if_pos h.existing, known]

theorem obstacle_of_keyClause (h : IsLoaded catalog table name c) (key : c.kind ≠ .check)
    (refused : c.keyClause = .error r) : Obstacle catalog name c r := by
  rcases bind_eq_error.1 refused with columns | ⟨_, _, written⟩
  · rcases (demandColumns_eq_error h.columnsFull).1 columns with ⟨none, rfl⟩
    exact .columns key none
  · cases written

theorem obstacle_of_referenceClause (h : IsLoaded catalog table name c)
    (foreign : c.kind = .foreign) (refused : c.referenceClause = .error r) :
    Obstacle catalog name c r := by
  have key : c.kind ≠ .check := by
    rw [foreign]
    exact Kind.noConfusion
  rcases bind_eq_error.1 refused with columns | ⟨_, _, refused⟩
  · rcases (demandColumns_eq_error h.columnsFull).1 columns with ⟨none, rfl⟩
    exact .columns key none
  rcases bind_eq_error.1 refused with target | ⟨_, _, refused⟩
  · rcases demand_eq_error.1 target with ⟨none, rfl⟩
    refine .referencedTable foreign ?_
    cases given : c.referencedTable with
    | none => rfl
    | some referenced =>
        -- A table that is there has a name.
        rw [given, Text.nonBlank?_some, h.referencedTableFull referenced given] at none
        cases none
  rcases bind_eq_error.1 refused with columns | ⟨_, _, refused⟩
  · rcases (demandColumns_eq_error h.referencedColumnsFull).1 columns with ⟨none, rfl⟩
    exact .referencedColumns foreign none
  split at refused
  · rename_i differ
    cases refused
    exact .counts foreign differ
  · cases refused

theorem obstacle_of_checkClause (h : IsLoaded catalog table name c) (check : c.kind = .check)
    (refused : c.checkClause = .error r) : Obstacle catalog name c r := by
  rcases h.condition check with ⟨rows, expression, answer, given, lack⟩
  rcases bind_eq_error.1 refused with demanded | ⟨_, _, written⟩
  · rw [given] at demanded
    rcases demand_some_eq_error.1 demanded with ⟨blank, rfl⟩
    exact .condition check answer (lack.1 blank)
  · cases written

theorem obstacle_of_clause (h : IsLoaded catalog table name c) (refused : c.clause = .error r) :
    Obstacle catalog name c r := by
  rcases bind_eq_error.1 refused with payload | ⟨_, _, refused⟩
  · rw [demandPayload_of_carriesOwn h.payload] at payload
    cases payload
  cases kind : c.kind with
  | primary =>
      rw [kind] at refused
      exact obstacle_of_keyClause h (by simp [kind]) refused
  | unique =>
      rw [kind] at refused
      exact obstacle_of_keyClause h (by simp [kind]) refused
  | foreign =>
      rw [kind] at refused
      exact obstacle_of_referenceClause h kind refused
  | check =>
      rw [kind] at refused
      exact obstacle_of_checkClause h kind refused

theorem obstacle_of_toBatch (h : IsLoaded catalog table name c) (refused : c.toBatch = .error r) :
    Obstacle catalog name c r := by
  rcases bind_eq_error.1 (map_eq_error.1 refused) with tableBlank | ⟨_, _, refused⟩
  · rcases demand_some_eq_error.1 tableBlank with ⟨blank, rfl⟩
    exact .table blank
  rcases bind_eq_error.1 refused with clause | ⟨_, _, refused⟩
  · exact obstacle_of_clause h clause
  rcases bind_eq_error.1 refused with nameBlank | ⟨_, _, written⟩
  · rw [h.dropping_eq] at nameBlank
    rcases demand_some_eq_error.1 (map_eq_error.1 nameBlank) with ⟨blank, rfl⟩
    exact .name blank
  · cases written

theorem columns_of_keyClause {clause : String} (written : c.keyClause = .ok clause) :
    c.columns ≠ [] := by
  rcases bind_eq_ok.1 written with ⟨_, columns, -⟩
  exact ne_nil_of_demandColumns columns

theorem reference_of_referenceClause {clause : String}
    (written : c.referenceClause = .ok clause) :
    c.columns ≠ [] ∧ c.referencedTable ≠ none ∧ c.referencedColumns ≠ [] ∧
      c.columns.length = c.referencedColumns.length := by
  rcases bind_eq_ok.1 written with ⟨_, columns, written⟩
  rcases bind_eq_ok.1 written with ⟨referenced, target, written⟩
  rcases bind_eq_ok.1 written with ⟨_, referencedColumns, written⟩
  have given : c.referencedTable ≠ none := by
    intro none
    rw [none] at target
    cases demand_eq_ok.1 target
  split at written
  · cases written
  · rename_i same
    exact ⟨ne_nil_of_demandColumns columns, given, ne_nil_of_demandColumns referencedColumns,
      not_not.1 same⟩

/-- Whatever stands in the way is noticed. -/
theorem not_obstacle_of_toBatch {b : Batch} (h : IsLoaded catalog table name c)
    (written : c.toBatch = .ok b) : ¬Obstacle catalog name c r := by
  rcases toBatch_eq_ok.1 written with ⟨tableFull, clause, dropped, hclause, hdropped, -⟩
  rcases bind_eq_ok.1 hclause with ⟨_, -, hkind⟩
  -- Each obstacle contradicts a check that was passed on the way to the statements.
  intro obstacle
  cases obstacle with
  | table blank =>
      rw [tableFull] at blank
      cases blank
  | name blank =>
      rw [h.dropping_eq] at hdropped
      rcases map_eq_ok.1 hdropped with ⟨known, nameGiven, -⟩
      rw [(demand_some_eq_ok.1 nameGiven).1] at blank
      cases blank
  | columns key none =>
      cases kind : c.kind with
      | primary =>
          rw [kind] at hkind
          exact columns_of_keyClause hkind none
      | unique =>
          rw [kind] at hkind
          exact columns_of_keyClause hkind none
      | foreign =>
          rw [kind] at hkind
          exact (reference_of_referenceClause hkind).1 none
      | check => exact key kind
  | referencedTable foreign none =>
      rw [foreign] at hkind
      exact (reference_of_referenceClause hkind).2.1 none
  | referencedColumns foreign none =>
      rw [foreign] at hkind
      exact (reference_of_referenceClause hkind).2.2.1 none
  | counts foreign differ =>
      rw [foreign] at hkind
      exact differ (reference_of_referenceClause hkind).2.2.2
  | condition check answer lack =>
      rw [check] at hkind
      rcases bind_eq_ok.1 hkind with ⟨_, demanded, -⟩
      rcases h.condition check with ⟨rows, expression, own, given, blank⟩
      cases own.symm.trans answer
      rw [given] at demanded
      have full := blank.2 lack
      rw [(demand_some_eq_ok.1 demanded).1] at full
      cases full

end Refusals

/-- A constraint that was loaded carries what its kind takes and nothing else. Written without an
edit, it is refused if and only if something of the table, the name, the columns, the reference or
the condition is not there, and never because a field does not go with the kind. -/
theorem isLoaded_of_load {catalog : Catalog} {table name : String} {c : Constraint}
    (loaded : ((load table name).run catalog).result = .ok c) :
    IsLoaded catalog table name c ∧
      (∀ r, c.toBatch = .error r →
        Obstacle catalog name c r ∧ ∀ field kind, r ≠ .notAllowed field kind) ∧
      ((∃ b, c.toBatch = .ok b) ↔ ∀ r, ¬Obstacle catalog name c r) := by
  rcases body_of_finds_load loaded with ⟨row, rest, kind, body, -, -, found, built⟩
  have left : IsLoaded catalog table name c := by
    rw [built]
    exact (isBodyIn_of_finds found).isLoaded (loadedIndex name row)
  refine ⟨left, ?_, ?_, ?_⟩
  · intro r refused
    refine ⟨obstacle_of_toBatch left refused, ?_⟩
    rintro field kind rfl
    cases obstacle_of_toBatch left refused
  · rintro ⟨b, written⟩ r
    exact not_obstacle_of_toBatch left written
  · intro free
    cases result : c.toBatch with
    | ok b => exact ⟨b, rfl⟩
    | error r => exact absurd (obstacle_of_toBatch left result) (free r)

/-- The row about a reference that leads nowhere: neither a table nor an index. -/
def looseReferenceRow : Catalog.Row :=
  ⟨["RDB$UPDATE_RULE", "RDB$DELETE_RULE", "REF_TABLE", "REF_INDEX"],
    [.text "SOMETIMES", .null, .text "  ", .null]⟩

/-- The system tables of a database with a foreign key that refers to nothing, over an index with a
segment that has no name. -/
def looseCatalog : Catalog :=
  .ofAnswers
    [ (⟨catalogSql, [.text "LINES", .text "FK_LINES"]⟩, [lineRow]),
      (⟨segmentsSql, [.text "IX_LINES"]⟩, [segmentRow "ORDER_ID  ", segmentRow "  "]),
      (⟨referenceSql, [.text "FK_LINES"]⟩, [looseReferenceRow]) ]

/-- What is loaded for that key. -/
def looseKey : Constraint where
  kind := .foreign
  table := "LINES"
  name := "FK_LINES"
  columns := ["ORDER_ID"]
  index := some ⟨"IX_LINES", .descending⟩
  existing := true
  initialName := some "FK_LINES"

/-- What is loaded for the CHECK of a table. -/
def loadedCheck (expression : String) : Constraint where
  kind := .check
  table := "T"
  name := "CK_T"
  checkExpression := some expression
  existing := true
  initialName := some "CK_T"

/-- A foreign key that refers to nothing, a CHECK with nothing between its parentheses, and one
that has a condition. -/
theorem isLoaded_of_load_loose :
    (((load "LINES" "FK_LINES").run looseCatalog).result = .ok looseKey ∧
        IsLoaded looseCatalog "LINES" "FK_LINES" looseKey ∧
        looseKey.toBatch = .error (.missing .referencedTable) ∧
        Obstacle looseCatalog "FK_LINES" looseKey (.missing .referencedTable)) ∧
      (((load "T" "CK_T").run (checkCatalog "CHECK ( )")).result = .ok (loadedCheck "") ∧
        (loadedCheck "").toBatch = .error (.missing .checkExpression) ∧
        Obstacle (checkCatalog "CHECK ( )") "CK_T" (loadedCheck "") (.missing .checkExpression)) ∧
      ((load "T" "CK_T").run (checkCatalog "CHECK (QTY > 0)")).result =
          .ok (loadedCheck "QTY > 0") ∧
        (loadedCheck "QTY > 0").toBatch = .ok (Batch.ofStatements
          [ "ALTER TABLE T DROP CONSTRAINT CK_T",
            "ALTER TABLE T ADD CONSTRAINT CK_T CHECK (QTY > 0)" ]) ∧
        ∀ r, ¬Obstacle (checkCatalog "CHECK (QTY > 0)") "CK_T" (loadedCheck "QTY > 0") r := by
  refine ⟨?_, ?_, ?_⟩
  · have loaded : ((load "LINES" "FK_LINES").run looseCatalog).result = .ok looseKey := by
      decide +kernel
    have refused : looseKey.toBatch = .error (.missing .referencedTable) := by
      decide +kernel
    rcases isLoaded_of_load loaded with ⟨left, obstacles, -⟩
    exact ⟨loaded, left, refused, (obstacles _ refused).1⟩
  · have loaded : ((load "T" "CK_T").run (checkCatalog "CHECK ( )")).result =
        .ok (loadedCheck "") := by
      decide +kernel
    have refused : (loadedCheck "").toBatch = .error (.missing .checkExpression) := by
      decide +kernel
    rcases isLoaded_of_load loaded with ⟨-, obstacles, -⟩
    exact ⟨loaded, refused, (obstacles _ refused).1⟩
  · have loaded : ((load "T" "CK_T").run (checkCatalog "CHECK (QTY > 0)")).result =
        .ok (loadedCheck "QTY > 0") := by
      decide +kernel
    have written : (loadedCheck "QTY > 0").toBatch = .ok (Batch.ofStatements
        [ "ALTER TABLE T DROP CONSTRAINT CK_T",
          "ALTER TABLE T ADD CONSTRAINT CK_T CHECK (QTY > 0)" ]) := by
      decide +kernel
    rcases isLoaded_of_load loaded with ⟨-, -, free⟩
    exact ⟨loaded, written, free.1 ⟨_, written⟩⟩

/-- A source that is not blank and has no condition in it is refused like one that is. -/
theorem emptyCondition_refused :
    (Text.isBlank "T" = false ∧ Text.isBlank "CK_T" = false ∧ Text.isBlank "CHECK ()" = false) ∧
      ∃ c, ((load "T" "CK_T").run (checkCatalog "CHECK ()")).result = .ok c ∧ c.kind = .check ∧
        c.toBatch = .error (.missing .checkExpression) := by
  have behind : Text.IsBehind "CHECK" "CHECK ()" ('(' :: ("".toList ++ [')'])) :=
    Text.isBehind_of_blank rfl
  have loaded := finds_load_check (checkCatalog_constraint _) kind_checkConstraintRow
    (checkCatalog_source _) (value?_sourceRow _) behind
  exact ⟨by decide, _, loaded, rfl, by decide +kernel⟩

end Constraint
end SchemaChange
