import SchemaChange.Proofs.Constraint.Recreation

/-!
# Proofs.Constraint.Key — keys are added again as they were

A key that is loaded and written without an edit is dropped and added again, with the columns, the
reference, the rules and the index that the system tables have for it.

- `Constraint.Key`                  : a key as the system tables describe it
- `Constraint.IsKeyIn`              : where they describe it
- `Constraint.recreates_of_isKeyIn` : the statements of a key that was loaded
-/

namespace SchemaChange
namespace Constraint

open Sql (identifier)
open Script (Batch)

/-! ## Keys in the system tables -/

/-- What a foreign key refers to, and what becomes of its rows. -/
structure Reference where
  table : String
  columns : List String
  updateRule : Rule
  deleteRule : Rule
  deriving DecidableEq, Repr

/-- The kinds of constraints with an index behind them. -/
inductive KeyKind
  | primary
  | unique
  | foreign (reference : Reference)
  deriving DecidableEq, Repr

namespace KeyKind

def kind : KeyKind → Kind
  | .primary => .primary
  | .unique => .unique
  | .foreign _ => .foreign

def reference? : KeyKind → Option Reference
  | .foreign reference => some reference
  | _ => none

end KeyKind

/-- A key as the system tables describe it. -/
structure Key where
  kind : KeyKind
  columns : List String
  /-- The index behind the key. -/
  index : Index
  deriving DecidableEq, Repr

/-- The segments of an index name the columns, in this order. -/
def HasSegments (catalog : Catalog) (index : String) (columns : List String) : Prop :=
  ∃ rows, catalog ⟨segmentsSql, [.text index]⟩ = .ok rows ∧
    rows.filterMap (fun row => row.text? "RDB$FIELD_NAME") = columns

/-- The row of a key's own: its kind, the name of its index and the direction of the index. -/
structure IsRowOf (key : Key) (row : Catalog.Row) : Prop where
  kind : (row.text? "RDB$CONSTRAINT_TYPE").bind Kind.ofKeyword? = some key.kind.kind
  index : row.text? "RDB$INDEX_NAME" = some key.index.name
  sort : key.index.sort = .descending ↔ row.integer? "RDB$INDEX_TYPE" = some 1

/-- The row of a reference: the other table, the rules and the other index. -/
structure IsReferenceRow (catalog : Catalog) (reference : Reference) (row : Catalog.Row) :
    Prop where
  table : row.text? "REF_TABLE" = some reference.table
  updateRule : (row.text? "RDB$UPDATE_RULE").bind Rule.ofKeyword? = some reference.updateRule
  deleteRule : (row.text? "RDB$DELETE_RULE").bind Rule.ofKeyword? = some reference.deleteRule
  columns : ∃ index, row.text? "REF_INDEX" = some index ∧
    HasSegments catalog index reference.columns

/-- The system tables describe the key under the name, on the table. -/
structure IsKeyIn (catalog : Catalog) (table name : String) (key : Key) : Prop where
  row : ∃ row rest, catalog ⟨catalogSql, [.text table, .text name]⟩ = .ok (row :: rest) ∧
    IsRowOf key row
  columns : HasSegments catalog key.index.name key.columns
  nonempty : key.columns ≠ []
  reference : ∀ reference, key.kind = .foreign reference →
    reference.columns.length = key.columns.length ∧
      ∃ row rest, catalog ⟨referenceSql, [.text name]⟩ = .ok (row :: rest) ∧
        IsReferenceRow catalog reference row

/-! ## Keys as constraints -/

namespace Key

/-- The index is not one that the database makes along with the constraint. -/
def hasOwnIndex (key : Key) (name : String) : Bool :=
  key.index.name != name && !Catalog.isSystemName key.index.name

/-- The constraint without its name and its index. -/
def content (key : Key) (table : String) : Constraint where
  kind := key.kind.kind
  table := table
  columns := key.columns
  referencedTable := key.kind.reference?.map Reference.table
  referencedColumns := (key.kind.reference?.map Reference.columns).getD []
  updateRule := (key.kind.reference?.map Reference.updateRule).getD .noAction
  deleteRule := (key.kind.reference?.map Reference.deleteRule).getD .noAction

/-- The constraint that is loaded for the key. -/
def toConstraint (key : Key) (table name : String) : Constraint :=
  { key.content table with
    name := name
    index := if key.hasOwnIndex name then some key.index else none }.asExisting

/-- Names as statements write them, between commas. -/
def names (columns : List String) : String :=
  ", ".intercalate (columns.map identifier)

/-- The columns of the key and of what it refers to. -/
def body (key : Key) : String :=
  match key.kind with
  | .primary => "PRIMARY KEY (" ++ names key.columns ++ ")"
  | .unique => "UNIQUE (" ++ names key.columns ++ ")"
  | .foreign reference =>
      "FOREIGN KEY (" ++ names key.columns ++ ") REFERENCES " ++ identifier reference.table ++
        " (" ++ names reference.columns ++ ") ON UPDATE " ++ reference.updateRule.keyword ++
        " ON DELETE " ++ reference.deleteRule.keyword

/-- The index, unless the database makes it along with the constraint. -/
def usingIndex (key : Key) (name : String) : String :=
  if key.hasOwnIndex name then
    " USING " ++ key.index.sort.keyword ++ " INDEX " ++ identifier key.index.name
  else ""

end Key

/-! ## Loading -/

variable {catalog : Catalog} {table name : String} {key : Key}

theorem finds_loadSegments {index : String} {columns : List String}
    (h : HasSegments catalog index columns) : (loadSegments index).Finds catalog columns := by
  rcases h with ⟨rows, answer, rfl⟩
  exact Lookup.finds_bind.2 ⟨rows, finds_loadRows.2 answer, Lookup.finds_pure.2 rfl⟩

theorem finds_loadKey {kind : Kind} {index : String} {columns : List String}
    (h : HasSegments catalog index columns) :
    (loadKey kind table (some index)).Finds catalog
      { kind := kind, table := table, columns := columns } :=
  Lookup.finds_bind.2 ⟨columns, finds_loadSegments h, Lookup.finds_pure.2 rfl⟩

theorem finds_withReference {reference : Reference} {row : Catalog.Row} {rest : List Catalog.Row}
    (answer : catalog ⟨referenceSql, [.text name]⟩ = .ok (row :: rest))
    (h : IsReferenceRow catalog reference row) (c : Constraint) :
    (withReference name c).Finds catalog
      { c with
        referencedTable := some reference.table
        updateRule := reference.updateRule
        deleteRule := reference.deleteRule
        referencedColumns := reference.columns } := by
  rcases h.columns with ⟨index, named, segments⟩
  have columns : (loadColumns (row.text? "REF_INDEX")).Finds catalog reference.columns := by
    rw [named]
    exact finds_loadSegments segments
  refine finds_row.2 ⟨row, rest, answer, ?_⟩
  refine Lookup.finds_bind.2 ⟨reference.columns, columns, ?_⟩
  rw [Lookup.finds_pure, h.table, loadedRule, h.updateRule, loadedRule, h.deleteRule]
  rfl

theorem loadedIndex_eq {row : Catalog.Row} (h : IsRowOf key row) :
    loadedIndex name row = if key.hasOwnIndex name then some key.index else none := by
  have sort : (if (row.integer? "RDB$INDEX_TYPE").getD 0 = 1 then Direction.descending
      else .ascending) = key.index.sort := by
    have descending := h.sort
    cases hsort : key.index.sort with
    | ascending =>
        rw [hsort] at descending
        cases found : row.integer? "RDB$INDEX_TYPE" with
        | none => rfl
        | some n =>
            rw [found, Option.some_inj] at descending
            have other : n ≠ 1 := fun one => by cases descending.2 one
            simp [other]
    | descending => simp [descending.1 hsort]
  unfold loadedIndex
  rw [h.index, sort, Option.filter_some]
  unfold Key.hasOwnIndex
  split <;> rfl

theorem finds_loadBody (h : IsKeyIn catalog table name key) :
    (loadBody table name (some key.index.name) key.kind.kind).Finds catalog
      (key.content table) := by
  unfold Key.content
  cases hkind : key.kind with
  | primary => exact finds_loadKey h.columns
  | unique => exact finds_loadKey h.columns
  | foreign reference =>
      rcases h.reference reference hkind with ⟨-, row, rest, answer, refers⟩
      exact Lookup.finds_bind.2
        ⟨_, finds_loadKey h.columns, finds_withReference answer refers _⟩

theorem finds_load_key (h : IsKeyIn catalog table name key) :
    (load table name).Finds catalog (key.toConstraint table name) := by
  rcases h.row with ⟨row, rest, answer, described⟩
  have found := finds_loadBody h
  rw [← described.index] at found
  have loaded := finds_load answer described.kind found
  rw [loadedIndex_eq described] at loaded
  exact loaded

/-! ## Statements -/

theorem HasSegments.trim_of_mem {index : String} {columns : List String}
    (h : HasSegments catalog index columns) {column : String} (mem : column ∈ columns) :
    Text.trim column = column ∧ column ≠ "" := by
  rcases h with ⟨rows, -, rfl⟩
  rcases List.mem_filterMap.1 mem with ⟨row, -, named⟩
  exact Catalog.Row.text?_eq_some named

theorem HasSegments.identifierList_eq {index : String} {columns : List String}
    (h : HasSegments catalog index columns) : Sql.identifierList columns = Key.names columns := by
  have same : columns.map (fun column => identifier (Text.trim column)) =
      columns.map identifier := by
    refine List.map_congr_left ?_
    intro column mem
    rw [(h.trim_of_mem mem).1]
  rw [Sql.identifierList, Key.names, same]

theorem HasSegments.demandColumns_eq {index : String} {columns : List String}
    (h : HasSegments catalog index columns) (nonempty : columns ≠ []) (field : Field) :
    demandColumns field columns = .ok () := by
  have full : columns.findIdx? Text.isBlank = none := by
    rw [List.findIdx?_eq_none_iff]
    intro column mem
    rcases h.trim_of_mem mem with ⟨trimmed, nonempty⟩
    exact Text.isBlank_eq_false_iff.2 (by rwa [trimmed])
  rw [demandColumns, if_neg nonempty, full]

theorem indexClauses_toConstraint (key : Key) (table name : String)
    (index : Text.trim key.index.name = key.index.name) (nonempty : key.index.name ≠ "") :
    (key.toConstraint table name).indexClauses = key.usingIndex name := by
  have full : Text.isBlank key.index.name = false :=
    Text.isBlank_eq_false_iff.2 (by rwa [index])
  unfold indexClauses Key.toConstraint Key.usingIndex
  cases key.hasOwnIndex name with
  | true => simp [asExisting, Key.content, full, index]
  | false => simp [asExisting, Key.content]

/-- Columns go with every key, and a reference with a foreign key. -/
theorem demandPayload_toConstraint (key : Key) (table name : String) :
    (key.toConstraint table name).demandPayload = .ok () := by
  have placed : (key.toConstraint table name).misplaced? = none := by
    unfold misplaced? hasReference Key.toConstraint asExisting Key.content
    cases key.kind <;> simp [KeyKind.kind, KeyKind.reference?]
  rw [demandPayload, placed]

theorem keyClause_toConstraint (h : IsKeyIn catalog table name key) :
    (key.toConstraint table name).keyClause =
      .ok (key.kind.kind.keyword ++ " (" ++ Key.names key.columns ++ ")" ++
        key.usingIndex name) := by
  rcases h.row with ⟨row, -, -, described⟩
  rcases Catalog.Row.text?_eq_some described.index with ⟨trimmed, nonempty⟩
  refine bind_eq_ok.2 ⟨(), h.columns.demandColumns_eq h.nonempty .columns, ?_⟩
  rw [indexClauses_toConstraint key table name trimmed nonempty, ← h.columns.identifierList_eq]
  rfl

theorem referenceClause_toConstraint (h : IsKeyIn catalog table name key) {reference : Reference}
    (foreign : key.kind = .foreign reference) :
    (key.toConstraint table name).referenceClause = .ok (key.body ++ key.usingIndex name) := by
  rcases h.row with ⟨row, -, -, described⟩
  rcases Catalog.Row.text?_eq_some described.index with ⟨trimmed, nonempty⟩
  rcases h.reference reference foreign with ⟨same, referenceRow, -, -, refers⟩
  rcases refers.columns with ⟨index, -, segments⟩
  have referenced : Text.nonBlank? (some reference.table) = some reference.table := by
    rcases Catalog.Row.text?_eq_some refers.table with ⟨trimmed, nonempty⟩
    exact Text.nonBlank?_of_trimmed trimmed nonempty
  -- Both indexes have as many segments, so the other one has some too.
  have counted : reference.columns ≠ [] := by
    intro none
    rw [none, List.length_nil] at same
    exact h.nonempty (List.eq_nil_of_length_eq_zero same.symm)
  have content : (key.toConstraint table name).referencedColumns = reference.columns ∧
      (key.toConstraint table name).referencedTable = some reference.table ∧
      (key.toConstraint table name).updateRule = reference.updateRule ∧
      (key.toConstraint table name).deleteRule = reference.deleteRule ∧
      (key.toConstraint table name).kind = .foreign := by
    simp [Key.toConstraint, asExisting, Key.content, foreign, KeyKind.reference?, KeyKind.kind]
  rcases content with ⟨referencedColumns, referencedTable, updateRule, deleteRule, kind⟩
  refine bind_eq_ok.2 ⟨(), h.columns.demandColumns_eq h.nonempty .columns, ?_⟩
  rw [referencedTable, referencedColumns, updateRule, deleteRule, kind]
  refine bind_eq_ok.2 ⟨reference.table, demand_eq_ok.2 referenced, ?_⟩
  refine bind_eq_ok.2 ⟨(), segments.demandColumns_eq counted .referencedColumns, ?_⟩
  rw [if_neg (by simp [Key.toConstraint, asExisting, Key.content, same]),
    indexClauses_toConstraint key table name trimmed nonempty, segments.identifierList_eq,
    Key.body, foreign, ← h.columns.identifierList_eq]
  rfl

theorem clause_toConstraint (h : IsKeyIn catalog table name key) :
    (key.toConstraint table name).clause = .ok (key.body ++ key.usingIndex name) := by
  refine bind_eq_ok.2 ⟨(), demandPayload_toConstraint key table name, ?_⟩
  have kind : (key.toConstraint table name).kind = key.kind.kind := rfl
  have written := keyClause_toConstraint h
  unfold Key.body
  cases hkind : key.kind with
  | primary =>
      rw [hkind] at kind written
      rw [kind]
      exact written
  | unique =>
      rw [hkind] at kind written
      rw [kind]
      exact written
  | foreign reference =>
      rw [hkind] at kind
      rw [kind]
      have written := referenceClause_toConstraint h hkind
      rw [Key.body, hkind] at written
      exact written

/-- A key that is loaded and written without an edit is dropped, and added again as the system
tables have it. -/
theorem recreates_of_isKeyIn (full : Text.isBlank table = false) (trimmed : Text.trim name = name)
    (nonempty : name ≠ "") (h : IsKeyIn catalog table name key) :
    ∃ c, ((load table name).run catalog).result = .ok c ∧
      c.toBatch = .ok (Batch.ofStatements
        [ "ALTER TABLE " ++ identifier (Text.trim table) ++ " DROP CONSTRAINT " ++ identifier name,
          "ALTER TABLE " ++ identifier (Text.trim table) ++ " ADD CONSTRAINT " ++ identifier name ++
            " " ++ (key.body ++ key.usingIndex name) ]) := by
  refine ⟨key.toConstraint table name, finds_load_key h, ?_⟩
  have named : Text.isBlank name = false := Text.isBlank_eq_false_iff.2 (by rwa [trimmed])
  have written := toBatch_of_existing (c := key.toConstraint table name) full named rfl rfl
    (clause_toConstraint h)
  rw [show (key.toConstraint table name).name = name from rfl, trimmed] at written
  exact written

/-- A foreign key on two columns, over an index of its own that descends. -/
def lineKey : Key where
  kind := .foreign ⟨"Orders", ["ID", "line no"], .cascade, .setNull⟩
  columns := ["ORDER_ID", "LINE"]
  index := ⟨"IX_LINES", .descending⟩

def lineRow : Catalog.Row :=
  ⟨["RDB$CONSTRAINT_NAME", "RDB$CONSTRAINT_TYPE", "RDB$INDEX_NAME", "RDB$INDEX_TYPE"],
    [.text "FK_LINES", .text "foreign key  ", .text "IX_LINES  ", .int16 1]⟩

def lineReferenceRow : Catalog.Row :=
  ⟨["RDB$UPDATE_RULE", "RDB$DELETE_RULE", "REF_TABLE", "REF_INDEX"],
    [.text "CASCADE ", .text "Set Null", .text "Orders  ", .text "RDB$PRIMARY1"]⟩

def segmentRow (column : String) : Catalog.Row :=
  ⟨["RDB$FIELD_NAME"], [.text column]⟩

/-- The system tables of a database with that key. -/
def lineCatalog : Catalog :=
  .ofAnswers
    [ (⟨catalogSql, [.text "LINES ", .text "FK_LINES"]⟩, [lineRow]),
      (⟨segmentsSql, [.text "IX_LINES"]⟩, [segmentRow "ORDER_ID  ", segmentRow "LINE  "]),
      (⟨referenceSql, [.text "FK_LINES"]⟩, [lineReferenceRow]),
      (⟨segmentsSql, [.text "RDB$PRIMARY1"]⟩, [segmentRow "ID ", segmentRow "line no"]) ]

theorem isKeyIn_lineCatalog : IsKeyIn lineCatalog "LINES " "FK_LINES" lineKey where
  row := ⟨lineRow, [], by decide +kernel, by decide +kernel, by decide +kernel, by decide +kernel⟩
  columns :=
    ⟨[segmentRow "ORDER_ID  ", segmentRow "LINE  "], by decide +kernel, by decide +kernel⟩
  nonempty := by decide
  reference := by
    intro reference foreign
    cases foreign
    have referred : HasSegments lineCatalog "RDB$PRIMARY1" ["ID", "line no"] :=
      ⟨[segmentRow "ID ", segmentRow "line no"], by decide +kernel, by decide +kernel⟩
    exact ⟨rfl, lineReferenceRow, [], by decide +kernel, by decide +kernel, by decide +kernel,
      by decide +kernel, "RDB$PRIMARY1", by decide +kernel, referred⟩

theorem recreates_of_isKeyIn_lines :
    (Text.isBlank "LINES " = false ∧ Text.trim "FK_LINES" = "FK_LINES" ∧ "FK_LINES" ≠ "" ∧
        IsKeyIn lineCatalog "LINES " "FK_LINES" lineKey) ∧
      ∃ c, ((load "LINES " "FK_LINES").run lineCatalog).result = .ok c ∧
        c.toBatch = .ok (Batch.ofStatements
          [ "ALTER TABLE LINES DROP CONSTRAINT FK_LINES",
            "ALTER TABLE LINES ADD CONSTRAINT FK_LINES FOREIGN KEY (ORDER_ID, LINE) " ++
              "REFERENCES \x22Orders\x22 (ID, \x22line no\x22) ON UPDATE CASCADE " ++
              "ON DELETE SET NULL USING DESC INDEX IX_LINES" ]) := by
  have full : Text.isBlank "LINES " = false := by decide +kernel
  have trimmed : Text.trim "FK_LINES" = "FK_LINES" := by decide +kernel
  have nonempty : "FK_LINES" ≠ "" := by decide
  refine ⟨⟨full, trimmed, nonempty, isKeyIn_lineCatalog⟩, ?_⟩
  rcases recreates_of_isKeyIn full trimmed nonempty isKeyIn_lineCatalog with ⟨c, loaded, written⟩
  refine ⟨c, loaded, written.trans ?_⟩
  decide +kernel

end Constraint
end SchemaChange
