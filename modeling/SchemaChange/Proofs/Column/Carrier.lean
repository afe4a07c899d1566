import SchemaChange.Proofs.Catalog.Datum
import SchemaChange.Proofs.Column.Default

/-!
# Proofs.Column.Carrier — columns whose numbers come in other forms

The system tables keep the type, the size and the scale of a column as numbers, and so its flags.
Whether the database returns such a number as a number or as a text makes no difference to what is
loaded.

- `Column.textColumns`        : what the loader reads as texts
- `Row.Recarries`             : the same row with other forms of some integers
- `Column.ofRow_of_recarries` : both rows describe the same column
- `Catalog.reads_all_carriers`: what is read of values, and what is loaded of them
-/

namespace SchemaChange

open Catalog (Datum Row)

namespace Column

/-- The columns of the answer that the loader reads as texts. -/
def textColumns : List String :=
  [ "RDB$FIELD_SOURCE", "RDB$DEFAULT_SOURCE", "RDB$COMPUTED_SOURCE", "RDB$DESCRIPTION",
    "RDB$CHARACTER_SET_NAME", "RDB$COLLATION_NAME", "RDB$GENERATOR_NAME" ]

/-- Names of columns are the same up to the case of ASCII letters. -/
def IsTextColumn (column : String) : Prop :=
  ∃ name ∈ textColumns, Text.sameWord column.toList name.toList = true

instance (column : String) : Decidable (IsTextColumn column) :=
  inferInstanceAs (Decidable (∃ name ∈ textColumns, _))

end Column

namespace Catalog

theorem sameWord_trans {a b c : List Char} (first : Text.sameWord a b = true)
    (second : Text.sameWord b c = true) : Text.sameWord a c = true := by
  simp only [Text.sameWord, beq_iff_eq] at *
  exact first.trans second

/-! ## Rows with other carriers -/

/-- The same integer in two forms. -/
def Datum.SameInteger (d d' : Datum) : Prop :=
  ∃ n, d.Carries n ∧ d'.Carries n

/-- The rows have the same columns, and the same values but for the forms of some integers, none of
them in a column of texts. -/
structure Row.Recarries (row row' : Row) : Prop where
  columns : row'.columns = row.columns
  values : ∀ i : Nat, row'.values[i]? = row.values[i]? ∨
    ∃ column d d', row.columns[i]? = some column ∧ ¬Column.IsTextColumn column ∧
      row.values[i]? = some d ∧ row'.values[i]? = some d' ∧ d.SameInteger d'

theorem Datum.SameInteger.integer?_eq {d d' : Datum} (h : d.SameInteger d') :
    d'.integer? = d.integer? := by
  rcases h with ⟨n, carries, carries'⟩
  rw [carries.integer?_eq, carries'.integer?_eq]

theorem Datum.Carries.isNull_eq {d : Datum} {n : Int} (h : d.Carries n) : d.isNull = false := by
  cases h <;> rfl

namespace Row.Recarries

variable {row row' : Row}

/-- A named value is the same, or the same integer in a column that is not one of texts. -/
theorem value? (h : row.Recarries row') (name : String) :
    row'.value? name = row.value? name ∨
      ∃ d d', ¬Column.IsTextColumn name ∧ row.value? name = some d ∧ row'.value? name = some d' ∧
        d.SameInteger d' := by
  unfold Row.value?
  rw [h.columns]
  cases found : row.columns.findIdx? fun column => Text.sameWord column.toList name.toList with
  | none => exact .inl rfl
  | some i =>
      rcases h.values i with same | ⟨column, d, d', place, number, value, value', integer⟩
      · exact .inl same
      · -- The name of the value is that of the column in which it was found.
        rcases List.findIdx?_eq_some_iff_getElem.1 found with ⟨bound, named, -⟩
        have column_eq : row.columns[i] = column := by simpa [bound] using place
        rw [column_eq] at named
        refine .inr ⟨d, d', ?_, value, value', integer⟩
        rintro ⟨text, mem, same⟩
        exact number ⟨text, mem, sameWord_trans named same⟩

theorem integer?_eq (h : row.Recarries row') (name : String) :
    row'.integer? name = row.integer? name := by
  unfold Row.integer?
  rcases h.value? name with same | ⟨d, d', -, value, value', integer⟩
  · rw [same]
  · simpa [value, value'] using integer.integer?_eq

theorem text?_eq (h : row.Recarries row') {name : String} (text : name ∈ Column.textColumns) :
    row'.text? name = row.text? name := by
  unfold Row.text?
  rcases h.value? name with same | ⟨_, _, number, -⟩
  · rw [same]
  · have own : Text.sameWord name.toList name.toList = true := by simp [Text.sameWord]
    exact absurd ⟨name, text, own⟩ number

theorem hasIdentity_eq (h : row.Recarries row') :
    Column.hasIdentity row' = Column.hasIdentity row := by
  unfold Column.hasIdentity
  rcases h.value? "RDB$IDENTITY_TYPE" with same | ⟨d, d', -, value, value', n, carries, carries'⟩
  · rw [same]
  · simp [value, value', carries.isNull_eq, carries'.isNull_eq]

end Row.Recarries
end Catalog

namespace Column

/-- What a row says of a column does not depend on the forms of its integers. -/
theorem ofRow_of_recarries {row row' : Row} (h : row.Recarries row') (table name : String) :
    ofRow table name row' = ofRow table name row := by
  have size : ∀ type, loadedSize row' type = loadedSize row type := by
    intro type
    simp only [loadedSize, int32?, h.integer?_eq]
  have scale : ∀ type, loadedScale row' type = loadedScale row type := by
    intro type
    simp only [loadedScale, int32?, h.integer?_eq]
  have text : ∀ column ∈ textColumns, row'.text? column = row.text? column :=
    fun _ mem => h.text?_eq mem
  simp only [textColumns, List.forall_mem_cons] at text
  rcases text with ⟨source, default, computed, description, charset, collate, generator, -⟩
  unfold ofRow
  simp only [h.integer?_eq, h.hasIdentity_eq, size, scale, source, default, computed, description,
    charset, collate, generator]

end Column

/-! ## Loading -/

namespace ColumnDraft

variable {catalog catalog' : Catalog} {table name : String} {rows rows' : List Row}

theorem run_load
    (answer : catalog ⟨Column.catalogSql, [.text table, .text name]⟩ = .ok rows) :
    (load table name).run catalog =
      ⟨rows.head?.elim (.error (.notFound "column" (table ++ "." ++ name)))
          fun row => .ok (.ofExisting (Column.ofRow table name row)),
        [⟨Column.catalogSql, [.text table, .text name]⟩]⟩ := by
  have asked : (loadRows Column.catalogSql [table, name]).run catalog =
      ⟨.ok rows, [⟨Column.catalogSql, [.text table, .text name]⟩]⟩ := Lookup.run_ask_of_ok answer
  unfold load
  rw [Lookup.run_bind_of_ok asked]
  cases rows <;> rfl

/-- From answers that differ in the forms of integers alone the same is loaded. -/
theorem run_load_of_recarries
    (answer : catalog ⟨Column.catalogSql, [.text table, .text name]⟩ = .ok rows)
    (answer' : catalog' ⟨Column.catalogSql, [.text table, .text name]⟩ = .ok rows')
    (same : List.Forall₂ Row.Recarries rows rows') :
    (load table name).run catalog' = (load table name).run catalog := by
  rw [run_load answer, run_load answer']
  cases same with
  | nil => rfl
  | cons first _ => simp [Column.ofRow_of_recarries first]

end ColumnDraft

namespace Catalog

/-- An integer is read the same from every carrier. Of a text it is the integer that the text stands
for, if it is in range; a number and its written form are read alike; and what is loaded of a column
does not depend on the carriers of its numbers. -/
theorem reads_all_carriers :
    (∀ s : String, (Datum.text s).ReadsText s ∧ (Datum.decimal s).ReadsText s) ∧
      (∀ n : Int, Datum.InRange n ↔ ∃ d : Datum, d.number? = some n) ∧
      (∀ (d : Datum) (n : Int), d.number? = some n → d.ReadsAlike n) ∧
      ∀ (catalog catalog' : Catalog) (table name : String) (rows rows' : List Row),
        catalog ⟨Column.catalogSql, [.text table, .text name]⟩ = .ok rows →
          catalog' ⟨Column.catalogSql, [.text table, .text name]⟩ = .ok rows' →
            List.Forall₂ Row.Recarries rows rows' →
              (ColumnDraft.load table name).run catalog' =
                (ColumnDraft.load table name).run catalog := by
  refine ⟨fun s => ⟨Datum.readsText_text s, Datum.readsText_decimal s⟩, ?_, ?_, ?_⟩
  · exact fun n => Datum.inRange_iff
  · exact fun d n number => Datum.readsAlike_of_number? number
  · exact fun _ _ _ _ _ _ answer answer' same =>
      ColumnDraft.run_load_of_recarries answer answer' same

/-- The columns of an answer that describe a NUMERIC(18, 2). -/
def numericColumns : List String :=
  ["RDB$FIELD_TYPE", "RDB$FIELD_SUB_TYPE", "RDB$FIELD_PRECISION", "RDB$FIELD_SCALE"]

/-- A description in numbers of all widths. -/
def numericRow : Row :=
  ⟨numericColumns, [.int16 16, .int32 1, .int64 18, .int16 (-2)]⟩

/-- The same description in texts of all kinds. -/
def numericTextRow : Row :=
  ⟨numericColumns, [.text " 16 ", .decimal "+1", .text "0018", .decimal "-2"]⟩

/-- A catalog that answers with one row. -/
def numericCatalog (row : Row) : Catalog :=
  .ofAnswers [(⟨Column.catalogSql, [.text "T", .text "C"]⟩, [row])]

theorem numericCatalog_answer (row : Row) :
    numericCatalog row ⟨Column.catalogSql, [.text "T", .text "C"]⟩ = .ok [row] :=
  Catalog.ofAnswers_cons_self _ _ _

theorem Datum.sameInteger_of_integer? {d d' : Datum} {n : Int64} (read : d.integer? = some n)
    (read' : d'.integer? = some n) : d.SameInteger d' :=
  ⟨n.toInt, Datum.integer?_eq_some.1 read, Datum.integer?_eq_some.1 read'⟩

theorem recarries_numericTextRow : numericRow.Recarries numericTextRow where
  columns := rfl
  values := by
    intro i
    rcases i with _ | _ | _ | _ | i
    · exact .inr ⟨_, _, _, rfl, by decide +kernel, rfl, rfl,
        Datum.sameInteger_of_integer? (n := 16) (by decide) (by decide +kernel)⟩
    · exact .inr ⟨_, _, _, rfl, by decide +kernel, rfl, rfl,
        Datum.sameInteger_of_integer? (n := 1) (by decide) (by decide +kernel)⟩
    · exact .inr ⟨_, _, _, rfl, by decide +kernel, rfl, rfl,
        Datum.sameInteger_of_integer? (n := 18) (by decide) (by decide +kernel)⟩
    · exact .inr ⟨_, _, _, rfl, by decide +kernel, rfl, rfl,
        Datum.sameInteger_of_integer? (n := -2) (by decide) (by decide +kernel)⟩
    · exact .inl rfl

theorem reads_all_carriers_numeric :
    ((Datum.int16 (-0x8000)).number? = some (-0x8000) ∧
        numericCatalog numericRow ⟨Column.catalogSql, [.text "T", .text "C"]⟩ = .ok [numericRow] ∧
        numericCatalog numericTextRow ⟨Column.catalogSql, [.text "T", .text "C"]⟩ =
          .ok [numericTextRow] ∧
        List.Forall₂ Row.Recarries [numericRow] [numericTextRow]) ∧
      (Datum.int16 (-0x8000)).ReadsAlike (-0x8000) ∧
      (ColumnDraft.load "T" "C").run (numericCatalog numericTextRow) =
        (ColumnDraft.load "T" "C").run (numericCatalog numericRow) ∧
      ∃ d, ((ColumnDraft.load "T" "C").run (numericCatalog numericTextRow)).result = .ok d ∧
        d.current.typeClause? = some "NUMERIC(18, 2)" := by
  have number : (Datum.int16 (-0x8000)).number? = some (-0x8000) := by decide
  have answer := numericCatalog_answer numericRow
  have answer' := numericCatalog_answer numericTextRow
  have same : List.Forall₂ Row.Recarries [numericRow] [numericTextRow] :=
    .cons recarries_numericTextRow .nil
  rcases reads_all_carriers with ⟨-, -, alike, loads⟩
  refine ⟨⟨number, answer, answer', same⟩, alike _ _ number,
    loads _ _ _ _ _ _ answer answer' same, _, ColumnDraft.finds_load answer', ?_⟩
  decide +kernel

end Catalog
end SchemaChange
