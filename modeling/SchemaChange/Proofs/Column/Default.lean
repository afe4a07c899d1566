import SchemaChange.Column.Load
import SchemaChange.Proofs.Catalog.Lookup
import SchemaChange.Proofs.Column.Alteration
import SchemaChange.Proofs.Sql.Value
import SchemaChange.Proofs.Text.Source

/-!
# Proofs.Column.Default — defaults that are set again as they were loaded

Loading takes the quotes off a default, and writing puts them on again. The two agree wherever the
literals of the type stand without quotes, and on quoted literals whose content is trimmed and not
empty. A text that is no quoted literal, such as a context variable, becomes one where the literals
of the type are quoted.

- `Column.IsLoadedAs`                : what is loaded of a default
- `Column.Recommits`                 : what is written of it
- `ColumnDraft.recommits_of_load`    : a default that is loaded and set again
- `ColumnDraft.textDefaults_changed` : defaults that are not set again as they were
-/

namespace SchemaChange
namespace Column

open Sql (identifier quoteText TypeGroup)

variable {source t value action : String} {group : TypeGroup}

/-! ## Loaded defaults -/

theorem isKeyword_default : Text.IsKeyword "DEFAULT" :=
  ⟨by decide, by decide⟩

theorem eq_quoteText_iff {content : String} :
    t = quoteText content ↔ t.toList = '\x27' :: (content.toList ++ ['\x27']) := by
  rw [← String.toList_inj, Sql.toList_quoteText]

/-- What is loaded of a default: the content of a quoted literal of a quoted type, and every other
text as it is. -/
inductive IsLoadedAs (isQuoted : Bool) (t : String) : String → Prop
  | content {content : String} :
      isQuoted = true → t = quoteText content → IsLoadedAs isQuoted t content
  | whole : (isQuoted = true → ∀ content, t ≠ quoteText content) → IsLoadedAs isQuoted t t

theorem isLoadedAs_valueOfDefault (behind : Text.IsBehind "DEFAULT" source t.toList)
    (trimmed : Text.trim t = t) (nonempty : t ≠ "") (isQuoted : Bool) :
    IsLoadedAs isQuoted t (valueOfDefault (Text.trim source) isQuoted) := by
  have found := behind.found isKeyword_default (Text.trim_eq_self_iff.1 trimmed)
    (by simpa using nonempty)
  rcases found with ⟨-, rest, after, text⟩
  unfold valueOfDefault
  simp only [after, text]
  -- Quotes are looked for at both ends, and only where the literals of the type have them.
  split
  · rename_i quoted
    simp only [Bool.and_eq_true, decide_eq_true_eq, beq_iff_eq, and_assoc] at quoted
    rcases Text.between_iff.1 quoted.2 with ⟨content, chars⟩
    rw [chars, Text.between_content]
    refine .content quoted.1 (eq_quoteText_iff.2 ?_)
    rw [chars, String.toList_ofList]
  · rename_i bare
    rw [String.ofList_toList]
    refine .whole ?_
    rintro quoted content rfl
    refine bare ?_
    have between := Text.between_iff.2 ⟨content.toList, Sql.toList_quoteText content⟩
    simp [quoted, between]

/-! ## Written defaults -/

/-- What is done to the default of a column when it is set again: the text that was loaded is set
unchanged where its literal stands without quotes or has a trimmed content. Blanks at the ends of a
quoted content are cut off, and a blank content counts as no default. What is no literal of a type
whose literals are quoted is quoted, too. -/
structure Recommits (group : TypeGroup) (t action : String) : Prop where
  unchanged : (group.isQuoted = true → ∃ content, t = quoteText content ∧
      Text.trim content = content ∧ content ≠ "") → action = "SET DEFAULT " ++ t
  cut : ∀ content, group.isQuoted = true → t = quoteText content → Text.isBlank content = false →
    action = "SET DEFAULT " ++ quoteText (Text.trim content)
  dropped : ∀ content, group.isQuoted = true → t = quoteText content →
    Text.isBlank content = true → action = "DROP DEFAULT"
  quoted : group.isQuoted = true → (∀ content, t ≠ quoteText content) →
    action = "SET DEFAULT " ++ quoteText t

theorem quoteText_inj {content content' : String} (h : quoteText content = quoteText content') :
    content = content' := by
  have chars := congrArg String.toList h
  rw [Sql.toList_quoteText, Sql.toList_quoteText, List.cons.injEq, List.append_cancel_right_eq,
    String.toList_inj] at chars
  exact chars.2

theorem defaultAction_of_full {c : Column} {text : String}
    (h : Text.nonBlank? c.defaultValue = some text) :
    c.defaultAction = "SET DEFAULT " ++ Sql.literal text c.group := by
  rw [defaultAction, h]

theorem defaultAction_of_blank {c : Column} (h : Text.nonBlank? c.defaultValue = none) :
    c.defaultAction = "DROP DEFAULT" := by
  rw [defaultAction, h]

/-- A quoted literal is known by its content, and its content is quoted again. -/
theorem recommits_of_content {c : Column} (quoted : c.group.isQuoted = true) (content : String) :
    Recommits c.group (quoteText content)
      { c with defaultValue := some content }.defaultAction := by
  have literal : ∀ text, "SET DEFAULT " ++ Sql.literal text c.group =
      "SET DEFAULT " ++ quoteText text := by
    intro text
    rw [Sql.literal, if_pos quoted]
  constructor
  · intro whole
    rcases whole quoted with ⟨content', same, trimmed, nonempty⟩
    cases quoteText_inj same
    rw [defaultAction_of_full (Text.nonBlank?_of_trimmed trimmed nonempty)]
    exact literal content
  · intro content' _ same full
    cases quoteText_inj same
    rw [defaultAction_of_full (Text.nonBlank?_of_full full)]
    exact literal (Text.trim content)
  · intro content' _ same blank
    cases quoteText_inj same
    exact defaultAction_of_blank (Text.nonBlank?_of_blank blank)
  · intro _ others
    exact absurd rfl (others content)

theorem recommits_of_whole {c : Column} (trimmed : Text.trim t = t) (nonempty : t ≠ "")
    (others : c.group.isQuoted = true → ∀ content, t ≠ quoteText content) :
    Recommits c.group t { c with defaultValue := some t }.defaultAction := by
  rw [defaultAction_of_full (Text.nonBlank?_of_trimmed trimmed nonempty)]
  constructor
  · intro whole
    have bare : ¬c.group.isQuoted = true := by
      intro quoted
      rcases whole quoted with ⟨content, same, -⟩
      exact others quoted content same
    have literal : Sql.literal t c.group = t := by rw [Sql.literal, if_neg bare]
    exact congrArg ("SET DEFAULT " ++ ·) literal
  · intro content quoted same
    exact absurd same (others quoted content)
  · intro content quoted same
    exact absurd same (others quoted content)
  · intro quoted _
    have literal : Sql.literal t c.group = quoteText t := by rw [Sql.literal, if_pos quoted]
    exact congrArg ("SET DEFAULT " ++ ·) literal

theorem recommits_defaultAction {c : Column} (trimmed : Text.trim t = t) (nonempty : t ≠ "")
    (loaded : IsLoadedAs c.group.isQuoted t value) :
    Recommits c.group t { c with defaultValue := some value }.defaultAction := by
  cases loaded with
  | content quoted same =>
      rw [same]
      exact recommits_of_content quoted value
  | whole others => exact recommits_of_whole trimmed nonempty others

end Column

namespace ColumnDraft

open Sql (identifier)
open Script (Batch)

/-! ## Loading and setting again -/

variable {catalog : Catalog} {table name : String} {row : Catalog.Row} {rest : List Catalog.Row}

theorem finds_load
    (answer : catalog ⟨Column.catalogSql, [.text table, .text name]⟩ = .ok (row :: rest)) :
    (load table name).Finds catalog (.ofExisting (Column.ofRow table name row)) :=
  finds_row.2 ⟨row, rest, answer, Lookup.finds_pure.2 rfl⟩

theorem defaultValue_ofRow (table name : String) {source : String}
    (read : row.text? "RDB$DEFAULT_SOURCE" = some source) :
    (Column.ofRow table name row).defaultValue =
      some (Column.valueOfDefault source (Column.ofRow table name row).group.isQuoted) := by
  have mapped : (Column.ofRow table name row).defaultValue =
      (row.text? "RDB$DEFAULT_SOURCE").map fun source =>
        Column.valueOfDefault source (Column.ofRow table name row).group.isQuoted := rfl
  rw [mapped, read, Option.map_some]

theorem toBatch_of_defaultValue {c : Column} (table : Text.isBlank c.table = false)
    (name : Text.isBlank c.name = false) (value : Option String) :
    (applyEdit (.ofExisting c) (.defaultValue value)).toBatch =
      .ok (Batch.ofStatements
        [c.alterStatement { c with defaultValue := value }.defaultAction]) := by
  -- The edit marks the default of a draft that has the new value, and nothing else.
  have only : applyEdit (.ofExisting c) (.defaultValue value) =
      only ⟨c, { c with defaultValue := value }, Marks.empty, true⟩ .defaultValue := rfl
  rw [only, toBatch_only_eq_ok rfl]
  exact ⟨table, name, _, rfl, rfl⟩

/-- A default that is loaded and set again is one statement, and its text is the one that was
loaded unless literals of the type are quoted and it is none of them, or has blanks at the ends of
its content or no content. -/
theorem recommits_of_load {source t : String} (fullTable : Text.isBlank table = false)
    (fullName : Text.isBlank name = false)
    (answer : catalog ⟨Column.catalogSql, [.text table, .text name]⟩ = .ok (row :: rest))
    (stored : row.value? "RDB$DEFAULT_SOURCE" = some (.text source))
    (behind : Text.IsBehind "DEFAULT" source t.toList) (trimmed : Text.trim t = t)
    (nonempty : t ≠ "") :
    ∃ d value action,
      ((load table name).run catalog).result = .ok d ∧ d.current.defaultValue = some value ∧
      (d.applyEdit (.defaultValue (some value))).toBatch = .ok (Batch.ofStatements
        [ "ALTER TABLE " ++ identifier (Text.trim table) ++ " ALTER COLUMN " ++ identifier name ++
            " " ++ action ]) ∧
      Column.Recommits d.current.group t action := by
  have full := (behind.found Column.isKeyword_default (Text.trim_eq_self_iff.1 trimmed)
    (by simpa using nonempty)).1
  have read : row.text? "RDB$DEFAULT_SOURCE" = some (Text.trim source) :=
    Catalog.Row.text?_of_text stored full
  have loaded := defaultValue_ofRow table name read
  refine ⟨.ofExisting (Column.ofRow table name row), _, _, finds_load answer, loaded,
    toBatch_of_defaultValue fullTable fullName _, ?_⟩
  exact Column.recommits_defaultAction trimmed nonempty
    (Column.isLoadedAs_valueOfDefault behind trimmed nonempty _)

/-- The row of a column of the given type whose default has the given source. -/
def defaultRow (type : Int16) (source : String) : Catalog.Row :=
  ⟨["RDB$FIELD_TYPE", "RDB$DEFAULT_SOURCE"], [.int16 type, .text source]⟩

/-- The system tables of a database with that column. -/
def defaultCatalog (type : Int16) (source : String) : Catalog :=
  .ofAnswers [(⟨Column.catalogSql, [.text "T", .text "C"]⟩, [defaultRow type source])]

/-- The column's row is found, and stores this default behind its keyword. -/
def StoresDefault (type : Int16) (source t : String) : Prop :=
  defaultCatalog type source ⟨Column.catalogSql, [.text "T", .text "C"]⟩ =
      .ok [defaultRow type source] ∧
    (defaultRow type source).value? "RDB$DEFAULT_SOURCE" = some (.text source) ∧
    Text.IsBehind "DEFAULT" source t.toList ∧ Text.trim t = t ∧ t ≠ ""

theorem storesDefault_of_behind {type : Int16} {source t : String}
    (behind : Text.IsBehind "DEFAULT" source t.toList) (trimmed : Text.trim t = t)
    (nonempty : t ≠ "") : StoresDefault type source t :=
  ⟨Catalog.ofAnswers_cons_self _ _ _, rfl, behind, trimmed, nonempty⟩

theorem storesDefault_padded : StoresDefault 37 " default 'n/a' " "'n/a'" := by
  have blank : Text.AllSpaces [' '] := List.forall_mem_singleton.2 rfl
  have behind : Text.IsBehind "DEFAULT" " default 'n/a' " "'n/a'".toList :=
    ⟨[' '], "default".toList, [' '], [' '], blank, blank, blank, rfl, rfl⟩
  exact storesDefault_of_behind behind (by decide +kernel) (by decide)

theorem storesDefault_empty : StoresDefault 37 "DEFAULT ''" "''" :=
  storesDefault_of_behind (Text.isBehind_of_blank rfl) (by decide +kernel) (by decide)

theorem storesDefault_today : StoresDefault 12 "DEFAULT CURRENT_DATE" "CURRENT_DATE" :=
  storesDefault_of_behind (Text.isBehind_of_blank rfl) (by decide +kernel) (by decide)

/-- A literal of a text column and the default of a date column. -/
theorem recommits_of_load_padded :
    (Text.isBlank "T" = false ∧ Text.isBlank "C" = false ∧
        StoresDefault 37 " default 'n/a' " "'n/a'" ∧
        StoresDefault 12 "DEFAULT CURRENT_DATE" "CURRENT_DATE") ∧
      (∃ d value,
        ((load "T" "C").run (defaultCatalog 37 " default 'n/a' ")).result = .ok d ∧
        d.current.defaultValue = some value ∧
        (d.applyEdit (.defaultValue (some value))).toBatch =
          .ok (Batch.ofStatements ["ALTER TABLE T ALTER COLUMN C SET DEFAULT 'n/a'"])) ∧
      ∃ d value,
        ((load "T" "C").run (defaultCatalog 12 "DEFAULT CURRENT_DATE")).result = .ok d ∧
        d.current.defaultValue = some value ∧
        (d.applyEdit (.defaultValue (some value))).toBatch =
          .ok (Batch.ofStatements ["ALTER TABLE T ALTER COLUMN C SET DEFAULT 'CURRENT_DATE'"]) := by
  have table : Text.isBlank "T" = false := by decide
  have name : Text.isBlank "C" = false := by decide
  refine ⟨⟨table, name, storesDefault_padded, storesDefault_today⟩, ?_, ?_⟩
  · rcases storesDefault_padded with ⟨answer, stored, behind, trimmed, nonempty⟩
    rcases recommits_of_load table name answer stored behind trimmed nonempty with
      ⟨d, value, action, loaded, default, written, recommits⟩
    have unchanged : action = "SET DEFAULT 'n/a'" :=
      recommits.unchanged fun _ => ⟨"n/a", by decide +kernel, by decide +kernel, by decide⟩
    refine ⟨d, value, loaded, default, written.trans ?_⟩
    rw [unchanged]
    decide +kernel
  · rcases storesDefault_today with ⟨answer, stored, behind, trimmed, nonempty⟩
    rcases recommits_of_load table name answer stored behind trimmed nonempty with
      ⟨d, value, action, loaded, default, written, recommits⟩
    have group : d.current.group.isQuoted = true := by
      cases loaded.symm.trans (finds_load answer)
      decide +kernel
    have bare : ∀ content, "CURRENT_DATE" ≠ Sql.quoteText content := by
      intro content same
      cases Column.eq_quoteText_iff.1 same
    refine ⟨d, value, loaded, default, written.trans ?_⟩
    rw [recommits.quoted group bare]
    decide +kernel

/-- An empty text is not set again: the default is dropped. And a context variable is set as a
text. -/
theorem textDefaults_changed :
    (StoresDefault 37 "DEFAULT ''" "''" ∧
      ∃ d, ((load "T" "C").run (defaultCatalog 37 "DEFAULT ''")).result = .ok d ∧
        d.current.defaultValue = some "" ∧
        (d.applyEdit (.defaultValue (some ""))).toBatch =
          .ok (Batch.ofStatements ["ALTER TABLE T ALTER COLUMN C DROP DEFAULT"]) ∧
        (d.applyEdit (.defaultValue (some ""))).toBatch ≠
          .ok (Batch.ofStatements ["ALTER TABLE T ALTER COLUMN C SET DEFAULT ''"])) ∧
      StoresDefault 12 "DEFAULT CURRENT_DATE" "CURRENT_DATE" ∧
      ∃ d, ((load "T" "C").run (defaultCatalog 12 "DEFAULT CURRENT_DATE")).result = .ok d ∧
        d.current.defaultValue = some "CURRENT_DATE" ∧
        (d.applyEdit (.defaultValue (some "CURRENT_DATE"))).toBatch =
          .ok (Batch.ofStatements ["ALTER TABLE T ALTER COLUMN C SET DEFAULT 'CURRENT_DATE'"]) ∧
        (d.applyEdit (.defaultValue (some "CURRENT_DATE"))).toBatch ≠
          .ok (Batch.ofStatements ["ALTER TABLE T ALTER COLUMN C SET DEFAULT CURRENT_DATE"]) := by
  refine ⟨⟨storesDefault_empty, ?_⟩, storesDefault_today, ?_⟩
  · exact ⟨_, finds_load storesDefault_empty.1, by decide +kernel, by decide +kernel,
      by decide +kernel⟩
  · exact ⟨_, finds_load storesDefault_today.1, by decide +kernel, by decide +kernel,
      by decide +kernel⟩

end ColumnDraft
end SchemaChange
