import SchemaChange.Constraint.Basic
import SchemaChange.Json.Record

/-!
# Constraint.Json — constraints in JSON

Kinds, rules and sort orders are words in lower case with underscores.

- `Constraint.toMembers`, `Constraint.ofJson?`
-/

namespace SchemaChange
namespace Constraint

open Json (Value Members)

/-! ## Words -/

def Kind.word : Kind → String
  | .primary => "primary"
  | .foreign => "foreign"
  | .unique => "unique"
  | .check => "check"

def Kind.ofWord? : String → Option Kind
  | "primary" => some .primary
  | "foreign" => some .foreign
  | "unique" => some .unique
  | "check" => some .check
  | _ => none

def Rule.word : Rule → String
  | .restrict => "restrict"
  | .noAction => "no_action"
  | .cascade => "cascade"
  | .setDefault => "set_default"
  | .setNull => "set_null"

def Rule.ofWord? : String → Option Rule
  | "restrict" => some .restrict
  | "no_action" => some .noAction
  | "cascade" => some .cascade
  | "set_default" => some .setDefault
  | "set_null" => some .setNull
  | _ => none

def Direction.word : Direction → String
  | .ascending => "ascending"
  | .descending => "descending"

def Direction.ofWord? : String → Option Direction
  | "ascending" => some .ascending
  | "descending" => some .descending
  | _ => none

/-! ## Records -/

def Index.toJson (i : Index) : Value :=
  .object [("name", .text i.name), ("sort", .text i.sort.word)]

/-- The fields in their order. -/
def Index.fields : List String :=
  ["name", "sort"]

def Index.ofMembers? (m : Members) : Option Index := do
  let name ← m.required? "name" Json.textOf?
  let sort ← m.field? "sort" .ascending (Json.wordOf? Direction.ofWord?)
  return { name, sort }

def Index.ofJson? (v : Value) : Option Index :=
  (Json.recordOf? Index.fields v).bind Index.ofMembers?

/-- The members of a constraint's record. -/
def toMembers (c : Constraint) : Members :=
  [ ("name", .text c.name),
    ("kind", .text c.kind.word),
    ("table", .text c.table),
    ("columns", Json.ofTexts c.columns),
    ("referenced_table", Json.ofOption .text c.referencedTable),
    ("referenced_columns", Json.ofTexts c.referencedColumns),
    ("update_rule", .text c.updateRule.word),
    ("delete_rule", .text c.deleteRule.word),
    ("check_expression", Json.ofOption .text c.checkExpression),
    ("index", Json.ofOption Index.toJson c.index),
    ("tablespace", Json.ofOption .text c.tablespace),
    ("editing", .bool c.existing),
    ("original_name", Json.ofOption .text c.initialName),
    ("name_overridden", .bool c.nameByHand) ]

/-- The fields in their order. -/
def fields : List String :=
  [ "name", "kind", "table", "columns", "referenced_table", "referenced_columns", "update_rule",
    "delete_rule", "check_expression", "index", "tablespace", "editing", "original_name",
    "name_overridden" ]

def ofMembers? (m : Members) : Option Constraint := do
  let name ← m.field? "name" "" Json.textOf?
  let kind ← m.field? "kind" .primary (Json.wordOf? Kind.ofWord?)
  let table ← m.field? "table" "" Json.textOf?
  let columns ← m.field? "columns" [] (Json.listOf? Json.textOf?)
  let referencedTable ← m.field? "referenced_table" none (Json.nullable? Json.textOf?)
  let referencedColumns ← m.field? "referenced_columns" [] (Json.listOf? Json.textOf?)
  let updateRule ← m.field? "update_rule" .noAction (Json.wordOf? Rule.ofWord?)
  let deleteRule ← m.field? "delete_rule" .noAction (Json.wordOf? Rule.ofWord?)
  let checkExpression ← m.field? "check_expression" none (Json.nullable? Json.textOf?)
  let index ← m.field? "index" none (Json.nullable? Index.ofJson?)
  let tablespace ← m.field? "tablespace" none (Json.nullable? Json.textOf?)
  let existing ← m.field? "editing" false Json.boolOf?
  let initialName ← m.field? "original_name" none (Json.nullable? Json.textOf?)
  let nameByHand ← m.field? "name_overridden" false Json.boolOf?
  return {
    name, kind, table, columns, referencedTable, referencedColumns, updateRule, deleteRule,
    checkExpression, index, tablespace, existing, initialName, nameByHand }

def ofJson? (v : Value) : Option Constraint :=
  (Json.recordOf? fields v).bind ofMembers?

end Constraint
end SchemaChange
