import SchemaChange.Text.Blank
import SchemaChange.Text.Digits
import SchemaChange.Sql.TypeCode

/-!
# Refusal — why no statements are written

Statements are written for a whole change or not at all. A refusal names the field of the
description that stands in the way.

- `Field`           : the fields that can stand in the way
- `Refusal`         : the causes
- `Refusal.message` : their wording
- `demand`          : the trimmed text of a field that must not be blank
-/

namespace SchemaChange

inductive Field
  | table
  | name
  | dataType
  | computed
  | generatorName
  | columns
  | referencedTable
  | referencedColumns
  | checkExpression
  | plugin
  | password
  | header
  | body
  deriving DecidableEq, Repr

/-- The name of a field in descriptions. -/
def Field.key : Field → String
  | .table => "table"
  | .name => "name"
  | .dataType => "type"
  | .computed => "computed"
  | .generatorName => "generator_name"
  | .columns => "columns"
  | .referencedTable => "referenced_table"
  | .referencedColumns => "referenced_columns"
  | .checkExpression => "check_expression"
  | .plugin => "plugin"
  | .password => "password"
  | .header => "header"
  | .body => "body"

/-- The name of a field in sentences. -/
def Field.label : Field → String
  | .table => "table"
  | .name => "name"
  | .dataType => "type"
  | .computed => "computed"
  | .generatorName => "generator name"
  | .columns => "columns"
  | .referencedTable => "referenced table"
  | .referencedColumns => "referenced columns"
  | .checkExpression => "check expression"
  | .plugin => "plugin"
  | .password => "password"
  | .header => "header"
  | .body => "body"

inductive Refusal
  /-- The field is blank. -/
  | missing (field : Field)
  /-- A computed column was to become a stored one. -/
  | computedRemoved
  /-- The column has no type name, and its type code stands for none. -/
  | unnamedType (type : Sql.TypeCode)
  /-- A list of columns is empty. -/
  | noColumns (field : Field)
  /-- An entry of a list of columns is blank; the first entry is at position 0. -/
  | blankEntry (field : Field) (position : Nat)
  /-- A foreign key has as many columns as it refers to, or it is none. -/
  | countMismatch (localCount referencedCount : Nat)
  /-- The field does not go with the kind of constraint. -/
  | notAllowed (field : Field) (kind : String)
  /-- The authentication plugin of an existing user stays what it is. -/
  | pluginChanged
  deriving DecidableEq, Repr

namespace Refusal

/-- The field that stands in the way. -/
def field : Refusal → Field
  | .missing field => field
  | .computedRemoved => .computed
  | .unnamedType _ => .dataType
  | .noColumns field => field
  | .blankEntry field _ => field
  | .countMismatch _ _ => .referencedColumns
  | .notAllowed field _ => field
  | .pluginChanged => .plugin

def message : Refusal → String
  | .missing field => field.label ++ " is required"
  | .computedRemoved => "computed source cannot be removed from a column"
  | .unnamedType type =>
      "type code " ++ Text.decimalInt type.code.toInt ++ " has no Firebird type name"
  | .noColumns field => "at least one column is required in " ++ field.label
  | .blankEntry field position =>
      "entry " ++ Text.decimal (position + 1) ++ " of " ++ field.label ++ " is blank"
  | .countMismatch localCount referencedCount =>
      Text.decimal localCount ++ " local columns but " ++ Text.decimal referencedCount ++
        " referenced columns"
  | .notAllowed field kind =>
      field.label ++ " is not allowed on a " ++ kind ++ " constraint"
  | .pluginChanged => "the authentication plugin of an existing user cannot be changed"

/-- The field and the wording. -/
def text (r : Refusal) : String :=
  r.field.key ++ ": " ++ r.message

end Refusal

/-- The trimmed text of a field that must not be blank. -/
def demand (field : Field) (value : Option String) : Except Refusal String :=
  match Text.nonBlank? value with
  | some text => .ok text
  | none => .error (.missing field)

end SchemaChange
