import SchemaChange.Catalog.Lookup
import SchemaChange.Column.Edit

/-!
# Column.Load — columns from the system tables

- `typeOfField`      : the type code of a field type and its sub-type
- `valueOfDefault`   : the value inside the source of a default
- `ColumnDraft.load` : the draft of an existing column
-/

namespace SchemaChange
namespace Column

/-! ## Types -/

/-- The field type of BLOBs. -/
def blobFieldType : Int := 261

/-- The type code of a field type. Of the exact numbers, sub-type 1 is NUMERIC and 2 is DECIMAL; of
the BLOBs, sub-type 1 is text. -/
def typeOfField (fieldType subType : Int64) : Sql.TypeCode :=
  let field := fieldType.toInt
  let sub := subType.toInt
  if field ∈ [7, 8, 16, 26] ∧ sub = 1 then .numeric
  else if field ∈ [7, 8, 16, 26] ∧ sub = 2 then .decimal
  else if field = 7 then .smallint
  else if field = 8 then .integer
  else if field ∈ [16, 26] then .bigint
  else if field = 10 then .float
  else if field = 27 then .double
  else if field = 12 then .date
  else if field = 13 then .time
  else if field = 35 then .timestamp
  else if field = 28 then .timeWithZone
  else if field = 29 then .timestampWithZone
  else if field = 14 then .char
  else if field ∈ [37, 40] then .varchar
  else if field = 23 then .boolean
  else if field = blobFieldType then (if sub = 1 then .longVarchar else .blob)
  else .other

/-! ## Sources -/

/-- The value of a default source, without its keyword; a quoted value of a quoted type loses its
quotes. -/
def valueOfDefault (source : String) (isQuoted : Bool) : String :=
  let trimmed := Text.trimChars source.toList
  let value :=
    match Text.afterKeyword? "DEFAULT".toList trimmed with
    | some rest => Text.trimChars rest
    | none => trimmed
  if isQuoted && 2 ≤ value.length &&
      value.head? == some '\x27' && value.getLast? == some '\x27' then
    String.ofList value.tail.dropLast
  else
    String.ofList value

/-! ## Loading -/

def catalogSql : String :=
  "SELECT RF.RDB$FIELD_NAME, RF.RDB$FIELD_SOURCE, RF.RDB$NULL_FLAG, RF.RDB$DEFAULT_SOURCE, " ++
  "RF.RDB$DESCRIPTION, RF.RDB$SYSTEM_FLAG, RF.RDB$IDENTITY_TYPE, RF.RDB$GENERATOR_NAME, " ++
  "F.RDB$FIELD_TYPE, F.RDB$FIELD_SUB_TYPE, F.RDB$FIELD_LENGTH, F.RDB$FIELD_PRECISION, " ++
  "F.RDB$FIELD_SCALE, F.RDB$CHARACTER_LENGTH, F.RDB$COMPUTED_SOURCE, " ++
  "CS.RDB$CHARACTER_SET_NAME, CO.RDB$COLLATION_NAME " ++
  "FROM RDB$RELATION_FIELDS RF " ++
  "JOIN RDB$FIELDS F ON F.RDB$FIELD_NAME = RF.RDB$FIELD_SOURCE " ++
  "LEFT JOIN RDB$CHARACTER_SETS CS ON CS.RDB$CHARACTER_SET_ID = F.RDB$CHARACTER_SET_ID " ++
  "LEFT JOIN RDB$COLLATIONS CO ON CO.RDB$COLLATION_ID = RF.RDB$COLLATION_ID " ++
  "AND CO.RDB$CHARACTER_SET_ID = F.RDB$CHARACTER_SET_ID " ++
  "WHERE RF.RDB$RELATION_NAME = ? AND RF.RDB$FIELD_NAME = ?"

/-- A number of the row as 32 bits; higher bits are dropped. -/
def int32? (row : Catalog.Row) (column : String) : Option Int32 :=
  (row.integer? column).map Int64.toInt32

/-- The length of a text type in characters, or else in bytes; the digits of an exact number. -/
def loadedSize (row : Catalog.Row) (type : Sql.TypeCode) : Option Int32 :=
  if type ∈ [.char, .varchar] then
    (int32? row "RDB$CHARACTER_LENGTH").or (int32? row "RDB$FIELD_LENGTH")
  else if type ∈ [.numeric, .decimal] then
    int32? row "RDB$FIELD_PRECISION"
  else
    none

/-- Scales are kept as negative exponents. -/
def loadedScale (row : Catalog.Row) (type : Sql.TypeCode) : Option Int32 :=
  if type ∈ [.numeric, .decimal] then (int32? row "RDB$FIELD_SCALE").map (- ·) else none

/-- A column generates identity values if it has an identity type at all. -/
def hasIdentity (row : Catalog.Row) : Bool :=
  match row.value? "RDB$IDENTITY_TYPE" with
  | some d => !d.isNull
  | none => false

/-- The column that a row of the system tables describes. -/
def ofRow (table name : String) (row : Catalog.Row) : Column :=
  let fieldType := (row.integer? "RDB$FIELD_TYPE").getD 0
  let subType := (row.integer? "RDB$FIELD_SUB_TYPE").getD 0
  let type := typeOfField fieldType subType
  let identity := hasIdentity row
  { table := table
    name := name
    typeCode := type
    typeName := type.name?.getD ""
    size := loadedSize row type
    scale := loadedScale row type
    subtype := if fieldType.toInt = blobFieldType then some subType.toInt32 else none
    charset := row.text? "RDB$CHARACTER_SET_NAME"
    collate := row.text? "RDB$COLLATION_NAME"
    domain := (row.text? "RDB$FIELD_SOURCE").filter fun source => !Catalog.isSystemName source
    nullable := (row.integer? "RDB$NULL_FLAG").getD 0 == 0
    defaultValue :=
      (row.text? "RDB$DEFAULT_SOURCE").map fun source => valueOfDefault source type.group.isQuoted
    computed := row.text? "RDB$COMPUTED_SOURCE"
    description := row.text? "RDB$DESCRIPTION"
    autoIncrement :=
      if identity then
        some { AutoIncrement.identity 0 with generatorName := row.text? "RDB$GENERATOR_NAME" }
      else none
    keptBySystem := identity || (row.integer? "RDB$SYSTEM_FLAG").getD 0 != 0 }

end Column

namespace ColumnDraft

def load (table name : String) : Lookup LoadProblem ColumnDraft := do
  let rows ← loadRows Column.catalogSql [table, name]
  let row ← headRow "column" (table ++ "." ++ name) rows
  return Draft.ofExisting (Column.ofRow table name row)

end ColumnDraft
end SchemaChange
