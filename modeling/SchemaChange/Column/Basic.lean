import SchemaChange.Column.AutoIncrement
import SchemaChange.Refusal
import SchemaChange.Sql.Identifier
import SchemaChange.Text.UpperCase

/-!
# Column.Basic — columns of tables

- `Column`             : the values of a column's attributes
- `Column.typeClause?` : its type as statements write it
- `Column.storage`     : its domain, or its type for want of a domain
-/

namespace SchemaChange

structure Column where
  table : String := ""
  name : String := ""
  typeCode : Sql.TypeCode := .varchar
  typeName : String := ""
  /-- Length, or number of digits. -/
  size : Option Int32 := none
  scale : Option Int32 := none
  /-- Sub-type of a BLOB. -/
  subtype : Option Int32 := none
  charset : Option String := none
  collate : Option String := none
  domain : Option String := none
  nullable : Bool := true
  defaultValue : Option String := none
  /-- The expression of a computed column. -/
  computed : Option String := none
  description : Option String := none
  autoIncrement : Option AutoIncrement := none
  /-- The condition of a CHECK, for new columns. -/
  check : Option String := none
  /-- The column is the primary key, for new columns. -/
  primaryKey : Bool := false
  /-- The system keeps the column, and its type cannot be altered. -/
  keptBySystem : Bool := false
  deriving DecidableEq, Repr

/-- A text behind a lead-in, or nothing. -/
def optionalClause (leadIn : String) : Option String → String
  | none => ""
  | some text => leadIn ++ text

namespace Column

def ofType (table name : String) (typeCode : Sql.TypeCode) : Column :=
  { table := table, name := name, typeCode := typeCode }

def notNull (c : Column) : Column :=
  { c with nullable := false }

/-- A primary key admits no null. -/
def asPrimaryKey (c : Column) : Column :=
  { c with primaryKey := true, nullable := false }

def group (c : Column) : Sql.TypeGroup :=
  c.typeCode.group

def quotedTable (c : Column) : String :=
  Sql.identifier (Text.trim c.table)

/-- The name is taken as it is, blanks included. -/
def quotedName (c : Column) : String :=
  Sql.identifier c.name

def quotedDomain? (c : Column) : Option String :=
  (Text.nonBlank? c.domain).map Sql.identifier

/-! ## Types -/

/-- The given type name in upper case; for want of one, the name that the type code stands for. -/
def baseType? (c : Column) : Option String :=
  if Text.isBlank c.typeName then c.typeCode.name?
  else some (Text.upperCase (Text.trim c.typeName))

/-- Without a sub-type a BLOB holds text if the type code stands for text. -/
def blobSubtype (c : Column) : Int32 :=
  match c.subtype with
  | some subtype => subtype
  | none => if c.group.isText then 1 else 0

/-- Types that are followed by a length. -/
def sizedTypes : List String :=
  ["CHAR", "VARCHAR", "NCHAR", "VARBINARY", "BINARY"]

/-- Types that are followed by a number of digits and a scale. -/
def scaledTypes : List String :=
  ["NUMERIC", "DECIMAL"]

/-- The type with its length, its digits or its sub-type. -/
def sizedType (c : Column) (base : String) : String :=
  if base ∈ sizedTypes then
    match c.size with
    | some size => base ++ "(" ++ Text.decimalInt size.toInt ++ ")"
    | none => base
  else if base ∈ scaledTypes then
    match c.size, c.scale with
    | some digits, some scale =>
        base ++ "(" ++ Text.decimalInt digits.toInt ++ ", " ++ Text.decimalInt scale.toInt ++ ")"
    | some digits, none => base ++ "(" ++ Text.decimalInt digits.toInt ++ ")"
    | none, _ => base
  else if base = "BLOB" then
    "BLOB SUB_TYPE " ++ Text.decimalInt c.blobSubtype.toInt
  else
    base

/-- The column takes a character set and a collation. -/
def takesCharset (c : Column) (base : String) : Bool :=
  c.group.isText || (base == "BLOB" && c.blobSubtype == 1)

/-- The whole type, unless the column has no type name and its type code stands for none. -/
def typeClause? (c : Column) : Option String :=
  c.baseType?.map fun base =>
    c.sizedType base ++
      if c.takesCharset base then
        optionalClause " CHARACTER SET " (Text.nonBlank? c.charset) ++
          optionalClause " COLLATE " (Text.nonBlank? c.collate)
      else ""

def typeClause (c : Column) : Except Refusal String :=
  match c.typeClause? with
  | some clause => .ok clause
  | none => .error (.unnamedType c.typeCode)

/-- What the column's values are kept as. -/
def storage (c : Column) : Except Refusal String :=
  match c.quotedDomain? with
  | some domain => .ok domain
  | none => c.typeClause

end Column
end SchemaChange
