/-!
# Sql.TypeCode — the numbers that drivers give to SQL types

A type code is a number that a driver reports for a type. Any 32-bit number may turn up; some have a
meaning.

- `TypeGroup`      : what kind of values a type holds
- `TypeCode.group` : the group of a code, `other` for a code without meaning
- `TypeCode.name?` : the type name Firebird has for a code
-/

namespace SchemaChange
namespace Sql

/-- What kind of values a type holds. -/
inductive TypeGroup
  | character
  | clob
  | date
  | time
  | timestamp
  | numeric
  | boolean
  | binary
  | other
  deriving DecidableEq, Repr

namespace TypeGroup

/-- Literals of the group stand between single quotes. -/
def isQuoted : TypeGroup → Bool
  | .character | .clob | .date | .time | .timestamp => true
  | .numeric | .boolean | .binary | .other => false

/-- The group holds text. -/
def isText : TypeGroup → Bool
  | .character | .clob => true
  | _ => false

end TypeGroup

structure TypeCode where
  code : Int32
  deriving DecidableEq, Repr

namespace TypeCode

/-! ## Codes with a meaning -/

def bit : TypeCode := ⟨-7⟩
def tinyint : TypeCode := ⟨-6⟩
def bigint : TypeCode := ⟨-5⟩
def longVarbinary : TypeCode := ⟨-4⟩
def varbinary : TypeCode := ⟨-3⟩
def binary : TypeCode := ⟨-2⟩
def longVarchar : TypeCode := ⟨-1⟩
def char : TypeCode := ⟨1⟩
def numeric : TypeCode := ⟨2⟩
def decimal : TypeCode := ⟨3⟩
def integer : TypeCode := ⟨4⟩
def smallint : TypeCode := ⟨5⟩
def float : TypeCode := ⟨6⟩
def real : TypeCode := ⟨7⟩
def double : TypeCode := ⟨8⟩
def varchar : TypeCode := ⟨12⟩
def boolean : TypeCode := ⟨16⟩
def date : TypeCode := ⟨91⟩
def time : TypeCode := ⟨92⟩
def timestamp : TypeCode := ⟨93⟩
def other : TypeCode := ⟨1111⟩
def timeWithZone : TypeCode := ⟨2013⟩
def timestampWithZone : TypeCode := ⟨2014⟩
def blob : TypeCode := ⟨2004⟩
def clob : TypeCode := ⟨2005⟩
def nclob : TypeCode := ⟨2011⟩
def nchar : TypeCode := ⟨-15⟩
def nvarchar : TypeCode := ⟨-9⟩
def longNvarchar : TypeCode := ⟨-16⟩

/-! ## Groups and names -/

def groups : List (TypeCode × TypeGroup) :=
  [ (char, .character), (varchar, .character), (longVarchar, .character), (nchar, .character),
    (nvarchar, .character), (longNvarchar, .character),
    (clob, .clob), (nclob, .clob),
    (date, .date), (time, .time), (timeWithZone, .time),
    (timestamp, .timestamp), (timestampWithZone, .timestamp),
    (bit, .numeric), (tinyint, .numeric), (smallint, .numeric), (integer, .numeric),
    (bigint, .numeric), (float, .numeric), (real, .numeric), (double, .numeric),
    (numeric, .numeric), (decimal, .numeric),
    (boolean, .boolean),
    (binary, .binary), (varbinary, .binary), (longVarbinary, .binary), (blob, .binary) ]

def names : List (TypeCode × String) :=
  [ (smallint, "SMALLINT"), (integer, "INTEGER"), (bigint, "BIGINT"), (float, "FLOAT"),
    (real, "FLOAT"), (double, "DOUBLE PRECISION"), (numeric, "NUMERIC"), (decimal, "DECIMAL"),
    (char, "CHAR"), (nchar, "CHAR"), (varchar, "VARCHAR"), (nvarchar, "VARCHAR"),
    (longVarchar, "BLOB"), (longNvarchar, "BLOB"), (clob, "BLOB"), (nclob, "BLOB"),
    (longVarbinary, "BLOB"), (blob, "BLOB"),
    (date, "DATE"), (time, "TIME"), (timestamp, "TIMESTAMP"),
    (timeWithZone, "TIME WITH TIME ZONE"), (timestampWithZone, "TIMESTAMP WITH TIME ZONE"),
    (binary, "BINARY"), (varbinary, "VARBINARY"), (boolean, "BOOLEAN") ]

def group (t : TypeCode) : TypeGroup :=
  (groups.lookup t).getD .other

/-- Firebird has no name for some codes, `bit` and `tinyint` among those with a meaning. -/
def name? (t : TypeCode) : Option String :=
  names.lookup t

end TypeCode

end Sql
end SchemaChange
