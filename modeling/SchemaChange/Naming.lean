import SchemaChange.Catalog.Lookup

/-!
# Naming — names that are not in use

A generated name is a stem and a number. The stem tells the kind of object and the table; the number
is one more than the greatest among the names that begin with the stem, or zero. The catalog is
asked each time anew, so two sessions may be given the same name.

- `NameKind`                 : the kinds of objects that names are generated for
- `NameRequest.stem`         : the fixed part of all names for a request
- `nextSuffix`               : the number, given the names in use
- `NameRequest.fresh`        : a name, or the reason why there is none
- `NameRequest.freshOrEmpty` : a name, empty if the catalog cannot be asked
-/

namespace SchemaChange

inductive NameKind
  | primaryKey
  | foreignKey
  | unique
  | check
  | index
  | generator
  deriving DecidableEq, Repr

namespace NameKind

/-- What names of the kind begin with. -/
def lead : NameKind → String
  | .primaryKey => "PK_"
  | .foreignKey => "FK_"
  | .unique => "UQ_"
  | .check => "CHECK_"
  | .index => "IDX_"
  | .generator => "GEN_"

/-- The system table that lists the names of the kind. -/
def sourceTable : NameKind → String
  | .primaryKey | .foreignKey | .unique | .check => "RDB$RELATION_CONSTRAINTS"
  | .index => "RDB$INDICES"
  | .generator => "RDB$GENERATORS"

/-- The column of the system table that holds the names. -/
def sourceColumn : NameKind → String
  | .primaryKey | .foreignKey | .unique | .check => "RDB$CONSTRAINT_NAME"
  | .index => "RDB$INDEX_NAME"
  | .generator => "RDB$GENERATOR_NAME"

end NameKind

structure NameRequest where
  kind : NameKind
  table : String
  deriving DecidableEq, Repr

/-- The catalog could not be asked for the names that begin with the stem. -/
structure NamingError where
  stem : String
  cause : Catalog.Failure
  deriving DecidableEq, Repr

def NamingError.message (e : NamingError) : String :=
  "failed to look up names starting with " ++ e.stem ++ ": " ++ e.cause.text

/-! ## Numbers of names -/

/-- The greatest number of 64 bits. -/
def maxSuffix : Nat := 0xFFFFFFFFFFFFFFFF

/-- What follows the stem in a name that begins with it. -/
def afterStem? : List Char → List Char → Option (List Char)
  | [], name => some name
  | _ :: _, [] => none
  | s :: stem, c :: name => if s = c then afterStem? stem name else none

/-- The number of a name: decimal digits behind the stem, of 64 bits. -/
def suffix? (stem name : String) : Option Nat :=
  match (afterStem? stem.toList name.toList).bind Text.readNat? with
  | some n => if n ≤ maxSuffix then some n else none
  | none => none

/-- One more than the greatest number in use, but no more than 64 bits can hold. -/
def nextSuffix (stem : String) (names : List String) : Nat :=
  match (names.filterMap (suffix? stem)).max? with
  | some greatest => min (greatest + 1) maxSuffix
  | none => 0

namespace NameRequest

/-! ## Generated names -/

def stem (r : NameRequest) : String :=
  r.kind.lead ++ Text.trim r.table ++ "_"

def takenSql (r : NameRequest) : String :=
  "SELECT " ++ r.kind.sourceColumn ++ " FROM " ++ r.kind.sourceTable ++ " WHERE " ++
    r.kind.sourceColumn ++ " STARTING WITH ? ORDER BY 1"

/-- The names in the first column of an answer. -/
def namesIn (rows : List Catalog.Row) : List String :=
  rows.filterMap fun row => (row.values[0]?).bind Catalog.Datum.trimmed?

def nameFor (r : NameRequest) (rows : List Catalog.Row) : String :=
  r.stem ++ Text.decimal (nextSuffix r.stem (namesIn rows))

def fresh (r : NameRequest) : Lookup NamingError String := do
  let rows ← Lookup.ask (NamingError.mk r.stem) ⟨r.takenSql, [.text r.stem]⟩
  return r.nameFor rows

/-- The name is left empty, for someone else to give, if the catalog cannot be asked. -/
def freshOrEmpty {ε : Type} (r : NameRequest) : Lookup ε String :=
  r.fresh.recover ""

end NameRequest
end SchemaChange
