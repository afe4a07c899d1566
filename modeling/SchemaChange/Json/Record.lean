import SchemaChange.Json.Value

/-!
# Json.Record — records in JSON

A record is an object whose members are fields. Members that are no fields are passed over; a field
that is given twice makes the record invalid; a field that is missing has a default, where there is
one. `null` is the value of optional fields alone. A record may also be an array of the values of
its fields, in their order; fields at the end are missing then, and there is no place for other
members.

- `recordOf?`         : the members of a record, in either form
- `Members.required?` : a field without default
- `Members.field?`    : a field with a default
- `nullable?`, `textOf?`, … : the decoders of field values
-/

namespace SchemaChange
namespace Json

/-! ## Fields -/

/-- All values given for a field. -/
def Members.given (members : Members) (field : String) : List Value :=
  members.filterMap fun (name, v) => if name = field then some v else none

def Members.required? {α : Type} (members : Members) (field : String)
    (decode? : Value → Option α) : Option α :=
  match members.given field with
  | [v] => decode? v
  | _ => none

def Members.field? {α : Type} (members : Members) (field : String) (default : α)
    (decode? : Value → Option α) : Option α :=
  match members.given field with
  | [] => some default
  | [v] => decode? v
  | _ => none

/-! ## Decoders -/

def membersOf? : Value → Option Members
  | .object members => some members
  | _ => none

/-- The members of a record with the given fields. -/
def recordOf? (fields : List String) : Value → Option Members
  | .object members => some members
  | .array items => if items.length ≤ fields.length then some (fields.zip items) else none
  | _ => none

def textOf? : Value → Option String
  | .text s => some s
  | _ => none

def boolOf? : Value → Option Bool
  | .bool b => some b
  | _ => none

/-- A whole number between two bounds, the bounds included. -/
def integerOf? (low high : Int) : Value → Option Int
  | .integer n => if low ≤ n ∧ n ≤ high then some n else none
  | _ => none

def int32Of? (v : Value) : Option Int32 :=
  (integerOf? (-0x80000000) 0x7FFFFFFF v).map Int32.ofInt

def int64Of? (v : Value) : Option Int64 :=
  (integerOf? (-0x8000000000000000) 0x7FFFFFFFFFFFFFFF v).map Int64.ofInt

def uint16Of? (v : Value) : Option UInt16 :=
  (integerOf? 0 0xFFFF v).map fun n => UInt16.ofNat n.toNat

def uint64Of? (v : Value) : Option UInt64 :=
  (integerOf? 0 0xFFFFFFFFFFFFFFFF v).map fun n => UInt64.ofNat n.toNat

/-- `null` stands for no value. -/
def nullable? {α : Type} (decode? : Value → Option α) : Value → Option (Option α)
  | .null => some none
  | v => (decode? v).map some

/-- Decodes each item; one bad item spoils the list. -/
def allOf? {α : Type} (decode? : Value → Option α) : List Value → Option (List α)
  | [] => some []
  | v :: vs =>
      match decode? v, allOf? decode? vs with
      | some x, some xs => some (x :: xs)
      | _, _ => none

def listOf? {α : Type} (decode? : Value → Option α) : Value → Option (List α)
  | .array items => allOf? decode? items
  | _ => none

/-- One of several words. A word may also be given as the name of an object's only member, whose
value is then `null` or an empty object. -/
def wordOf? {α : Type} (decode? : String → Option α) : Value → Option α
  | .text s => decode? s
  | .object [(s, .null)] => decode? s
  | .object [(s, .object [])] => decode? s
  | _ => none

/-! ## Encoders -/

def ofOption {α : Type} (encode : α → Value) : Option α → Value
  | none => .null
  | some x => encode x

def ofInt32 (n : Int32) : Value :=
  .integer n.toInt

def ofInt64 (n : Int64) : Value :=
  .integer n.toInt

def ofNat (n : Nat) : Value :=
  .integer n

def ofTexts (texts : List String) : Value :=
  .array (texts.map .text)

end Json
end SchemaChange
