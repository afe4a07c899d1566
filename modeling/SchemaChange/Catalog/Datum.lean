import SchemaChange.Text.Blank
import SchemaChange.Text.Digits
import SchemaChange.Text.ShortestDecimal
import SchemaChange.Json.Record

/-!
# Catalog.Datum — values that a database returns

Databases return one and the same number in several forms, and texts padded with blanks.

- `Datum`          : the forms of a value
- `Datum.integer?` : the whole number of 64 bits that a value holds, whatever its form
- `Datum.truth?`   : a flag, which most system tables keep as a small number
- `Datum.text?`    : the text of a textual value
- `Datum.display`  : a value for people
- `Datum.ofJson?`  : a value written in JSON under the name of its form
-/

namespace SchemaChange
namespace Catalog

/-- A double is kept as its bits. -/
inductive Datum
  | null
  | bool (b : Bool)
  | int16 (n : Int16)
  | int32 (n : Int32)
  | int64 (n : Int64)
  | double (bits : UInt64)
  | decimal (digits : String)
  | text (s : String)
  | bytes (content : List UInt8)
  deriving DecidableEq, Repr

namespace Datum

/-- Reads digits with an optional sign, in the range of 64 bits. -/
def readInt64? (s : String) : Option Int64 :=
  match Text.readInt? (Text.trimChars s.toList) with
  | some n =>
      if -0x8000000000000000 ≤ n ∧ n < 0x8000000000000000 then some (Int64.ofInt n) else none
  | none => none

def integer? : Datum → Option Int64
  | .int16 n => some n.toInt64
  | .int32 n => some n.toInt64
  | .int64 n => some n
  | .text s => readInt64? s
  | .decimal digits => readInt64? digits
  | _ => none

def truth? : Datum → Option Bool
  | .bool b => some b
  | .int16 n => some (n != 0)
  | .int32 n => some (n != 0)
  | .int64 n => some (n != 0)
  | _ => none

def text? : Datum → Option String
  | .text s => some s
  | _ => none

/-- The text without padding. -/
def trimmed? (d : Datum) : Option String :=
  d.text?.map Text.trim

def isNull : Datum → Bool
  | .null => true
  | _ => false

def display : Datum → String
  | .null => "NULL"
  | .bool true => "true"
  | .bool false => "false"
  | .int16 n => Text.decimalInt n.toInt
  | .int32 n => Text.decimalInt n.toInt
  | .int64 n => Text.decimalInt n.toInt
  | .double bits => Text.bitsText bits.toNat
  | .decimal digits => digits
  | .text s => s
  | .bytes content => "<" ++ Text.decimal content.length ++ " bytes>"

/-! ## JSON -/

/-- The double that a JSON number stands for. -/
def doubleOf? : Json.Value → Option Float
  | .integer n =>
      let magnitude := n.natAbs.toUInt64.toFloat
      some (if n < 0 then -magnitude else magnitude)
  | .real x => x.double?
  | _ => none

/-- The value under the name of its form. -/
def ofForm? (form : String) (v : Json.Value) : Option Datum :=
  match form with
  | "Null" => match v with
      | .null => some .null
      | _ => none
  | "Bool" => (Json.boolOf? v).map .bool
  | "Int16" => (Json.integerOf? (-0x8000) 0x7FFF v).map fun n => .int16 (Int16.ofInt n)
  | "Int32" => (Json.int32Of? v).map .int32
  | "Int64" => (Json.int64Of? v).map .int64
  | "Float64" => (doubleOf? v).map fun x => .double x.toBits
  | "Decimal" => (Json.textOf? v).map .decimal
  | "String" => (Json.textOf? v).map .text
  | "Bytes" =>
      (Json.listOf? (Json.integerOf? 0 255) v).map fun content =>
        .bytes (content.map fun n => UInt8.ofNat n.toNat)
  | _ => none

/-- A value is an object with the name of the form as its only member; the null value may also be
written as the bare name. -/
def ofJson? : Json.Value → Option Datum
  | .text "Null" => some .null
  | .object [(form, v)] => ofForm? form v
  | _ => none

end Datum
end Catalog
end SchemaChange
