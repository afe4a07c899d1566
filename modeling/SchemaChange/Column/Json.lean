import SchemaChange.Column.Edit
import SchemaChange.Json.Record

/-!
# Column.Json — columns in JSON

- `AutoIncrement.toJson`, `AutoIncrement.ofJson?`
- `Column.toJson`, `Column.ofJson?`
-/

namespace SchemaChange

open Json (Value Members)

def AutoIncrement.toJson (a : AutoIncrement) : Value :=
  .object
    [ ("generator_name", Json.ofOption .text a.generatorName),
      ("start_value", Json.ofInt64 a.startValue),
      ("identity", .bool a.isIdentity),
      ("create_generator", .bool a.createGenerator),
      ("trigger_name", Json.ofOption .text a.triggerName) ]

/-- The fields in their order. -/
def AutoIncrement.fields : List String :=
  ["generator_name", "start_value", "identity", "create_generator", "trigger_name"]

def AutoIncrement.ofMembers? (m : Members) : Option AutoIncrement := do
  let generatorName ← m.field? "generator_name" none (Json.nullable? Json.textOf?)
  let startValue ← m.field? "start_value" 0 Json.int64Of?
  let isIdentity ← m.field? "identity" false Json.boolOf?
  let createGenerator ← m.field? "create_generator" true Json.boolOf?
  let triggerName ← m.field? "trigger_name" none (Json.nullable? Json.textOf?)
  return { generatorName, startValue, isIdentity, createGenerator, triggerName }

def AutoIncrement.ofJson? (v : Value) : Option AutoIncrement :=
  (Json.recordOf? fields v).bind ofMembers?

namespace Column

def toJson (c : Column) : Value :=
  .object
    [ ("table", .text c.table),
      ("name", .text c.name),
      ("type_code", Json.ofInt32 c.typeCode.code),
      ("type_name", .text c.typeName),
      ("size", Json.ofOption Json.ofInt32 c.size),
      ("scale", Json.ofOption Json.ofInt32 c.scale),
      ("subtype", Json.ofOption Json.ofInt32 c.subtype),
      ("charset", Json.ofOption .text c.charset),
      ("collate", Json.ofOption .text c.collate),
      ("domain", Json.ofOption .text c.domain),
      ("nullable", .bool c.nullable),
      ("default_value", Json.ofOption .text c.defaultValue),
      ("computed", Json.ofOption .text c.computed),
      ("description", Json.ofOption .text c.description),
      ("autoincrement", Json.ofOption AutoIncrement.toJson c.autoIncrement),
      ("check", Json.ofOption .text c.check),
      ("primary_key", .bool c.primaryKey),
      ("system_managed", .bool c.keptBySystem) ]

/-- The fields in their order. -/
def fields : List String :=
  [ "table", "name", "type_code", "type_name", "size", "scale", "subtype", "charset", "collate",
    "domain", "nullable", "default_value", "computed", "description", "autoincrement", "check",
    "primary_key", "system_managed" ]

/-- An optional text, absent by default. -/
def text? (m : Members) (field : String) : Option (Option String) :=
  m.field? field none (Json.nullable? Json.textOf?)

/-- An optional number, absent by default. -/
def number? (m : Members) (field : String) : Option (Option Int32) :=
  m.field? field none (Json.nullable? Json.int32Of?)

def ofMembers? (m : Members) : Option Column := do
  let table ← m.field? "table" "" Json.textOf?
  let name ← m.field? "name" "" Json.textOf?
  let code ← m.field? "type_code" Sql.TypeCode.varchar.code Json.int32Of?
  let typeName ← m.field? "type_name" "" Json.textOf?
  let size ← number? m "size"
  let scale ← number? m "scale"
  let subtype ← number? m "subtype"
  let charset ← text? m "charset"
  let collate ← text? m "collate"
  let domain ← text? m "domain"
  let nullable ← m.field? "nullable" true Json.boolOf?
  let defaultValue ← text? m "default_value"
  let computed ← text? m "computed"
  let description ← text? m "description"
  let autoIncrement ← m.field? "autoincrement" none (Json.nullable? AutoIncrement.ofJson?)
  let check ← text? m "check"
  let primaryKey ← m.field? "primary_key" false Json.boolOf?
  let keptBySystem ← m.field? "system_managed" false Json.boolOf?
  return {
    table, name, typeCode := ⟨code⟩, typeName, size, scale, subtype, charset, collate, domain,
    nullable, defaultValue, computed, description, autoIncrement, check, primaryKey,
    keptBySystem }

def ofJson? (v : Value) : Option Column :=
  (Json.recordOf? fields v).bind ofMembers?

end Column
end SchemaChange
