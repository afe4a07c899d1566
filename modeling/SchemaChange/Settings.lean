import SchemaChange.Json.Printer
import SchemaChange.Json.Reader
import SchemaChange.Json.Record
import SchemaChange.Package.Basic
import SchemaChange.Script.Batch

/-!
# Settings — what is kept between runs

Settings are a JSON file of two sections. A section or a field that is missing has its default.

- `Settings`        : the two sections
- `Settings.render` : the text of the file
- `Settings.parse?` : the settings of a text
-/

namespace SchemaChange

namespace Settings

/-- How statements are written. -/
structure Ddl where
  delimiter : String := Script.defaultDelimiter
  packagePlaceholder : String := Package.defaultPlaceholder
  deriving DecidableEq, Repr

/-- What is logged. -/
structure Logging where
  filter : String := "info"
  deriving DecidableEq, Repr

end Settings

structure Settings where
  ddl : Settings.Ddl := {}
  logging : Settings.Logging := {}
  deriving DecidableEq, Repr

namespace Settings

open Json (Value Members)

/-! ## Written form -/

def toJson (s : Settings) : Value :=
  .object
    [ ("ddl", .object
        [ ("delimiter", .text s.ddl.delimiter),
          ("package_placeholder", .text s.ddl.packagePlaceholder) ]),
      ("logging", .object [("filter", .text s.logging.filter)]) ]

def render (s : Settings) : String :=
  Json.renderPretty s.toJson

/-! ## Reading -/

def ddlOf? (v : Value) : Option Ddl := do
  let m ← Json.recordOf? ["delimiter", "package_placeholder"] v
  let delimiter ← m.field? "delimiter" Script.defaultDelimiter Json.textOf?
  let packagePlaceholder ←
    m.field? "package_placeholder" Package.defaultPlaceholder Json.textOf?
  return { delimiter, packagePlaceholder }

def loggingOf? (v : Value) : Option Logging := do
  let m ← Json.recordOf? ["filter"] v
  let filter ← m.field? "filter" "info" Json.textOf?
  return { filter }

def ofJson? (v : Value) : Option Settings := do
  let m ← Json.recordOf? ["ddl", "logging"] v
  let ddl ← m.field? "ddl" {} ddlOf?
  let logging ← m.field? "logging" {} loggingOf?
  return { ddl, logging }

/-- The settings of a text. Members that are no fields are passed over, whatever they hold. -/
def parse? (text : String) : Option Settings :=
  (Json.outline? text).bind ofJson?

end Settings
end SchemaChange
