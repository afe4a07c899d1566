import SchemaChange.Json.Attributes
import SchemaChange.Json.Printer
import SchemaChange.Json.Reader

/-!
# Attachment — how to reach a database

- `Attachment`        : host, port, database, user and driver properties
- `target`            : the string by which drivers attach to the database
- `toJson`, `ofJson?` : the attachment in JSON; the password is read and never written
- `render`, `parse?`  : the attachment as a JSON text
-/

namespace SchemaChange

structure Attachment where
  /-- Empty for a database in a file of this machine. -/
  host : String := ""
  /-- Zero for the port that servers use by default. -/
  port : UInt16 := 0
  database : String := ""
  username : Option String := none
  password : Option String := none
  charset : Option String := none
  properties : Attributes := Attributes.empty
  deriving DecidableEq

namespace Attachment

open Json (Value Members)

def standardPort : UInt16 := 3050

/-- A database on a server. -/
def server (host database : String) : Attachment :=
  { host := host, port := standardPort, database := database }

def loggedInAs (a : Attachment) (username password : String) : Attachment :=
  { a with username := some username, password := some password }

def setProperty (a : Attachment) (key value : String) : Attachment :=
  { a with properties := a.properties.insert key value }

/-- Host, port and database; the database alone when there is no host. -/
def target (a : Attachment) : String :=
  if a.host.isEmpty then a.database
  else
    let port := if a.port = 0 then standardPort else a.port
    a.host ++ "/" ++ Text.decimal port.toNat ++ ":" ++ a.database

/-! ## JSON -/

def toJson (a : Attachment) : Value :=
  .object
    [ ("host", .text a.host),
      ("port", Json.ofNat a.port.toNat),
      ("database", .text a.database),
      ("username", Json.ofOption .text a.username),
      ("charset", Json.ofOption .text a.charset),
      ("properties", Json.ofAttributes a.properties) ]

/-- The fields in their order, with the password that is only read. -/
def fields : List String :=
  ["host", "port", "database", "username", "password", "charset", "properties"]

def ofMembers? (m : Members) : Option Attachment := do
  let host ← m.field? "host" "" Json.textOf?
  let port ← m.field? "port" 0 Json.uint16Of?
  let database ← m.field? "database" "" Json.textOf?
  let username ← m.field? "username" none (Json.nullable? Json.textOf?)
  let password ← m.field? "password" none (Json.nullable? Json.textOf?)
  let charset ← m.field? "charset" none (Json.nullable? Json.textOf?)
  let properties ← m.field? "properties" Attributes.empty Json.attributesOf?
  return { host, port, database, username, password, charset, properties }

def ofJson? (v : Value) : Option Attachment :=
  (Json.recordOf? fields v).bind ofMembers?

def render (a : Attachment) : String :=
  Json.render a.toJson

/-- The attachment of a text. Members that are no fields are passed over, whatever they hold. -/
def parse? (text : String) : Option Attachment :=
  (Json.outline? text).bind ofJson?

end Attachment
end SchemaChange
