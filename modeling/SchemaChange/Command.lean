import SchemaChange.Json.Printer
import SchemaChange.Json.Reader
import SchemaChange.Object

/-!
# Command — the things the tool does with texts

- `Command.synthesize`      : the statements of the objects in a JSON text
- `Command.split`           : the statements of a script
- `Command.packageTemplate` : the JSON text of a new package
- `Command.decode?`         : one object in a JSON text
-/

namespace SchemaChange

/-- Why no batch came out of a text. -/
inductive CommandError
  | malformed
  | invalidObject
  | invalidItem
  /-- The object at a position was refused. -/
  | refused (kind : String) (index : Nat) (refusal : Refusal)
  deriving DecidableEq, Repr

namespace CommandError

def message : CommandError → String
  | .malformed => "Failed to parse designer JSON"
  | .invalidObject => "Invalid designer object"
  | .invalidItem => "Invalid designer object in array"
  | .refused kind index _ =>
      kind ++ " #" ++ Text.decimal index ++ " cannot be synthesized"

/-- The refusal behind the error, if there is one. -/
def refusal? : CommandError → Option Refusal
  | .refused _ _ refusal => some refusal
  | _ => none

end CommandError

namespace Command

/-! ## Objects of a text -/

/-- One object, decoded from the tree of a text as it is. -/
def decode? (text : String) : Option DesignObject :=
  (Json.read? text).bind DesignObject.ofJson?

/-- The objects of a sorted tree: the items of an array, or a single one. -/
def objectsOf (v : Json.Value) : Except CommandError (List DesignObject) :=
  match v with
  | .array items =>
      match Json.allOf? DesignObject.ofJson? items with
      | some objects => .ok objects
      | none => .error .invalidItem
  | single =>
      match DesignObject.ofJson? single with
      | some object => .ok [object]
      | none => .error .invalidObject

/-- The statements of objects from a position on; the first one refused refuses them all. -/
def statementsFrom (index : Nat) : List DesignObject → Except CommandError (List String)
  | [] => .ok []
  | object :: rest =>
      match object.toBatch with
      | .error refusal => .error (.refused object.kindWord index refusal)
      | .ok batch => (statementsFrom (index + 1) rest).map (batch.statements ++ ·)

/-! ## Commands -/

/-- The statements of all objects of a text, in one batch. The text is first read into a tree whose
members are sorted, so that a member given twice counts once. -/
def synthesize (text delimiter : String) : Except CommandError Script.Batch :=
  match Json.read? text with
  | none => .error .malformed
  | some v => do
      let objects ← objectsOf v.ordered
      let statements ← statementsFrom 0 objects
      return ⟨statements, delimiter⟩

def split (script delimiter : String) : List String :=
  (Script.Batch.parse script delimiter).statements

def packageTemplate (name placeholder : String) : String :=
  Json.renderPretty (DesignObject.package (Package.new name placeholder)).toJson

end Command
end SchemaChange
