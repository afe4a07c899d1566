import SchemaChange.Attributes
import SchemaChange.Json.Record

/-!
# Json.Attributes — named texts as an object

Every member of the object is an entry. A name that is given twice keeps its first place and has its
last text.
-/

namespace SchemaChange
namespace Json

def ofAttributes (a : Attributes) : Value :=
  .object (a.entries.map fun (key, text) => (key, .text text))

/-- The members as entries; a member that is no text spoils them all. -/
def entriesOf? : Members → Option (List (String × String))
  | [] => some []
  | (key, v) :: rest =>
      match textOf? v, entriesOf? rest with
      | some text, some entries => some ((key, text) :: entries)
      | _, _ => none

def attributesOf? : Value → Option Attributes
  | .object members => (entriesOf? members).map Attributes.ofList
  | _ => none

end Json
end SchemaChange
