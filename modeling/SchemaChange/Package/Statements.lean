import SchemaChange.Package.Basic
import SchemaChange.Refusal
import SchemaChange.Script.Batch
import SchemaChange.Sql.Identifier
import SchemaChange.Sql.Literal

/-!
# Package.Statements — statements that write a package

- `Package.toBatch` : header, body and comment, as a batch
-/

namespace SchemaChange
namespace Package

/-- A blank comment of an existing package removes the comment. -/
def commentStatements (p : Package) (name : String) : List String :=
  match p.description with
  | none => []
  | some text =>
      if !Text.isBlank text then
        ["COMMENT ON PACKAGE " ++ name ++ " IS " ++ Sql.quoteText (Text.trim text)]
      else if p.existing then
        ["COMMENT ON PACKAGE " ++ name ++ " IS NULL"]
      else
        []

def statements (p : Package) : Except Refusal (List String) := do
  let name ← demand .name (some p.name)
  let header ← demand .header (some p.header)
  let body ← demand .body (some p.body)
  let quoted := Sql.identifier name
  return [p.fillIn header quoted, p.fillIn body quoted] ++ p.commentStatements quoted

def toBatch (p : Package) : Except Refusal Script.Batch :=
  p.statements.map Script.Batch.ofStatements

end Package
end SchemaChange
