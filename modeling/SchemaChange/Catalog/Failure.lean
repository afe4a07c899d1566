/-!
# Catalog.Failure — why a database did not answer

- `Failure`      : the causes
- `Failure.text` : their wording
-/

namespace SchemaChange
namespace Catalog

inductive Failure
  | connection (message : String)
  | query (message : String)
  | catalog (message : String)
  | notFound (message : String)
  | timeout (message : String)
  | file (message : String)
  | other (message : String)
  deriving DecidableEq, Repr

def Failure.text : Failure → String
  | .connection message => "Connection error: " ++ message
  | .query message => "Query error: " ++ message
  | .catalog message => "Catalog error: " ++ message
  | .notFound message => "Not found: " ++ message
  | .timeout message => "Timeout: " ++ message
  | .file message => "IO error: " ++ message
  | .other message => message

end Catalog
end SchemaChange
