import SchemaChange.Catalog.Lookup
import SchemaChange.Package.Basic

/-!
# Package.Load — packages from the system tables

- `Package.load` : an existing package, ready to be edited
-/

namespace SchemaChange
namespace Package

def catalogSql : String :=
  "SELECT RDB$PACKAGE_HEADER_SOURCE, RDB$PACKAGE_BODY_SOURCE, RDB$DESCRIPTION " ++
  "FROM RDB$PACKAGES WHERE RDB$PACKAGE_NAME = ?"

/-- The package that a row describes; a source that is missing is an empty block. The system tables
keep the sources without the heads of their statements. -/
def ofRow (name : String) (row : Catalog.Row) : Package :=
  let header := (row.text? "RDB$PACKAGE_HEADER_SOURCE").getD "begin\nend"
  let body := (row.text? "RDB$PACKAGE_BODY_SOURCE").getD "begin\nend"
  ofSources name
    ("create or alter package " ++ name ++ "\nas\n" ++ header)
    ("recreate package body " ++ name ++ "\nas\n" ++ body)
    (row.text? "RDB$DESCRIPTION")

def load (name : String) : Lookup LoadProblem Package := do
  let rows ← loadRows catalogSql [name]
  let row ← headRow "package" name rows
  return ofRow name row

end Package
end SchemaChange
