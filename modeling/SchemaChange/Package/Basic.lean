import SchemaChange.Text.Replace

/-!
# Package.Basic — packages of stored routines

The sources of a package are written with a placeholder where the name of the package belongs, so
that a new name has to be given in one place only.

- `Package`           : header, body and comment
- `Package.new`       : a package with empty sources
- `Package.ofSources` : an existing package, its name replaced by the placeholder
- `Package.fillIn`    : the placeholder replaced
-/

namespace SchemaChange
namespace Package

def defaultPlaceholder : String := "<name_package>"

def emptyHeader (placeholder : String) : String :=
  "create or alter package " ++ placeholder ++ "\nas\nbegin\n \nend"

def emptyBody (placeholder : String) : String :=
  "recreate package body " ++ placeholder ++ "\nas\nbegin\n \nend"

end Package

structure Package where
  name : String := ""
  header : String := Package.emptyHeader Package.defaultPlaceholder
  body : String := Package.emptyBody Package.defaultPlaceholder
  description : Option String := none
  /-- Stands for the name in header and body. -/
  placeholder : String := Package.defaultPlaceholder
  /-- The package exists. -/
  existing : Bool := false
  deriving DecidableEq, Repr

namespace Package

/-- A new package with empty sources. -/
def new (name placeholder : String) : Package :=
  { name := name
    header := emptyHeader placeholder
    body := emptyBody placeholder
    placeholder := placeholder }

/-- Writes the placeholder for the name wherever the name stands between blanks. -/
def abstractName (name source : String) : String :=
  Text.replaceWords name defaultPlaceholder (Text.trim source)

/-- An existing package. -/
def ofSources (name header body : String) (description : Option String) : Package :=
  { name := name
    header := abstractName name header
    body := abstractName name body
    description := description
    placeholder := defaultPlaceholder
    existing := true }

/-- Replaces the placeholder; an empty placeholder stands for nothing. -/
def fillIn (p : Package) (source replacement : String) : String :=
  Text.replaceAll p.placeholder replacement source

end Package
end SchemaChange
