import SchemaChange.Column.Basic
import SchemaChange.Draft

/-!
# Column.Edit — edits of a column

Each edit sets one value, or the two values of a type, and touches one attribute. The size, the
scale, the sub-type, the character set and the collation belong to the attribute `type`.

- `Column.Part` : the attributes that an edit can touch
- `Column.Edit` : the edits
- `ColumnDraft` : a column as it was and as it is to be
-/

namespace SchemaChange
namespace Column

/-- The attributes that an edit can touch. -/
inductive Part
  | name
  | type
  | nullable
  | defaultValue
  | computed
  | description
  | domain
  | autoIncrement
  deriving DecidableEq, Repr

instance : Attribute Part where
  all := [.name, .type, .nullable, .defaultValue, .computed, .description, .domain, .autoIncrement]
  bit
    | .name => 0
    | .type => 1
    | .nullable => 2
    | .defaultValue => 3
    | .computed => 4
    | .description => 5
    | .domain => 6
    | .autoIncrement => 7
  label
    | .name => "NAME"
    | .type => "TYPE"
    | .nullable => "NULLABLE"
    | .defaultValue => "DEFAULT"
    | .computed => "COMPUTED"
    | .description => "DESCRIPTION"
    | .domain => "DOMAIN"
    | .autoIncrement => "AUTOINCREMENT"

inductive Edit
  | name (name : String)
  | type (code : Sql.TypeCode) (name : String)
  | size (size : Option Int32)
  | scale (scale : Option Int32)
  | subtype (subtype : Option Int32)
  | charset (charset : Option String)
  | collate (collate : Option String)
  | domain (domain : Option String)
  | nullable (nullable : Bool)
  | defaultValue (value : Option String)
  | computed (source : Option String)
  | description (text : Option String)
  | autoIncrement (config : Option AutoIncrement)
  deriving DecidableEq, Repr

namespace Edit

/-- The attribute that the edit touches. -/
def part : Edit → Part
  | .name _ => .name
  | .type _ _ => .type
  | .size _ => .type
  | .scale _ => .type
  | .subtype _ => .type
  | .charset _ => .type
  | .collate _ => .type
  | .domain _ => .domain
  | .nullable _ => .nullable
  | .defaultValue _ => .defaultValue
  | .computed _ => .computed
  | .description _ => .description
  | .autoIncrement _ => .autoIncrement

def apply (e : Edit) (c : Column) : Column :=
  match e with
  | .name v => { c with name := v }
  | .type v w => { c with typeCode := v, typeName := w }
  | .size v => { c with size := v }
  | .scale v => { c with scale := v }
  | .subtype v => { c with subtype := v }
  | .charset v => { c with charset := v }
  | .collate v => { c with collate := v }
  | .domain v => { c with domain := v }
  | .nullable v => { c with nullable := v }
  | .defaultValue v => { c with defaultValue := v }
  | .computed v => { c with computed := v }
  | .description v => { c with description := v }
  | .autoIncrement v => { c with autoIncrement := v }

end Edit
end Column

/-- A column as it was and as it is to be. -/
abbrev ColumnDraft : Type := Draft Column Column.Part

namespace ColumnDraft

def applyEdit (d : ColumnDraft) (e : Column.Edit) : ColumnDraft :=
  d.change e.part e.apply

/-- Applies edits one after the other. -/
def applyEdits (d : ColumnDraft) (edits : List Column.Edit) : ColumnDraft :=
  edits.foldl applyEdit d

end ColumnDraft
end SchemaChange
