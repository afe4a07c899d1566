import SchemaChange.Json.Numeral

/-!
# Json.Value — JSON texts as trees

A tree keeps what a text says: the order of the members of an object, members that are given twice,
and literals that stand for no value.

- `Value`         : the tree
- `Value.usable`  : every literal stands for a value, and nesting is bounded
- `Value.ordered` : the tree with sorted members, the last of equal names alone
-/

namespace SchemaChange
namespace Json

inductive Value
  | null
  | bool (b : Bool)
  | integer (n : Int)
  /-- A number that is no whole number of 64 bits. -/
  | real (x : Numeral)
  | text (s : String)
  /-- A string literal that names half of a surrogate pair, as it is written; it is no text. -/
  | unpaired (literal : List Char)
  | array (items : List Value)
  | object (members : List (String × Value))

/-- The members of an object in their order. -/
abbrev Members : Type := List (String × Value)

/-! ## Values within limits -/

mutual

/-- Literals stand for values, and at most `levels` arrays and objects lie inside each other. -/
def Value.usable (levels : Nat) : Value → Bool
  | .null => true
  | .bool _ => true
  | .integer _ => true
  | .real x => x.double?.isSome
  | .text _ => true
  | .unpaired _ => false
  | .array items => 0 < levels && usableItems (levels - 1) items
  | .object members => 0 < levels && usableMembers (levels - 1) members

def usableItems (levels : Nat) : List Value → Bool
  | [] => true
  | v :: vs => v.usable levels && usableItems levels vs

def usableMembers (levels : Nat) : List (String × Value) → Bool
  | [] => true
  | (_, v) :: ms => v.usable levels && usableMembers levels ms

end

/-! ## Sorted members -/

/-- Puts a member into sorted members; a member of that name is replaced. -/
def insertMember (name : String) (v : Value) : Members → Members
  | [] => [(name, v)]
  | (other, w) :: rest =>
      if name = other then (name, v) :: rest
      else if name < other then (name, v) :: (other, w) :: rest
      else (other, w) :: insertMember name v rest

/-- Sorts members by name; of several with one name the last one stays. -/
def sortMembers (members : Members) : Members :=
  members.foldl (fun sorted member => insertMember member.1 member.2 sorted) []

mutual

/-- The tree in which the members of every object are sorted and have different names. -/
def Value.ordered : Value → Value
  | .null => .null
  | .bool b => .bool b
  | .integer n => .integer n
  | .real x => .real x
  | .text s => .text s
  | .unpaired literal => .unpaired literal
  | .array items => .array (orderedItems items)
  | .object members => .object (sortMembers (orderedMembers members))

def orderedItems : List Value → List Value
  | [] => []
  | v :: vs => v.ordered :: orderedItems vs

def orderedMembers : List (String × Value) → Members
  | [] => []
  | (name, v) :: ms => (name, v.ordered) :: orderedMembers ms

end

end Json
end SchemaChange
