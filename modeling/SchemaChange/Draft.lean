import SchemaChange.Text.Blank
import SchemaChange.Text.Digits
import SchemaChange.Text.Split

/-!
# Draft — an object as it was and as it is to be

A draft keeps the values it started from, the values wanted now, and the set of attributes that were
touched since. Touching an attribute marks it for good, even if a later edit restores the old value.

- `Attribute`    : the attributes of a kind of object, each with its bit and its label
- `Marks`        : a set of attributes; of the 16 bits some may stand for no attribute
- `Marks.render` : the written form of a set
- `Marks.parse?` : the set that a text stands for
- `Draft`        : old values, new values, marks
-/

namespace SchemaChange

/-- The attributes of a kind of object. -/
class Attribute (A : Type) where
  /-- All attributes, in the order of their bits. -/
  all : List A
  bit : A → Nat
  label : A → String

/-! ## Sets of attributes -/

structure Marks (A : Type) where
  bits : BitVec 16
  deriving DecidableEq, Repr

namespace Marks

variable {A : Type}

def empty : Marks A := ⟨0⟩

def isEmpty (m : Marks A) : Bool :=
  m.bits == 0

variable [Attribute A]

def contains (m : Marks A) (a : A) : Bool :=
  m.bits.getLsbD (Attribute.bit a)

def insert (m : Marks A) (a : A) : Marks A :=
  ⟨m.bits ||| BitVec.twoPow 16 (Attribute.bit a)⟩

def union (m n : Marks A) : Marks A :=
  ⟨m.bits ||| n.bits⟩

/-- The attributes of the set, in the order of their bits. -/
def attributes (m : Marks A) : List A :=
  (Attribute.all : List A).filter m.contains

/-- The bits that stand for attributes. -/
def named : BitVec 16 :=
  (Attribute.all : List A).foldl (fun bits a => bits ||| BitVec.twoPow 16 (Attribute.bit a)) 0

/-- The bits of the set that stand for no attribute. -/
def unnamed (m : Marks A) : BitVec 16 :=
  m.bits &&& ~~~(named (A := A))

/-! ### Written form -/

/-- The labels, and the other bits as one hexadecimal number. -/
def render (m : Marks A) : String :=
  let labels := m.attributes.map Attribute.label
  let other := if m.unnamed = 0 then [] else ["0x" ++ Text.hexadecimal m.unnamed.toNat]
  " | ".intercalate (labels ++ other)

/-- Hexadecimal digits, behind an optional plus sign, of a number of 16 bits. -/
def readBits? (digits : List Char) : Option (BitVec 16) :=
  let unsigned := match digits with
    | '+' :: rest => rest
    | digits => digits
  match Text.readHex? unsigned with
  | some n => if n < 0x10000 then some (BitVec.ofNat 16 n) else none
  | none => none

/-- A label or a number. -/
def readPart? (part : List Char) : Option (Marks A) :=
  match part with
  | '0' :: 'x' :: digits => (readBits? digits).map Marks.mk
  | label =>
      ((Attribute.all : List A).find? fun a => (Attribute.label a).toList == label).map
        (insert empty)

/-- The union of all parts; one bad part spoils the set. -/
def readParts? : List (List Char) → Option (Marks A)
  | [] => some empty
  | part :: parts =>
      match readPart? (Text.trimChars part), readParts? parts with
      | some m, some n => some (m.union n)
      | _, _ => none

/-- A blank text is the empty set; parts stand between vertical bars. -/
def parse? (s : String) : Option (Marks A) :=
  if Text.isBlank s then some empty else readParts? (Text.splitOnChar '|' s.toList)

end Marks

/-! ## Drafts -/

structure Draft (V A : Type) where
  /-- The values that editing started from. -/
  initial : V
  /-- The values wanted now. -/
  current : V
  marks : Marks A
  /-- The object is there already. -/
  existing : Bool
  deriving DecidableEq

namespace Draft

variable {V A : Type}

/-- The object is still to be created. -/
def ofNew (values : V) : Draft V A :=
  ⟨values, values, Marks.empty, false⟩

/-- The object is there, with the given values. -/
def ofExisting (values : V) : Draft V A :=
  ⟨values, values, Marks.empty, true⟩

def isTouched (d : Draft V A) : Bool :=
  !d.marks.isEmpty

variable [Attribute A]

def isMarked (d : Draft V A) (a : A) : Bool :=
  d.marks.contains a

/-- Changes the wanted values and marks an attribute. -/
def change (d : Draft V A) (a : A) (f : V → V) : Draft V A :=
  { d with current := f d.current, marks := d.marks.insert a }

end Draft
end SchemaChange
