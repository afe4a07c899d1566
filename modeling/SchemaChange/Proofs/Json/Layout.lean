import SchemaChange.Json.Printer
import SchemaChange.Json.Reader

/-!
# Proofs.Json.Layout — the two layouts of a tree as one

On one line or on many, the same tokens are written; only the blanks between them differ.

- `Layout`               : the blanks between the tokens of a text
- `Layout.chars`         : a tree in a layout
- `Layout.chars_oneLine` : what is written on one line
- `Layout.chars_lines`   : what is written with one item or member a line
-/

namespace SchemaChange
namespace Json

def AllBlank (cs : List Char) : Prop :=
  ∀ c ∈ cs, isJsonBlank c = true

/-- The blanks in front of items and members at a level, and those behind a colon. -/
structure Layout where
  lineStart : Nat → List Char
  gap : List Char
  allBlank_lineStart : ∀ level, AllBlank (lineStart level)
  allBlank_gap : AllBlank gap

namespace Layout

mutual

/-- A value at a level. -/
def chars (l : Layout) (level : Nat) : Value → List Char
  | .array [] => ['[', ']']
  | .array (v :: vs) =>
      '[' :: (l.lineStart (level + 1) ++ (l.chars (level + 1) v ++ l.items level vs))
  | .object [] => ['\x7b', '\x7d']
  | .object ((name, v) :: ms) =>
      '\x7b' :: (l.lineStart (level + 1) ++ (stringLiteral name ++
        ':' :: (l.gap ++ (l.chars (level + 1) v ++ l.members level ms))))
  | .null => scalarChars .null
  | .bool b => scalarChars (.bool b)
  | .integer n => scalarChars (.integer n)
  | .real x => scalarChars (.real x)
  | .text s => scalarChars (.text s)
  | .unpaired literal => scalarChars (.unpaired literal)

/-- The items behind the first one of an array at a level, and its end. -/
def items (l : Layout) (level : Nat) : List Value → List Char
  | [] => l.lineStart level ++ [']']
  | v :: vs => ',' :: (l.lineStart (level + 1) ++ (l.chars (level + 1) v ++ l.items level vs))

/-- The members behind the first one of an object at a level, and its end. -/
def members (l : Layout) (level : Nat) : List (String × Value) → List Char
  | [] => l.lineStart level ++ ['\x7d']
  | (name, v) :: ms =>
      ',' :: (l.lineStart (level + 1) ++ (stringLiteral name ++
        ':' :: (l.gap ++ (l.chars (level + 1) v ++ l.members level ms))))

end

/-- No blanks at all. -/
def oneLine : Layout where
  lineStart _ := []
  gap := []
  allBlank_lineStart _ := List.forall_mem_nil _
  allBlank_gap := List.forall_mem_nil _

/-- One item or member a line. -/
def lines : Layout where
  lineStart := Json.lineStart
  gap := [' ']
  allBlank_lineStart := by
    intro level c mem
    rw [Json.lineStart, List.mem_cons] at mem
    rcases mem with rfl | mem
    · rfl
    · rw [List.eq_of_mem_replicate mem]
      rfl
  allBlank_gap := List.forall_mem_singleton.2 rfl

mutual

theorem chars_oneLine (level : Nat) : ∀ v : Value, oneLine.chars level v = renderChars v
  | .array [] => rfl
  | .array (v :: vs) => by
      rw [chars, renderChars, chars_oneLine (level + 1) v, items_oneLine level vs]
      rfl
  | .object [] => rfl
  | .object ((name, v) :: ms) => by
      rw [chars, renderChars, chars_oneLine (level + 1) v, members_oneLine level ms]
      simp [oneLine]
  | .null => rfl
  | .bool _ => rfl
  | .integer _ => rfl
  | .real _ => rfl
  | .text _ => rfl
  | .unpaired _ => rfl

theorem items_oneLine (level : Nat) : ∀ vs : List Value, oneLine.items level vs = renderItems vs
  | [] => rfl
  | v :: vs => by
      rw [items, renderItems, chars_oneLine (level + 1) v, items_oneLine level vs]
      rfl

theorem members_oneLine (level : Nat) :
    ∀ ms : List (String × Value), oneLine.members level ms = renderMembers ms
  | [] => rfl
  | (name, v) :: ms => by
      rw [members, renderMembers, chars_oneLine (level + 1) v, members_oneLine level ms]
      simp [oneLine]

end

mutual

theorem chars_lines (level : Nat) : ∀ v : Value, lines.chars level v = prettyChars level v
  | .array [] => rfl
  | .array (v :: vs) => by
      rw [chars, prettyChars, chars_lines (level + 1) v, items_lines level vs]
      simp [lines]
  | .object [] => rfl
  | .object ((name, v) :: ms) => by
      rw [chars, prettyChars, chars_lines (level + 1) v, members_lines level ms]
      simp [lines]
  | .null => rfl
  | .bool _ => rfl
  | .integer _ => rfl
  | .real _ => rfl
  | .text _ => rfl
  | .unpaired _ => rfl

theorem items_lines (level : Nat) : ∀ vs : List Value, lines.items level vs = prettyItems level vs
  | [] => rfl
  | v :: vs => by
      rw [items, prettyItems, chars_lines (level + 1) v, items_lines level vs]
      simp [lines]

theorem members_lines (level : Nat) :
    ∀ ms : List (String × Value), lines.members level ms = prettyMembers level ms
  | [] => rfl
  | (name, v) :: ms => by
      rw [members, prettyMembers, chars_lines (level + 1) v, members_lines level ms]
      simp [lines]

end

end Layout

end Json
end SchemaChange
