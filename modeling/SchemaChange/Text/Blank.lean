/-!
# Text.Blank — blank characters and the text between them

The characters with the Unicode property White_Space, and the three ways in which the library
asks about them:

- `trim`      : a text without the blanks at its two ends
- `isBlank`   : nothing is left after trimming
- `nonBlank?` : an optional text, trimmed, if anything is left of it
-/

namespace SchemaChange
namespace Text

/-- The 25 characters with the property White_Space. -/
def isSpace (c : Char) : Bool :=
  let n := c.toNat
  (9 ≤ n && n ≤ 13) || n == 0x20 || n == 0x85 || n == 0xA0 || n == 0x1680 ||
    (0x2000 ≤ n && n ≤ 0x200A) || n == 0x2028 || n == 0x2029 || n == 0x202F ||
    n == 0x205F || n == 0x3000

theorem isSpace_of_isWhitespace {c : Char} (h : c.isWhitespace = true) : isSpace c = true := by
  simp only [Char.isWhitespace, Bool.or_eq_true, decide_eq_true_eq] at h
  rcases h with ((h | h) | h) | h <;> subst h <;> decide

/-! ## Trimming -/

def trimStart (cs : List Char) : List Char :=
  cs.dropWhile isSpace

def trimEnd (cs : List Char) : List Char :=
  (cs.reverse.dropWhile isSpace).reverse

/-- The text without the blanks at its two ends, over characters. -/
def trimChars (cs : List Char) : List Char :=
  trimEnd (trimStart cs)

def trim (s : String) : String :=
  String.ofList (trimChars s.toList)

@[simp] theorem toList_trim (s : String) : (trim s).toList = trimChars s.toList := by
  simp [trim]

/-! ## Blank texts -/

/-- A text is blank when every character of it is. -/
def isBlank (s : String) : Bool :=
  s.toList.all isSpace

/-- The trimmed text, unless the text is absent or blank. -/
def nonBlank? : Option String → Option String
  | none => none
  | some s => if isBlank s then none else some (trim s)

@[simp] theorem nonBlank?_none : nonBlank? none = none := rfl

theorem nonBlank?_some (s : String) :
    nonBlank? (some s) = if isBlank s then none else some (trim s) := rfl

end Text
end SchemaChange
