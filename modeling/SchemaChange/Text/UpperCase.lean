import SchemaChange.Text.CaseTable

/-!
# Text.UpperCase — upper-case forms

Each character is replaced by its full upper-case mapping, which may be several characters (`ß`
becomes `SS`). The mapping looks at one character at a time and at no language.
-/

namespace SchemaChange
namespace Text

/-- The upper-case form of a code point inside a run. -/
def shiftedBy (n : Nat) : Nat × Nat × Nat × Int → Option Char
  | (first, last, stride, shift) =>
      if first ≤ n ∧ n ≤ last ∧ (n - first) % stride = 0 then
        some (Char.ofNat ((n : Int) + shift).toNat)
      else
        none

/-- The upper-case form of one character. -/
def upperChar (c : Char) : List Char :=
  if c.toNat < 0x80 then
    [c.toUpper]
  else
    match caseExpansions.lookup c.toNat with
    | some codes => codes.map Char.ofNat
    | none => [(caseRuns.findSome? (shiftedBy c.toNat)).getD c]

def upperCase (s : String) : String :=
  String.ofList (s.toList.flatMap upperChar)

example : upperCase "straße" = "STRASSE" := by decide +kernel

end Text
end SchemaChange
