import SchemaChange.Text.LetterTable

/-!
# Text.Letter — letters and numerals of all scripts

- `isLetter`     : what words are written with
- `isNumeral`    : what stands for a number, fractions and Roman numerals included
- `isWordMember` : either
-/

namespace SchemaChange
namespace Text

def isLetter (c : Char) : Bool :=
  c.isAlpha || letterRanges.any fun range => range.1 ≤ c.toNat && c.toNat ≤ range.2

def isNumeral (c : Char) : Bool :=
  c.isDigit || numeralRanges.any fun range => range.1 ≤ c.toNat && c.toNat ≤ range.2

def isWordMember (c : Char) : Bool :=
  isLetter c || isNumeral c

theorem isWordMember_of_isAlphanum {c : Char} (h : c.isAlphanum = true) :
    isWordMember c = true := by
  simp only [Char.isAlphanum, Bool.or_eq_true] at h
  rcases h with h | h <;> simp [isWordMember, isLetter, isNumeral, h]

end Text
end SchemaChange
