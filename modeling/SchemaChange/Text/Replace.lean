import SchemaChange.Text.Blank

/-!
# Text.Replace — replacing occurrences of a text

One pass from left to right over the characters. At each position the pass looks whether the sought
text begins there and may be replaced; if so it writes the replacement and goes on behind the
occurrence, so occurrences never overlap and a replacement is never searched.

- `replaceAll`   : every occurrence
- `replaceWords` : the occurrences that stand between blanks or the ends of the text
-/

namespace SchemaChange
namespace Text

/-! ## Every occurrence -/

/-- The pass over the text; the number counts the characters of an occurrence that are still to be
passed over. -/
def replaceFrom (sought replacement : List Char) : Nat → List Char → List Char
  | _, [] => []
  | skip + 1, _ :: cs => replaceFrom sought replacement skip cs
  | 0, c :: cs =>
      if sought.isPrefixOf (c :: cs) then
        replacement ++ replaceFrom sought replacement (sought.length - 1) cs
      else
        c :: replaceFrom sought replacement 0 cs

/-- Replaces every occurrence; the empty text is sought nowhere. -/
def replaceAll (sought replacement source : String) : String :=
  if sought.isEmpty then source
  else String.ofList (replaceFrom sought.toList replacement.toList 0 source.toList)

/-! ## Whole words -/

/-- A word may end here: at the end of the text or before a blank. -/
def endsWord : List Char → Bool
  | [] => true
  | c :: _ => isSpace c

/-- The text begins with the word, and the word ends there. -/
def wordAt (word text : List Char) : Bool :=
  word.isPrefixOf text && endsWord (text.drop word.length)

/-- The pass over the text. `fresh` tells that a word may begin here: nothing or a blank was passed
just before. Behind a replaced word it is false even if that word ends in a blank. -/
def replaceWordsFrom (word replacement : List Char) : Nat → Bool → List Char → List Char
  | _, _, [] => []
  | skip + 1, _, _ :: cs => replaceWordsFrom word replacement skip false cs
  | 0, fresh, c :: cs =>
      if fresh && wordAt word (c :: cs) then
        replacement ++ replaceWordsFrom word replacement (word.length - 1) false cs
      else
        c :: replaceWordsFrom word replacement 0 (isSpace c) cs

/-- Replaces the word wherever it stands between blanks or the ends of the text. -/
def replaceWords (word replacement source : String) : String :=
  if word.isEmpty then source
  else String.ofList (replaceWordsFrom word.toList replacement.toList 0 true source.toList)

end Text
end SchemaChange
