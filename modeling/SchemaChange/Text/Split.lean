/-!
# Text.Split — pieces between separators

- `splitOnChar`   : the pieces of a text between single separator characters
- `afterKeyword?` : what follows a keyword in whatever case
-/

namespace SchemaChange
namespace Text

/-- The pieces between the separators; one more than there are separators. -/
def splitOnChar (separator : Char) : List Char → List (List Char)
  | [] => [[]]
  | c :: cs =>
      if c = separator then
        [] :: splitOnChar separator cs
      else
        match splitOnChar separator cs with
        | [] => [[c]]
        | piece :: pieces => (c :: piece) :: pieces

/-- Equality up to the case of ASCII letters. -/
def sameWord (a b : List Char) : Bool :=
  a.map Char.toLower == b.map Char.toLower

/-- What follows the keyword at the start of a text, ASCII letters in either case. -/
def afterKeyword? (keyword cs : List Char) : Option (List Char) :=
  if sameWord (cs.take keyword.length) keyword then some (cs.drop keyword.length) else none

end Text
end SchemaChange
