/-!
# Script.Lexical — where a script may be cut

A script is read one character at a time. The mode tells what the next character belongs to: plain
text, a quoted text, a quoted name, or a comment of either kind. The delimiter cuts the script where
it is found in plain text and nowhere else; there it is looked for before anything else.

- `Mode`      : what the next character belongs to
- `Mode.next` : the mode behind a character, given the one that follows it
- `fragments` : the texts between the cuts
- `modeAfter` : the mode at the end of a text
-/

namespace SchemaChange
namespace Script

/-- What the next character belongs to. The marks `/*` and `*/` are read as a whole: behind their
first character stands a mode of its own, in which the second one has no other meaning. -/
inductive Mode
  | plain
  | quotedText
  | quotedName
  | lineComment
  | openingComment
  | blockComment
  | closingComment
  deriving DecidableEq, Repr

/-- The mode behind the character `c`, which `following` follows. -/
def Mode.next (mode : Mode) (c : Char) (following : Option Char) : Mode :=
  match mode with
  | .plain =>
      if c = '-' ∧ following = some '-' then .lineComment
      else if c = '/' ∧ following = some '*' then .openingComment
      else if c = '\x27' then .quotedText
      else if c = '\x22' then .quotedName
      else .plain
  | .quotedText => if c = '\x27' then .plain else .quotedText
  | .quotedName => if c = '\x22' then .plain else .quotedName
  | .lineComment => if c = '\n' then .plain else .lineComment
  | .openingComment => .blockComment
  | .blockComment => if c = '*' ∧ following = some '/' then .closingComment else .blockComment
  | .closingComment => .plain

/-- Puts a character in front of the first text of a list. -/
def pushFirst (c : Char) : List (List Char) → List (List Char)
  | [] => [[c]]
  | text :: texts => (c :: text) :: texts

/-- The texts between the delimiters, read in a given mode. The number counts the characters of a
delimiter that are still to be passed over. -/
def fragmentsFrom (delimiter : List Char) : Mode → Nat → List Char → List (List Char)
  | _, _, [] => [[]]
  | mode, skip + 1, _ :: cs => fragmentsFrom delimiter mode skip cs
  | mode, 0, c :: cs =>
      if mode = .plain ∧ delimiter.isPrefixOf (c :: cs) then
        [] :: fragmentsFrom delimiter .plain (delimiter.length - 1) cs
      else
        pushFirst c (fragmentsFrom delimiter (mode.next c cs.head?) 0 cs)

/-- The texts between the delimiters of a script, blank ones included. -/
def fragments (delimiter script : List Char) : List (List Char) :=
  fragmentsFrom delimiter .plain 0 script

/-- The mode at the end of a text that is read from the given mode and has no cut in it. -/
def modeAfter : Mode → List Char → Mode
  | mode, [] => mode
  | mode, c :: cs => modeAfter (mode.next c cs.head?) cs

end Script
end SchemaChange
