import SchemaChange.Text.Blank
import SchemaChange.Text.Digits
import SchemaChange.Text.Letter

/-!
# LogFilter.Pattern — regular expressions for the fields of a span

A pattern is read from left to right: literals, escapes, classes in brackets, groups, alternatives
and repetitions. Counted repetitions need a closing brace, which cannot stand in a filter, so an
opening brace outside of a class is always wrong.

Patterns do not know the properties of Unicode's characters. In Unicode mode, which is on at first,
they therefore have no classes by letter and no characters in either case; word boundaries are
well-formed there, but no automaton is built for them. Outside of Unicode mode all of these are
there for ASCII, and what could match a part of a character is refused.

- `Fault`      : what can be wrong with a pattern
- `Modes`      : how the parts of a pattern are read
- `readEscape` : what follows a backslash
- `readClass`  : a class in brackets
- `openGroup`  : the start of a group
- `fault?`     : what is wrong with a pattern
-/

namespace SchemaChange
namespace LogFilter
namespace Pattern

inductive Fault
  | malformed
  | wordBoundary
  deriving DecidableEq, Repr

def Fault.text : Fault → String
  | .malformed => "error building NFA"
  | .wordBoundary =>
      "unsupported regex feature for DFAs: cannot build DFAs for regexes with Unicode word " ++
        "boundaries; switch to ASCII word boundaries, or heuristically enable Unicode word " ++
        "boundaries or use a different regex engine"

/-! ## Modes -/

/-- How the parts of a pattern are read; flags change it. -/
structure Modes where
  /-- Classes and boundaries are those of Unicode. -/
  unicode : Bool := true
  /-- Characters stand for both of their cases. -/
  caseless : Bool := false
  /-- Blanks and comments stand for nothing. -/
  spaced : Bool := false
  deriving DecidableEq, Repr

/-- The text behind blanks, comments and what else is to be passed over. A comment ends with its
line; the second argument tells whether the text begins inside of one. -/
def dropSpace (isPassed : Char → Bool) : Bool → List Char → List Char
  | _, [] => []
  | true, c :: cs => dropSpace isPassed (c != '\n') cs
  | false, c :: cs =>
      if Text.isSpace c || isPassed c then dropSpace isPassed false cs
      else if c = '#' then dropSpace isPassed true cs
      else c :: cs

namespace Modes

/-- Characters can be read. The cases of Unicode's characters are not known. -/
def hasCharacters (m : Modes) : Bool :=
  !(m.unicode && m.caseless)

/-- The text from its next part on. -/
def skip (m : Modes) (cs : List Char) : List Char :=
  if m.spaced then dropSpace (fun _ => false) false cs else cs

/-- The text behind dashes. -/
def dropDashes (m : Modes) (cs : List Char) : List Char :=
  if m.spaced then dropSpace (· == '-') false cs else cs.dropWhile (· == '-')

end Modes

/-! ## Escapes -/

/-- What a part of a pattern stands for. -/
inductive Item
  | literal (c : Char)
  | set
  | anchor
  | boundary
  deriving DecidableEq, Repr

/-- The next parts of a text, of one character each. -/
def takeChars (m : Modes) : Nat → List Char → Option (List Char × List Char)
  | 0, cs => some ([], cs)
  | count + 1, cs =>
      match m.skip cs with
      | [] => none
      | c :: cs => (takeChars m count cs).map fun (taken, rest) => (c :: taken, rest)

/-- A character by its hexadecimal digits, of which there is a fixed number. -/
def readHexLiteral (m : Modes) (count : Nat) (cs : List Char) : Option (Item × List Char) := do
  let (digits, rest) ← takeChars m count cs
  let value ← Text.readHex? digits
  if value.isValidChar then return (.literal (Char.ofNat value), m.skip rest) else none

/-- A character by two hexadecimal digits; outside of Unicode mode they are a byte. -/
def readByteLiteral (m : Modes) (cs : List Char) : Option (Item × List Char) := do
  let (item, rest) ← readHexLiteral m 2 cs
  match item with
  | .literal c => if m.unicode ∨ c.toNat < 0x80 then return (item, rest) else none
  | _ => none

/-- Reads what follows a backslash. ASCII characters other than letters and digits stand for
themselves. -/
def readEscape (m : Modes) : List Char → Option (Item × List Char)
  | [] => none
  | c :: cs =>
      match c with
      | 'x' => readByteLiteral m cs
      | 'u' => readHexLiteral m 4 cs
      | 'U' => readHexLiteral m 8 cs
      | 'a' => some (.literal '\x07', cs)
      | 'f' => some (.literal '\x0c', cs)
      | 't' => some (.literal '\t', cs)
      | 'n' => some (.literal '\n', cs)
      | 'r' => some (.literal '\r', cs)
      | 'v' => some (.literal '\x0b', cs)
      | 'A' => some (.anchor, cs)
      | 'z' => some (.anchor, cs)
      | _ =>
          if c ∈ ['b', 'B', '<', '>'] then some (.boundary, cs)
          else if c ∈ ['d', 's', 'w'] ∧ !m.unicode then some (.set, cs)
          else if c.toNat < 0x80 ∧ !c.isAlphanum then some (.literal c, cs)
          else none

/-! ## Classes -/

/-- Outside of Unicode mode a class has members from ASCII alone. -/
def isMember (m : Modes) : Item → Bool
  | .literal c => m.hasCharacters && (m.unicode || c.toNat < 0x80)
  | .set => true
  | .anchor => false
  | .boundary => false

/-- Reads a character or a set of characters inside a class. -/
def readMember (m : Modes) (cs : List Char) : Option (Item × List Char) := do
  let (item, rest) ←
    match cs with
    | [] => none
    | '\\' :: cs => readEscape m cs
    | c :: cs => some (.literal c, cs)
  if isMember m item then return (item, rest) else none

/-- A range joins two literals in their order. -/
def isRange : Item → Item → Bool
  | .literal first, .literal last => first ≤ last
  | _, _ => false

/-- Reads a member of a class or a range of members. A dash in front of a bracket or of another dash
joins nothing. -/
def readMembers (m : Modes) (cs : List Char) : Option (List Char) := do
  let (first, rest) ← readMember m cs
  match m.skip rest with
  | '-' :: following =>
      let following := m.skip following
      if following.head? = some ']' ∨ following.head? = some '-' then
        return m.skip rest
      else
        let (last, behind) ← readMember m following
        if isRange first last then return behind else none
  | rest => return rest

/-- Reads the start of a class, behind its bracket: a caret negates the class, and dashes there, or
else a closing bracket, stand for themselves. -/
def openClass (m : Modes) (cs : List Char) : Option (List Char) :=
  let start := m.skip cs
  let isNegated := start.head? = some '^'
  let members := if isNegated then m.skip start.tail else start
  if isNegated ∧ !m.unicode then none
  else if members.head? = some '-' then
    if m.hasCharacters then some (m.dropDashes members) else none
  else if members.head? = some ']' then
    if m.hasCharacters then some members.tail else none
  else some members

def classNames : List String :=
  ["alnum", "alpha", "ascii", "blank", "cntrl", "digit", "graph", "lower", "print", "punct",
    "space", "upper", "word", "xdigit"]

/-- Reads the name of a class between colons, behind its bracket, and tells whether a caret negates
the class. -/
def readClassName? : List Char → Option (Bool × List Char)
  | ':' :: cs =>
      let isNegated := cs.head? = some '^'
      let named := if isNegated then cs.tail else cs
      match named.dropWhile (· != ':') with
      | ':' :: ']' :: rest =>
          if String.ofList (named.takeWhile (· != ':')) ∈ classNames then
            some (isNegated, rest)
          else
            none
      | _ => none
  | _ => none

/-- Reads the members of a class to its closing bracket. Classes may lie in each other and may be
joined by operators; the second number counts those that are open. -/
def readClass (m : Modes) : Nat → Nat → List Char → Option (List Char)
  | 0, _, _ => none
  | fuel + 1, depth, cs =>
      match m.skip cs with
      | [] => none
      | '[' :: cs =>
          match readClassName? cs with
          | some (isNegated, rest) =>
              if m.hasCharacters && (m.unicode || !isNegated) then readClass m fuel depth rest
              else none
          | none => (openClass m cs).bind (readClass m fuel (depth + 1))
      | ']' :: cs => if depth = 1 then some cs else readClass m fuel (depth - 1) cs
      | '&' :: '&' :: cs => readClass m fuel depth cs
      | '-' :: '-' :: cs => readClass m fuel depth cs
      | '~' :: '~' :: cs => readClass m fuel depth cs
      | cs => (readMembers m cs).bind (readClass m fuel depth)

/-! ## Groups -/

/-- What has been read of a pattern. -/
structure Reading where
  /-- For each group that is open, the innermost first, the modes around it. -/
  outer : List Modes := []
  modes : Modes := {}
  /-- Something stands last that can be repeated. -/
  isRepeatable : Bool := false
  /-- The names of groups. -/
  names : List (List Char) := []
  /-- A word boundary of Unicode was read. -/
  hasBoundary : Bool := false
  deriving DecidableEq, Repr

namespace Reading

/-- Opens a group with modes of its own. -/
def enter (r : Reading) (modes : Modes) : Reading :=
  { r with outer := r.modes :: r.outer, modes := modes, isRepeatable := false }

/-- Closes the innermost group, which can be repeated. -/
def leave (r : Reading) : Option Reading :=
  match r.outer with
  | [] => none
  | modes :: outer => some { r with outer := outer, modes := modes, isRepeatable := true }

end Reading

def isNameStart (c : Char) : Bool :=
  c == '_' || Text.isLetter c

def isNameMember (c : Char) : Bool :=
  Text.isWordMember c || ['_', '.', '[', ']'].contains c

def isName : List Char → Bool
  | [] => false
  | c :: cs => isNameStart c && cs.all isNameMember

/-- Opens a group with a name, which no other group may have. -/
def readNamedGroup (r : Reading) (cs : List Char) : Option (Reading × List Char) :=
  let name := cs.takeWhile (· != '>')
  match cs.dropWhile (· != '>') with
  | '>' :: rest =>
      if isName name ∧ name ∉ r.names then
        some ({ r.enter r.modes with names := name :: r.names }, rest)
      else
        none
  | _ => none

/-- Flags, each once, and at most one dash, behind which flags are turned off. -/
def areFlags (flags : List Char) : Bool :=
  flags.all ['i', 'm', 's', 'U', 'u', 'R', 'x', '-'].contains && decide flags.Nodup &&
    flags.getLast? != some '-'

/-- A mode behind flags: turned on, turned off, or left as it was. -/
def modeBehind (flag : Char) (mode : Bool) (flags : List Char) : Bool :=
  if flags.contains flag then (flags.takeWhile (· != '-')).contains flag else mode

/-- Reads flags, which hold for a group of their own or for the rest of the group they stand in. -/
def readFlags (r : Reading) (cs : List Char) : Option (Reading × List Char) :=
  let isFlag := fun c => c != ':' && c != ')'
  let flags := cs.takeWhile isFlag
  let modes : Modes :=
    { unicode := modeBehind 'u' r.modes.unicode flags
      caseless := modeBehind 'i' r.modes.caseless flags
      spaced := modeBehind 'x' r.modes.spaced flags }
  if !areFlags flags then none
  else
    match cs.dropWhile isFlag with
    | ':' :: rest => some (r.enter modes, rest)
    | ')' :: rest =>
        if flags = [] then none
        else some ({ r with modes := modes, isRepeatable := false }, rest)
    | _ => none

/-- Reads the start of a group, behind its parenthesis. There are no conditions on what stands
before or behind a match. -/
def openGroup (r : Reading) (cs : List Char) : Option (Reading × List Char) :=
  match r.modes.skip cs with
  | '?' :: '=' :: _ => none
  | '?' :: '!' :: _ => none
  | '?' :: '<' :: '=' :: _ => none
  | '?' :: '<' :: '!' :: _ => none
  | '?' :: 'P' :: '<' :: cs => readNamedGroup r cs
  | '?' :: '<' :: cs => readNamedGroup r cs
  | '?' :: cs => readFlags r cs
  | cs => some (r.enter r.modes, cs)

/-! ## Patterns -/

/-- Reads a character that stands for itself, or for any character, or for an end of a line. -/
def stepPlain (r : Reading) (c : Char) : Option Reading :=
  let isReadable :=
    match c with
    | '.' => r.modes.unicode
    | '^' => true
    | '$' => true
    | _ => r.modes.hasCharacters
  if isReadable then some { r with isRepeatable := true } else none

/-- Reads what an escape stands for. -/
def stepItem (r : Reading) (item : Item) : Option Reading :=
  match item with
  | .literal _ => if r.modes.hasCharacters then some { r with isRepeatable := true } else none
  | .boundary =>
      some { r with isRepeatable := true, hasBoundary := r.hasBoundary || r.modes.unicode }
  | .set => some { r with isRepeatable := true }
  | .anchor => some { r with isRepeatable := true }

/-- Reads a part that begins with a given character. -/
def step (r : Reading) (c : Char) (cs : List Char) : Option (Reading × List Char) :=
  match c with
  | '(' => openGroup r cs
  | ')' => r.leave.map (·, cs)
  | '|' => some ({ r with isRepeatable := false }, cs)
  | '[' => do
      let members ← openClass r.modes cs
      let rest ← readClass r.modes (cs.length + 1) 1 members
      return ({ r with isRepeatable := true }, rest)
  | '\\' => do
      let (item, rest) ← readEscape r.modes cs
      return (← stepItem r item, rest)
  | '\x7b' => none
  | _ =>
      if c ∈ ['?', '*', '+'] then
        if r.isRepeatable then some (r, cs) else none
      else
        (stepPlain r c).map (·, cs)

/-- Reads a whole pattern; the first argument bounds the number of its parts. -/
def readFrom : Nat → Reading → List Char → Option Reading
  | 0, _, _ => none
  | fuel + 1, r, cs =>
      match r.modes.skip cs with
      | [] => some r
      | c :: cs => (step r c cs).bind fun (r, rest) => readFrom fuel r rest

/-- What is wrong with a pattern. A pattern that is malformed anywhere is nothing else. -/
def fault? (pattern : List Char) : Option Fault :=
  match readFrom (pattern.length + 1) {} pattern with
  | none => some .malformed
  | some r =>
      if r.outer ≠ [] then some .malformed
      else if r.hasBoundary then some .wordBoundary
      else none

end Pattern
end LogFilter
end SchemaChange
