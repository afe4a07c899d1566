import SchemaChange.LogFilter.Pattern
import SchemaChange.Text.Blank
import SchemaChange.Text.Bytes
import SchemaChange.Text.Split

/-!
# LogFilter — which messages are logged

A filter is a list of directives between commas. A directive names a target, a span with fields in
brackets, and a level, each of which may be missing: `target[span{field=value}]=level`. The library
only decides whether a filter is well-formed.

The parts of a directive are found in the directive without the blanks around it, and their bytes
are then taken from the directive as it was written. Blanks in front therefore shift every part.

- `LogFilter.Error`  : what is wrong with a filter
- `LogFilter.check`  : whether anything is
- `LogFilter.choose` : which of two filters holds
-/

namespace SchemaChange
namespace LogFilter

inductive Error
  | directive
  | level
  | field (fault : Pattern.Fault)
  /-- A part begins or ends inside a character. -/
  | misplaced
  deriving DecidableEq, Repr

def Error.message : Error → String
  | .directive => "invalid filter directive"
  | .level =>
      "error parsing level filter: expected one of \"off\", \"error\", \"warn\", \"info\", " ++
        "\"debug\", \"trace\", or a number 0-5"
  | .field fault => "invalid field filter: " ++ fault.text
  | .misplaced => "a part of a filter directive lies inside a character"

/-! ## Levels and fields -/

def levelWords : List String :=
  ["off", "error", "warn", "info", "debug", "trace"]

/-- A word in either case, or a number up to 5, with or without a plus sign. -/
def isLevel (cs : List Char) : Bool :=
  let digits := match cs with
    | '+' :: rest => rest
    | cs => cs
  match Text.readNat? digits with
  | some n => n ≤ 5
  | none => levelWords.any fun word => Text.sameWord cs word.toList

/-- The exponent of a number, if there is one. -/
def isExponent : List Char → Bool
  | [] => true
  | mark :: digits =>
      let unsigned := match digits with
        | '+' :: rest => rest
        | '-' :: rest => rest
        | digits => digits
      (mark == 'e' || mark == 'E') && unsigned != [] && unsigned.all Char.isDigit

/-- A decimal number without a sign, or one of the words for what is no such number. -/
def isNumber (cs : List Char) : Bool :=
  let whole := cs.takeWhile Char.isDigit
  let (places, rest) := match cs.dropWhile Char.isDigit with
    | '.' :: rest => (rest.takeWhile Char.isDigit, rest.dropWhile Char.isDigit)
    | rest => ([], rest)
  (whole ++ places != [] && isExponent rest) ||
    ["inf", "infinity", "nan"].any fun word => Text.sameWord cs word.toList

/-- A value is a number or a pattern. Only numbers with a plus sign are no patterns. -/
def checkValue (value : List Char) : Except Error Unit :=
  match value, Pattern.fault? value with
  | _, none => .ok ()
  | '+' :: unsigned, some fault => if isNumber unsigned then .ok () else .error (.field fault)
  | _, some fault => .error (.field fault)

/-- A field has a name and, behind an equals sign, a value. What follows another equals sign is
passed over. -/
def checkField (field : List Char) : Except Error Unit :=
  if field = [] then .error .directive
  else
    match Text.splitOnChar '=' field with
    | _ :: value :: _ => checkValue value
    | _ => .ok ()

/-! ## Directives -/

/-- Where the reader is inside a directive, and where the part that it reads begins. -/
inductive Place
  | start
  | target
  | span (first : Nat)
  | field (first : Nat)
  | fields
  | afterSpan
  | level (first : Nat)
  deriving DecidableEq, Repr

/-- A directive may begin with a letter or a numeral of any script, or with one of three marks. -/
def mayBegin (c : Char) : Bool :=
  Text.isWordMember c || c == '-' || c == ':' || c == '_'

/-- The part of a directive between two places. -/
def part (directive : List Char) (first last : Nat) : Except Error (List Char) :=
  match Text.slice? first last directive with
  | some cs => .ok cs
  | none => .error .misplaced

/-- Reads the character at an offset; parts that end there are taken from the directive as it was
written. -/
def next (directive : List Char) (offset : Nat) (c : Char) : Place → Except Error Place
  | .start =>
      if c = '[' then .ok (.span (offset + 1))
      else if mayBegin c then .ok .target
      else .error .directive
  | .target =>
      if c = '=' then do
        let _ ← part directive 0 offset
        return .level (offset + 1)
      else if c = '[' then do
        let _ ← part directive 0 offset
        return .span (offset + 1)
      else
        .ok .target
  | .span first =>
      if c = ']' then do
        let _ ← part directive first offset
        return .afterSpan
      else if c = '\x7b' then do
        let _ ← part directive first offset
        return .field (offset + 1)
      else
        .ok (.span first)
  | .field first =>
      if c = '\x7d' then do
        checkField (← part directive first offset)
        return .fields
      else
        .ok (.field first)
  | .fields => if c = ']' then .ok .afterSpan else .error .directive
  | .afterSpan => if c = '=' then .ok (.level (offset + 1)) else .error .directive
  | .level first => .ok (.level first)

/-- Reads the characters from an offset on. -/
def readFrom (directive : List Char) : Nat → Place → List Char → Except Error Place
  | _, place, [] => .ok place
  | offset, place, c :: cs => do
      let place ← next directive offset c place
      readFrom directive (offset + c.utf8Size) place cs

/-- What a directive may end with; its level reaches to the end of the directive as it was
written. -/
def checkEnd (directive : List Char) : Place → Except Error Unit
  | .target => .ok ()
  | .afterSpan => .ok ()
  | .level first => do
      let level ← part directive first (Text.byteLength directive)
      if level = [] ∨ isLevel level then return () else throw .level
  | _ => .error .directive

def checkDirective (directive : List Char) : Except Error Unit := do
  let place ← readFrom directive 0 .start (Text.trimChars directive)
  checkEnd directive place

/-! ## Filters -/

/-- Checks directive by directive; empty ones are passed over. -/
def check (filter : String) : Except Error Unit :=
  ((Text.splitOnChar ',' filter.toList).filter (· ≠ [])).forM checkDirective

/-- The filter itself, once it is checked. -/
def checked (filter : String) : Except Error String := do
  check filter
  return filter

/-- An overriding filter holds if it is well-formed, and is passed over if not. One with a part that
lies inside a character stops the run before the other filter is looked at. -/
def choose (overriding : Option String) (filter : String) : Except Error String :=
  match overriding.map checked with
  | some (.ok chosen) => .ok chosen
  | some (.error .misplaced) => .error .misplaced
  | some (.error _) => checked filter
  | none => checked filter

end LogFilter
end SchemaChange
