/-!
# CommandLine.Arguments — what is asked on the command line

Options may stand before and behind the name of the command, each once at either place; behind the
name they count more. Two dashes end the options. What is not understood is a usage error; a request
for help ends the reading at once.

- `Invocation`       : a command with its options
- `Stop`             : the reasons why nothing is to be done
- `Invocation.parse` : the reader
-/

namespace SchemaChange
namespace CommandLine

inductive Action
  | synthesize (file : String) (output : Option String)
  | split (file : String) (json : Bool)
  | packageTemplate (name : String)
  deriving DecidableEq, Repr

/-- The options that go with every command. -/
structure Options where
  delimiter : Option String := none
  settings : Option String := none
  logJson : Bool := false
  deriving DecidableEq, Repr

structure Invocation where
  options : Options
  action : Action
  deriving DecidableEq, Repr

/-- Why nothing is to be done. -/
inductive Stop
  | help
  | version
  | usage
  deriving DecidableEq, Repr

/-! ## Commands and options -/

inductive CommandName
  | synthesize
  | split
  | packageTemplate
  deriving DecidableEq, Repr

def CommandName.ofWord? : String → Option CommandName
  | "synthesize" => some .synthesize
  | "split" => some .split
  | "package-template" => some .packageTemplate
  | _ => none

inductive OptionName
  | delimiter
  | settings
  | logJson
  | output
  | json
  | help
  | version
  deriving DecidableEq, Repr

namespace OptionName

def takesValue : OptionName → Bool
  | .delimiter | .settings | .output => true
  | .logJson | .json | .help | .version => false

/-- A path is never empty. -/
def isPath : OptionName → Bool
  | .settings | .output => true
  | _ => false

/-- Options before the name of a command are those of every command and the version. -/
def isKnown (command : Option CommandName) : OptionName → Bool
  | .delimiter | .settings | .logJson | .help => true
  | .version => command == none
  | .output => command == some .synthesize
  | .json => command == some .split

def ofLong? : String → Option OptionName
  | "delimiter" => some .delimiter
  | "settings" => some .settings
  | "log-json" => some .logJson
  | "output" => some .output
  | "json" => some .json
  | "help" => some .help
  | "version" => some .version
  | _ => none

def ofShort? : Char → Option OptionName
  | 'd' => some .delimiter
  | 'o' => some .output
  | 'h' => some .help
  | 'V' => some .version
  | _ => none

end OptionName

/-! ## Single arguments -/

/-- What a part of an argument says. -/
inductive Event
  | flag (option : OptionName)
  | value (option : OptionName) (text : String)
  /-- The next argument is the value of the option. -/
  | await (option : OptionName)
  | word (text : String)
  | endOfOptions
  | unknown
  deriving DecidableEq, Repr

/-- The name and the value of a long option, at the first equals sign. -/
def cutAtEquals : List Char → List Char × Option (List Char)
  | [] => ([], none)
  | c :: cs =>
      if c = '=' then ([], some cs)
      else
        let (name, value) := cutAtEquals cs
        (c :: name, value)

def longEvent (command : Option CommandName) (cs : List Char) : Event :=
  let (name, value) := cutAtEquals cs
  match (OptionName.ofLong? (String.ofList name)).filter (OptionName.isKnown command) with
  | none => .unknown
  | some option =>
      match option.takesValue, value with
      | true, some value => .value option (String.ofList value)
      | true, none => .await option
      | false, some _ => .unknown
      | false, none => .flag option

/-- The value that follows a short option at once, with or without an equals sign. -/
def attachedValue : List Char → String
  | '=' :: cs => String.ofList cs
  | cs => String.ofList cs

/-- Short options in a row; the first one that takes a value takes the rest for it. -/
def shortEvents (command : Option CommandName) : List Char → List Event
  | [] => []
  | c :: cs =>
      match (OptionName.ofShort? c).filter (OptionName.isKnown command) with
      | none => [.unknown]
      | some option =>
          if !option.takesValue then .flag option :: shortEvents command cs
          else if cs = [] then [.await option]
          else [.value option (attachedValue cs)]

/-- A single dash and the empty argument are words. -/
def eventsOf (command : Option CommandName) (argument : String) : List Event :=
  match argument.toList with
  | ['-', '-'] => [.endOfOptions]
  | '-' :: '-' :: cs => [longEvent command cs]
  | '-' :: c :: cs => shortEvents command (c :: cs)
  | _ => [.word argument]

/-! ## Options given -/

/-- The options given before or behind the name of the command, and the word behind it. -/
structure Level where
  given : List (OptionName × String) := []
  word : Option String := none
  deriving DecidableEq, Repr

namespace Level

def get? (l : Level) (option : OptionName) : Option String :=
  l.given.lookup option

/-- An option is given once at most. -/
def set (l : Level) (option : OptionName) (text : String) : Except Stop Level :=
  if (l.get? option).isSome ∨ (option.isPath ∧ text.isEmpty) then .error .usage
  else .ok { l with given := (option, text) :: l.given }

/-- Takes up what an argument says, and tells which option waits for its value. -/
def take (l : Level) : List Event → Except Stop (Level × Option OptionName)
  | [] => .ok (l, none)
  | .flag .help :: _ => .error .help
  | .flag .version :: _ => .error .version
  | .flag option :: events => (l.set option "").bind fun l => l.take events
  | .value option text :: events => (l.set option text).bind fun l => l.take events
  | .await option :: _ => .ok (l, some option)
  | .word _ :: _ => .error .usage
  | .endOfOptions :: _ => .error .usage
  | .unknown :: _ => .error .usage

/-- Each command takes one word: a path, or the name of a package, which may be empty. -/
def addWord (l : Level) (command : CommandName) (text : String) : Except Stop Level :=
  if l.word.isSome ∨ (command ≠ .packageTemplate ∧ text.isEmpty) then .error .usage
  else .ok { l with word := some text }

end Level

/-! ## All arguments -/

/-- Reads what stands before the name of the command; what stands behind it is left over. -/
def readTop (l : Level) (awaiting : Option OptionName) :
    List String → Except Stop (Level × CommandName × List String)
  | [] => .error .usage
  | argument :: rest =>
      match awaiting, eventsOf none argument with
      | some option, [.word text] => (l.set option text).bind fun l => readTop l none rest
      | some _, _ => .error .usage
      | none, [.word text] =>
          match CommandName.ofWord? text with
          | some command => .ok (l, command, rest)
          | none => .error (helpOn text rest)
      | none, events => (l.take events).bind fun (l, awaiting) => readTop l awaiting rest
where
  /-- Help can also be asked for by a word, on everything or on a command. -/
  helpOn (text : String) (rest : List String) : Stop :=
    match text, rest with
    | "help", [] => .help
    | "help", ["help"] => .help
    | "help", [topic] => if (CommandName.ofWord? topic).isSome then .help else .usage
    | _, _ => .usage

/-- Reads what stands behind the name of the command. -/
def readCommand (command : CommandName) (l : Level) (awaiting : Option OptionName)
    (closed : Bool) : List String → Except Stop Level
  | [] => if awaiting.isSome then .error .usage else .ok l
  | argument :: rest =>
      if closed then
        (l.addWord command argument).bind fun l => readCommand command l none true rest
      else
        match awaiting, eventsOf (some command) argument with
        | some option, [.word text] =>
            (l.set option text).bind fun l => readCommand command l none false rest
        | some _, _ => .error .usage
        | none, [.word text] =>
            (l.addWord command text).bind fun l => readCommand command l none false rest
        | none, [.endOfOptions] => readCommand command l none true rest
        | none, events =>
            (l.take events).bind fun (l, awaiting) => readCommand command l awaiting false rest

/-- The options of both places; those behind the name of the command count more. -/
def Options.ofLevels (outer inner : Level) : Options :=
  { delimiter := (inner.get? .delimiter).or (outer.get? .delimiter)
    settings := (inner.get? .settings).or (outer.get? .settings)
    logJson := (inner.get? .logJson).isSome || (outer.get? .logJson).isSome }

def actionOf (command : CommandName) (l : Level) : Except Stop Action :=
  match l.word with
  | none => .error .usage
  | some word =>
      match command with
      | .synthesize => .ok (.synthesize word (l.get? .output))
      | .split => .ok (.split word (l.get? .json).isSome)
      | .packageTemplate => .ok (.packageTemplate word)

def Invocation.parse (arguments : List String) : Except Stop Invocation := do
  let (outer, command, rest) ← readTop {} none arguments
  let inner ← readCommand command {} none false rest
  let action ← actionOf command inner
  return ⟨Options.ofLevels outer inner, action⟩

end CommandLine
end SchemaChange
