import SchemaChange.Command
import SchemaChange.CommandLine.Arguments
import SchemaChange.CommandLine.Files
import SchemaChange.LogFilter
import SchemaChange.Settings
import SchemaChange.Text.Printable

/-!
# CommandLine.Session — one run of the tool

A run reads the settings, then the input, and ends with a text to be printed or written, or with a
message. It looks at files through a function, and writes none itself.

- `Product`        : what a command comes to
- `Failure`        : why a run comes to nothing
- `Invocation.run` : one or the other
- `outcome`        : what the tool comes to on a directory of files
-/

namespace SchemaChange
namespace CommandLine

/-- What the tool finds around it. -/
structure Surroundings where
  /-- The delimiter in the environment. -/
  delimiter : Option String
  /-- The log filter in the environment. -/
  logFilter : Option String
  /-- The path of the settings file, unless another one is asked for. -/
  settingsPath : String
  entry : String → Entry

/-- What a command comes to. -/
inductive Product
  | print (text : String)
  | write (path text : String)
  deriving DecidableEq, Repr

/-- Why a run comes to nothing. -/
inductive Failure
  | refused (message : String)
  /-- The tool gave up in the middle of its work. -/
  | broken (message : String)
  deriving DecidableEq, Repr

/-- A filter whose parts lie inside characters breaks the run; other bad filters are refused. -/
def Failure.ofFilter : LogFilter.Error → Failure
  | .misplaced => .broken LogFilter.Error.misplaced.message
  | error => .refused error.message

/-! ## Reading -/

/-- Without a file the settings are the default ones. -/
def readSettings (s : Surroundings) (path : String) : Except String Settings :=
  let entry := s.entry path
  if !entry.isThere then .ok {}
  else
    match entry.text? with
    | none => .error ("Failed to read settings from " ++ Text.printable path)
    | some text =>
        match Settings.parse? text with
        | some settings => .ok settings
        | none => .error "Failed to parse settings JSON"

def readInput (s : Surroundings) (path : String) : Except String String :=
  match (s.entry path).text? with
  | some text => .ok text
  | none => .error ("Failed to read " ++ Text.printable path)

/-! ## Commands -/

/-- Each statement with an empty line behind it. -/
def statementBlocks (statements : List String) : String :=
  String.join (statements.map (· ++ "\n\n"))

def perform (s : Surroundings) (settings : Settings) (delimiter : String) :
    Action → Except String Product
  | .synthesize file output => do
      let text ← readInput s file
      let batch ← (Command.synthesize text delimiter).mapError CommandError.message
      return match output with
        | some path => .write path batch.toScript
        | none => .print batch.toScript
  | .split file json => do
      let text ← readInput s file
      let statements := Command.split text delimiter
      return .print <|
        if json then Json.renderPretty (Json.ofTexts statements) ++ "\n"
        else statementBlocks statements
  | .packageTemplate name =>
      .ok (.print (Command.packageTemplate name settings.ddl.packagePlaceholder ++ "\n"))

/-- The delimiter is the one asked for, else the one of the environment, else the one of the
settings. The log filter of the environment goes before the one of the settings. -/
def Invocation.run (i : Invocation) (s : Surroundings) : Except Failure Product := do
  let settings ←
    (readSettings s (i.options.settings.getD s.settingsPath)).mapError Failure.refused
  let _ ← (LogFilter.choose s.logFilter settings.logging.filter).mapError Failure.ofFilter
  let delimiter := (i.options.delimiter.or s.delimiter).getD settings.ddl.delimiter
  (perform s settings delimiter i.action).mapError Failure.refused

/-- The files that a run looks at. -/
def Invocation.paths (i : Invocation) (settingsPath : String) : List String :=
  let settings := i.options.settings.getD settingsPath
  match i.action with
  | .synthesize file _ => [settings, file]
  | .split file _ => [settings, file]
  | .packageTemplate _ => [settings]

/-! ## Whole runs -/

/-- What a run leaves behind: the exit code, the text printed, the message of an error, and the
files that are new or have a new text. -/
structure Outcome where
  exitCode : Nat
  printed : String := ""
  message : Option String := none
  written : List (String × String) := []
  deriving DecidableEq, Repr

def Stop.exitCode : Stop → Nat
  | .help => 0
  | .version => 0
  | .usage => 2

/-- The exit code of a run that broke. -/
def brokenCode : Nat := 101

def unwritable (path : String) : String :=
  "Failed to write script to " ++ Text.printable path

/-- Puts a product where it belongs. -/
def deliver (files : Files) : Product → Outcome
  | .print text => { exitCode := 0, printed := text }
  | .write path text =>
      let (entry, place) := files.find path
      if !entry.isWritable then
        { exitCode := 1, message := some (unwritable path) }
      else if entry = .sink ∨ entry.text? = some text then
        { exitCode := 0 }
      else
        { exitCode := 0, written := [("/".intercalate place, text)] }

/-- What the tool comes to in a directory of files. -/
def outcome (arguments : List String) (delimiter : Option String) (settingsPath : String)
    (files : Files) (logFilter : Option String := none) : Outcome :=
  match Invocation.parse arguments with
  | .error stop => { exitCode := stop.exitCode }
  | .ok invocation =>
      let surroundings : Surroundings :=
        ⟨delimiter, logFilter, settingsPath, fun path => (files.find path).1⟩
      match invocation.run surroundings with
      | .error (.refused message) => { exitCode := 1, message := some message }
      | .error (.broken _) => { exitCode := brokenCode }
      | .ok product => deliver files product

end CommandLine
end SchemaChange
