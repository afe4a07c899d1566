import SchemaChange.CommandLine.Session

/-!
# Main — the tool

Looks up the environment and the files, runs the command, and prints or writes what comes of it.
-/

namespace SchemaChange
namespace CommandLine

def helpText : String :=
  "Firebird schema-change DDL synthesis\n\n" ++
  "Usage: fbdesk [OPTIONS] <COMMAND>\n\n" ++
  "Commands:\n" ++
  "  synthesize <FILE>        Synthesize a JSON designer object (or an array of them)\n" ++
  "  split <FILE>             Split a delimited script into statements\n" ++
  "  package-template <NAME>  Print a new package descriptor with the default templates\n\n" ++
  "Options:\n" ++
  "  -d, --delimiter <DELIMITER>  Statement delimiter, overriding the settings file\n" ++
  "      --settings <SETTINGS>    Settings file to use\n" ++
  "      --log-json               Log as JSON lines on stderr\n" ++
  "  -o, --output <OUTPUT>        Write the script here instead of stdout (synthesize)\n" ++
  "      --json                   Print a JSON array (split)\n" ++
  "  -h, --help                   Print help\n" ++
  "  -V, --version                Print version\n"

def versionText : String := "fbdesk 0.1.0\n"

/-- The path of the settings file in the directory of the user's configuration. -/
def settingsPath : IO String := do
  let home := (← IO.getEnv "HOME").getD ""
  let directory :=
    match ← IO.getEnv "XDG_CONFIG_HOME" with
    | some directory => if directory.startsWith "/" then directory else home ++ "/.config"
    | none => home ++ "/.config"
  return directory ++ "/fbdesk/settings.json"

/-- What a path leads to on the disk. What is there and cannot be read is taken for a directory. -/
def diskEntry (path : String) : IO Entry := do
  try
    return .file (← IO.FS.readFile path)
  catch
    | .noFileOrDirectory .. => return .vacant
    | _ => return .directory

def reportError (message : String) : IO UInt32 := do
  IO.eprintln ("Error: " ++ message)
  return 1

/-- Prints or writes what came of a command. -/
def deliverOnDisk : Product → IO UInt32
  | .print text => do
      IO.print text
      return 0
  | .write path text => do
      try
        IO.FS.writeFile path text
        return 0
      catch _ =>
        reportError (unwritable path)

def runOnDisk (invocation : Invocation) : IO UInt32 := do
  let settings ← settingsPath
  let delimiter ← IO.getEnv "FBDESK_DELIMITER"
  let logFilter ← IO.getEnv "RUST_LOG"
  let paths := invocation.paths settings
  let entries ← paths.mapM diskEntry
  let surroundings : Surroundings :=
    ⟨delimiter, logFilter, settings, fun path => ((paths.zip entries).lookup path).getD .vacant⟩
  match invocation.run surroundings with
  | .error (.refused message) => reportError message
  | .error (.broken message) => do
      let _ ← reportError message
      return brokenCode.toUInt32
  | .ok product => deliverOnDisk product

/-- One run of the tool; the result is its exit code. -/
def runTool (arguments : List String) : IO UInt32 := do
  match Invocation.parse arguments with
  | .error .help => do
      IO.print helpText
      return 0
  | .error .version => do
      IO.print versionText
      return 0
  | .error .usage => do
      IO.eprint helpText
      return 2
  | .ok invocation => runOnDisk invocation

end CommandLine
end SchemaChange

def main (arguments : List String) : IO UInt32 :=
  SchemaChange.CommandLine.runTool arguments
