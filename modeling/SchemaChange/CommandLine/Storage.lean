import SchemaChange.CommandLine.Session

/-!
# CommandLine.Storage — settings that are written

Settings are written into a file of their own, and the directories around it are made when they are
missing. What becomes of the files is up to where they are kept.

- `parent?`      : the directory around a path
- `Storage`      : files that are looked at and written
- `saveSettings` : writes settings into a file
-/

namespace SchemaChange
namespace CommandLine

/-- Names that lead on to no other place, behind the first one of a path. -/
def isIdleName (name : String) : Bool :=
  name = "" || name = "."

def withoutIdleEnd (names : List String) : List String :=
  (names.reverse.dropWhile isIdleName).reverse

/-- The path without its last name. The root and the empty path have no name to leave out; a path of
one name lies in the directory itself, which has the empty path. -/
def parent? (path : String) : Option String :=
  match pathNames path with
  | [] => none
  | first :: rest =>
      match withoutIdleEnd rest with
      | [] => if first = "" then none else some ""
      | name :: names =>
          match first :: withoutIdleEnd (name :: names).dropLast with
          | [""] => some "/"
          | around => some ("/".intercalate around)

/-- Where files are kept, as seen by a program: every step on them may fail with a message. -/
structure Storage (State : Type) where
  entry : State → String → Entry
  /-- Makes a directory and those around it, as far as they are missing. -/
  makeDirectories : State → String → Except String State
  /-- Gives a file a text. -/
  write : State → String → String → Except String State

namespace Storage

variable {State : Type}

/-- Makes the directories around a file. -/
def prepare (storage : Storage State) (state : State) (path : String) : Except String State :=
  match parent? path with
  | some directory => storage.makeDirectories state directory
  | none => .ok state

end Storage

def saveSettings {State : Type} (storage : Storage State) (settings : Settings) (state : State)
    (path : String) : Except String State := do
  let prepared ← storage.prepare state path
  (storage.write prepared path settings.render).mapError fun _ =>
    "Failed to write settings to " ++ Text.printable path

end CommandLine
end SchemaChange
