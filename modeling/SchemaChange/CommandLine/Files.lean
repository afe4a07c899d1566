import SchemaChange.Text.Bytes
import SchemaChange.Text.Split

/-!
# CommandLine.Files — a directory of text files

A directory and what lies below it, for programs that are to be followed without touching a disk.
Directories are there as far as files lie in them. Paths are taken from the top of the directory.
Outside of it there are the directories around it and the null device, and nothing else.

- `Entry`      : what a path can lead to
- `Files.find` : what a path leads to, and where that is
-/

namespace SchemaChange
namespace CommandLine

/-- What a path leads to. -/
inductive Entry
  | file (text : String)
  | directory
  /-- There is nothing, but there is a directory to put a file into. -/
  | vacant
  /-- The null device has an empty text and keeps nothing. -/
  | sink
  | unreachable
  deriving DecidableEq, Repr

namespace Entry

def isThere : Entry → Bool
  | .file _ => true
  | .directory => true
  | .sink => true
  | .vacant => false
  | .unreachable => false

def text? : Entry → Option String
  | .file text => some text
  | .sink => some ""
  | _ => none

/-- A text can be written here. -/
def isWritable : Entry → Bool
  | .file _ => true
  | .vacant => true
  | .sink => true
  | .directory => false
  | .unreachable => false

end Entry

/-- Names of files, as lists of names of directories and a last name, with the texts. -/
structure Files where
  contents : List (List String × String)
  deriving DecidableEq, Repr

/-- The names between the slashes of a path. -/
def pathNames (path : String) : List String :=
  (Text.splitOnChar '/' path.toList).map String.ofList

/-- Names that lead to the directory itself or to the one around it. -/
def climbs (names : List String) : Bool :=
  names.all ["", ".", ".."].contains

/-- The most bytes that the name of a file can have. -/
def maxNameLength : Nat := 255

namespace Files

/-- Files by their paths. -/
def ofPaths (files : List (String × String)) : Files :=
  ⟨files.map fun (path, text) => (pathNames path, text)⟩

def isDirectory (f : Files) (place : List String) : Bool :=
  place.isEmpty || f.contents.any fun (name, _) => place.isPrefixOf name && place != name

/-- Follows names from a directory, and tells what is found and where. -/
def follow (f : Files) (place : List String) : List String → Entry × List String
  | [] => (.directory, place)
  | name :: rest =>
      if name = "" ∨ name = "." then
        follow f place rest
      else if name = ".." then
        if place ≠ [] then follow f place.dropLast rest
        else if climbs rest then (.directory, [])
        else (.unreachable, [])
      else if maxNameLength < Text.byteLength name.toList then
        (.unreachable, place)
      else
        let next := place ++ [name]
        if f.isDirectory next then
          follow f next rest
        else if rest = [] then
          match f.contents.lookup next with
          | some text => (.file text, next)
          | none => (.vacant, next)
        else
          (.unreachable, next)

/-- What a path leads to, and where that is. The empty path leads nowhere, and a path that begins
with a slash leads out of the directory. -/
def find (f : Files) (path : String) : Entry × List String :=
  match path.toList with
  | [] => (.unreachable, [])
  | '/' :: _ =>
      if path = "/dev/null" then (.sink, [])
      else if climbs (pathNames path) then (.directory, [])
      else (.unreachable, [])
  | _ => f.follow [] (pathNames path)

end Files
end CommandLine
end SchemaChange
