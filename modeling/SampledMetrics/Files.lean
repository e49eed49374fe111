import SampledMetrics.Text.Separated
/-!
Paths and what is found at them.  A path is followed part by part from the root or from the working
directory; above the working directory there are always further directories.
-/

set_option autoImplicit false
set_option relaxedAutoImplicit false

namespace SampledMetrics

/-- A path: the root that it starts from, which is empty for the working directory, and its parts. -/
structure Path where
  root : String
  parts : List String
  deriving DecidableEq, Repr

namespace Path

/-- The root that a path starts from: none, or one slash for one or for more than two; two slashes
stand for themselves. -/
def rootOf : List Char → String
  | '/' :: '/' :: '/' :: _ => "/"
  | '/' :: '/' :: _ => "//"
  | '/' :: _ => "/"
  | _ => ""

/-- A path without empty parts and parts that stay where they are. -/
def ofText (text : String) : Path where
  root := rootOf text.toList
  parts := ((Text.separate '/' text.toList).map String.ofList).filter fun part =>
    part ≠ "" && part ≠ "."

/-- The text of a path; the one to the working directory itself is a point. -/
def render (p : Path) : String :=
  let text := p.root ++ "/".intercalate p.parts
  if text = "" then "." else text

def upward : String := ".."

def below (p : Path) (part : String) : Path :=
  { p with parts := p.parts ++ [part] }

/-- The path to the directory above; the root is above itself. -/
def above (p : Path) : Path :=
  match p.parts.getLast? with
  | none => if p.root = "" then p.below upward else p
  | some last => if last = upward then p.below upward else { p with parts := p.parts.dropLast }

def partLimit : Nat := 255

def pathLimit : Nat := 4095

end Path

/-- What a directory holds under a name. -/
inductive FileEntry
  | file (bytes : List UInt8)
  | directory
  deriving DecidableEq, Repr

/-- What there is below the root and below the working directory, by its path without detours. -/
abbrev Files : Type :=
  Path → Option FileEntry

namespace Files

/-- What is found at a path. -/
inductive Found
  | file (bytes : List UInt8)
  | directory
  | nothing
  | beyondFile
  | longName
  deriving DecidableEq, Repr

def follow (files : Files) (directory : Path) : List String → Found
  | [] => .directory
  | part :: rest =>
      if part = Path.upward then follow files directory.above rest
      else if Path.partLimit < part.utf8ByteSize then .longName
      else match files (directory.below part) with
        | none => .nothing
        | some .directory => follow files (directory.below part) rest
        | some (.file bytes) => if rest.isEmpty then .file bytes else .beyondFile

/-- What is found at a path; two slashes are the same root as one. -/
def find (files : Files) (path : Path) : Found :=
  if Path.pathLimit < path.render.utf8ByteSize then .longName
  else follow files ⟨if path.root = "" then "" else "/", []⟩ path.parts

end Files

end SampledMetrics
