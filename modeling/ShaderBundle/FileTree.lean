/-
# FileTree — a small file system

Directories and files, kept as a table from places to what is there.  Paths are
looked up name by name: every name but the last must lead to a directory, and `..`
leads back up.  The working directory, the directories above it and the root are
always there; what else they hold is what was put there.

`FileSystem` is what a program needs of files.  It can be had from a tree, as here, or
from the machine that the program runs on.
-/
import ShaderBundle.Place
import ShaderBundle.Table
import ShaderBundle.Text.Utf8

namespace ShaderBundle

set_option autoImplicit false

/-- What a program needs of files.  Errors come as the words of the system. -/
structure FileSystem (m : Type → Type) where
  read : String → m (Except String (List UInt8))
  /-- Makes a directory and the directories it stands in, as far as they are missing. -/
  createDirAll : String → m (Except String Unit)
  write : String → List UInt8 → m (Except String Unit)

/-- Why an operation on files fails. -/
inductive FileError where
  | notFound
  | alreadyExists
  | notDirectory
  | isDirectory
  | nameTooLong
  | zeroInName
deriving DecidableEq

def FileError.message : FileError → String
  | notFound => "No such file or directory (os error 2)"
  | alreadyExists => "File exists (os error 17)"
  | notDirectory => "Not a directory (os error 20)"
  | isDirectory => "Is a directory (os error 21)"
  | nameTooLong => "File name too long (os error 36)"
  | zeroInName => "file name contained an unexpected NUL byte"

/-- How many bytes a path may have. -/
def maxPath : Nat := 4095

/-- How many bytes a name may have. -/
def maxName : Nat := 255

inductive FileNode where
  | directory
  | file (bytes : List UInt8)
deriving DecidableEq

/-- Directories and files by their places. -/
structure FileTree where
  nodes : Table Place FileNode
deriving DecidableEq

namespace FileTree

/-- Nothing but the directories that are always there. -/
def empty : FileTree := ⟨.empty⟩

/-- What is at a place; a base is always there. -/
def node? (t : FileTree) (place : Place) : Option FileNode :=
  if place.names = [] then some .directory else t.nodes.find? place

/-- Follows names from a place.  What they lead to need not be there. -/
def follow (t : FileTree) : Place → List String → Except FileError Place
  | place, [] => .ok place
  | place, name :: rest =>
    match t.node? place with
    | none => .error .notFound
    | some (.file _) => .error .notDirectory
    | some .directory =>
      if name = ".." then t.follow place.above rest
      else if maxName < (Text.Utf8.bytes name).length then .error .nameTooLong
      else t.follow (place.entry name) rest

def locate (t : FileTree) (path : String) : Except FileError Place :=
  if path.toList.contains '\x00' then .error .zeroInName
  else if path = "" then .error .notFound
  else if maxPath < (Text.Utf8.bytes path).length then .error .nameTooLong
  else t.follow (.start path) (Path.names path)

def read (t : FileTree) (path : String) : Except FileError (List UInt8) := do
  match t.node? (← t.locate path) with
  | none => .error .notFound
  | some .directory => .error .isDirectory
  | some (.file bytes) => if Path.endsOpen path then .error .notDirectory else .ok bytes

/-- Writes a file, in place of the one that is there. -/
def write (t : FileTree) (path : String) (bytes : List UInt8) : Except FileError FileTree := do
  let place ← t.locate path
  match t.node? place with
  | some .directory => .error .isDirectory
  | some (.file _) =>
    if Path.endsOpen path then .error .notDirectory else .ok ⟨t.nodes.insert place (.file bytes)⟩
  | none =>
    if Path.endsOpen path then .error .isDirectory else .ok ⟨t.nodes.insert place (.file bytes)⟩

def isDirectory (t : FileTree) (path : String) : Bool :=
  match t.locate path with
  | .ok place => t.node? place = some .directory
  | .error _ => false

/-- Makes one directory.  What it stands in must be there, and it must not. -/
def makeDir (t : FileTree) (path : String) : Except FileError FileTree := do
  let place ← t.locate path
  match t.node? place with
  | some .directory => .error .alreadyExists
  | some (.file _) => .error (if Path.endsInDots path then .notDirectory else .alreadyExists)
  | none =>
    if Path.endsInDots path then .error .notFound else .ok ⟨t.nodes.insert place .directory⟩

def ensureDir (t : FileTree) (path : String) : Except FileError FileTree :=
  match t.makeDir path with
  | .error .alreadyExists => if t.isDirectory path then .ok t else .error .alreadyExists
  | result => result

/-- Makes the first of some directories, each of which stands in the next.  The others are
made only as far as the first cannot be made without them. -/
def ensureDirs (t : FileTree) : List String → Except FileError FileTree
  | [] => .ok t
  | path :: above =>
    match t.ensureDir path with
    | .error .notFound => do (← t.ensureDirs above).ensureDir path
    | result => result

/-- Makes a directory and the directories it stands in, as far as they are missing. -/
def createDirAll (t : FileTree) (path : String) : Except FileError FileTree :=
  t.ensureDirs (Path.ancestors path)

/-- Writes a file and makes the directories it stands in. -/
def put (t : FileTree) (path : String) (bytes : List UInt8) : Except FileError FileTree := do
  (← t.createDirAll (Path.parent path)).write path bytes

def filesBelow (t : FileTree) (path : String) : List (String × List UInt8) :=
  match t.follow (.start path) (Path.names path) with
  | .error _ => []
  | .ok place => t.nodes.entries.filterMap fun e =>
      match e.2, place.namesTo? e.1 with
      | .file bytes, some (n :: names) => some ("/".intercalate (n :: names), bytes)
      | _, _ => none

/-- Runs a change of the tree; a failed change leaves it as it was. -/
def change (f : FileTree → Except FileError FileTree) : StateM FileTree (Except String Unit) :=
  fun t =>
    match f t with
    | .ok changed => (.ok (), changed)
    | .error e => (.error e.message, t)

def system : FileSystem (StateM FileTree) where
  read path := fun t => ((t.read path).mapError FileError.message, t)
  createDirAll path := change fun t => t.createDirAll path
  write path bytes := change fun t => t.write path bytes

end FileTree

end ShaderBundle
