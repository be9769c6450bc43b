/-
# Bundle.Basic — snippets and programs

A bundle is cut into snippets: shared blocks, vertex shaders and fragment shaders.  A
program names a vertex and a fragment shader that are linked together.

Names may repeat.  Of two shaders of one kind and name the later is meant, and of two
programs of one name only the later is kept.  Programs stand in the order of the
bytes of their names.
-/
import ShaderBundle.Diagnostic
import ShaderBundle.Interface.Kind
import ShaderBundle.Table
import ShaderBundle.Target
import ShaderBundle.Text.Utf8

namespace ShaderBundle

set_option autoImplicit false

/-! ## Snippets -/

inductive SnippetKind where
  /-- Shared code, never compiled on its own. -/
  | block
  | vertex
  | fragment
deriving DecidableEq

namespace SnippetKind

def name : SnippetKind → String
  | block => "block"
  | vertex => "vs"
  | fragment => "fs"

def ofName? (s : String) : Option SnippetKind :=
  [block, vertex, fragment].find? fun k => k.name = s

def stage : SnippetKind → Stage
  | block => .invalid
  | vertex => .vertex
  | fragment => .fragment

end SnippetKind

structure Snippet where
  name : String
  kind : SnippetKind
  /-- The lines of the bundle file that it comes from. -/
  lines : List Nat
  /-- The switches of the targets that have any. -/
  options : Table Target SnippetOptions
deriving DecidableEq

namespace Snippet

/-- The switches for a target. -/
def optionsFor (s : Snippet) (t : Target) : SnippetOptions := (s.options.find? t).getD .none

def firstLine (s : Snippet) : Nat := s.lines.headD 0

def optionsJson (options : Table Target SnippetOptions) : Json.Value :=
  .record (options.entries.map fun e => (e.1.name, e.2.json))

def json (s : Snippet) : Json.Value :=
  .record [("name", .text s.name), ("type", .text s.kind.name),
    ("lines", .list (s.lines.map .nat)), ("options", optionsJson s.options)]

def optionOfField? (field : Option String × Json.Tree) : Option (Target × SnippetOptions) := do
  return (← Target.ofName? (← field.1), ← SnippetOptions.ofTree? field.2)

/-- Reads the switches of targets from JSON. -/
def optionsOfTree? : Json.Tree → Option (Table Target SnippetOptions)
  | .record fields => (fields.mapM optionOfField?).map Table.ofList
  | _ => none

def fieldNames : List String := ["name", "type", "lines", "options"]

/-- Reads a snippet from its fields; `kindName?` reads the name of its kind. -/
def ofFields? (kindName? : Json.Tree → Option String) : List (Option Json.Tree) → Option Snippet
  | [name, kind, lines, options] => do
    return ⟨← Json.Tree.need Json.Tree.text? name,
      ← Json.Tree.need (fun t => (kindName? t).bind SnippetKind.ofName?) kind,
      ← Json.Tree.orElse [] (Json.Tree.list? Json.Tree.index?) lines,
      ← Json.Tree.orElse .empty optionsOfTree? options⟩
  | _ => none

def ofTree? (t : Json.Tree) : Option Snippet :=
  (t.fields? fieldNames).bind (ofFields? Json.Tree.choice?)

end Snippet

/-! ## Programs -/

/-- A vertex and a fragment shader that are linked together. -/
structure Program where
  name : String
  vsName : String
  fsName : String
  lineIndex : Nat
deriving DecidableEq

namespace Program

def json (p : Program) : Json.Value :=
  .record [("name", .text p.name), ("vs_name", .text p.vsName), ("fs_name", .text p.fsName),
    ("line_index", .nat p.lineIndex)]

def ofTree? (t : Json.Tree) : Option Program :=
  match t.fields? ["name", "vs_name", "fs_name", "line_index"] with
  | some [name, vs, fs, line] => do
    return ⟨← Json.Tree.need Json.Tree.text? name, ← Json.Tree.need Json.Tree.text? vs,
      ← Json.Tree.need Json.Tree.text? fs, ← Json.Tree.orElse 0 Json.Tree.index? line⟩
  | _ => none

/-- Whether the name of a program comes before another, by its bytes. -/
def precedes (p q : Program) : Bool := Text.Utf8.bytes p.name < Text.Utf8.bytes q.name

/-- Puts a program into its place among sorted programs, instead of one with its name. -/
def insertSorted (p : Program) : List Program → List Program
  | [] => [p]
  | q :: rest =>
    if p.name = q.name then p :: rest
    else if p.precedes q then p :: q :: rest
    else q :: insertSorted p rest

/-- The last program of each name, in the order of the names. -/
def sorted (programs : List Program) : List Program :=
  programs.foldl (fun done p => insertSorted p done) []

end Program

/-! ## Bundles -/

structure Bundle where
  /-- The file that errors point into. -/
  basePath : String
  snippets : List Snippet
  programs : List Program
deriving DecidableEq

namespace Bundle

def of (basePath : String) (snippets : List Snippet) (programs : List Program) : Bundle :=
  ⟨basePath, snippets, Program.sorted programs⟩

/-- The names of the snippets of a kind, with their places. -/
def placesOf (kind : SnippetKind) : Nat → List Snippet → List (String × Nat)
  | _, [] => []
  | index, s :: rest =>
    if s.kind = kind then (s.name, index) :: placesOf kind (index + 1) rest
    else placesOf kind (index + 1) rest

/-- Where the shaders of a kind are; a name that repeats means its last shader. -/
def shaders (b : Bundle) (kind : SnippetKind) : Table String Nat :=
  Table.ofList (placesOf kind 0 b.snippets)

/-- An error at a line of the bundle file. -/
def diagnostic (b : Bundle) (lineIndex : Nat) (message : String) : Diagnostic :=
  ⟨b.basePath, lineIndex, message⟩

end Bundle

end ShaderBundle
