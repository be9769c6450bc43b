/-
# Bundle.Manifest — loading a bundle

A manifest lists the snippets of a bundle file, its programs, and where the SPIR-V of
each shader is.  Paths in it are seen from the directory of the manifest.

`loadBundle` goes through the snippets in order.  A block has no SPIR-V, a shader has
some, and its file holds whole words; the first snippet for which this is not so ends
the loading.
-/
import ShaderBundle.Bundle.Basic
import ShaderBundle.FileTree
import ShaderBundle.Shader.Model
import ShaderBundle.Spirv.Word

namespace ShaderBundle

set_option autoImplicit false

/-! ## Manifests -/

/-- A snippet and the file of its SPIR-V. -/
structure ManifestSnippet where
  snippet : Snippet
  spirv : Option String
deriving DecidableEq

structure Manifest where
  source : String
  snippets : List ManifestSnippet
  programs : List Program
deriving DecidableEq

namespace ManifestSnippet

/-- How deep lists and records may nest within a field of a snippet: of 127 levels the
manifest, the list of snippets and the snippet take three. -/
def fieldDepth : Nat := 124

/-- Whether a field may be kept until the rest of its record is known.  The path of the
SPIR-V is read at once. -/
def fieldStorable (field : Option String × Json.Tree) : Bool :=
  match field.1 with
  | none => false
  | some "spirv" => true
  | some _ => field.2.storable fieldDepth

/-- Reads a snippet of a manifest; it must be an object. -/
def ofTree? : Json.Tree → Option ManifestSnippet
  | .record fields => do
    if fields.all fieldStorable then
      let known ← (Json.Tree.record fields).objectFields? Snippet.fieldNames
      let spirv ← Json.Tree.known? fields "spirv"
      return ⟨← Snippet.ofFields? Json.Tree.storedChoice? known,
        ← Json.Tree.orElse none (Json.Tree.orNull? Json.Tree.text?) spirv⟩
    else none
  | _ => none

end ManifestSnippet

def Manifest.ofTree? (t : Json.Tree) : Option Manifest :=
  match t.fields? ["source", "snippets", "programs"] with
  | some [source, snippets, programs] => do
    return ⟨← Json.Tree.need Json.Tree.text? source,
      ← Json.Tree.need (Json.Tree.list? ManifestSnippet.ofTree?) snippets,
      ← Json.Tree.orElse [] (Json.Tree.list? Program.ofTree?) programs⟩
  | _ => none

def Manifest.read (bytes : List UInt8) : Option Manifest :=
  (Json.Tree.read bytes).bind Manifest.ofTree?

/-! ## Loading -/

/-- Why a bundle cannot be loaded. -/
inductive LoadError where
  | unreadable (path reason : String)
  | badManifest (path : String)
  | missingSpirv (snippet : String)
  | unexpectedSpirv (snippet : String)
  | unaligned (path : String) (length : Nat)
deriving DecidableEq

namespace LoadError

/-- What is wrong with a manifest that cannot be read. -/
def badManifestReason : String := "not the JSON of a manifest"

def message : LoadError → String
  | unreadable path reason => s!"failed to read {path}: {reason}"
  | badManifest path => s!"invalid manifest {path}: {badManifestReason}"
  | missingSpirv snippet => s!"snippet '{snippet}' has no SPIR-V"
  | unexpectedSpirv snippet => s!"snippet '{snippet}' is a block, blocks don't have SPIR-V"
  | unaligned path length =>
    s!"{path}: SPIR-V must be a sequence of 32-bit words, got {length} bytes"

/-- The error behind an error. -/
def cause? : LoadError → Option String
  | unreadable _ reason => some reason
  | badManifest _ => some badManifestReason
  | _ => none

end LoadError

def wordsOfFile (path : String) (bytes : List UInt8) : Except LoadError (List UInt32) :=
  match Spirv.Word.ofBytes? bytes with
  | some words => .ok words
  | none => .error (.unaligned path bytes.length)

section

variable {m : Type → Type} [Monad m] (files : FileSystem m)

def readFile (path : String) : m (Except LoadError (List UInt8)) := do
  match ← files.read path with
  | .ok bytes => return .ok bytes
  | .error reason => return .error (.unreadable path reason)

/-- The blob of a snippet, if it is a shader. -/
def loadSnippet (directory : String) (index : Nat) (s : ManifestSnippet) :
    m (Except LoadError (Option Blob)) := do
  match s.snippet.kind, s.spirv with
  | .block, none => return .ok none
  | .block, some _ => return .error (.unexpectedSpirv s.snippet.name)
  | _, none => return .error (.missingSpirv s.snippet.name)
  | kind, some spirv =>
    let path := Path.join directory spirv
    match ← readFile files path with
    | .error e => return .error e
    | .ok bytes =>
      return (wordsOfFile path bytes).map fun words => some ⟨index, kind.stage, words⟩

/-- The blobs of snippets, counted from `index`, up to the first error. -/
def loadSnippets (directory : String) :
    Nat → List ManifestSnippet → m (Except LoadError (List Blob))
  | _, [] => return .ok []
  | index, s :: rest => do
    match ← loadSnippet files directory index s with
    | .error e => return .error e
    | .ok blob =>
      match ← loadSnippets directory (index + 1) rest with
      | .error e => return .error e
      | .ok blobs => return .ok (blob.toList ++ blobs)

/-- A bundle and the SPIR-V of its shaders. -/
structure LoadedBundle where
  bundle : Bundle
  blobs : List Blob
deriving DecidableEq

def loadBundle (manifestPath : String) : m (Except LoadError LoadedBundle) := do
  match ← readFile files manifestPath with
  | .error e => return .error e
  | .ok bytes =>
    match Manifest.read bytes with
    | none => return .error (.badManifest manifestPath)
    | some manifest =>
      let directory := Path.parent manifestPath
      match ← loadSnippets files directory 0 manifest.snippets with
      | .error e => return .error e
      | .ok blobs =>
        let snippets := manifest.snippets.map ManifestSnippet.snippet
        return .ok ⟨.of (Path.join directory manifest.source) snippets manifest.programs, blobs⟩

end

end ShaderBundle
