/-
# Bundle.Compilation — a bundle for one target

`compileBundle` works in phases and stops at the first error:

1. each blob is compiled on its own: its shader is bound for the target, code is
   generated, and the interface is read;
2. the uniform blocks of all shaders are unified, then their images;
3. the programs are checked for links.

What was reached before the error stays in the result.  Besides the result, a `Run`
keeps the log and what was asked of the backend, with each shader in its last state.
-/
import ShaderBundle.Bundle.Linking
import ShaderBundle.Shader.Reflect

namespace ShaderBundle

set_option autoImplicit false

/-! ## Log -/

/-- How important a record is. -/
inductive LogLevel where
  | error
  | info
  | debug
deriving DecidableEq

def LogLevel.name : LogLevel → String
  | error => "ERROR"
  | info => "INFO"
  | debug => "DEBUG"

structure LogRecord where
  level : LogLevel
  text : String
deriving DecidableEq

/-! ## Results -/

/-- What a bundle compiles to for one target. -/
structure Compilation where
  target : Target
  /-- In the order of the blobs. -/
  sources : List CompiledShader
  uniqueBlocks : List UniformBlock
  uniqueImages : List Image
  error : Option Diagnostic
deriving DecidableEq

/-- What was asked of the backend for one blob. -/
structure Attempt (σ : Type) where
  snippetIndex : Nat
  options : CodeOptions
  /-- The last state of the shader, if the backend made one. -/
  shader : Option σ

structure BlobRun (σ : Type) where
  attempt : Option (Attempt σ)
  log : List LogRecord
  result : Except Diagnostic CompiledShader

/-- A compilation, its log and what was asked of the backend. -/
structure Run (σ : Type) where
  compilation : Compilation
  log : List LogRecord
  attempts : List (Attempt σ)

/-! ## One blob -/

section

variable {σ : Type} [Shader σ]

/-- Makes a shader ready for a target. -/
def prepare (target : Target) (stage : Stage) (s : σ) : σ :=
  let s := fixBindSlots stage (.ofTarget target) s
  let s := if target.isMetal then s else forceColumnMajor s
  if target.isGlsl then flattenBlocks s else s

/-- The name of the entry point in the generated code: Metal code cannot have `main`. -/
def Target.entryPoint (target : Target) (name : String) : String :=
  if target.isMetal then name ++ "0" else name

/-- The interface of a prepared shader, with the entry point as it is in the code. -/
def reflectFor (target : Target) (s : σ) : Except SlotOverflow Interface := do
  let i ← reflect (.ofTarget target) s
  return { i with entryPoint := target.entryPoint i.entryPoint }

def interfaceRecord (snippet : Snippet) (target : Target) (i : Interface) : LogRecord :=
  ⟨.debug, s!"{snippet.name} ({target.name}): {i.inputs.size} inputs, {i.outputs.size} outputs, "
    ++ s!"{i.uniformBlocks.length} uniform blocks, {i.images.length} images"⟩

/-- Compiles one blob.  Errors stand at the first line of its snippet. -/
def compileBlob (b : Bundle) (target : Target) (backend : Backend σ) (blob : Blob) :
    Except ListingFault (BlobRun σ) :=
  match b.snippets[blob.snippetIndex]? with
  | none =>
    let text := s!"SPIR-V blob refers to unknown snippet #{blob.snippetIndex}"
    .ok ⟨none, [], .error (b.diagnostic 0 text)⟩
  | some snippet =>
    let fault (text : String) := b.diagnostic snippet.firstLine text
    let failed := fault s!"Failed to cross-compile to {target.name}."
    let options := CodeOptions.of target (snippet.optionsFor target)
    match backend.create blob options with
    | .error text =>
      let record : LogRecord := ⟨.error, s!"{snippet.name} ({target.name}): {text}"⟩
      .ok ⟨some ⟨blob.snippetIndex, options, none⟩, [record], .error failed⟩
    | .ok made => do
      let (code, s) ← Shader.generate (prepare target snippet.kind.stage made)
      let attempt := some ⟨blob.snippetIndex, options, some s⟩
      if code = "" then return ⟨attempt, [], .error failed⟩
      else
        match reflectFor target s with
        | .error overflow => return ⟨attempt, [], .error (fault overflow.message)⟩
        | .ok i =>
          return ⟨attempt, [interfaceRecord snippet target i],
            .ok ⟨blob.snippetIndex, code, i⟩⟩

/-! ## All blobs -/

/-- What blobs compile to, up to the first error. -/
structure BlobRuns (σ : Type) where
  attempts : List (Attempt σ)
  log : List LogRecord
  sources : List CompiledShader
  error : Option Diagnostic

/-- Compiles blobs in order until one fails. -/
def compileBlobs (b : Bundle) (target : Target) (backend : Backend σ) :
    List Blob → Except ListingFault (BlobRuns σ)
  | [] => .ok ⟨[], [], [], none⟩
  | blob :: rest => do
    let run ← compileBlob b target backend blob
    match run.result with
    | .error e => return ⟨run.attempt.toList, run.log, [], some e⟩
    | .ok source =>
      let runs ← compileBlobs b target backend rest
      return ⟨run.attempt.toList ++ runs.attempts, run.log ++ runs.log, source :: runs.sources,
        runs.error⟩

end

/-! ## The bundle -/

/-- The log records of definitions that entered a table. -/
def uniqueRecords {α : Type} [Shared α] : Nat → List α → List LogRecord
  | _, [] => []
  | index, item :: rest =>
    ⟨.debug, s!"unique resource #{index}: {Shared.name item}"⟩ :: uniqueRecords (index + 1) rest

def unifyAndLink (b : Bundle) (target : Target) (sources : List CompiledShader) :
    Compilation × List LogRecord :=
  let blocks : Gathered UniformBlock := gather [] sources
  let blockLog := uniqueRecords 0 blocks.table
  match blocks.conflict with
  | some name =>
    (⟨target, blocks.sources, blocks.table, [],
      some (b.diagnostic 0 (Conflict.uniformBlock name).message)⟩, blockLog)
  | none =>
    let images : Gathered Image := gather [] blocks.sources
    let imageLog := uniqueRecords 0 images.table
    match images.conflict with
    | some name =>
      (⟨target, images.sources, blocks.table, images.table,
        some (b.diagnostic 0 (Conflict.image name).message)⟩, blockLog ++ imageLog)
    | none =>
      let counts : LogRecord := ⟨.debug, s!"{target.name}: {blocks.table.length} "
        ++ s!"unique uniform blocks, {images.table.length} unique images"⟩
      (⟨target, images.sources, blocks.table, images.table, checkLinks b images.sources⟩,
        blockLog ++ imageLog ++ [counts])

/-- The log record of an error that ended a compilation. -/
def failureRecord (target : Target) (error : Diagnostic) : LogRecord :=
  ⟨.error, s!"translation to {target.name} failed: {error.render .gcc}"⟩

def compileBundle {σ : Type} [Shader σ] (b : Bundle) (blobs : List Blob) (target : Target)
    (backend : Backend σ) : Except ListingFault (Run σ) := do
  let start : LogRecord := ⟨.info, s!"translating {blobs.length} shaders to {target.name}"⟩
  let runs ← compileBlobs b target backend blobs
  let (compilation, log) : Compilation × List LogRecord :=
    match runs.error with
    | some e => (⟨target, runs.sources, [], [], some e⟩, [])
    | none => unifyAndLink b target runs.sources
  let failure := compilation.error.toList.map (failureRecord target)
  return ⟨compilation, start :: runs.log ++ log ++ failure, runs.attempts⟩

end ShaderBundle
