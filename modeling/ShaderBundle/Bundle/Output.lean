/-
# Bundle.Output — the files of a bundle

For every target and every compiled shader three files are written, named after
snippet and target: the binary record, the interface as JSON, and the generated code.
A listing of the whole compilation may follow for each target.

`bundlePlan` is the plan: what is logged and written, in order, and the failure that
ends it, if any.  `runSteps` carries a plan out and stops when a file cannot be
written.  `writeBundle` loads a bundle, makes the output directory and carries out the
plan.
-/
import ShaderBundle.Bundle.Listing
import ShaderBundle.Bundle.Manifest
import ShaderBundle.Record.Basic
import ShaderBundle.Spirv.Shader

namespace ShaderBundle

set_option autoImplicit false

/-- What is to be written, and how. -/
structure Config where
  manifestPath : String
  outputDir : String
  targets : List Target
  /-- Whether to write a listing for each target. -/
  listings : Bool
  format : DiagnosticFormat
deriving DecidableEq

inductive Step where
  | log (record : LogRecord)
  | write (path : String) (bytes : List UInt8)
deriving DecidableEq

/-- Why a run ends early. -/
inductive Failure where
  | load (error : LoadError)
  /-- An error in the words of the system or of a compilation. -/
  | other (text : String)
  /-- An interface that does not fit its binary record. -/
  | record (fault : Record.Fault)
  /-- A module that cannot be listed. -/
  | listing (fault : ListingFault)
deriving DecidableEq

/-- What is done, and the failure that ends it. -/
structure Plan where
  steps : List Step
  failure : Option Failure
deriving DecidableEq

namespace Plan

def empty : Plan := ⟨[], none⟩

/-- One plan after another, if the first ends well. -/
def append (p q : Plan) : Plan :=
  match p.failure with
  | some _ => p
  | none => ⟨p.steps ++ q.steps, q.failure⟩

/-- Plans one after the other up to the first failure. -/
def concat : List Plan → Plan
  | [] => empty
  | p :: rest => p.append (concat rest)

end Plan

/-! ## Files -/

/-- The name of a file of a snippet for a target. -/
def outputName (snippet : Snippet) (target : Target) (extension : String) : String :=
  s!"{snippet.name}.{target.name}.{extension}"

def shaderPlan (config : Config) (target : Target) (snippet : Snippet) (s : CompiledShader) :
    Plan :=
  let path (extension : String) := Path.join config.outputDir (outputName snippet target extension)
  let record := Record.writeInterface s.interface
  match record.fault with
  | some fault => ⟨[], some (.record fault)⟩
  | none =>
    ⟨[.write (path "bin") record.bytes,
      .write (path "json") (Text.Utf8.bytes s.interface.json.pretty),
      .write (path "spvasm") (Text.Utf8.bytes s.sourceCode)], none⟩

/-- The files of a compiled shader, if its snippet is there. -/
def sourcePlan (config : Config) (b : Bundle) (target : Target) (s : CompiledShader) : Plan :=
  match b.snippets[s.snippetIndex]? with
  | some snippet => shaderPlan config target snippet s
  | none => ⟨[], some (.other s!"no snippet #{s.snippetIndex} in the bundle")⟩

/-- The listing of a compilation, if it is wanted. -/
def listingPlan (config : Config) (t : Compilation) : Plan :=
  if config.listings then
    let path := Path.join config.outputDir s!"{t.target.name}.dump.txt"
    ⟨[.write path ((t.listing config.format).flatMap Text.Utf8.bytes)], none⟩
  else .empty

def compilationPlan (config : Config) (b : Bundle) (t : Compilation) : Plan :=
  match t.error with
  | some e => ⟨[], some (.other (e.render config.format))⟩
  | none =>
    let count := t.sources.length
    let record : LogRecord := ⟨.info, s!"{t.target.name}: wrote reflection for {count} shaders "
      ++ s!"to {config.outputDir}"⟩
    Plan.concat (t.sources.map (sourcePlan config b t.target)
      ++ [listingPlan config t, ⟨[.log record], none⟩])

def targetPlan (config : Config) (loaded : LoadedBundle) (target : Target) : Plan :=
  match compileBundle loaded.bundle loaded.blobs target Spirv.backend with
  | .error fault => ⟨[], some (.listing fault)⟩
  | .ok run =>
    (Plan.mk (run.log.map .log) none).append
      (compilationPlan config loaded.bundle run.compilation)

def bundlePlan (config : Config) (loaded : LoadedBundle) : Plan :=
  .concat (config.targets.map (targetPlan config loaded))

/-! ## Carrying a plan out -/

/-- How a run ended. -/
structure Outcome where
  log : List LogRecord
  failure : Option Failure
deriving DecidableEq

section

variable {m : Type → Type} [Monad m] (files : FileSystem m)

/-- Carries out steps; `failure` is how the run ends if every file can be written. -/
def runSteps (failure : Option Failure) : List Step → m Outcome
  | [] => return ⟨[], failure⟩
  | .log record :: rest => do
    let outcome ← runSteps failure rest
    return { outcome with log := record :: outcome.log }
  | .write path bytes :: rest => do
    match ← files.write path bytes with
    | .error text => return ⟨[], some (.other text)⟩
    | .ok () => runSteps failure rest

def writeBundle (config : Config) : m Outcome := do
  match ← loadBundle files config.manifestPath with
  | .error e => return ⟨[], some (.load e)⟩
  | .ok loaded =>
    match ← files.createDirAll config.outputDir with
    | .error text => return ⟨[], some (.other text)⟩
    | .ok () =>
      let plan := bundlePlan config loaded
      runSteps files plan.failure plan.steps

end

end ShaderBundle
