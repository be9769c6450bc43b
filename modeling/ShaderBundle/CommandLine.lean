/-
# CommandLine — settings from the environment

The command takes its settings from variables:

* `SHDC_MANIFEST` and `SHDC_OUTPUT_DIR`, where to read and write;
* `SHDC_TARGETS`, target names with commas between them, only the web target if blank;
* `SHDC_DUMP` and `SHDC_MSVC_ERRORS`, switches that are off when empty, `0` or `false`.

A run ends with an exit code and a text for the error stream: first the error records
of the log, then the failure and what is behind it.
-/
import ShaderBundle.Bundle.Output

namespace ShaderBundle.CommandLine

set_option autoImplicit false

abbrev Environment := String → Option String

def switch (env : Environment) (name : String) : Bool :=
  match env name with
  | none => false
  | some s => s ≠ "" && Text.lower s.toList ≠ "false".toList && s ≠ "0"

def targets (env : Environment) : Except Target.Unknown (List Target) :=
  match env "SHDC_TARGETS" with
  | none => .ok [.wgpu]
  | some s => if Text.trim s.toList = [] then .ok [.wgpu] else Target.parseList s

def config (env : Environment) : Except Target.Unknown Config := do
  let targets ← targets env
  return {
    manifestPath := (env "SHDC_MANIFEST").getD (Path.ofSegments ["shaders", "bundle.json"])
    outputDir := (env "SHDC_OUTPUT_DIR").getD (Path.ofSegments ["shaders", "compiled"])
    targets := targets
    listings := switch env "SHDC_DUMP"
    format := if switch env "SHDC_MSVC_ERRORS" then .msvc else .gcc }

/-- What a run leaves behind. -/
structure Report where
  code : Nat
  errors : String
  /-- Whether the run broke down, so that the errors are those of a crash. -/
  crashed : Bool
deriving DecidableEq

def recordLine (r : LogRecord) : String := s!" {r.level.name} shdc_cross::cross > {r.text}\n"

def recordLines (log : List LogRecord) : String :=
  String.join ((log.filter fun r => r.level = .error).map recordLine)

def errorText (message : String) (cause : Option String) : String :=
  match cause with
  | some text => s!"Error: {message}\n\nCaused by:\n    {text}\n"
  | none => s!"Error: {message}\n"

def listingMessage (fault : ListingFault) : String :=
  s!"instruction {fault.instructionIndex} is a constant that cannot be shown"

def report (outcome : Outcome) : Report :=
  let log := recordLines outcome.log
  match outcome.failure with
  | none => ⟨0, log, false⟩
  | some (.load e) => ⟨1, log ++ errorText e.message e.cause?, false⟩
  | some (.other text) => ⟨1, log ++ errorText text none, false⟩
  | some (.record fault) => ⟨101, log ++ fault.message ++ "\n", true⟩
  | some (.listing fault) => ⟨101, log ++ listingMessage fault ++ "\n", true⟩

def run {m : Type → Type} [Monad m] (files : FileSystem m) (env : Environment) : m Report := do
  match config env with
  | .error unknown => return ⟨1, errorText unknown.message none, false⟩
  | .ok config => return report (← writeBundle files config)

end ShaderBundle.CommandLine
