/-
# Main — the command

Runs the command on the files and the environment of the machine.
-/
import ShaderBundle.CommandLine

namespace ShaderBundle

set_option autoImplicit false

/-- The words of the system for an error. -/
def systemText : IO.Error → String
  | .noFileOrDirectory _ code details => s!"{details} (os error {code})"
  | .alreadyExists _ code details => s!"{details} (os error {code})"
  | .inappropriateType _ code details => s!"{details} (os error {code})"
  | .permissionDenied _ code details => s!"{details} (os error {code})"
  | .invalidArgument _ code details => s!"{details} (os error {code})"
  | .otherError code details => s!"{details} (os error {code})"
  | e => toString e

/-- The result of an action, or the words of the system. -/
def attempt {α : Type} (action : IO α) : IO (Except String α) := do
  match ← action.toBaseIO with
  | .ok a => return .ok a
  | .error e => return .error (systemText e)

def isDirectory (path : String) : IO Bool := do
  match ← (IO.FS.realPath path).toBaseIO with
  | .ok found => return ← found.isDir
  | .error _ => return false

def ensureDir (path : String) : IO Unit := do
  match ← (IO.FS.createDir path).toBaseIO with
  | .ok () => return ()
  | .error e => unless ← isDirectory path do throw e

/-- Makes the first of some directories, each of which stands in the next. -/
def ensureDirs : List String → IO Unit
  | [] => return ()
  | path :: above => do
    match ← (ensureDir path).toBaseIO with
    | .ok () => return ()
    | .error (.noFileOrDirectory ..) =>
      ensureDirs above
      ensureDir path
    | .error e => throw e

def machine : FileSystem IO where
  read path := attempt do return (← IO.FS.readBinFile path).toList
  createDirAll path := attempt (ensureDirs (Path.ancestors path))
  write path bytes := attempt (IO.FS.writeBinFile path (ByteArray.mk bytes.toArray))

/-- The variables that the command reads. -/
def readEnvironment : IO CommandLine.Environment := do
  let names := ["SHDC_MANIFEST", "SHDC_OUTPUT_DIR", "SHDC_TARGETS", "SHDC_DUMP",
    "SHDC_MSVC_ERRORS"]
  let values ← names.mapM fun name => do return (name, ← IO.getEnv name)
  return fun name => (values.find? fun v => v.1 = name).bind fun v => v.2

end ShaderBundle

/-- Runs the command and ends with its exit code. -/
def main : IO UInt32 := do
  let report ← ShaderBundle.CommandLine.run ShaderBundle.machine (← ShaderBundle.readEnvironment)
  IO.eprint report.errors
  return UInt32.ofNat report.code
