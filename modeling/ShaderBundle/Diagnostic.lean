/-
# Diagnostic — an error that points into a bundle file

Lines are counted from zero and shown from one.
-/
import ShaderBundle.Json.Tree

namespace ShaderBundle

set_option autoImplicit false

/-- How the place of an error is written, so that an editor can jump to it. -/
inductive DiagnosticFormat where
  /-- `file:line:0: error: message` -/
  | gcc
  /-- `file(line): error: message` -/
  | msvc
deriving DecidableEq

namespace DiagnosticFormat

def name : DiagnosticFormat → String
  | gcc => "gcc"
  | msvc => "msvc"

def ofTree? (t : Json.Tree) : Option DiagnosticFormat :=
  t.choice?.bind fun s => [gcc, msvc].find? fun f => f.name = s

end DiagnosticFormat

structure Diagnostic where
  file : String
  lineIndex : Nat
  message : String
deriving DecidableEq

namespace Diagnostic

def render (d : Diagnostic) : DiagnosticFormat → String
  | .gcc => s!"{d.file}:{d.lineIndex + 1}:0: error: {d.message}"
  | .msvc => s!"{d.file}({d.lineIndex + 1}): error: {d.message}"

end Diagnostic

end ShaderBundle
