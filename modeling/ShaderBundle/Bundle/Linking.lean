/-
# Bundle.Linking — vertex outputs meet fragment inputs

The two shaders of a program fit together when they exist, are compiled, and the
outputs of the vertex shader are the inputs of the fragment shader, slot by slot.
`checkLinks` goes through the programs in order and reports the first fault.
-/
import ShaderBundle.Bundle.Unify

namespace ShaderBundle

set_option autoImplicit false

/-- Why a program cannot be linked. -/
inductive LinkFault where
  | unknownVertexShader
  | unknownFragmentShader
  | noVertexSource
  | noFragmentSource
  | mismatch (slot : Nat) (output input : Option Attribute)
deriving DecidableEq

def nameOrEmpty : Option Attribute → String
  | some a => a.name
  | none => ""

def LinkFault.message (p : Program) : LinkFault → String
  | unknownVertexShader => s!"unknown vertex shader '{p.vsName}' in program '{p.name}'"
  | unknownFragmentShader => s!"unknown fragment shader '{p.fsName}' in program '{p.name}'"
  | noVertexSource => s!"no translated source for '{p.vsName}' in program '{p.name}'"
  | noFragmentSource => s!"no translated source for '{p.fsName}' in program '{p.name}'"
  | mismatch slot output input =>
    s!"outputs of vs '{p.vsName}' don't match inputs of fs '{p.fsName}' for attr #{slot} "
      ++ s!"(vs={nameOrEmpty output},fs={nameOrEmpty input})"

def findSource (sources : List CompiledShader) (snippetIndex : Nat) : Option CompiledShader :=
  sources.find? fun s => s.snippetIndex = snippetIndex

/-- The first slot that is used differently. -/
def firstMismatch (outputs inputs : AttributeSlots) : Option Nat :=
  (List.range maxAttributes).find? fun i => outputs.get? i ≠ inputs.get? i

/-- Something that has to be there. -/
def demand {α : Type} (part : Option α) (fault : LinkFault) : Except LinkFault α :=
  match part with
  | some a => .ok a
  | none => .error fault

def checkProgram (b : Bundle) (sources : List CompiledShader) (p : Program) :
    Except LinkFault Unit := do
  let vs ← demand ((b.shaders .vertex).find? p.vsName) .unknownVertexShader
  let fs ← demand ((b.shaders .fragment).find? p.fsName) .unknownFragmentShader
  let vertex ← demand (findSource sources vs) .noVertexSource
  let fragment ← demand (findSource sources fs) .noFragmentSource
  let outputs := vertex.interface.outputs
  let inputs := fragment.interface.inputs
  match firstMismatch outputs inputs with
  | some slot => .error (.mismatch slot (outputs.get? slot) (inputs.get? slot))
  | none => .ok ()

def firstLinkFault (b : Bundle) (sources : List CompiledShader) :
    List Program → Option (Program × LinkFault)
  | [] => none
  | p :: rest =>
    match checkProgram b sources p with
    | .error fault => some (p, fault)
    | .ok () => firstLinkFault b sources rest

/-- Checks every program; a fault is reported at the line of its program. -/
def checkLinks (b : Bundle) (sources : List CompiledShader) : Option Diagnostic :=
  (firstLinkFault b sources b.programs).map fun r =>
    b.diagnostic r.1.lineIndex (r.2.message r.1)

end ShaderBundle
