/-
# Shader.Model — what is asked of a shader

A `Shader` is a state that answers questions about a compiled shader — its entry
points, its resources, the types and decorations behind them — and whose decorations
can be changed before code is generated from it.  Everything that is missing reads
as nothing: the missing type, the number 0, the empty name.

`Backend` makes the shader of a blob.
-/
import ShaderBundle.Shader.Type
import ShaderBundle.Target

namespace ShaderBundle

set_option autoImplicit false

/-- Where execution starts. -/
structure EntryPoint where
  name : String
  model : Spirv.ExecutionModel
deriving DecidableEq

/-- A variable of the interface of a shader. -/
structure Resource where
  id : Id
  /-- The type of the variable. -/
  type : Id
  /-- The type of the variable without its arrays. -/
  baseType : Id
  /-- A uniform block is named after its type, all else after the variable. -/
  name : String
deriving DecidableEq

/-- The interface of a shader by its variables. -/
structure Resources where
  uniformBuffers : List Resource
  sampledImages : List Resource
  stageInputs : List Resource
  stageOutputs : List Resource
deriving DecidableEq

def Resources.empty : Resources := ⟨[], [], [], []⟩

instance : Inhabited Resources := ⟨.empty⟩

/-- Code generation broke down at a constant that cannot be shown: it lacks a type, has not
exactly one operand, or holds a literal whose type is no number type. -/
structure ListingFault where
  instructionIndex : Nat
deriving DecidableEq

/-- A shader whose decorations can be changed. -/
class Shader (σ : Type) where
  /-- The execution model of the first entry point. -/
  model : σ → Spirv.ExecutionModel
  entryPoints : σ → List EntryPoint
  resources : σ → Resources
  typeOf : σ → Id → TypeDesc
  /-- The value of a decoration: its literal, 1 if it has none, 0 if it is not there. -/
  decoration : σ → Id → Spirv.Decoration → UInt32
  decorate : σ → Id → Spirv.Decoration → UInt32 → σ
  /-- The value of a decoration of a member. -/
  memberDecoration : σ → Id → UInt32 → Spirv.Decoration → UInt32
  decorateMember : σ → Id → UInt32 → Spirv.Decoration → UInt32 → σ
  memberName : σ → Id → UInt32 → String
  /-- The declared size of a structure in bytes. -/
  structSize : σ → Id → UInt32
  /-- Turns a uniform block into a plain vector array, where a dialect wants it. -/
  flatten : σ → Id → σ
  /-- The generated code, empty if there is none, and the shader afterwards. -/
  generate : σ → Except ListingFault (String × σ)

def Shader.memberOffset {σ : Type} [Shader σ] (s : σ) (type : Id) (index : UInt32) : UInt32 :=
  Shader.memberDecoration s type index .offset

/-- The SPIR-V of one snippet. -/
structure Blob where
  /-- The place of its snippet in the bundle. -/
  snippetIndex : Nat
  stage : Stage
  words : List UInt32
deriving DecidableEq

/-- Makes the shader of a blob, or says in words why there is none. -/
structure Backend (σ : Type) where
  create : Blob → CodeOptions → Except String σ

end ShaderBundle
