/-
# Shader.Reflect — reading the interface of a shader

`reflect` reads the interface off a shader whose bind slots were fixed: the stage
from its execution model, the entry point that has this model, attributes by
location, blocks with the layout of their members, and images by the type of their
variable.
-/
import ShaderBundle.Interface.Basic
import ShaderBundle.Shader.Binding

namespace ShaderBundle

set_option autoImplicit false

/-- The stage of an execution model. -/
def Stage.ofModel : Spirv.ExecutionModel → Stage
  | .vertex => .vertex
  | .fragment => .fragment
  | _ => .invalid

section

variable {σ : Type} [Shader σ]

/-- Attributes by their locations, in the order of their resources. -/
def reflectAttributes (s : σ) (resources : List Resource) : Except SlotOverflow AttributeSlots :=
  resources.foldlM
    (fun slots r => slots.insert (Shader.decoration s r.id .location) r.name) .empty

def reflectUniform (s : σ) (type : Id) (index : UInt32) (memberType : Id) : Uniform where
  name := Shader.memberName s type index
  type := (Shader.typeOf s memberType).uniformType
  arrayCount := (Shader.typeOf s memberType).array.headD 0
  offset := Shader.memberOffset s type index

/-- The members of a block, counted from `index`. -/
def reflectUniforms (s : σ) (type : Id) : UInt32 → List Id → List Uniform
  | _, [] => []
  | index, memberType :: rest =>
    reflectUniform s type index memberType :: reflectUniforms s type (index + 1) rest

def reflectBlock (scheme : BindingScheme) (s : σ) (r : Resource) : UniformBlock where
  slot := scheme.logicalSlot (Shader.decoration s r.id .binding)
  size := Shader.structSize s r.baseType
  name := r.name
  uniforms := reflectUniforms s r.baseType 0 (Shader.typeOf s r.baseType).members
  uniqueIndex := none

def reflectImage (s : σ) (r : Resource) : Image :=
  let slot := Shader.decoration s r.id .binding
  match (Shader.typeOf s r.type).image with
  | some desc =>
    ⟨slot, r.name, desc.imageType, (Shader.typeOf s desc.sampledType).base.sampleType, none⟩
  | none => ⟨slot, r.name, .invalid, .float, none⟩

/-- The name of the first entry point with the model of the shader. -/
def reflectEntryPoint (s : σ) : String :=
  match (Shader.entryPoints s).find? fun e => e.model = Shader.model s with
  | some e => e.name
  | none => ""

def reflect (scheme : BindingScheme) (s : σ) : Except SlotOverflow Interface := do
  let res := Shader.resources s
  let inputs ← reflectAttributes s res.stageInputs
  let outputs ← reflectAttributes s res.stageOutputs
  return {
    stage := Stage.ofModel (Shader.model s)
    entryPoint := reflectEntryPoint s
    inputs := inputs
    outputs := outputs
    uniformBlocks := res.uniformBuffers.map (reflectBlock scheme s)
    images := res.sampledImages.map (reflectImage s) }

end

end ShaderBundle
