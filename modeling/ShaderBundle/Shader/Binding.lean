/-
# Shader.Binding — where blocks and images are bound

Every target binds resources its own way.  `fixBindSlots` throws away the bindings a
shader came with: uniform blocks go to set 0, and images to a set of their own, each
counted from zero in the order of the resources.

Under the web scheme both stages are bound together.  Fragment blocks then start at
`fragmentBlockOffset` in the set of the vertex blocks, and fragment images have a third
set.  `BindingScheme.logicalSlot` takes the offset away again.
-/
import ShaderBundle.Shader.Model

namespace ShaderBundle

set_option autoImplicit false

/-- How sets and bindings are laid out. -/
inductive BindingScheme where
  | native
  | web
deriving DecidableEq

/-- The first binding of fragment blocks under the web scheme. -/
def fragmentBlockOffset : UInt32 := 4

namespace BindingScheme

def ofTarget (t : Target) : BindingScheme := if t.isWeb then .web else .native

def name : BindingScheme → String
  | native => "Native"
  | web => "Web"

def firstBlock : BindingScheme → Stage → UInt32
  | web, .fragment => fragmentBlockOffset
  | _, _ => 0

def imageSet : BindingScheme → Stage → UInt32
  | web, .fragment => 2
  | _, _ => 1

def logicalSlot (scheme : BindingScheme) (binding : UInt32) : UInt32 :=
  if scheme = .web && fragmentBlockOffset ≤ binding then binding - fragmentBlockOffset
  else binding

end BindingScheme

section

variable {σ : Type} [Shader σ]

/-- Binds resources one after the other in a set. -/
def bindFrom (set : UInt32) : UInt32 → List Resource → σ → σ
  | _, [], s => s
  | slot, r :: rest, s =>
    let s := Shader.decorate s r.id .descriptorSet set
    let s := Shader.decorate s r.id .binding slot
    bindFrom set (slot + 1) rest s

/-- Binds every uniform block and every sampled image. -/
def fixBindSlots (stage : Stage) (scheme : BindingScheme) (s : σ) : σ :=
  let res := Shader.resources s
  bindFrom (scheme.imageSet stage) 0 res.sampledImages
    (bindFrom 0 (scheme.firstBlock stage) res.uniformBuffers s)

def TypeDesc.isFloatMatrix (t : TypeDesc) : Bool :=
  t.base = .float && 1 < t.vecsize && 1 < t.columns

/-- Lays the float matrices among the members of a structure out by columns. -/
def forceColumnsFrom (type : Id) : UInt32 → List Id → σ → σ
  | _, [], s => s
  | index, memberType :: rest, s =>
    let s :=
      if (Shader.typeOf s memberType).isFloatMatrix then
        Shader.decorateMember s type index .colMajor 1
      else s
    forceColumnsFrom type (index + 1) rest s

/-- Lays every float matrix of a uniform block out by columns. -/
def forceColumnMajor (s : σ) : σ :=
  (Shader.resources s).uniformBuffers.foldl
    (fun s r => forceColumnsFrom r.baseType 0 (Shader.typeOf s r.baseType).members s) s

/-- Turns every uniform block into a plain vector array. -/
def flattenBlocks (s : σ) : σ :=
  (Shader.resources s).uniformBuffers.foldl (fun s r => Shader.flatten s r.id) s

end

end ShaderBundle
