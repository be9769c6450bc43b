/-
# Interface.Basic — what a shader looks like from outside

The interface of a compiled shader: its stage, its entry point, its attributes, its
uniform blocks with their layout, and its images.  Bind slots count from zero for
each shader, blocks and images separately.

Two blocks *match* when they could be one block bound at different slots: same name,
size and members.  Two images match when name, shape and sample type agree.
-/
import ShaderBundle.Interface.Attribute
import ShaderBundle.Interface.Kind

namespace ShaderBundle

set_option autoImplicit false

/-- A member of a uniform block. -/
structure Uniform where
  name : String
  type : UniformType
  /-- How many elements an array has; 0 for what is no array. -/
  arrayCount : UInt32
  /-- The first byte of the member in its block. -/
  offset : UInt32
deriving DecidableEq

/-- A block of uniforms that is bound as a whole. -/
structure UniformBlock where
  slot : UInt32
  size : UInt32
  name : String
  uniforms : List Uniform
  /-- The place among the unified blocks of a compilation. -/
  uniqueIndex : Option Nat
deriving DecidableEq

structure Image where
  slot : UInt32
  name : String
  type : ImageType
  sampleType : SampleType
  /-- The place among the unified images of a compilation. -/
  uniqueIndex : Option Nat
deriving DecidableEq

/-- The interface of one compiled shader. -/
structure Interface where
  stage : Stage
  entryPoint : String
  inputs : AttributeSlots
  outputs : AttributeSlots
  uniformBlocks : List UniformBlock
  images : List Image
deriving DecidableEq

instance : Inhabited Interface := ⟨⟨.invalid, "", .empty, .empty, [], []⟩⟩

/-- Same name, size and members; slot and unique index do not matter. -/
def UniformBlock.agrees (a b : UniformBlock) : Bool :=
  a.name = b.name && a.size = b.size && a.uniforms = b.uniforms

/-- Same name, shape and sample type; slot and unique index do not matter. -/
def Image.agrees (a b : Image) : Bool :=
  a.name = b.name && a.type = b.type && a.sampleType = b.sampleType

/-! ## JSON -/

/-- An index that may be missing, in JSON. -/
def indexJson : Option Nat → Json.Value := Json.ofOption .nat

def Uniform.json (u : Uniform) : Json.Value :=
  .record [("name", .text u.name), ("type", u.type.json),
    ("array_count", .nat u.arrayCount.toNat), ("offset", .nat u.offset.toNat)]

def Uniform.ofTree? (t : Json.Tree) : Option Uniform :=
  match t.fields? ["name", "type", "array_count", "offset"] with
  | some [name, type, count, offset] => do
    return ⟨← Json.Tree.need Json.Tree.text? name, ← Json.Tree.need UniformType.ofTree? type,
      ← Json.Tree.need Json.Tree.word32? count, ← Json.Tree.need Json.Tree.word32? offset⟩
  | _ => none

def UniformBlock.json (b : UniformBlock) : Json.Value :=
  .record [("slot", .nat b.slot.toNat), ("size", .nat b.size.toNat), ("name", .text b.name),
    ("uniforms", .list (b.uniforms.map Uniform.json)), ("unique_index", indexJson b.uniqueIndex)]

def UniformBlock.ofTree? (t : Json.Tree) : Option UniformBlock :=
  match t.fields? ["slot", "size", "name", "uniforms", "unique_index"] with
  | some [slot, size, name, uniforms, index] => do
    return ⟨← Json.Tree.need Json.Tree.word32? slot, ← Json.Tree.need Json.Tree.word32? size,
      ← Json.Tree.need Json.Tree.text? name,
      ← Json.Tree.need (Json.Tree.list? Uniform.ofTree?) uniforms,
      ← Json.Tree.orElse none (Json.Tree.orNull? Json.Tree.index?) index⟩
  | _ => none

def Image.json (i : Image) : Json.Value :=
  .record [("slot", .nat i.slot.toNat), ("name", .text i.name), ("type", i.type.json),
    ("base_type", i.sampleType.json), ("unique_index", indexJson i.uniqueIndex)]

def Image.ofTree? (t : Json.Tree) : Option Image :=
  match t.fields? ["slot", "name", "type", "base_type", "unique_index"] with
  | some [slot, name, type, sampleType, index] => do
    return ⟨← Json.Tree.need Json.Tree.word32? slot, ← Json.Tree.need Json.Tree.text? name,
      ← Json.Tree.need ImageType.ofTree? type, ← Json.Tree.need SampleType.ofTree? sampleType,
      ← Json.Tree.orElse none (Json.Tree.orNull? Json.Tree.index?) index⟩
  | _ => none

def Interface.json (i : Interface) : Json.Value :=
  .record [("stage", i.stage.json), ("entry_point", .text i.entryPoint),
    ("inputs", i.inputs.json), ("outputs", i.outputs.json),
    ("uniform_blocks", .list (i.uniformBlocks.map UniformBlock.json)),
    ("images", .list (i.images.map Image.json))]

def Interface.ofTree? (t : Json.Tree) : Option Interface :=
  match t.fields? ["stage", "entry_point", "inputs", "outputs", "uniform_blocks", "images"] with
  | some [stage, entry, inputs, outputs, blocks, images] => do
    return ⟨← Json.Tree.need Stage.ofTree? stage, ← Json.Tree.need Json.Tree.text? entry,
      ← Json.Tree.need AttributeSlots.ofTree? inputs,
      ← Json.Tree.need AttributeSlots.ofTree? outputs,
      ← Json.Tree.need (Json.Tree.list? UniformBlock.ofTree?) blocks,
      ← Json.Tree.need (Json.Tree.list? Image.ofTree?) images⟩
  | _ => none

end ShaderBundle
