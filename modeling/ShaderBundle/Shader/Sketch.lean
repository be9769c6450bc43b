/-
# Shader.Sketch — a shader described by hand

A `Sketch` answers questions from lists that someone wrote down, without a module
behind them, and returns fixed code.  It keeps the calls that changed it or asked for
code, in order, so that what was done to a shader can be checked.

The functions of the second half describe a shader resource by resource: each takes
the next ids for what it needs, and blocks and images start out bound far away from
where they belong.
-/
import ShaderBundle.Shader.Model
import ShaderBundle.Table

namespace ShaderBundle

set_option autoImplicit false

/-- A call that changes a shader or asks for its code. -/
inductive ShaderCall where
  | decorate (id : Id) (d : Spirv.Decoration) (value : UInt32)
  | decorateMember (id : Id) (index : UInt32) (d : Spirv.Decoration) (value : UInt32)
  | flatten (id : Id)
  | generate
deriving DecidableEq

/-- A shader described by hand. -/
structure Sketch where
  model : Spirv.ExecutionModel
  entryPoints : List EntryPoint
  resources : Resources
  types : Table Id TypeDesc
  decorations : Table (Id × Spirv.Decoration) UInt32
  memberDecorations : Table (Id × UInt32 × Spirv.Decoration) UInt32
  memberNames : Table (Id × UInt32) String
  structSizes : Table Id UInt32
  /-- The code it returns. -/
  source : String
  /-- The calls so far, in order. -/
  calls : List ShaderCall
deriving DecidableEq

namespace Sketch

/-- A sketch of which nothing but the model is known. -/
def blank (model : Spirv.ExecutionModel) : Sketch :=
  ⟨model, [], .empty, .empty, .empty, .empty, .empty, .empty, "", []⟩

def called (s : Sketch) (call : ShaderCall) : Sketch := { s with calls := s.calls ++ [call] }

instance : Shader Sketch where
  model s := s.model
  entryPoints s := s.entryPoints
  resources s := s.resources
  typeOf s id := (s.types.find? id).getD .missing
  decoration s id d := (s.decorations.find? (id, d)).getD 0
  decorate s id d value :=
    { s.called (.decorate id d value) with
      decorations := s.decorations.insert (id, d) value }
  memberDecoration s id index d := (s.memberDecorations.find? (id, index, d)).getD 0
  decorateMember s id index d value :=
    { s.called (.decorateMember id index d value) with
      memberDecorations := s.memberDecorations.insert (id, index, d) value }
  memberName s id index := (s.memberNames.find? (id, index)).getD ""
  structSize s id := (s.structSizes.find? id).getD 0
  flatten s id := s.called (.flatten id)
  generate s := .ok (s.source, s.called .generate)

def flattenedId? : ShaderCall → Option Id
  | .flatten id => some id
  | _ => none

def flattened (s : Sketch) : List Id := s.calls.filterMap flattenedId?

/-! ## Describing resource by resource -/

/-- A sketch in the making. -/
structure Draft where
  sketch : Sketch
  nextId : Id

/-- A shader with one entry point, `main`, and a little code. -/
def Draft.start (model : Spirv.ExecutionModel) : Draft :=
  ⟨{ blank model with entryPoints := [⟨"main", model⟩], source := "void main() \x7b\x7d\n" }, 1⟩

abbrev Describe (α : Type) : Type := StateM Draft α

def change (f : Sketch → Sketch) : Describe Unit :=
  modify fun d => { d with sketch := f d.sketch }

def freshId : Describe Id :=
  modifyGet fun d => (d.nextId, { d with nextId := d.nextId + 1 })

def addType (type : TypeDesc) : Describe Id := do
  let id ← freshId
  change fun s => { s with types := s.types.insert id type }
  return id

def note (id : Id) (d : Spirv.Decoration) (value : UInt32) : Describe Unit :=
  change fun s => { s with decorations := s.decorations.insert (id, d) value }

/-- An attribute of four floats at a location. -/
def addAttribute (name : String) (location : UInt32) : Describe Resource := do
  let type ← addType (.floats 4)
  let id ← freshId
  note id .location location
  return ⟨id, type, type, name⟩

def addInput (name : String) (location : UInt32) : Describe Unit := do
  let r ← addAttribute name location
  change fun s => { s with
    resources := { s.resources with stageInputs := s.resources.stageInputs ++ [r] } }

def addOutput (name : String) (location : UInt32) : Describe Unit := do
  let r ← addAttribute name location
  change fun s => { s with
    resources := { s.resources with stageOutputs := s.resources.stageOutputs ++ [r] } }

/-- A variable bound to set 7, binding 9. -/
def addBound (type : Id) (name : String) : Describe Resource := do
  let id ← freshId
  note id .descriptorSet 7
  note id .binding 9
  return ⟨id, type, type, name⟩

structure Member where
  name : String
  type : TypeDesc
  offset : UInt32

/-- Names the members of a structure and puts them in their places. -/
def placeMembers (type : Id) : UInt32 → List Member → Describe Unit
  | _, [] => return ()
  | index, m :: rest => do
    change fun s => { s with
      memberNames := s.memberNames.insert (type, index) m.name
      memberDecorations := s.memberDecorations.insert (type, index, .offset) m.offset }
    placeMembers type (index + 1) rest

def addUniformBlock (name : String) (size : UInt32) (members : List Member) : Describe Unit := do
  let types ← members.mapM fun m => addType m.type
  let type ← addType (.structOf types)
  placeMembers type 0 members
  change fun s => { s with structSizes := s.structSizes.insert type size }
  let r ← addBound type name
  change fun s => { s with
    resources := { s.resources with uniformBuffers := s.resources.uniformBuffers ++ [r] } }

def addSampledImage (name : String) (dim : Spirv.Dim) (arrayed : Bool) (sampled : BaseType) :
    Describe Unit := do
  let sampledType ← addType (.scalar sampled 32)
  let type ← addType (.imageOf .sampledImage ⟨sampledType, dim, false, arrayed, false⟩)
  let r ← addBound type name
  change fun s => { s with
    resources := { s.resources with sampledImages := s.resources.sampledImages ++ [r] } }

/-- Code generation fails: there is no code. -/
def fail : Describe Unit := change fun s => { s with source := "" }

def describe (model : Spirv.ExecutionModel) (steps : Describe Unit) : Sketch :=
  (steps.run (Draft.start model)).2.sketch

/-- The backend that hands out a sketch per snippet. -/
def backend (sketches : Table Nat Sketch) : Backend Sketch where
  create blob _ :=
    match sketches.find? blob.snippetIndex with
    | some s => .ok s
    | none => .error s!"no compiler for snippet {blob.snippetIndex}"

end Sketch

end ShaderBundle
