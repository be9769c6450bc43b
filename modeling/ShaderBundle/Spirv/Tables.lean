/-
# Spirv.Tables — what the instructions of a module say

`Tables.ofModule` reads entry points, names, decorations, types, constants and
variables into tables, in this order and each from front to back, so of two
statements about one thing the later counts.  An instruction without the operands
that its operation needs is malformed; other operations are passed over.
-/
import ShaderBundle.Shader.Model
import ShaderBundle.Spirv.Module
import ShaderBundle.Table

namespace ShaderBundle.Spirv

set_option autoImplicit false

/-- Why words or a module are no shader. -/
inductive ModuleFault where
  | unreadable
  | noEntryPoint
  | malformed (opcode : Opcode)
deriving DecidableEq

def ModuleFault.message : ModuleFault → String
  | unreadable => "invalid SPIR-V module: the words are no module"
  | noEntryPoint => "SPIR-V module has no entry point"
  | malformed opcode => s!"malformed {opcode.name} instruction"

/-- A variable outside of functions. -/
structure Variable where
  id : Id
  pointerType : Id
  storage : StorageClass
deriving DecidableEq

/-- What is known of a module. -/
structure Tables where
  entryPoints : List EntryPoint
  /-- The ids that the first entry point uses. -/
  interface : List Id
  names : Table Id String
  memberNames : Table (Id × UInt32) String
  decorations : Table (Id × Decoration) UInt32
  memberDecorations : Table (Id × UInt32 × Decoration) UInt32
  types : Table Id TypeDesc
  /-- The element type of each array type. -/
  elements : Table Id Id
  /-- What each pointer type points to. -/
  pointers : Table Id Id
  constants : Table Id UInt32
  globalVars : List Variable
deriving DecidableEq

/-! ## Operands by place -/

namespace Instruction

/-- The fault of an instruction that lacks what it needs. -/
def malformed (i : Instruction) : ModuleFault := .malformed i.opcode

/-- A part of an instruction that it needs. -/
def require {α : Type} (i : Instruction) (part : Option α) : Except ModuleFault α :=
  match part with
  | some a => .ok a
  | none => .error i.malformed

def needResult (i : Instruction) : Except ModuleFault Id := i.require i.resultId

def needId (i : Instruction) (place : Nat) : Except ModuleFault Id :=
  match i.operands[place]? with
  | some (.id n) => .ok n
  | _ => .error i.malformed

def needWord (i : Instruction) (place : Nat) : Except ModuleFault UInt32 :=
  match i.operands[place]? with
  | some (.word n) => .ok n
  | _ => .error i.malformed

def needText (i : Instruction) (place : Nat) : Except ModuleFault String :=
  match i.operands[place]? with
  | some (.text s) => .ok s
  | _ => .error i.malformed

def needDecoration (i : Instruction) (place : Nat) : Except ModuleFault Decoration :=
  match i.operands[place]? with
  | some (.decoration d) => .ok d
  | _ => .error i.malformed

def needStorage (i : Instruction) (place : Nat) : Except ModuleFault StorageClass :=
  match i.operands[place]? with
  | some (.storage c) => .ok c
  | _ => .error i.malformed

def needModel (i : Instruction) (place : Nat) : Except ModuleFault ExecutionModel :=
  match i.operands[place]? with
  | some (.model m) => .ok m
  | _ => .error i.malformed

def needDim (i : Instruction) (place : Nat) : Except ModuleFault Dim :=
  match i.operands[place]? with
  | some (.dim d) => .ok d
  | _ => .error i.malformed

end Instruction

namespace Tables

def empty : Tables :=
  ⟨[], [], .empty, .empty, .empty, .empty, .empty, .empty, .empty, .empty, []⟩

def typeOf (t : Tables) (id : Id) : TypeDesc := (t.types.find? id).getD .missing

/-! ## Reading instructions -/

/-- The value of the operand after a decoration; without a number it is 1. -/
def decorationValue : Option Operand → UInt32
  | some (.word n) => n
  | some (.builtIn b) => Enumerant.code b
  | _ => 1

/-- The id of an operand that is one. -/
def idOf? : Operand → Option Id
  | .id n => some n
  | _ => none

/-- Reads an entry point; the first one also gives the interface. -/
def addEntryPoint (t : Tables) (i : Instruction) : Except ModuleFault Tables := do
  let model ← i.needModel 0
  let name ← i.needText 2
  let interface :=
    if t.entryPoints = [] then (i.operands.drop 3).filterMap idOf? else t.interface
  return { t with entryPoints := t.entryPoints ++ [⟨name, model⟩], interface := interface }

def addName (t : Tables) (i : Instruction) : Except ModuleFault Tables :=
  match i.opcode with
  | .opName => do
    let id ← i.needId 0
    let name ← i.needText 1
    return { t with names := t.names.insert id name }
  | .opMemberName => do
    let id ← i.needId 0
    let member ← i.needWord 1
    let name ← i.needText 2
    return { t with memberNames := t.memberNames.insert (id, member) name }
  | _ => .ok t

def addAnnotation (t : Tables) (i : Instruction) : Except ModuleFault Tables :=
  match i.opcode with
  | .opDecorate => do
    let id ← i.needId 0
    let d ← i.needDecoration 1
    let value := decorationValue i.operands[2]?
    return { t with decorations := t.decorations.insert (id, d) value }
  | .opMemberDecorate => do
    let id ← i.needId 0
    let member ← i.needWord 1
    let d ← i.needDecoration 2
    let value := decorationValue i.operands[3]?
    return { t with memberDecorations := t.memberDecorations.insert (id, member, d) value }
  | _ => .ok t

def addType (t : Tables) (i : Instruction) (type : TypeDesc) : Except ModuleFault Tables := do
  let id ← i.needResult
  return { t with types := t.types.insert id type }

/-- Binds the result id to the element type of an array. -/
def addElement (t : Tables) (i : Instruction) (element : Id) : Except ModuleFault Tables := do
  let id ← i.needResult
  return { t with elements := t.elements.insert id element }

def imageDesc (i : Instruction) : Except ModuleFault ImageDesc := do
  let sampled ← i.needId 0
  let dim ← i.needDim 1
  let depth ← i.needWord 2
  let arrayed ← i.needWord 3
  let multisampled ← i.needWord 4
  return ⟨sampled, dim, depth = 1, arrayed ≠ 0, multisampled ≠ 0⟩

/-- Reads a type, a constant or a variable.  The length of an array is that of a
plain constant; any other length reads as 0. -/
def addGlobal (t : Tables) (i : Instruction) : Except ModuleFault Tables :=
  match i.opcode with
  | .opTypeVoid => t.addType i (.ofBase .void)
  | .opTypeBool => t.addType i (.scalar .boolean 32)
  | .opTypeInt => do
    let width ← i.needWord 0
    let sign ← i.needWord 1
    t.addType i (.scalar (.integer width (sign ≠ 0)) width)
  | .opTypeFloat => do
    let width ← i.needWord 0
    t.addType i (.scalar (.floating width) width)
  | .opTypeVector => do
    let component ← i.needId 0
    let count ← i.needWord 1
    t.addType i ((t.typeOf component).vector count)
  | .opTypeMatrix => do
    let column ← i.needId 0
    let count ← i.needWord 1
    t.addType i ((t.typeOf column).matrix count)
  | .opTypeArray => do
    let element ← i.needId 0
    let length := (t.constants.find? (← i.needId 1)).getD 0
    let type := (t.typeOf element).arrayOf length
    (← t.addElement i element).addType i type
  | .opTypeRuntimeArray => do
    let element ← i.needId 0
    let type := (t.typeOf element).arrayOf 0
    (← t.addElement i element).addType i type
  | .opTypeStruct => do
    let members ← (List.range i.operands.length).mapM i.needId
    t.addType i (.structOf members)
  | .opTypeImage => do
    let image ← imageDesc i
    t.addType i (.imageOf .image image)
  | .opTypeSampledImage => do
    let image ← i.needId 0
    t.addType i { t.typeOf image with base := .sampledImage }
  | .opTypeSampler => t.addType i (.ofBase .sampler)
  | .opTypePointer => do
    let _ ← i.needStorage 0
    let pointee ← i.needId 1
    let id ← i.needResult
    return { t with pointers := t.pointers.insert id pointee }
  | .opConstant =>
    match i.operands with
    | .word n :: _ => do
      let id ← i.needResult
      return { t with constants := t.constants.insert id n }
    | _ => .ok t
  | .opVariable => do
    let storage ← i.needStorage 0
    let id ← i.needResult
    let pointer ← i.require i.resultType
    return { t with globalVars := t.globalVars ++ [⟨id, pointer, storage⟩] }
  | _ => .ok t

def ofModule (m : Module) : Except ModuleFault Tables := do
  let t ← m.entryPoints.foldlM addEntryPoint empty
  if t.entryPoints = [] then .error .noEntryPoint
  else
    let t ← m.debugNames.foldlM addName t
    let t ← m.annotations.foldlM addAnnotation t
    m.globals.foldlM addGlobal t

end Tables

end ShaderBundle.Spirv
