/-
# Spirv.Shader — a module as a shader

A `ModuleShader` holds a module and the tables read from it.  Questions are answered
from the tables.  A decoration that is set goes into the tables and into the
annotations of the module: the first instruction for it is changed, and only if
there is none a new one follows at the end.  A member is laid out either by columns or
by rows, so setting one layout removes the other.

Code generation lists the module.
-/
import ShaderBundle.Spirv.Decode
import ShaderBundle.Spirv.Listing
import ShaderBundle.Spirv.Tables

namespace ShaderBundle.Spirv

set_option autoImplicit false

namespace Tables

/-- The type below the arrays of a type; fuel bounds their number. -/
def stripArrays (t : Tables) : Nat → Id → Id
  | 0, id => id
  | fuel + 1, id =>
    match t.elements.find? id with
    | some element => t.stripArrays fuel element
    | none => id

/-- The type below all arrays of a type. -/
def strip (t : Tables) (id : Id) : Id := t.stripArrays (t.elements.entries.length + 1) id

/-- The name of an id, empty if it has none. -/
def nameOf (t : Tables) (id : Id) : String := (t.names.find? id).getD ""

def hasDecoration (t : Tables) (id : Id) (d : Decoration) : Bool := t.decorations.contains (id, d)

def hasMemberDecoration (t : Tables) (id : Id) (member : UInt32) (d : Decoration) : Bool :=
  t.memberDecorations.contains (id, member, d)

/-- The value of a decoration, 0 if it is not there. -/
def decoration (t : Tables) (id : Id) (d : Decoration) : UInt32 :=
  (t.decorations.find? (id, d)).getD 0

/-- The value of a decoration of a member, 0 if it is not there. -/
def memberDecoration (t : Tables) (id : Id) (member : UInt32) (d : Decoration) : UInt32 :=
  (t.memberDecorations.find? (id, member, d)).getD 0

/-! ## Resources -/

/-- Whether a variable is a stage attribute: the entry point uses it — one without an
interface uses everything — and neither it nor a member of its type is built in. -/
def isStageAttribute (t : Tables) (var : Id) (baseType : Id) : Bool :=
  (t.interface = [] || t.interface.contains var)
    && !t.hasDecoration var .builtIn
    && (List.range (t.typeOf baseType).members.length).all fun member =>
      !t.hasMemberDecoration baseType (UInt32.ofNat member) .builtIn

def addVariable (t : Tables) (res : Resources) (v : Variable) : Resources :=
  match t.pointers.find? v.pointerType with
  | none => res
  | some pointee =>
    let baseType := t.strip pointee
    let base := (t.typeOf baseType).base
    let resource (name : String) : Resource := ⟨v.id, pointee, baseType, name⟩
    match v.storage with
    | .uniform =>
      if base = .struct && t.hasDecoration baseType .block then
        let typeName := t.nameOf baseType
        let name := if typeName = "" then t.nameOf v.id else typeName
        { res with uniformBuffers := res.uniformBuffers ++ [resource name] }
      else res
    | .uniformConstant =>
      if base = .sampledImage then
        { res with sampledImages := res.sampledImages ++ [resource (t.nameOf v.id)] }
      else res
    | .input =>
      if t.isStageAttribute v.id baseType then
        { res with stageInputs := res.stageInputs ++ [resource (t.nameOf v.id)] }
      else res
    | .output =>
      if t.isStageAttribute v.id baseType then
        { res with stageOutputs := res.stageOutputs ++ [resource (t.nameOf v.id)] }
      else res
    | _ => res

/-- The interface by its variables, in their order. -/
def resources (t : Tables) : Resources := t.globalVars.foldl t.addVariable .empty

/-! ## Sizes -/

/-- The sum, at most the greatest word. -/
def addCapped (a b : UInt32) : UInt32 := UInt32.ofNat (min (a.toNat + b.toNat) (UInt32.size - 1))

/-- The product, at most the greatest word. -/
def mulCapped (a b : UInt32) : UInt32 := UInt32.ofNat (min (a.toNat * b.toNat) (UInt32.size - 1))

/-- The declared size of a structure: the offset of its last member plus the size of
that member.  An array takes its stride for each element of its outermost length, a
matrix its stride for each column, or for each row if it is laid out by rows.  Fuel
bounds how deep structures stand in each other. -/
def structSizeUpTo (t : Tables) : Nat → Id → UInt32
  | 0, _ => 0
  | fuel + 1, id =>
    match (t.typeOf id).members.getLast? with
    | none => 0
    | some memberType =>
      let last := UInt32.ofNat ((t.typeOf id).members.length - 1)
      let member := t.typeOf memberType
      let size :=
        match member.array.getLast? with
        | some length => mulCapped (t.decoration memberType .arrayStride) length
        | none =>
          if member.base = .struct then t.structSizeUpTo fuel memberType
          else if member.columns = 1 then mulCapped member.vecsize member.width / 8
          else
            let stride := t.memberDecoration id last .matrixStride
            if t.hasMemberDecoration id last .rowMajor then mulCapped stride member.vecsize
            else mulCapped stride member.columns
      addCapped (t.memberDecoration id last .offset) size

/-- The declared size of a structure. -/
def structSize (t : Tables) (id : Id) : UInt32 :=
  t.structSizeUpTo (t.types.entries.length + 1) id

end Tables

/-! ## Annotations -/

/-- Whether an instruction puts a decoration on an id. -/
def Instruction.decorates (i : Instruction) (id : Id) (d : Decoration) : Bool :=
  match i.opcode, i.operands with
  | .opDecorate, .id n :: .decoration e :: _ => n = id && e = d
  | _, _ => false

def Instruction.decoratesMember (i : Instruction) (id : Id) (member : UInt32) (d : Decoration) :
    Bool :=
  match i.opcode, i.operands with
  | .opMemberDecorate, .id n :: .word m :: .decoration e :: _ => n = id && m = member && e = d
  | _, _ => false

def Decoration.literals (d : Decoration) (value : UInt32) : List Operand :=
  if d.takesLiteral then [.word value] else []

/-- Replaces the operands of the first instruction that `isIt` picks; if there is none,
`fresh` follows at the end. -/
def replaceFirst (isIt : Instruction → Bool) (fresh : Instruction) :
    List Instruction → List Instruction
  | [] => [fresh]
  | i :: rest =>
    if isIt i then { i with operands := fresh.operands } :: rest
    else i :: replaceFirst isIt fresh rest

def setAnnotation (annotations : List Instruction) (id : Id) (d : Decoration) (value : UInt32) :
    List Instruction :=
  replaceFirst (·.decorates id d)
    (.plain .opDecorate ([.id id, .decoration d] ++ d.literals value)) annotations

def setMemberAnnotation (annotations : List Instruction) (id : Id) (member : UInt32)
    (d : Decoration) (value : UInt32) : List Instruction :=
  replaceFirst (·.decoratesMember id member d)
    (.plain .opMemberDecorate ([.id id, .word member, .decoration d] ++ d.literals value))
    annotations

def Decoration.opposite? : Decoration → Option Decoration
  | colMajor => some rowMajor
  | rowMajor => some colMajor
  | _ => none

/-! ## Shaders -/

structure ModuleShader where
  module : Module
  tables : Tables
deriving DecidableEq

namespace ModuleShader

def ofModule (m : Module) : Except ModuleFault ModuleShader := do
  return ⟨m, ← Tables.ofModule m⟩

def ofWords (ws : List UInt32) : Except ModuleFault ModuleShader :=
  match Module.ofWords? ws with
  | some m => ofModule m
  | none => .error .unreadable

/-- Removes a decoration of a member everywhere. -/
def undecorateMember (s : ModuleShader) (id : Id) (member : UInt32) (d : Decoration) :
    ModuleShader where
  module := { s.module with
    annotations := s.module.annotations.filter fun i => !i.decoratesMember id member d }
  tables := { s.tables with
    memberDecorations := s.tables.memberDecorations.erase (id, member, d) }

def decorate (s : ModuleShader) (id : Id) (d : Decoration) (value : UInt32) : ModuleShader where
  module := { s.module with annotations := setAnnotation s.module.annotations id d value }
  tables := { s.tables with decorations := s.tables.decorations.insert (id, d) value }

def decorateMember (s : ModuleShader) (id : Id) (member : UInt32) (d : Decoration)
    (value : UInt32) : ModuleShader :=
  let s :=
    match d.opposite? with
    | some e => s.undecorateMember id member e
    | none => s
  { module := { s.module with
      annotations := setMemberAnnotation s.module.annotations id member d value }
    tables := { s.tables with
      memberDecorations := s.tables.memberDecorations.insert (id, member, d) value } }

/-- The execution model of the first entry point. -/
def model (s : ModuleShader) : ExecutionModel :=
  match s.tables.entryPoints with
  | entry :: _ => entry.model
  | [] => .vertex

instance : Shader ModuleShader where
  model := model
  entryPoints s := s.tables.entryPoints
  resources s := s.tables.resources
  typeOf s := s.tables.typeOf
  decoration s := s.tables.decoration
  decorate := decorate
  memberDecoration s := s.tables.memberDecoration
  decorateMember := decorateMember
  memberName s id member := (s.tables.memberNames.find? (id, member)).getD ""
  structSize s := s.tables.structSize
  flatten s _ := s
  generate s := do return (← s.module.listing, s)

/-- A short account of a shader on one line. -/
def summary (s : ModuleShader) : String :=
  let entry (e : EntryPoint) : String :=
    s!"EntryPoint \x7b name: {Text.quoted e.name}, execution_model: {e.model.name} \x7d"
  let entries := ", ".intercalate (s.tables.entryPoints.map entry)
  s!"SpirvModule \x7b entry_points: [{entries}], variables: {s.tables.globalVars.length} \x7d"

end ModuleShader

/-- The backend that lists modules; code options do not matter to it. -/
def backend : Backend ModuleShader where
  create blob _ :=
    match ModuleShader.ofWords blob.words with
    | .ok s => .ok s
    | .error fault => .error fault.message

end ShaderBundle.Spirv
