/-
# Spirv.Builder — writing small modules

A module is built step by step; each step takes the ids it needs from a counter and
returns the id of what it defines.  Scalars, float vectors and the 4×4 matrix are
defined once and then shared.  `finish` adds the entry point, which uses every stage
variable of the module.
-/
import ShaderBundle.Spirv.Encode
import ShaderBundle.Table

namespace ShaderBundle.Spirv

set_option autoImplicit false

/-- A module in the making. -/
structure Builder where
  module : Module
  model : ExecutionModel
  interface : List Id
  nextId : Id
  float? : Option Id
  ints : Table Bool Id
  vectors : Table UInt32 Id
  mat4? : Option Id

namespace Builder

def start (model : ExecutionModel) : Builder :=
  ⟨.empty, model, [], 1, none, .empty, .empty, none⟩

abbrev Build (α : Type) : Type := StateM Builder α

def freshId : Build Id := modifyGet fun b => (b.nextId, { b with nextId := b.nextId + 1 })

def change (f : Module → Module) : Build Unit := modify fun b => { b with module := f b.module }

/-- A fresh type, constant or variable. -/
def addGlobal (opcode : Opcode) (resultType : Option Id) (operands : List Operand) : Build Id := do
  let id ← freshId
  change fun m => { m with globals := m.globals ++ [⟨opcode, resultType, some id, operands⟩] }
  return id

def addDebugName (i : Instruction) : Build Unit :=
  change fun m => { m with debugNames := m.debugNames ++ [i] }

def nameId (id : Id) (name : String) : Build Unit :=
  addDebugName (.plain .opName [.id id, .text name])

def annotate (i : Instruction) : Build Unit :=
  change fun m => { m with annotations := m.annotations ++ [i] }

def decorate (id : Id) (d : Decoration) (arguments : List Operand) : Build Unit :=
  annotate (.plain .opDecorate ([.id id, .decoration d] ++ arguments))

def decorateMember (id : Id) (index : UInt32) (d : Decoration) (value : UInt32) : Build Unit :=
  annotate (.plain .opMemberDecorate [.id id, .word index, .decoration d, .word value])

/-! ## Types -/

def float : Build Id := do
  match (← get).float? with
  | some id => return id
  | none =>
    let id ← addGlobal .opTypeFloat none [.word 32]
    modify fun b => { b with float? := some id }
    return id

def int (signed : Bool) : Build Id := do
  match (← get).ints.find? signed with
  | some id => return id
  | none =>
    let id ← addGlobal .opTypeInt none [.word 32, .word (if signed then 1 else 0)]
    modify fun b => { b with ints := b.ints.insert signed id }
    return id

def vec (count : UInt32) : Build Id := do
  match (← get).vectors.find? count with
  | some id => return id
  | none =>
    let component ← float
    let id ← addGlobal .opTypeVector none [.id component, .word count]
    modify fun b => { b with vectors := b.vectors.insert count id }
    return id

def mat4 : Build Id := do
  match (← get).mat4? with
  | some id => return id
  | none =>
    let column ← vec 4
    let id ← addGlobal .opTypeMatrix none [.id column, .word 4]
    modify fun b => { b with mat4? := some id }
    return id

def array (element : Id) (length stride : UInt32) : Build Id := do
  let uint ← int false
  let lengthId ← addGlobal .opConstant (some uint) [.word length]
  let id ← addGlobal .opTypeArray none [.id element, .id lengthId]
  decorate id .arrayStride [.word stride]
  return id

/-! ## Variables -/

/-- A variable and the pointer type it needs. -/
def addVariable (storage : StorageClass) (pointee : Id) : Build Id := do
  let pointer ← addGlobal .opTypePointer none [.storage storage, .id pointee]
  addGlobal .opVariable (some pointer) [.storage storage]

/-- Adds a variable to the interface of the entry point. -/
def addToInterface (id : Id) : Build Unit :=
  modify fun b => { b with interface := b.interface ++ [id] }

def attributeAt (storage : StorageClass) (name : String) (type : Id) (location : UInt32) :
    Build Id := do
  let id ← addVariable storage type
  nameId id name
  decorate id .location [.word location]
  addToInterface id
  return id

def input (name : String) (type : Id) (location : UInt32) : Build Id :=
  attributeAt .input name type location

def output (name : String) (type : Id) (location : UInt32) : Build Id :=
  attributeAt .output name type location

/-- An output that the pipeline consumes itself. -/
def builtInOutput (name : String) (type : Id) : Build Id := do
  let id ← addVariable .output type
  nameId id name
  decorate id .builtIn [.builtIn .position]
  addToInterface id
  return id

structure Member where
  name : String
  type : Id
  offset : UInt32

/-- Names the members of a structure and puts them in their places. -/
def placeMembers (type : Id) : UInt32 → List Member → Build Unit
  | _, [] => return ()
  | index, m :: rest => do
    addDebugName (.plain .opMemberName [.id type, .word index, .text m.name])
    decorateMember type index .offset m.offset
    if (← get).mat4? = some m.type then decorateMember type index .matrixStride 16
    placeMembers type (index + 1) rest

def bind (id : Id) (set binding : UInt32) : Build Unit := do
  decorate id .descriptorSet [.word set]
  decorate id .binding [.word binding]

/-- A uniform block; the type has the name, the variable has none. -/
def uniformBlock (typeName : String) (members : List Member) (set binding : UInt32) :
    Build Id := do
  let type ← addGlobal .opTypeStruct none (members.map fun m => .id m.type)
  nameId type typeName
  decorate type .block []
  placeMembers type 0 members
  let id ← addVariable .uniform type
  bind id set binding
  return id

def sampledImage (name : String) (sampledType : Id) (dim : Dim) (arrayed : Bool)
    (set binding : UInt32) : Build Id := do
  let image ← addGlobal .opTypeImage none
    [.id sampledType, .dim dim, .word 0, .word (if arrayed then 1 else 0), .word 0, .word 1,
      .format .unknown]
  let type ← addGlobal .opTypeSampledImage none [.id image]
  let id ← addVariable .uniformConstant type
  nameId id name
  bind id set binding
  return id

/-! ## The module -/

/-- Adds the entry point and the header. -/
def finish (b : Builder) (entryPoint : String) : Module :=
  let entry : Instruction := .plain .opEntryPoint
    ([.model b.model, .id b.nextId, .text entryPoint] ++ b.interface.map .id)
  { b.module with
    entryPoints := b.module.entryPoints ++ [entry]
    header := some ⟨1, 6, b.nextId + 1⟩ }

end Builder

end ShaderBundle.Spirv
