/-
# Spirv.Module — a module by its sections

A module keeps its instructions in sections, each in the order in which they came.
`Module.ofInstructions?` sorts a stream of instructions into sections, whatever their
order, and refuses a stream whose functions and blocks are not properly closed.
`Module.instructions` is the stream in the order of the sections.
-/
import ShaderBundle.Spirv.Instruction

namespace ShaderBundle.Spirv

set_option autoImplicit false

/-- What stands in front of the instructions. -/
structure Header where
  major : UInt8
  minor : UInt8
  /-- Every id of the module is below it. -/
  bound : UInt32
deriving DecidableEq

structure Block where
  label : Instruction
  body : List Instruction
deriving DecidableEq

structure Function where
  start : Instruction
  parameters : List Instruction
  blocks : List Block
  finish : Instruction
deriving DecidableEq

structure Module where
  header : Option Header
  capabilities : List Instruction
  extensions : List Instruction
  extInstImports : List Instruction
  memoryModel : Option Instruction
  entryPoints : List Instruction
  executionModes : List Instruction
  sourceTexts : List Instruction
  debugNames : List Instruction
  processed : List Instruction
  annotations : List Instruction
  globals : List Instruction
  functions : List Function
deriving DecidableEq

namespace Module

/-- A module without header and instructions. -/
def empty : Module := ⟨none, [], [], [], none, [], [], [], [], [], [], [], []⟩

def globalInstructions (m : Module) : List Instruction :=
  m.capabilities ++ m.extensions ++ m.extInstImports ++ m.memoryModel.toList ++ m.entryPoints
    ++ m.executionModes ++ m.sourceTexts ++ m.debugNames ++ m.processed ++ m.annotations
    ++ m.globals

def functionInstructions (f : Function) : List Instruction :=
  f.start :: f.parameters ++ f.blocks.flatMap (fun b => b.label :: b.body) ++ [f.finish]

/-- Every instruction, in the order of the sections. -/
def instructions (m : Module) : List Instruction :=
  m.globalInstructions ++ m.functions.flatMap functionInstructions

/-! ## Sorting a stream -/

/-- A function that was not closed yet. -/
structure OpenFunction where
  start : Instruction
  parameters : List Instruction
  blocks : List Block

/-- A module in the making. -/
structure Draft where
  done : Module
  function : Option OpenFunction
  block : Option Block

namespace Draft

def withModule (d : Draft) (m : Module) : Draft := { d with done := m }

def addGlobal (d : Draft) (i : Instruction) : Draft :=
  d.withModule { d.done with globals := d.done.globals ++ [i] }

/-- Adds an instruction to the open block, if there is one. -/
def addToBlock (d : Draft) (i : Instruction) : Option Draft :=
  d.block.map fun b => { d with block := some { b with body := b.body ++ [i] } }

/-- Closes the open block with its last instruction. -/
def closeBlock (d : Draft) (i : Instruction) : Option Draft :=
  match d.function, d.block with
  | some f, some b =>
    let closed : Block := { b with body := b.body ++ [i] }
    some { d with function := some { f with blocks := f.blocks ++ [closed] }, block := none }
  | _, _ => none

/-- Closes the open function; it must not have an open block. -/
def closeFunction (d : Draft) (i : Instruction) : Option Draft :=
  match d.function, d.block with
  | some f, none =>
    let closed : Function := ⟨f.start, f.parameters, f.blocks, i⟩
    some ⟨{ d.done with functions := d.done.functions ++ [closed] }, none, none⟩
  | _, _ => none

def add (d : Draft) (i : Instruction) : Option Draft :=
  let m := d.done
  match i.opcode.place with
  | .capability => some (d.withModule { m with capabilities := m.capabilities ++ [i] })
  | .extension => some (d.withModule { m with extensions := m.extensions ++ [i] })
  | .extInstImport => some (d.withModule { m with extInstImports := m.extInstImports ++ [i] })
  | .memoryModel => some (d.withModule { m with memoryModel := some i })
  | .entryPoint => some (d.withModule { m with entryPoints := m.entryPoints ++ [i] })
  | .executionMode => some (d.withModule { m with executionModes := m.executionModes ++ [i] })
  | .sourceText => some (d.withModule { m with sourceTexts := m.sourceTexts ++ [i] })
  | .debugName => some (d.withModule { m with debugNames := m.debugNames ++ [i] })
  | .processed => some (d.withModule { m with processed := m.processed ++ [i] })
  | .decoration => some (d.withModule { m with annotations := m.annotations ++ [i] })
  | .type | .constant => some (d.addGlobal i)
  | .lineMark =>
    match d.addToBlock i with
    | some d => some d
    | none => some (d.addGlobal i)
  | .globalOrLocal => if d.function.isNone then some (d.addGlobal i) else d.addToBlock i
  | .functionStart =>
    if d.function.isNone then some { d with function := some ⟨i, [], []⟩ } else none
  | .functionParameter =>
    d.function.map fun f => { d with function := some { f with parameters := f.parameters ++ [i] } }
  | .functionEnd => d.closeFunction i
  | .blockStart =>
    if d.function.isSome && d.block.isNone then some { d with block := some ⟨i, []⟩ } else none
  | .blockEnd => d.closeBlock i
  | .block => d.addToBlock i

/-- The module, if nothing is left open. -/
def finish? (d : Draft) : Option Module :=
  if d.function.isNone && d.block.isNone then some d.done else none

end Draft

def ofInstructions? (header : Header) (is : List Instruction) : Option Module :=
  (is.foldlM Draft.add ⟨{ empty with header := some header }, none, none⟩).bind Draft.finish?

end Module

end ShaderBundle.Spirv
