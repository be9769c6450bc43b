/-
# Spirv.Grammar — what the parts of an instruction look like

The grammar of SPIR-V is a matter of tables.  An `Entry` is a row of a table of names: a code, a
name, and the operands that this name brings with it.  A `Signature` says which operands the
instructions of an operation have, and a `Place` where a module keeps them.

The tables themselves are in `Enumerant` (names) and in `OpcodeTable` (operations).
-/
namespace ShaderBundle.Spirv

set_option autoImplicit false

/-! ## Operands -/

/-- The sets of flags; the flags of a set that are on are written as one word. -/
inductive FlagSet where
  | functionControl
  | selectionControl
  | loopControl
  | memoryAccess
  | imageOperands
  | fastMath
deriving DecidableEq

/-- What kind of operand stands at a place.  Some bring further operands with them. -/
inductive OperandKind where
  | id
  /-- The id of a scope or of memory semantics. -/
  | scope
  | literal
  | text
  /-- A literal whose width depends on a type: that of the result or of the first operand. -/
  | typedLiteral
  /-- The number of an extended instruction. -/
  | extInst
  | model
  | storage
  | dim
  | builtIn
  | decoration
  | language
  | addressing
  | memory
  | mode
  | capability
  | format
  | access
  | linkage
  | group
  | parameter
  | rounding
  | flags (set : FlagSet)
  | idAndId
  | idAndLiteral
  | literalAndId
deriving DecidableEq

/-- How often an operand may stand at its place. -/
inductive Quantity where
  | one
  | optional
  | many
deriving DecidableEq

/-- What the instructions of an operation look like. -/
structure Signature where
  hasType : Bool
  hasResult : Bool
  operands : List (OperandKind × Quantity)

namespace Signature

/-- Operands, each exactly once. -/
def each (kinds : List OperandKind) : List (OperandKind × Quantity) := kinds.map (·, .one)

def maybe (kind : OperandKind) : List (OperandKind × Quantity) := [(kind, .optional)]

def many (kind : OperandKind) : List (OperandKind × Quantity) := [(kind, .many)]

def plain (operands : List (OperandKind × Quantity)) : Signature := ⟨false, false, operands⟩

def result (operands : List (OperandKind × Quantity)) : Signature := ⟨false, true, operands⟩

def typed (operands : List (OperandKind × Quantity)) : Signature := ⟨true, true, operands⟩

end Signature

/-! ## Places -/

/-- Where a module keeps an instruction. -/
inductive Place where
  | capability
  | extension
  | extInstImport
  | memoryModel
  | entryPoint
  | executionMode
  | sourceText
  | debugName
  | processed
  | decoration
  | type
  | constant
  /-- A mark of the source line: in its block, or among the globals outside of one. -/
  | lineMark
  /-- Among the globals outside of functions, else in its block. -/
  | globalOrLocal
  | functionStart
  | functionParameter
  | functionEnd
  | blockStart
  /-- The last instruction of a block. -/
  | blockEnd
  | block
deriving DecidableEq

/-! ## Tables of names -/

/-- A row of a table of names. -/
structure Entry where
  code : UInt32
  name : String
  operands : List OperandKind

/-- Names without operands. -/
def bare (names : List (UInt32 × String)) : List Entry := names.map fun n => ⟨n.1, n.2, []⟩

end ShaderBundle.Spirv
