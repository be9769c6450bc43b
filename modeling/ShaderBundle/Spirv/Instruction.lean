/-
# Spirv.Instruction — operations, operands and instructions

An `Opcode` names an operation; `Opcode.signature` says what its instructions look
like: whether there is a result type and a result id, and which operands follow, each
kind once, at most once, or any number of times.  `Opcode.place` says where a module
keeps its instructions.
-/
import ShaderBundle.Shader.Type
import ShaderBundle.Spirv.OpcodeTable

namespace ShaderBundle.Spirv

set_option autoImplicit false

/-! ## Operations -/

/-- An operation that is known from its table only: the place of its row. -/
structure FurtherOpcode where
  place : Fin furtherOpcodes.length
deriving DecidableEq

def FurtherOpcode.entry (op : FurtherOpcode) : OpcodeEntry := furtherOpcodes[op.place]

inductive Opcode where
  | opName
  | opMemberName
  | opEntryPoint
  | opTypeVoid
  | opTypeBool
  | opTypeInt
  | opTypeFloat
  | opTypeVector
  | opTypeMatrix
  | opTypeImage
  | opTypeSampler
  | opTypeSampledImage
  | opTypeArray
  | opTypeRuntimeArray
  | opTypeStruct
  | opTypePointer
  | opConstant
  | opVariable
  | opDecorate
  | opMemberDecorate
  | other (op : FurtherOpcode)
deriving DecidableEq

namespace Opcode

def code : Opcode → UInt32
  | opName => 5
  | opMemberName => 6
  | opEntryPoint => 15
  | opTypeVoid => 19
  | opTypeBool => 20
  | opTypeInt => 21
  | opTypeFloat => 22
  | opTypeVector => 23
  | opTypeMatrix => 24
  | opTypeImage => 25
  | opTypeSampler => 26
  | opTypeSampledImage => 27
  | opTypeArray => 28
  | opTypeRuntimeArray => 29
  | opTypeStruct => 30
  | opTypePointer => 32
  | opConstant => 43
  | opVariable => 59
  | opDecorate => 71
  | opMemberDecorate => 72
  | other op => op.entry.code

/-- The name of an operation, without the `Op` in front. -/
def name : Opcode → String
  | opName => "Name"
  | opMemberName => "MemberName"
  | opEntryPoint => "EntryPoint"
  | opTypeVoid => "TypeVoid"
  | opTypeBool => "TypeBool"
  | opTypeInt => "TypeInt"
  | opTypeFloat => "TypeFloat"
  | opTypeVector => "TypeVector"
  | opTypeMatrix => "TypeMatrix"
  | opTypeImage => "TypeImage"
  | opTypeSampler => "TypeSampler"
  | opTypeSampledImage => "TypeSampledImage"
  | opTypeArray => "TypeArray"
  | opTypeRuntimeArray => "TypeRuntimeArray"
  | opTypeStruct => "TypeStruct"
  | opTypePointer => "TypePointer"
  | opConstant => "Constant"
  | opVariable => "Variable"
  | opDecorate => "Decorate"
  | opMemberDecorate => "MemberDecorate"
  | other op => op.entry.name

instance : Enumerant Opcode where
  all :=
    [opName, opMemberName, opEntryPoint, opTypeVoid, opTypeBool, opTypeInt, opTypeFloat,
      opTypeVector, opTypeMatrix, opTypeImage, opTypeSampler, opTypeSampledImage, opTypeArray,
      opTypeRuntimeArray, opTypeStruct, opTypePointer, opConstant, opVariable, opDecorate,
      opMemberDecorate] ++ (List.finRange furtherOpcodes.length).map fun place => other ⟨place⟩
  code := code
  name := name

open Signature in
def signature : Opcode → Signature
  | opName => plain (each [.id, .text])
  | opMemberName => plain (each [.id, .literal, .text])
  | opEntryPoint => plain (each [.model, .id, .text] ++ many .id)
  | opTypeVoid | opTypeBool | opTypeSampler => result []
  | opTypeInt => result (each [.literal, .literal])
  | opTypeFloat => result (each [.literal])
  | opTypeVector | opTypeMatrix => result (each [.id, .literal])
  | opTypeImage =>
    result (each [.id, .dim, .literal, .literal, .literal, .literal, .format] ++ maybe .access)
  | opTypeSampledImage | opTypeRuntimeArray => result (each [.id])
  | opTypeArray => result (each [.id, .id])
  | opTypeStruct => result (many .id)
  | opTypePointer => result (each [.storage, .id])
  | opConstant => typed (each [.typedLiteral])
  | opVariable => typed (each [.storage] ++ maybe .id)
  | opDecorate => plain (each [.id, .decoration])
  | opMemberDecorate => plain (each [.id, .literal, .decoration])
  | other op => op.entry.signature

def place : Opcode → Place
  | opName | opMemberName => .debugName
  | opEntryPoint => .entryPoint
  | opDecorate | opMemberDecorate => .decoration
  | opTypeVoid | opTypeBool | opTypeInt | opTypeFloat | opTypeVector | opTypeMatrix
  | opTypeImage | opTypeSampler | opTypeSampledImage | opTypeArray | opTypeRuntimeArray
  | opTypeStruct | opTypePointer => .type
  | opConstant => .constant
  | opVariable => .globalOrLocal
  | other op => op.entry.place

def isType (op : Opcode) : Bool := op.place = .type

end Opcode

/-! ## Operands and instructions -/

inductive Operand where
  | id (n : Id)
  /-- An id that names a scope or memory semantics. -/
  | scope (n : Id)
  | word (n : UInt32)
  /-- A number of two words. -/
  | wide (n : UInt64)
  | text (s : String)
  /-- The number of an extended instruction. -/
  | extInst (n : UInt32)
  | model (m : ExecutionModel)
  | storage (c : StorageClass)
  | dim (d : Dim)
  | builtIn (b : BuiltIn)
  | decoration (d : Decoration)
  | language (l : SourceLanguage)
  | addressing (a : AddressingModel)
  | memory (m : MemoryModel)
  | mode (m : ExecutionMode)
  | capability (c : Capability)
  | format (f : ImageFormat)
  | access (a : AccessQualifier)
  | linkage (l : LinkageType)
  | group (g : GroupOperation)
  | parameter (a : ParameterAttribute)
  | rounding (r : RoundingMode)
  | flags (set : FlagSet) (f : Flags set.entries)
deriving DecidableEq

structure Instruction where
  opcode : Opcode
  resultType : Option Id
  resultId : Option Id
  operands : List Operand
deriving DecidableEq

def Instruction.plain (opcode : Opcode) (operands : List Operand) : Instruction :=
  ⟨opcode, none, none, operands⟩

end ShaderBundle.Spirv
