/-
# Spirv.OpcodeTable — the operations that nothing depends on

What a program reads off a module is in a few operations, which have a constructor each
(`Opcode`).  All others only have to be taken in, kept in their place and given out again, and for
that their rows in this table are enough.  It has the operations that a shader may be made of.

Not in the table are operations of kernels alone, those of vendors, and `OpSpecConstantOp`, whose
operands are those of another operation.
-/
import ShaderBundle.Spirv.Grammar

namespace ShaderBundle.Spirv

set_option autoImplicit false

structure OpcodeEntry where
  code : UInt32
  name : String
  signature : Signature
  place : Place

/-- Operations that look alike and have one place. -/
def family (place : Place) (signature : Signature) (names : List (UInt32 × String)) :
    List OpcodeEntry :=
  names.map fun n => ⟨n.1, n.2, signature, place⟩

open Signature

/-! ## Modules as a whole -/

def moduleOpcodes : List OpcodeEntry :=
  family .sourceText (plain (each [.text])) [(2, "SourceContinued"), (4, "SourceExtension")] ++
  family .sourceText (plain (each [.language, .literal] ++ maybe .id ++ maybe .text))
    [(3, "Source")] ++
  family .sourceText (result (each [.text])) [(7, "String")] ++
  family .lineMark (plain (each [.id, .literal, .literal])) [(8, "Line")] ++
  family .lineMark (plain []) [(317, "NoLine")] ++
  family .extension (plain (each [.text])) [(10, "Extension")] ++
  family .extInstImport (result (each [.text])) [(11, "ExtInstImport")] ++
  family .memoryModel (plain (each [.addressing, .memory])) [(14, "MemoryModel")] ++
  family .executionMode (plain (each [.id, .mode]))
    [(16, "ExecutionMode"), (331, "ExecutionModeId")] ++
  family .capability (plain (each [.capability])) [(17, "Capability")] ++
  family .processed (plain (each [.text])) [(330, "ModuleProcessed")]

/-! ## Annotations -/

def annotationOpcodes : List OpcodeEntry :=
  family .decoration (result []) [(73, "DecorationGroup")] ++
  family .decoration (plain (each [.id] ++ many .id)) [(74, "GroupDecorate")] ++
  family .decoration (plain (each [.id] ++ many .idAndLiteral)) [(75, "GroupMemberDecorate")] ++
  family .decoration (plain (each [.id, .decoration]))
    [(332, "DecorateId"), (5632, "DecorateString")] ++
  family .decoration (plain (each [.id, .literal, .decoration])) [(5633, "MemberDecorateString")]

/-! ## Types -/

def typeOpcodes : List OpcodeEntry :=
  family .type (result (each [.text])) [(31, "TypeOpaque")] ++
  family .type (result (each [.id] ++ many .id)) [(33, "TypeFunction")] ++
  family .type (result [])
    [(34, "TypeEvent"), (35, "TypeDeviceEvent"), (36, "TypeReserveId"), (37, "TypeQueue"),
      (322, "TypePipeStorage"), (327, "TypeNamedBarrier")] ++
  family .type (result (each [.access])) [(38, "TypePipe")] ++
  family .type (plain (each [.id, .storage])) [(39, "TypeForwardPointer")]

/-! ## Constants -/

def constantOpcodes : List OpcodeEntry :=
  family .constant (typed [])
    [(41, "ConstantTrue"), (42, "ConstantFalse"), (46, "ConstantNull"), (48, "SpecConstantTrue"),
      (49, "SpecConstantFalse")] ++
  family .constant (typed (many .id)) [(44, "ConstantComposite"), (51, "SpecConstantComposite")] ++
  family .constant (typed (each [.typedLiteral])) [(50, "SpecConstant")] ++
  family .globalOrLocal (typed []) [(1, "Undef")]

/-! ## Functions and blocks -/

def controlOpcodes : List OpcodeEntry :=
  family .functionStart (typed (each [.flags .functionControl, .id])) [(54, "Function")] ++
  family .functionParameter (typed []) [(55, "FunctionParameter")] ++
  family .functionEnd (plain []) [(56, "FunctionEnd")] ++
  family .blockStart (result []) [(248, "Label")] ++
  family .blockEnd (plain (each [.id])) [(249, "Branch"), (254, "ReturnValue")] ++
  family .blockEnd (plain (each [.id, .id, .id] ++ many .literal)) [(250, "BranchConditional")] ++
  family .blockEnd (plain (each [.id, .id] ++ many .literalAndId)) [(251, "Switch")] ++
  family .blockEnd (plain [])
    [(252, "Kill"), (253, "Return"), (255, "Unreachable"), (4416, "TerminateInvocation")] ++
  family .block (plain [])
    [(0, "Nop"), (218, "EmitVertex"), (219, "EndPrimitive"), (5380, "DemoteToHelperInvocation")] ++
  family .block (typed (many .idAndId)) [(245, "Phi")] ++
  family .block (plain (each [.id, .id, .flags .loopControl])) [(246, "LoopMerge")] ++
  family .block (plain (each [.id, .flags .selectionControl])) [(247, "SelectionMerge")] ++
  family .block (typed (each [.id] ++ many .id)) [(57, "FunctionCall")] ++
  family .block (typed (each [.id, .extInst] ++ many .id)) [(12, "ExtInst")]

/-! ## Memory -/

def memoryOpcodes : List OpcodeEntry :=
  family .block (typed (each [.id] ++ maybe (.flags .memoryAccess))) [(61, "Load")] ++
  family .block (plain (each [.id, .id] ++ maybe (.flags .memoryAccess))) [(62, "Store")] ++
  family .block
    (plain (each [.id, .id] ++ maybe (.flags .memoryAccess) ++ maybe (.flags .memoryAccess)))
    [(63, "CopyMemory")] ++
  family .block
    (plain (each [.id, .id, .id] ++ maybe (.flags .memoryAccess) ++ maybe (.flags .memoryAccess)))
    [(64, "CopyMemorySized")] ++
  family .block (typed (each [.id] ++ many .id))
    [(65, "AccessChain"), (66, "InBoundsAccessChain")] ++
  family .block (typed (each [.id, .id] ++ many .id))
    [(67, "PtrAccessChain"), (70, "InBoundsPtrAccessChain")] ++
  family .block (typed (each [.id, .literal])) [(68, "ArrayLength")] ++
  family .block (typed (each [.id, .id, .id])) [(60, "ImageTexelPointer")]

/-! ## Composites -/

def compositeOpcodes : List OpcodeEntry :=
  family .block (typed (each [.id, .id])) [(77, "VectorExtractDynamic")] ++
  family .block (typed (each [.id, .id, .id])) [(78, "VectorInsertDynamic")] ++
  family .block (typed (each [.id, .id] ++ many .literal))
    [(79, "VectorShuffle"), (82, "CompositeInsert")] ++
  family .block (typed (many .id)) [(80, "CompositeConstruct")] ++
  family .block (typed (each [.id] ++ many .literal)) [(81, "CompositeExtract")]

/-! ## Images -/

def imageOpcodes : List OpcodeEntry :=
  family .block (typed (each [.id, .id] ++ maybe (.flags .imageOperands)))
    [(87, "ImageSampleImplicitLod"), (91, "ImageSampleProjImplicitLod"), (95, "ImageFetch"),
      (98, "ImageRead"), (305, "ImageSparseSampleImplicitLod"), (313, "ImageSparseFetch"),
      (320, "ImageSparseRead")] ++
  family .block (typed (each [.id, .id, .flags .imageOperands]))
    [(88, "ImageSampleExplicitLod"), (92, "ImageSampleProjExplicitLod"),
      (306, "ImageSparseSampleExplicitLod")] ++
  family .block (typed (each [.id, .id, .id] ++ maybe (.flags .imageOperands)))
    [(89, "ImageSampleDrefImplicitLod"), (93, "ImageSampleProjDrefImplicitLod"),
      (96, "ImageGather"), (97, "ImageDrefGather"), (307, "ImageSparseSampleDrefImplicitLod"),
      (314, "ImageSparseGather"), (315, "ImageSparseDrefGather")] ++
  family .block (typed (each [.id, .id, .id, .flags .imageOperands]))
    [(90, "ImageSampleDrefExplicitLod"), (94, "ImageSampleProjDrefExplicitLod"),
      (308, "ImageSparseSampleDrefExplicitLod")] ++
  family .block (plain (each [.id, .id, .id] ++ maybe (.flags .imageOperands)))
    [(99, "ImageWrite")]

/-! ## Operations on one value -/

def unaryOpcodes : List OpcodeEntry :=
  family .block (typed (each [.id]))
    [(83, "CopyObject"), (84, "Transpose"), (100, "Image"), (101, "ImageQueryFormat"),
      (102, "ImageQueryOrder"), (104, "ImageQuerySize"), (106, "ImageQueryLevels"),
      (107, "ImageQuerySamples"), (109, "ConvertFToU"), (110, "ConvertFToS"), (111, "ConvertSToF"),
      (112, "ConvertUToF"), (113, "UConvert"), (114, "SConvert"), (115, "FConvert"),
      (116, "QuantizeToF16"), (117, "ConvertPtrToU"), (120, "ConvertUToPtr"), (124, "Bitcast"),
      (126, "SNegate"), (127, "FNegate"), (154, "Any"), (155, "All"), (156, "IsNan"),
      (157, "IsInf"), (158, "IsFinite"), (159, "IsNormal"), (160, "SignBitSet"),
      (168, "LogicalNot"), (200, "Not"), (204, "BitReverse"), (205, "BitCount"), (207, "DPdx"),
      (208, "DPdy"), (209, "Fwidth"), (210, "DPdxFine"), (211, "DPdyFine"), (212, "FwidthFine"),
      (213, "DPdxCoarse"), (214, "DPdyCoarse"), (215, "FwidthCoarse"),
      (316, "ImageSparseTexelsResident"), (400, "CopyLogical")]

/-! ## Operations on two values -/

def binaryOpcodes : List OpcodeEntry :=
  family .block (typed (each [.id, .id]))
    [(86, "SampledImage"), (103, "ImageQuerySizeLod"), (105, "ImageQueryLod"), (128, "IAdd"),
      (129, "FAdd"), (130, "ISub"), (131, "FSub"), (132, "IMul"), (133, "FMul"), (134, "UDiv"),
      (135, "SDiv"), (136, "FDiv"), (137, "UMod"), (138, "SRem"), (139, "SMod"), (140, "FRem"),
      (141, "FMod"), (142, "VectorTimesScalar"), (143, "MatrixTimesScalar"),
      (144, "VectorTimesMatrix"), (145, "MatrixTimesVector"), (146, "MatrixTimesMatrix"),
      (147, "OuterProduct"), (148, "Dot"), (149, "IAddCarry"), (150, "ISubBorrow"),
      (151, "UMulExtended"), (152, "SMulExtended"), (161, "LessOrGreater"), (162, "Ordered"),
      (163, "Unordered"), (164, "LogicalEqual"), (165, "LogicalNotEqual"), (166, "LogicalOr"),
      (167, "LogicalAnd"), (170, "IEqual"), (171, "INotEqual"), (172, "UGreaterThan"),
      (173, "SGreaterThan"), (174, "UGreaterThanEqual"), (175, "SGreaterThanEqual"),
      (176, "ULessThan"), (177, "SLessThan"), (178, "ULessThanEqual"), (179, "SLessThanEqual"),
      (180, "FOrdEqual"), (181, "FUnordEqual"), (182, "FOrdNotEqual"), (183, "FUnordNotEqual"),
      (184, "FOrdLessThan"), (185, "FUnordLessThan"), (186, "FOrdGreaterThan"),
      (187, "FUnordGreaterThan"), (188, "FOrdLessThanEqual"), (189, "FUnordLessThanEqual"),
      (190, "FOrdGreaterThanEqual"), (191, "FUnordGreaterThanEqual"), (194, "ShiftRightLogical"),
      (195, "ShiftRightArithmetic"), (196, "ShiftLeftLogical"), (197, "BitwiseOr"),
      (198, "BitwiseXor"), (199, "BitwiseAnd"), (401, "PtrEqual"), (402, "PtrNotEqual"),
      (403, "PtrDiff")]

/-! ## Operations on more values -/

def ternaryOpcodes : List OpcodeEntry :=
  family .block (typed (each [.id, .id, .id]))
    [(169, "Select"), (202, "BitFieldSExtract"), (203, "BitFieldUExtract")] ++
  family .block (typed (each [.id, .id, .id, .id])) [(201, "BitFieldInsert")]

/-! ## Streams, barriers and atomic operations -/

def barrierOpcodes : List OpcodeEntry :=
  family .block (plain (each [.id])) [(220, "EmitStreamVertex"), (221, "EndStreamPrimitive")] ++
  family .block (plain (each [.scope, .scope, .scope])) [(224, "ControlBarrier")] ++
  family .block (plain (each [.scope, .scope])) [(225, "MemoryBarrier")] ++
  family .block (typed (each [.id, .scope, .scope]))
    [(227, "AtomicLoad"), (232, "AtomicIIncrement"), (233, "AtomicIDecrement")] ++
  family .block (plain (each [.id, .scope, .scope, .id])) [(228, "AtomicStore")] ++
  family .block (typed (each [.id, .scope, .scope, .id]))
    [(229, "AtomicExchange"), (234, "AtomicIAdd"), (235, "AtomicISub"), (236, "AtomicSMin"),
      (237, "AtomicUMin"), (238, "AtomicSMax"), (239, "AtomicUMax"), (240, "AtomicAnd"),
      (241, "AtomicOr"), (242, "AtomicXor")] ++
  family .block (typed (each [.id, .scope, .scope, .scope, .id, .id]))
    [(230, "AtomicCompareExchange")]

/-! ## Operations of groups -/

def groupOpcodes : List OpcodeEntry :=
  family .block (typed (each [.scope])) [(333, "GroupNonUniformElect")] ++
  family .block (typed (each [.scope, .id]))
    [(334, "GroupNonUniformAll"), (335, "GroupNonUniformAny"), (336, "GroupNonUniformAllEqual"),
      (338, "GroupNonUniformBroadcastFirst"), (339, "GroupNonUniformBallot"),
      (340, "GroupNonUniformInverseBallot"), (343, "GroupNonUniformBallotFindLSB"),
      (344, "GroupNonUniformBallotFindMSB")] ++
  family .block (typed (each [.scope, .id, .id]))
    [(337, "GroupNonUniformBroadcast"), (341, "GroupNonUniformBallotBitExtract"),
      (345, "GroupNonUniformShuffle"), (346, "GroupNonUniformShuffleXor"),
      (347, "GroupNonUniformShuffleUp"), (348, "GroupNonUniformShuffleDown"),
      (365, "GroupNonUniformQuadBroadcast"), (366, "GroupNonUniformQuadSwap")] ++
  family .block (typed (each [.scope, .group, .id])) [(342, "GroupNonUniformBallotBitCount")] ++
  family .block (typed (each [.scope, .group, .id] ++ maybe .id))
    [(349, "GroupNonUniformIAdd"), (350, "GroupNonUniformFAdd"), (351, "GroupNonUniformIMul"),
      (352, "GroupNonUniformFMul"), (353, "GroupNonUniformSMin"), (354, "GroupNonUniformUMin"),
      (355, "GroupNonUniformFMin"), (356, "GroupNonUniformSMax"), (357, "GroupNonUniformUMax"),
      (358, "GroupNonUniformFMax"), (359, "GroupNonUniformBitwiseAnd"),
      (360, "GroupNonUniformBitwiseOr"), (361, "GroupNonUniformBitwiseXor"),
      (362, "GroupNonUniformLogicalAnd"), (363, "GroupNonUniformLogicalOr"),
      (364, "GroupNonUniformLogicalXor")]

def furtherOpcodes : List OpcodeEntry :=
  moduleOpcodes ++ annotationOpcodes ++ typeOpcodes ++ constantOpcodes ++ controlOpcodes ++
    memoryOpcodes ++ compositeOpcodes ++ imageOpcodes ++ unaryOpcodes ++
    binaryOpcodes ++ ternaryOpcodes ++ barrierOpcodes ++ groupOpcodes

end ShaderBundle.Spirv
