/-
# Spirv.Enumerant — the named codes of SPIR-V

An enumerant is a named value of a fixed choice that a module writes as one word.
`Enumerant.ofCode?` reads the word back and refuses a code without a name.

Where something depends on which value it is, the choice has a constructor for it; all other
values are rows of a table (`Named`).  Flags are not a choice but a set of names, and a word with
an unknown flag is none (`Flags`).
-/
import ShaderBundle.Spirv.Grammar

namespace ShaderBundle.Spirv

set_option autoImplicit false

/-- A fixed choice of named codes. -/
class Enumerant (α : Type) where
  all : List α
  code : α → UInt32
  name : α → String

namespace Enumerant

variable {α : Type} [Enumerant α]

def ofCode? (n : UInt32) : Option α := all.find? fun a => code a = n

def ofName? (s : String) : Option α := all.find? fun a => name a = s

end Enumerant

/-! ## Rows of tables -/

/-- A name that is known from its table only: the place of its row. -/
structure Named (entries : List Entry) where
  place : Fin entries.length
deriving DecidableEq

namespace Named

variable {entries : List Entry}

def entry (n : Named entries) : Entry := entries[n.place]

instance : Enumerant (Named entries) where
  all := (List.finRange entries.length).map .mk
  code n := n.entry.code
  name n := n.entry.name

end Named

/-- Some flags of a table, as the word that is written for them. -/
structure Flags (entries : List Entry) where
  bits : UInt32
  known : bits &&& ~~~(entries.foldl (fun mask e => mask ||| e.code) 0) = 0
deriving DecidableEq

namespace Flags

variable {entries : List Entry}

def ofCode? (n : UInt32) : Option (Flags entries) :=
  if known : n &&& ~~~(entries.foldl (fun mask e => mask ||| e.code) 0) = 0 then some ⟨n, known⟩
  else none

/-- The flags that are on, in the order of their table. -/
def on (f : Flags entries) : List Entry := entries.filter fun e => f.bits &&& e.code ≠ 0

def name (f : Flags entries) : String :=
  match f.on with
  | [] => "None"
  | on => "|".intercalate (on.map Entry.name)

end Flags

/-! ## Shaders and their variables -/

def executionModels : List Entry := bare
  [(1, "TessellationControl"), (2, "TessellationEvaluation"), (3, "Geometry"), (5, "GLCompute"),
    (6, "Kernel"), (5267, "TaskNV"), (5268, "MeshNV"), (5313, "RayGenerationNV"),
    (5314, "IntersectionNV"), (5315, "AnyHitNV"), (5316, "ClosestHitNV"), (5317, "MissNV"),
    (5318, "CallableNV"), (5364, "TaskEXT"), (5365, "MeshEXT")]

/-- The pipeline stage an entry point runs in. -/
inductive ExecutionModel where
  | vertex
  | fragment
  | other (model : Named executionModels)
deriving DecidableEq

namespace ExecutionModel

def code : ExecutionModel → UInt32
  | vertex => 0
  | fragment => 4
  | other model => Enumerant.code model

def name : ExecutionModel → String
  | vertex => "Vertex"
  | fragment => "Fragment"
  | other model => Enumerant.name model

instance : Enumerant ExecutionModel := ⟨[vertex, fragment] ++ Enumerant.all.map other, code, name⟩

end ExecutionModel

def storageClasses : List Entry := bare
  [(4, "Workgroup"), (5, "CrossWorkgroup"), (6, "Private"), (7, "Function"), (8, "Generic"),
    (9, "PushConstant"), (10, "AtomicCounter"), (11, "Image"), (12, "StorageBuffer"),
    (4172, "TileImageEXT"), (5328, "CallableDataNV"), (5329, "IncomingCallableDataNV"),
    (5338, "RayPayloadNV"), (5339, "HitAttributeNV"), (5342, "IncomingRayPayloadNV"),
    (5343, "ShaderRecordBufferNV"), (5349, "PhysicalStorageBuffer"),
    (5402, "TaskPayloadWorkgroupEXT")]

/-- Where a variable lives. -/
inductive StorageClass where
  | uniformConstant
  | input
  | uniform
  | output
  | other (storage : Named storageClasses)
deriving DecidableEq

namespace StorageClass

def code : StorageClass → UInt32
  | uniformConstant => 0
  | input => 1
  | uniform => 2
  | output => 3
  | other storage => Enumerant.code storage

def name : StorageClass → String
  | uniformConstant => "UniformConstant"
  | input => "Input"
  | uniform => "Uniform"
  | output => "Output"
  | other storage => Enumerant.name storage

instance : Enumerant StorageClass :=
  ⟨[uniformConstant, input, uniform, output] ++ Enumerant.all.map other, code, name⟩

end StorageClass

/-- The dimensions of an image. -/
inductive Dim where
  | line
  | plane
  | volume
  | cube
  | rect
  | buffer
  | subpassData
  | tileImageData
deriving DecidableEq

namespace Dim

def code : Dim → UInt32
  | line => 0
  | plane => 1
  | volume => 2
  | cube => 3
  | rect => 4
  | buffer => 5
  | subpassData => 6
  | tileImageData => 4173

def name : Dim → String
  | line => "1D"
  | plane => "2D"
  | volume => "3D"
  | cube => "Cube"
  | rect => "Rect"
  | buffer => "Buffer"
  | subpassData => "SubpassData"
  | tileImageData => "TileImageDataEXT"

instance : Enumerant Dim :=
  ⟨[line, plane, volume, cube, rect, buffer, subpassData, tileImageData], code, name⟩

end Dim

def builtIns : List Entry := bare
  [(0, "Position"), (1, "PointSize"), (3, "ClipDistance"), (4, "CullDistance"), (5, "VertexId"),
    (6, "InstanceId"), (7, "PrimitiveId"), (8, "InvocationId"), (9, "Layer"),
    (10, "ViewportIndex"), (11, "TessLevelOuter"), (12, "TessLevelInner"), (13, "TessCoord"),
    (14, "PatchVertices"), (15, "FragCoord"), (16, "PointCoord"), (17, "FrontFacing"),
    (18, "SampleId"), (19, "SamplePosition"), (20, "SampleMask"), (22, "FragDepth"),
    (23, "HelperInvocation"), (24, "NumWorkgroups"), (25, "WorkgroupSize"), (26, "WorkgroupId"),
    (27, "LocalInvocationId"), (28, "GlobalInvocationId"), (29, "LocalInvocationIndex"),
    (30, "WorkDim"), (31, "GlobalSize"), (32, "EnqueuedWorkgroupSize"), (33, "GlobalOffset"),
    (34, "GlobalLinearId"), (36, "SubgroupSize"), (37, "SubgroupMaxSize"), (38, "NumSubgroups"),
    (39, "NumEnqueuedSubgroups"), (40, "SubgroupId"), (41, "SubgroupLocalInvocationId"),
    (42, "VertexIndex"), (43, "InstanceIndex"), (4416, "SubgroupEqMask"),
    (4417, "SubgroupGeMask"), (4418, "SubgroupGtMask"), (4419, "SubgroupLeMask"),
    (4420, "SubgroupLtMask"), (4424, "BaseVertex"), (4425, "BaseInstance"), (4426, "DrawIndex"),
    (4438, "DeviceIndex"), (4440, "ViewIndex"), (5014, "FragStencilRefEXT")]

/-- The meaning of a variable that the pipeline provides or consumes itself. -/
abbrev BuiltIn := Named builtIns

def BuiltIn.position : BuiltIn := ⟨⟨0, by decide⟩⟩

/-! ## Decorations -/

/-- The decorations that are neither set nor asked for. -/
def furtherDecorations : List Entry :=
  bare [(8, "GLSLShared"), (9, "GLSLPacked"), (10, "CPacked"), (15, "Patch"), (16, "Centroid"),
    (17, "Sample"), (18, "Invariant"), (19, "Restrict"), (20, "Aliased"), (21, "Volatile"),
    (22, "Constant"), (23, "Coherent"), (25, "NonReadable"), (26, "Uniform"),
    (28, "SaturatedConversion"), (42, "NoContraction"), (4469, "NoSignedWrap"),
    (4470, "NoUnsignedWrap"), (4999, "ExplicitInterpAMD"), (5248, "OverrideCoverageNV"),
    (5250, "PassthroughNV"), (5252, "ViewportRelativeNV"), (5271, "PerPrimitiveNV"),
    (5272, "PerViewNV"), (5273, "PerTaskNV"), (5285, "PerVertexNV"), (5300, "NonUniform"),
    (5355, "RestrictPointer"), (5356, "AliasedPointer")] ++
  [⟨36, "XfbBuffer", [.literal]⟩, ⟨37, "XfbStride", [.literal]⟩,
    ⟨38, "FuncParamAttr", [.parameter]⟩, ⟨39, "FPRoundingMode", [.rounding]⟩,
    ⟨40, "FPFastMathMode", [.flags .fastMath]⟩, ⟨44, "Alignment", [.literal]⟩,
    ⟨45, "MaxByteOffset", [.literal]⟩, ⟨46, "AlignmentId", [.id]⟩,
    ⟨47, "MaxByteOffsetId", [.id]⟩, ⟨5256, "SecondaryViewportRelativeNV", [.literal]⟩,
    ⟨5634, "CounterBuffer", [.id]⟩, ⟨5635, "UserSemantic", [.text]⟩,
    ⟨5636, "UserTypeGOOGLE", [.text]⟩]

/-- A property attached to an id or to a member of a structure. -/
inductive Decoration where
  | relaxedPrecision
  | specId
  | block
  | bufferBlock
  | rowMajor
  | colMajor
  | arrayStride
  | matrixStride
  | builtIn
  | noPerspective
  | flat
  | nonWritable
  | uniformId
  | stream
  | location
  | component
  | index
  | binding
  | descriptorSet
  | offset
  | linkageAttributes
  | inputAttachmentIndex
  | other (decoration : Named furtherDecorations)
deriving DecidableEq

namespace Decoration

def code : Decoration → UInt32
  | relaxedPrecision => 0
  | specId => 1
  | block => 2
  | bufferBlock => 3
  | rowMajor => 4
  | colMajor => 5
  | arrayStride => 6
  | matrixStride => 7
  | builtIn => 11
  | noPerspective => 13
  | flat => 14
  | nonWritable => 24
  | uniformId => 27
  | stream => 29
  | location => 30
  | component => 31
  | index => 32
  | binding => 33
  | descriptorSet => 34
  | offset => 35
  | linkageAttributes => 41
  | inputAttachmentIndex => 43
  | other decoration => Enumerant.code decoration

def name : Decoration → String
  | relaxedPrecision => "RelaxedPrecision"
  | specId => "SpecId"
  | block => "Block"
  | bufferBlock => "BufferBlock"
  | rowMajor => "RowMajor"
  | colMajor => "ColMajor"
  | arrayStride => "ArrayStride"
  | matrixStride => "MatrixStride"
  | builtIn => "BuiltIn"
  | noPerspective => "NoPerspective"
  | flat => "Flat"
  | nonWritable => "NonWritable"
  | uniformId => "UniformId"
  | stream => "Stream"
  | location => "Location"
  | component => "Component"
  | index => "Index"
  | binding => "Binding"
  | descriptorSet => "DescriptorSet"
  | offset => "Offset"
  | linkageAttributes => "LinkageAttributes"
  | inputAttachmentIndex => "InputAttachmentIndex"
  | other decoration => Enumerant.name decoration

instance : Enumerant Decoration :=
  ⟨[relaxedPrecision, specId, block, bufferBlock, rowMajor, colMajor, arrayStride, matrixStride,
    builtIn, noPerspective, flat, nonWritable, uniformId, stream, location, component, index,
    binding, descriptorSet, offset, linkageAttributes, inputAttachmentIndex] ++
    Enumerant.all.map other, code, name⟩

def operands : Decoration → List OperandKind
  | specId | arrayStride | matrixStride | stream | location | component | index | binding
  | descriptorSet | offset | inputAttachmentIndex => [.literal]
  | builtIn => [.builtIn]
  | uniformId => [.scope]
  | linkageAttributes => [.text, .linkage]
  | other decoration => decoration.entry.operands
  | _ => []

/-- Whether a decoration that is set carries a literal.  Of the decorations with a
literal these are the ones that describe binding and layout; `stream` is not set. -/
def takesLiteral : Decoration → Bool
  | location | component | index | binding | descriptorSet | offset | arrayStride
  | matrixStride | specId | inputAttachmentIndex => true
  | _ => false

end Decoration

/-! ## Choices of the module as a whole -/

abbrev SourceLanguage := Named <| bare
  [(0, "Unknown"), (1, "ESSL"), (2, "GLSL"), (3, "OpenCL_C"), (4, "OpenCL_CPP"), (5, "HLSL"),
    (6, "CPP_for_OpenCL")]

abbrev AddressingModel := Named <| bare
  [(0, "Logical"), (1, "Physical32"), (2, "Physical64"), (5348, "PhysicalStorageBuffer64")]

abbrev MemoryModel := Named <| bare
  [(0, "Simple"), (1, "GLSL450"), (2, "OpenCL"), (3, "Vulkan")]

def executionModes : List Entry :=
  bare [(1, "SpacingEqual"), (2, "SpacingFractionalEven"), (3, "SpacingFractionalOdd"),
    (4, "VertexOrderCw"), (5, "VertexOrderCcw"), (6, "PixelCenterInteger"),
    (7, "OriginUpperLeft"), (8, "OriginLowerLeft"), (9, "EarlyFragmentTests"), (10, "PointMode"),
    (11, "Xfb"), (12, "DepthReplacing"), (14, "DepthGreater"), (15, "DepthLess"),
    (16, "DepthUnchanged"), (19, "InputPoints"), (20, "InputLines"),
    (21, "InputLinesAdjacency"), (22, "Triangles"), (23, "InputTrianglesAdjacency"),
    (24, "Quads"), (25, "Isolines"), (27, "OutputPoints"), (28, "OutputLineStrip"),
    (29, "OutputTriangleStrip"), (31, "ContractionOff"), (33, "Initializer"), (34, "Finalizer"),
    (4446, "PostDepthCoverage"), (5027, "StencilRefReplacingEXT"), (5269, "OutputLinesNV"),
    (5298, "OutputTrianglesNV"), (5366, "PixelInterlockOrderedEXT"),
    (5367, "PixelInterlockUnorderedEXT"), (5368, "SampleInterlockOrderedEXT"),
    (5369, "SampleInterlockUnorderedEXT")] ++
  [⟨0, "Invocations", [.literal]⟩, ⟨17, "LocalSize", [.literal, .literal, .literal]⟩,
    ⟨18, "LocalSizeHint", [.literal, .literal, .literal]⟩, ⟨26, "OutputVertices", [.literal]⟩,
    ⟨30, "VecTypeHint", [.literal]⟩, ⟨35, "SubgroupSize", [.literal]⟩,
    ⟨36, "SubgroupsPerWorkgroup", [.literal]⟩, ⟨37, "SubgroupsPerWorkgroupId", [.id]⟩,
    ⟨38, "LocalSizeId", [.id, .id, .id]⟩,
    ⟨39, "LocalSizeHintId", [.id, .id, .id]⟩, ⟨4459, "DenormPreserve", [.literal]⟩,
    ⟨4460, "DenormFlushToZero", [.literal]⟩, ⟨4461, "SignedZeroInfNanPreserve", [.literal]⟩,
    ⟨4462, "RoundingModeRTE", [.literal]⟩, ⟨4463, "RoundingModeRTZ", [.literal]⟩,
    ⟨5270, "OutputPrimitivesNV", [.literal]⟩]

/-- How an entry point is executed. -/
abbrev ExecutionMode := Named executionModes

abbrev Capability := Named <| bare
  [(0, "Matrix"), (1, "Shader"), (2, "Geometry"), (3, "Tessellation"), (4, "Addresses"),
    (5, "Linkage"), (6, "Kernel"), (7, "Vector16"), (8, "Float16Buffer"), (9, "Float16"),
    (10, "Float64"), (11, "Int64"), (12, "Int64Atomics"), (13, "ImageBasic"),
    (14, "ImageReadWrite"), (15, "ImageMipmap"), (17, "Pipes"), (18, "Groups"),
    (19, "DeviceEnqueue"), (20, "LiteralSampler"), (21, "AtomicStorage"), (22, "Int16"),
    (23, "TessellationPointSize"), (24, "GeometryPointSize"), (25, "ImageGatherExtended"),
    (27, "StorageImageMultisample"), (28, "UniformBufferArrayDynamicIndexing"),
    (29, "SampledImageArrayDynamicIndexing"), (30, "StorageBufferArrayDynamicIndexing"),
    (31, "StorageImageArrayDynamicIndexing"), (32, "ClipDistance"), (33, "CullDistance"),
    (34, "ImageCubeArray"), (35, "SampleRateShading"), (36, "ImageRect"), (37, "SampledRect"),
    (38, "GenericPointer"), (39, "Int8"), (40, "InputAttachment"), (41, "SparseResidency"),
    (42, "MinLod"), (43, "Sampled1D"), (44, "Image1D"), (45, "SampledCubeArray"),
    (46, "SampledBuffer"), (47, "ImageBuffer"), (48, "ImageMSArray"),
    (49, "StorageImageExtendedFormats"), (50, "ImageQuery"), (51, "DerivativeControl"),
    (52, "InterpolationFunction"), (53, "TransformFeedback"), (54, "GeometryStreams"),
    (55, "StorageImageReadWithoutFormat"), (56, "StorageImageWriteWithoutFormat"),
    (57, "MultiViewport"), (58, "SubgroupDispatch"), (59, "NamedBarrier"), (60, "PipeStorage"),
    (61, "GroupNonUniform"), (62, "GroupNonUniformVote"), (63, "GroupNonUniformArithmetic"),
    (64, "GroupNonUniformBallot"), (65, "GroupNonUniformShuffle"),
    (66, "GroupNonUniformShuffleRelative"), (67, "GroupNonUniformClustered"),
    (68, "GroupNonUniformQuad"), (69, "ShaderLayer"), (70, "ShaderViewportIndex"),
    (71, "UniformDecoration"), (4423, "SubgroupBallotKHR"), (4427, "DrawParameters"),
    (4431, "SubgroupVoteKHR"), (4433, "StorageBuffer16BitAccess"),
    (4434, "UniformAndStorageBuffer16BitAccess"), (4435, "StoragePushConstant16"),
    (4436, "StorageInputOutput16"), (4437, "DeviceGroup"), (4439, "MultiView"),
    (4441, "VariablePointersStorageBuffer"), (4442, "VariablePointers"),
    (4445, "AtomicStorageOps"), (4447, "SampleMaskPostDepthCoverage"),
    (4448, "StorageBuffer8BitAccess"), (4449, "UniformAndStorageBuffer8BitAccess"),
    (4450, "StoragePushConstant8"), (4464, "DenormPreserve"), (4465, "DenormFlushToZero"),
    (4466, "SignedZeroInfNanPreserve"), (4467, "RoundingModeRTE"), (4468, "RoundingModeRTZ"),
    (5013, "StencilExportEXT"), (5301, "ShaderNonUniform"), (5302, "RuntimeDescriptorArray"),
    (5303, "InputAttachmentArrayDynamicIndexing"),
    (5304, "UniformTexelBufferArrayDynamicIndexing"),
    (5305, "StorageTexelBufferArrayDynamicIndexing"),
    (5306, "UniformBufferArrayNonUniformIndexing"),
    (5307, "SampledImageArrayNonUniformIndexing"),
    (5308, "StorageBufferArrayNonUniformIndexing"),
    (5309, "StorageImageArrayNonUniformIndexing"), (5345, "VulkanMemoryModel"),
    (5346, "VulkanMemoryModelDeviceScope"), (5347, "PhysicalStorageBufferAddresses"),
    (5379, "DemoteToHelperInvocation")]

abbrev ImageFormat := Named <| bare
  [(0, "Unknown"), (1, "Rgba32f"), (2, "Rgba16f"), (3, "R32f"), (4, "Rgba8"), (5, "Rgba8Snorm"),
    (6, "Rg32f"), (7, "Rg16f"), (8, "R11fG11fB10f"), (9, "R16f"), (10, "Rgba16"),
    (11, "Rgb10A2"), (12, "Rg16"), (13, "Rg8"), (14, "R16"), (15, "R8"), (16, "Rgba16Snorm"),
    (17, "Rg16Snorm"), (18, "Rg8Snorm"), (19, "R16Snorm"), (20, "R8Snorm"), (21, "Rgba32i"),
    (22, "Rgba16i"), (23, "Rgba8i"), (24, "R32i"), (25, "Rg32i"), (26, "Rg16i"), (27, "Rg8i"),
    (28, "R16i"), (29, "R8i"), (30, "Rgba32ui"), (31, "Rgba16ui"), (32, "Rgba8ui"),
    (33, "R32ui"), (34, "Rgb10a2ui"), (35, "Rg32ui"), (36, "Rg16ui"), (37, "Rg8ui"),
    (38, "R16ui"), (39, "R8ui"), (40, "R64ui"), (41, "R64i")]

def ImageFormat.unknown : ImageFormat := ⟨⟨0, by decide⟩⟩

abbrev AccessQualifier := Named <| bare [(0, "ReadOnly"), (1, "WriteOnly"), (2, "ReadWrite")]

abbrev LinkageType := Named <| bare [(0, "Export"), (1, "Import"), (2, "LinkOnceODR")]

abbrev GroupOperation := Named <| bare
  [(0, "Reduce"), (1, "InclusiveScan"), (2, "ExclusiveScan"), (3, "ClusteredReduce")]

abbrev ParameterAttribute := Named <| bare
  [(0, "Zext"), (1, "Sext"), (2, "ByVal"), (3, "Sret"), (4, "NoAlias"), (5, "NoCapture"),
    (6, "NoWrite"), (7, "NoReadWrite")]

abbrev RoundingMode := Named <| bare [(0, "RTE"), (1, "RTZ"), (2, "RTP"), (3, "RTN")]

/-! ## Flags -/

def FlagSet.entries : FlagSet → List Entry
  | functionControl => bare [(1, "Inline"), (2, "DontInline"), (4, "Pure"), (8, "Const")]
  | selectionControl => bare [(1, "Flatten"), (2, "DontFlatten")]
  | loopControl =>
    [⟨1, "Unroll", []⟩, ⟨2, "DontUnroll", []⟩, ⟨4, "DependencyInfinite", []⟩,
      ⟨8, "DependencyLength", [.literal]⟩, ⟨0x10, "MinIterations", [.literal]⟩,
      ⟨0x20, "MaxIterations", [.literal]⟩, ⟨0x40, "IterationMultiple", [.literal]⟩,
      ⟨0x80, "PeelCount", [.literal]⟩, ⟨0x100, "PartialCount", [.literal]⟩]
  | memoryAccess =>
    [⟨1, "Volatile", []⟩, ⟨2, "Aligned", [.literal]⟩, ⟨4, "Nontemporal", []⟩,
      ⟨8, "MakePointerAvailable", [.scope]⟩, ⟨0x10, "MakePointerVisible", [.scope]⟩,
      ⟨0x20, "NonPrivatePointer", []⟩]
  | imageOperands =>
    [⟨1, "Bias", [.id]⟩, ⟨2, "Lod", [.id]⟩, ⟨4, "Grad", [.id, .id]⟩, ⟨8, "ConstOffset", [.id]⟩,
      ⟨0x10, "Offset", [.id]⟩, ⟨0x20, "ConstOffsets", [.id]⟩, ⟨0x40, "Sample", [.id]⟩,
      ⟨0x80, "MinLod", [.id]⟩, ⟨0x100, "MakeTexelAvailable", [.scope]⟩,
      ⟨0x200, "MakeTexelVisible", [.scope]⟩, ⟨0x400, "NonPrivateTexel", []⟩,
      ⟨0x800, "VolatileTexel", []⟩, ⟨0x1000, "SignExtend", []⟩, ⟨0x2000, "ZeroExtend", []⟩,
      ⟨0x4000, "Nontemporal", []⟩, ⟨0x10000, "Offsets", [.id]⟩]
  | fastMath =>
    bare [(1, "NotNaN"), (2, "NotInf"), (4, "NSZ"), (8, "AllowRecip"), (0x10, "Fast")]

end ShaderBundle.Spirv
