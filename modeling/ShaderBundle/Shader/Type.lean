/-
# Shader.Type — the types of shader values

A `TypeDesc` describes a type as far as interfaces need it: the scalar it is made of,
vector and matrix sizes, the lengths of arrays from the inside out, the members of a
structure, and the shape of an image.  It is built in steps: `vector`, `matrix` and
`array` go on from what is there, `scalar`, `structure` and `image` start afresh.

`uniformType`, `imageType` and `sampleType` say which types a runtime can upload and
bind.
-/
import ShaderBundle.Interface.Kind
import ShaderBundle.Spirv.Enumerant

namespace ShaderBundle

set_option autoImplicit false

abbrev Id := UInt32

inductive BaseType where
  | unknown
  | void
  | boolean
  | sbyte
  | ubyte
  | short
  | ushort
  | int
  | uint
  | int64
  | uint64
  | half
  | float
  | double
  | struct
  | image
  | sampledImage
  | sampler
deriving DecidableEq, Inhabited

namespace BaseType

def all : List BaseType :=
  [unknown, void, boolean, sbyte, ubyte, short, ushort, int, uint, int64, uint64, half, float,
    double, struct, image, sampledImage, sampler]

def name : BaseType → String
  | unknown => "Unknown"
  | void => "Void"
  | boolean => "Boolean"
  | sbyte => "SByte"
  | ubyte => "UByte"
  | short => "Short"
  | ushort => "UShort"
  | int => "Int"
  | uint => "UInt"
  | int64 => "Int64"
  | uint64 => "UInt64"
  | half => "Half"
  | float => "Float"
  | double => "Double"
  | struct => "Struct"
  | image => "Image"
  | sampledImage => "SampledImage"
  | sampler => "Sampler"

def ofName? (s : String) : Option BaseType := all.find? fun b => b.name = s

def integer (width : UInt32) (signed : Bool) : BaseType :=
  match width.toNat, signed with
  | 8, true => sbyte
  | 8, false => ubyte
  | 16, true => short
  | 16, false => ushort
  | 32, true => int
  | 32, false => uint
  | 64, true => int64
  | 64, false => uint64
  | _, _ => unknown

/-- The floating point number of a width in bits. -/
def floating (width : UInt32) : BaseType :=
  match width.toNat with
  | 16 => half
  | 32 => float
  | 64 => double
  | _ => unknown

end BaseType

structure ImageDesc where
  /-- The scalar type a sample returns. -/
  sampledType : Id
  dim : Spirv.Dim
  depth : Bool
  arrayed : Bool
  multisampled : Bool
deriving DecidableEq

structure TypeDesc where
  base : BaseType
  /-- The width of a scalar component in bits. -/
  width : UInt32
  vecsize : UInt32
  columns : UInt32
  /-- The lengths of arrays, innermost first; 0 for one without a fixed length. -/
  array : List UInt32
  members : List Id
  image : Option ImageDesc
deriving DecidableEq

namespace TypeDesc

def ofBase (base : BaseType) : TypeDesc := ⟨base, 0, 0, 0, [], [], none⟩

/-- The type of an id that was never defined. -/
def missing : TypeDesc := ofBase .unknown

instance : Inhabited TypeDesc := ⟨missing⟩

def scalar (base : BaseType) (width : UInt32) : TypeDesc :=
  { ofBase base with width := width, vecsize := 1, columns := 1 }

def vector (t : TypeDesc) (size : UInt32) : TypeDesc := { t with vecsize := size }

/-- A matrix of columns as described so far. -/
def matrix (t : TypeDesc) (columns : UInt32) : TypeDesc := { t with columns := columns }

def arrayOf (t : TypeDesc) (length : UInt32) : TypeDesc := { t with array := t.array ++ [length] }

def structOf (members : List Id) : TypeDesc := { ofBase .struct with members := members }

/-- An image, alone or with its sampler. -/
def imageOf (base : BaseType) (image : ImageDesc) : TypeDesc :=
  { ofBase base with image := some image }

def floats (size : UInt32) : TypeDesc := (scalar .float 32).vector size

/-- A float matrix of four columns and rows. -/
def mat4 : TypeDesc := (floats 4).matrix 4

/-- The uniform type of a type: float vectors and 4×4 matrices, arrays aside. -/
def uniformType (t : TypeDesc) : UniformType :=
  match t.base with
  | .float =>
    match t.columns.toNat, t.vecsize.toNat with
    | 1, 1 => .float
    | 1, 2 => .float2
    | 1, 3 => .float3
    | 1, 4 => .float4
    | 4, 4 => .mat4
    | _, _ => .invalid
  | _ => .invalid

end TypeDesc

/-- The image type of a shape: only planes come in arrays. -/
def ImageDesc.imageType (i : ImageDesc) : ImageType :=
  if i.arrayed then
    match i.dim with
    | .plane => .array
    | _ => .invalid
  else
    match i.dim with
    | .plane => .plane
    | .cube => .cube
    | .volume => .volume
    | _ => .invalid

/-- The sample type of a base type; integers of at most 32 bits keep their sign, all
else samples as float. -/
def BaseType.sampleType : BaseType → SampleType
  | .sbyte | .short | .int => .sint
  | .ubyte | .ushort | .uint => .uint
  | _ => .float

end ShaderBundle
