/-
# Interface.Kind — the closed choices of a shader interface

Stages, uniform types, image types and sample types.  Each has a name in JSON, a
label in listings — the same word except for the stages — and a byte in binary
records; `ofByte?` reads the byte back and knows no other (`ofByte?_eq_some_iff`).
-/
import ShaderBundle.Json.Tree

namespace ShaderBundle

set_option autoImplicit false

/-! ## Stages -/

/-- The stage a shader runs in. -/
inductive Stage where
  | invalid
  | vertex
  | fragment
deriving DecidableEq, Inhabited

namespace Stage

def all : List Stage := [invalid, vertex, fragment]

def name : Stage → String
  | invalid => "invalid"
  | vertex => "vertex"
  | fragment => "fragment"

def label : Stage → String
  | invalid => "invalid"
  | vertex => "vs"
  | fragment => "fs"

def byte : Stage → UInt8
  | invalid => 0
  | vertex => 1
  | fragment => 2

def ofByte? (b : UInt8) : Option Stage := all.find? fun s => s.byte = b

def json (s : Stage) : Json.Value := .text s.name

def ofTree? (t : Json.Tree) : Option Stage :=
  t.choice?.bind fun n => all.find? fun s => s.name = n

theorem ofByte?_eq_some_iff (b : UInt8) (s : Stage) : ofByte? b = some s ↔ b = s.byte := by
  constructor
  · intro h
    have := List.find?_some h
    have same : s.byte = b := by simpa using this
    exact same.symm
  · rintro rfl
    cases s <;> rfl

end Stage

/-! ## Uniforms -/

/-- The type of a uniform, as far as uploading needs it. -/
inductive UniformType where
  /-- A layout that cannot be uploaded. -/
  | invalid
  | float
  | float2
  | float3
  | float4
  | mat4
deriving DecidableEq, Inhabited

namespace UniformType

def all : List UniformType := [invalid, float, float2, float3, float4, mat4]

def name : UniformType → String
  | invalid => "invalid"
  | float => "float"
  | float2 => "float2"
  | float3 => "float3"
  | float4 => "float4"
  | mat4 => "mat4"

def byte : UniformType → UInt8
  | invalid => 0
  | float => 1
  | float2 => 2
  | float3 => 3
  | float4 => 4
  | mat4 => 5

def ofByte? (b : UInt8) : Option UniformType := all.find? fun t => t.byte = b

def json (t : UniformType) : Json.Value := .text t.name

/-- Reads a uniform type from JSON. -/
def ofTree? (t : Json.Tree) : Option UniformType :=
  t.choice?.bind fun n => all.find? fun u => u.name = n

theorem ofByte?_eq_some_iff (b : UInt8) (t : UniformType) :
    ofByte? b = some t ↔ b = t.byte := by
  constructor
  · intro h
    have := List.find?_some h
    have same : t.byte = b := by simpa using this
    exact same.symm
  · rintro rfl
    cases t <;> rfl

end UniformType

/-! ## Images -/

inductive ImageType where
  | invalid
  | plane
  | cube
  | volume
  | array
deriving DecidableEq, Inhabited

namespace ImageType

def all : List ImageType := [invalid, plane, cube, volume, array]

def name : ImageType → String
  | invalid => "invalid"
  | plane => "2d"
  | cube => "cube"
  | volume => "3d"
  | array => "array"

def byte : ImageType → UInt8
  | invalid => 0
  | plane => 1
  | cube => 2
  | volume => 3
  | array => 4

def ofByte? (b : UInt8) : Option ImageType := all.find? fun t => t.byte = b

def json (t : ImageType) : Json.Value := .text t.name

/-- Reads an image type from JSON. -/
def ofTree? (t : Json.Tree) : Option ImageType :=
  t.choice?.bind fun n => all.find? fun i => i.name = n

theorem ofByte?_eq_some_iff (b : UInt8) (t : ImageType) :
    ofByte? b = some t ↔ b = t.byte := by
  constructor
  · intro h
    have := List.find?_some h
    have same : t.byte = b := by simpa using this
    exact same.symm
  · rintro rfl
    cases t <;> rfl

end ImageType

/-- What a sample of an image is made of. -/
inductive SampleType where
  | float
  | sint
  | uint
deriving DecidableEq, Inhabited

namespace SampleType

def all : List SampleType := [float, sint, uint]

def name : SampleType → String
  | float => "float"
  | sint => "sint"
  | uint => "uint"

def byte : SampleType → UInt8
  | float => 0
  | sint => 1
  | uint => 2

def ofByte? (b : UInt8) : Option SampleType := all.find? fun t => t.byte = b

def json (t : SampleType) : Json.Value := .text t.name

/-- Reads a sample type from JSON. -/
def ofTree? (t : Json.Tree) : Option SampleType :=
  t.choice?.bind fun n => all.find? fun i => i.name = n

theorem ofByte?_eq_some_iff (b : UInt8) (t : SampleType) :
    ofByte? b = some t ↔ b = t.byte := by
  constructor
  · intro h
    have := List.find?_some h
    have same : t.byte = b := by simpa using this
    exact same.symm
  · rintro rfl
    cases t <;> rfl

end SampleType

end ShaderBundle
