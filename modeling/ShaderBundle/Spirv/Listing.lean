/-
# Spirv.Listing — a module as text

One line per instruction: the result id, the operation, the result type and the
operands.  A result type stands two spaces behind the operation, and operands stand
two spaces behind a result type.

A constant has a result type and one operand.  A literal is shown by that type: a
signed integer with its sign, a float by the fewest digits that read back; any other
operand is shown as everywhere.  A module with another kind of constant, or with a
literal whose type is no number type, has no listing.

An extended instruction is shown by its name where the module says that its set is
"GLSL.std.450", and by its number otherwise.
-/
import ShaderBundle.Decimal.Shortest
import ShaderBundle.Shader.Model
import ShaderBundle.Spirv.Module
import ShaderBundle.Spirv.Scalar
import ShaderBundle.Text.Quoted

namespace ShaderBundle.Spirv

set_option autoImplicit false

def Operand.show : Operand → String
  | id n => s!"%{n}"
  | scope n => s!"%{n}"
  | word n => toString n.toNat
  | wide n => toString n.toNat
  | text s => Text.quoted s
  | extInst n => toString n.toNat
  | model m => Enumerant.name m
  | storage c => Enumerant.name c
  | dim d => Enumerant.name d
  | builtIn b => Enumerant.name b
  | decoration d => Enumerant.name d
  | language l => Enumerant.name l
  | addressing a => Enumerant.name a
  | memory m => Enumerant.name m
  | mode m => Enumerant.name m
  | capability c => Enumerant.name c
  | format f => Enumerant.name f
  | access a => Enumerant.name a
  | linkage l => Enumerant.name l
  | group g => Enumerant.name g
  | parameter a => Enumerant.name a
  | rounding r => Enumerant.name r
  | flags _ f => f.name

/-- A number below `2 ^ bits` as a signed integer, in two's complement. -/
def signedText (bits n : Nat) : String :=
  if n < Nat.pow 2 (bits - 1) then toString n else s!"-{Nat.pow 2 bits - n}"

def Scalar.showWord : Scalar → UInt32 → String
  | integer _ true, n => signedText 32 n.toNat
  | integer _ false, n => toString n.toNat
  | floating _, n => Decimal.single.text n.toNat

/-- A literal of two words by its type. -/
def Scalar.showWide : Scalar → UInt64 → String
  | integer _ true, n => signedText 64 n.toNat
  | integer _ false, n => toString n.toNat
  | floating _, n => Decimal.double.text n.toNat

/-- The line of an instruction, its operands given as texts. -/
def Instruction.line (i : Instruction) (operands : List String) : String :=
  let result :=
    match i.resultId with
    | some n => s!"%{n} = "
    | none => ""
  let type :=
    match i.resultType with
    | some n => s!"  %{n}" ++ (if operands = [] then "" else " ")
    | none => ""
  let tail := if operands = [] then "" else " " ++ " ".intercalate operands
  result ++ "Op" ++ i.opcode.name ++ type ++ tail

/-! ## Extended instructions -/

/-- The extended instructions of "GLSL.std.450", from number 1 on. -/
def glslInstructions : List String :=
  ["Round", "RoundEven", "Trunc", "FAbs", "SAbs", "FSign", "SSign", "Floor", "Ceil", "Fract",
    "Radians", "Degrees", "Sin", "Cos", "Tan", "Asin", "Acos", "Atan", "Sinh", "Cosh", "Tanh",
    "Asinh", "Acosh", "Atanh", "Atan2", "Pow", "Exp", "Log", "Exp2", "Log2", "Sqrt",
    "InverseSqrt", "Determinant", "MatrixInverse", "Modf", "ModfStruct", "FMin", "UMin", "SMin",
    "FMax", "UMax", "SMax", "FClamp", "UClamp", "SClamp", "FMix", "IMix", "Step", "SmoothStep",
    "Fma", "Frexp", "FrexpStruct", "Ldexp", "PackSnorm4x8", "PackUnorm4x8", "PackSnorm2x16",
    "PackUnorm2x16", "PackHalf2x16", "PackDouble2x32", "UnpackSnorm2x16", "UnpackUnorm2x16",
    "UnpackHalf2x16", "UnpackSnorm4x8", "UnpackUnorm4x8", "UnpackDouble2x32", "Length",
    "Distance", "Cross", "Normalize", "FaceForward", "Reflect", "Refract", "FindILsb", "FindSMsb",
    "FindUMsb", "InterpolateAtCentroid", "InterpolateAtSample", "InterpolateAtOffset", "NMin",
    "NMax", "NClamp"]

/-- The ids by which a module calls "GLSL.std.450". -/
def Module.glslSets (m : Module) : List Id :=
  (m.extInstImports.filter fun i => i.operands = [.text "GLSL.std.450"]).filterMap
    Instruction.resultId

def extInstName? (glslSets : List Id) (set : Id) (n : UInt32) : Option String :=
  if set ∈ glslSets ∧ n ≠ 0 then glslInstructions[n.toNat - 1]? else none

def Instruction.showExtInst (glslSets : List Id) (i : Instruction) : String :=
  match i.operands with
  | .id set :: .extInst n :: rest =>
    i.line ((Operand.id set).show :: (extInstName? glslSets set n).getD (Operand.extInst n).show ::
      rest.map Operand.show)
  | operands => i.line (operands.map Operand.show)

/-! ## Lines -/

def Instruction.showConstant? (scalars : Scalars) (i : Instruction) : Option String :=
  match i.resultType, i.operands with
  | some type, [.word n] => (scalars.find? type).map fun s => i.line [s.showWord n]
  | some type, [.wide n] => (scalars.find? type).map fun s => i.line [s.showWide n]
  | some _, [operand] => some (i.line [operand.show])
  | _, _ => none

def Instruction.show? (glslSets : List Id) (scalars : Scalars) (i : Instruction) : Option String :=
  if i.opcode = .opConstant then i.showConstant? scalars
  else some (i.showExtInst glslSets)

def Header.lines (h : Header) : List String :=
  ["; SPIR-V", s!"; Version: {h.major}.{h.minor}", "; Generator: rspirv", s!"; Bound: {h.bound}"]

/-- The lines of instructions, counted from `index`. -/
def listInstructions (glslSets : List Id) (scalars : Scalars) :
    Nat → List Instruction → Except ListingFault (List String)
  | _, [] => .ok []
  | index, i :: rest =>
    match i.show? glslSets scalars with
    | some line => (listInstructions glslSets scalars (index + 1) rest).map (line :: ·)
    | none => .error ⟨index⟩

def Module.listing (m : Module) : Except ListingFault String := do
  let scalars := m.globals.foldl Scalars.note Table.empty
  let lines ← listInstructions m.glslSets scalars 0 m.instructions
  let front :=
    match m.header with
    | some h => h.lines
    | none => []
  return "\n".intercalate (front ++ lines)

end ShaderBundle.Spirv
