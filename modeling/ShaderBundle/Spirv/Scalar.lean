/-
# Spirv.Scalar — which ids are numbers

How a literal is stored and shown depends on the type of the constant it belongs to.
`Scalars` knows the integer and float types that were defined so far; an id that is
defined with such a result type counts as that type, too.
-/
import ShaderBundle.Spirv.Instruction
import ShaderBundle.Table

namespace ShaderBundle.Spirv

set_option autoImplicit false

/-- A scalar type with literals. -/
inductive Scalar where
  | integer (width : UInt32) (signed : Bool)
  | floating (width : UInt32)
deriving DecidableEq

abbrev Scalars := Table Id Scalar

namespace Scalars

/-- Takes note of what an instruction defines. -/
def note (scalars : Scalars) (i : Instruction) : Scalars :=
  match i.resultId with
  | none => scalars
  | some id =>
    match i.opcode, i.operands with
    | .opTypeInt, .word width :: .word sign :: _ => scalars.insert id (.integer width (sign = 1))
    | .opTypeFloat, .word width :: _ => scalars.insert id (.floating width)
    | _, _ =>
      if i.opcode.isType then scalars
      else
        match i.resultType.bind scalars.find? with
        | some s => scalars.insert id s
        | none => scalars

end Scalars

end ShaderBundle.Spirv
