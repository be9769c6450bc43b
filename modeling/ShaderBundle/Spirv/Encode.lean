/-
# Spirv.Encode — a module as words

Five words stand in front: the magic word, the version, the generator, the bound of
the ids and a zero.  Each instruction starts with a word that holds its length in
words, itself included, and its opcode; result type, result id and operands follow.
A text is filled up with zero bytes to whole words, and has at least one of them.
-/
import ShaderBundle.Spirv.Module
import ShaderBundle.Spirv.Word
import ShaderBundle.Text.Utf8

namespace ShaderBundle.Spirv

set_option autoImplicit false

def magic : UInt32 := 0x07230203

/-- The tool that wrote the module. -/
def generator : UInt32 := 0x000f0000

def textWords (s : String) : List UInt32 := Word.padded (Text.Utf8.bytes s ++ [0])

def Operand.words : Operand → List UInt32
  | id n => [n]
  | scope n => [n]
  | word n => [n]
  | wide n => [UInt32.ofNat n.toNat, UInt32.ofNat (n.toNat / UInt32.size)]
  | text s => textWords s
  | extInst n => [n]
  | model m => [Enumerant.code m]
  | storage c => [Enumerant.code c]
  | dim d => [Enumerant.code d]
  | builtIn b => [Enumerant.code b]
  | decoration d => [Enumerant.code d]
  | language l => [Enumerant.code l]
  | addressing a => [Enumerant.code a]
  | memory m => [Enumerant.code m]
  | mode m => [Enumerant.code m]
  | capability c => [Enumerant.code c]
  | format f => [Enumerant.code f]
  | access a => [Enumerant.code a]
  | linkage l => [Enumerant.code l]
  | group g => [Enumerant.code g]
  | parameter a => [Enumerant.code a]
  | rounding r => [Enumerant.code r]
  | flags _ f => [f.bits]

def Instruction.words (i : Instruction) : List UInt32 :=
  let rest := i.resultType.toList ++ i.resultId.toList ++ i.operands.flatMap Operand.words
  (UInt32.ofNat ((rest.length + 1) * UInt16.size) ||| i.opcode.code) :: rest

def Header.words (h : Header) : List UInt32 :=
  [magic, UInt32.ofNat (h.major.toNat * UInt16.size + h.minor.toNat * UInt8.size), generator, h.bound, 0]

def Module.words (m : Module) : List UInt32 :=
  (match m.header with
    | some h => h.words
    | none => []) ++ m.instructions.flatMap Instruction.words

end ShaderBundle.Spirv
