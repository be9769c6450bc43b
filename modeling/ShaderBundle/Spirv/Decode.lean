/-
# Spirv.Decode — words as a module

Words are first cut into instructions by the length in the first word of each, then
each instruction is read by the signature of its opcode: every word must be used, and
every code must have a name.  How long a literal is may depend on the scalar types
that were defined before it: on that of a constant, or of what a switch is over.
Last the instructions are sorted into sections.
-/
import ShaderBundle.Spirv.Encode
import ShaderBundle.Spirv.Scalar

namespace ShaderBundle.Spirv

set_option autoImplicit false

/-- A step takes words from the front and hands back the rest. -/
abbrev Step (α : Type) : Type := List UInt32 → Option (α × List UInt32)

/-! ## Operands -/

def oneWord : Step UInt32
  | [] => none
  | w :: ws => some (w, ws)

/-- A text, up to its first zero byte; what else is in that byte's word is passed over. -/
def oneText : Step Operand := fun ws => do
  let bytes := Word.bytes ws
  let s := bytes.takeWhile fun b => b ≠ 0
  if s.length = bytes.length then none
  else return (.text (← Text.Utf8.text? s), ws.drop (s.length / 4 + 1))

/-- A literal of a constant with this result type. -/
def typedLiteral (scalar : Option Scalar) : Step Operand := fun ws =>
  let width :=
    match scalar with
    | none => 32
    | some (.integer w _) => if w = 8 || w = 16 || w = 32 || w = 64 then w.toNat else 0
    | some (.floating w) => if w = 16 || w = 32 || w = 64 then w.toNat else 0
  match width, ws with
  | 0, _ => none
  | 64, low :: high :: rest => some (.wide (UInt64.ofNat (low.toNat + UInt32.size * high.toNat)), rest)
  | 64, _ => none
  | _, w :: rest => some (.word w, rest)
  | _, [] => none

/-- The next word as what it stands for, and the kinds of the operands that this brings with it. -/
def oneAs (f : UInt32 → Option (Operand × List OperandKind)) : Step (Operand × List OperandKind)
  | [] => none
  | w :: ws => (f w).map fun read => (read, ws)

/-- The next word as one of a fixed choice. -/
def oneOf {α : Type} [Enumerant α] (f : α → Operand) : Step (Operand × List OperandKind) :=
  oneAs fun w => (Enumerant.ofCode? w).map fun a => (f a, [])

/-- The first operand of a kind, and the kinds of the operands that it brings with it. -/
def OperandKind.first (scalar : Option Scalar) : OperandKind → Step (Operand × List OperandKind)
  | id => oneAs fun w => some (.id w, [])
  | scope => oneAs fun w => some (.scope w, [])
  | literal => oneAs fun w => some (.word w, [])
  | extInst => oneAs fun w => some (.extInst w, [])
  | text => fun ws => (oneText ws).map fun p => ((p.1, []), p.2)
  | typedLiteral => fun ws => (Spirv.typedLiteral scalar ws).map fun p => ((p.1, []), p.2)
  | model => oneOf .model
  | storage => oneOf .storage
  | dim => oneOf .dim
  | builtIn => oneOf .builtIn
  | language => oneOf .language
  | addressing => oneOf .addressing
  | memory => oneOf .memory
  | capability => oneOf .capability
  | format => oneOf .format
  | access => oneOf .access
  | linkage => oneOf .linkage
  | group => oneOf .group
  | parameter => oneOf .parameter
  | rounding => oneOf .rounding
  | decoration => oneAs fun w => (Enumerant.ofCode? w).map fun d => (.decoration d, d.operands)
  | mode => oneAs fun w => (Enumerant.ofCode? w).map fun m => (.mode m, m.entry.operands)
  | flags set => oneAs fun w =>
    (Flags.ofCode? w).map fun f => (.flags set f, f.on.flatMap Entry.operands)
  | idAndId => oneAs fun w => some (.id w, [.id])
  | idAndLiteral => oneAs fun w => some (.id w, [.literal])
  | literalAndId => fun ws => (Spirv.typedLiteral scalar ws).map fun p => ((p.1, [.id]), p.2)

/-- Operands that others brought with them; they bring none themselves. -/
def furtherOperands (scalar : Option Scalar) : List OperandKind → Step (List Operand)
  | [], ws => some ([], ws)
  | kind :: rest, ws => do
    let ((operand, _), ws) ← kind.first scalar ws
    let (others, ws) ← furtherOperands scalar rest ws
    return (operand :: others, ws)

def OperandKind.step (scalar : Option Scalar) (kind : OperandKind) : Step (List Operand) :=
  fun ws => do
    let ((operand, further), ws) ← kind.first scalar ws
    let (others, ws) ← furtherOperands scalar further ws
    return (operand :: others, ws)

/-- Operands of one kind until the words are used up; fuel bounds their number. -/
def manyOf (scalar : Option Scalar) (kind : OperandKind) : Nat → List UInt32 → Option (List Operand)
  | _, [] => some []
  | 0, _ => none
  | fuel + 1, ws => do
    let (first, ws) ← kind.step scalar ws
    return first ++ (← manyOf scalar kind fuel ws)

/-- The operands of a signature, from all of the words. -/
def readOperands (scalar : Option Scalar) :
    List (OperandKind × Quantity) → List UInt32 → Option (List Operand)
  | [], [] => some []
  | [], _ => none
  | (kind, .one) :: rest, ws => do
    let (first, ws) ← kind.step scalar ws
    return first ++ (← readOperands scalar rest ws)
  | (_, .optional) :: rest, [] => readOperands scalar rest []
  | (kind, .optional) :: rest, ws => do
    let (first, ws) ← kind.step scalar ws
    return first ++ (← readOperands scalar rest ws)
  | (kind, .many) :: _, ws => manyOf scalar kind ws.length ws

/-! ## Instructions -/

def readIf (wanted : Bool) : Step (Option UInt32) := fun ws =>
  if wanted then (oneWord ws).map fun p => (some p.1, p.2) else some (none, ws)

def readInstruction (scalars : Scalars) (first : UInt32) (ws : List UInt32) :
    Option Instruction := do
  let opcode : Opcode ← Enumerant.ofCode? (UInt32.ofNat (first.toNat % UInt16.size))
  let signature := opcode.signature
  let (type, ws) ← readIf signature.hasType ws
  let (result, ws) ← readIf signature.hasResult ws
  -- without a result type, the width of literals goes by the first operand
  let operands ← readOperands ((type <|> ws.head?).bind scalars.find?) signature.operands ws
  return ⟨opcode, type, result, operands⟩

/-- Reads instructions one after the other; each finds the scalar types that were
defined before it.  Fuel bounds their number. -/
def readInstructions : Nat → Scalars → List UInt32 → Option (List Instruction)
  | _, _, [] => some []
  | 0, _, _ => none
  | fuel + 1, scalars, first :: ws => do
    let length := first.toNat / UInt16.size
    if length = 0 || ws.length + 1 < length then none
    else
      let i ← readInstruction scalars first (ws.take (length - 1))
      return i :: (← readInstructions fuel (scalars.note i) (ws.drop (length - 1)))

def readHeader : Step Header
  | m :: version :: _ :: bound :: _ :: ws =>
    if m = magic then
      some (⟨UInt8.ofNat (version.toNat / UInt16.size), UInt8.ofNat (version.toNat / UInt8.size), bound⟩, ws)
    else none
  | _ => none

def Module.ofWords? (ws : List UInt32) : Option Module := do
  let (header, ws) ← readHeader ws
  Module.ofInstructions? header (← readInstructions ws.length Table.empty ws)

end ShaderBundle.Spirv
