/-
# Proofs.Spirv.Members — what a module says of the members of its structures

A member has the name and the offset that the module states last for it.  Of names the tables say
so for every module (`Tables.Tells`).  An offset is a literal behind its decoration: words are
read as an instruction only if the literal is there (`hasLiteral_of_readInstruction`), so every
annotation of a module that was read off words has it (`hasLiteral_of_ofWords?`), and the value of
the decoration is that offset (`valueAt_offset`).

A shader that was read off words therefore answers with what its module says of types and members
(`toldByModule_of_ofWords`).
-/
import Mathlib.Data.List.Basic
import ShaderBundle.Proofs.Spirv.Types
import ShaderBundle.Proofs.Spirv.Variables

namespace ShaderBundle.Spirv

set_option autoImplicit false

/-- The member that an instruction gives an offset, and the offset. -/
def Instruction.memberOffset? (i : Instruction) : Option ((Id × UInt32) × UInt32) :=
  match i.opcode, i.operands with
  | .opMemberDecorate, .id n :: .word member :: .decoration .offset :: .word offset :: _ =>
    some ((n, member), offset)
  | _, _ => none

/-- The offset that a member is given last. -/
def Module.memberOffset? (m : Module) (id : Id) (member : UInt32) : Option UInt32 :=
  saidLast Instruction.memberOffset? m.annotations (id, member)

/-! ## One instruction -/

/-- Where a member is decorated and the decoration asks for one literal, the literal is there. -/
def Instruction.HasLiteral (i : Instruction) : Prop :=
  ∀ n member d rest, i.opcode = .opMemberDecorate →
    i.operands = .id n :: .word member :: .decoration d :: rest → d.operands = [.literal] →
    ∃ value, rest = [.word value]

theorem used_of_readOperands {scalar : Option Scalar} {ws : List UInt32} {operands : List Operand}
    (read : readOperands scalar [] ws = some operands) : ws = [] ∧ operands = [] := by
  cases ws with
  | nil =>
      cases read
      exact ⟨rfl, rfl⟩
  | cons => cases read

/-- The decoration of a member stands third, and what it asks for behind it. -/
theorem operands_of_memberDecorate {scalar : Option Scalar} {ws : List UInt32}
    {operands : List Operand}
    (read : readOperands scalar Opcode.opMemberDecorate.signature.operands ws = some operands) :
    ∃ n member d rest behind, operands = .id n :: .word member :: .decoration d :: rest ∧
      furtherOperands scalar d.operands behind = some (rest, []) := by
  match ws with
  | [] | [_] | [_, _] => cases read
  | n :: member :: w :: behind =>
      change readOperands scalar [(.id, .one), (.literal, .one), (.decoration, .one)] _ = _ at read
      simp only [readOperands, OperandKind.step, OperandKind.first, oneAs, furtherOperands,
        Option.map_some, Option.bind_eq_bind, Option.bind_some, Option.pure_def] at read
      cases known : (Enumerant.ofCode? w : Option Decoration) with
      | none =>
          rw [known] at read
          cases read
      | some d =>
          simp only [known, Option.map_some, Option.bind_some, Option.bind_eq_some_iff,
            Option.some.injEq] at read
          obtain ⟨_, ⟨_, ⟨_, ⟨⟨rest, left⟩, further, rfl⟩, others, last, rfl⟩, rfl⟩, rfl⟩ := read
          obtain ⟨rfl, rfl⟩ := used_of_readOperands last
          exact ⟨n, member, d, rest, behind, by simp, further⟩

/-- An instruction that is read off words has its literal. -/
theorem hasLiteral_of_readInstruction {scalars : Scalars} {first : UInt32} {ws : List UInt32}
    {i : Instruction} (read : readInstruction scalars first ws = some i) : i.HasLiteral := by
  intro n member d rest opcode operands literal
  simp only [readInstruction, Option.bind_eq_bind, Option.bind_eq_some_iff, Option.pure_def,
    Option.some.injEq] at read
  obtain ⟨op, -, ⟨type, ws'⟩, -, ⟨result, ws''⟩, -, given, taken, rfl⟩ := read
  obtain rfl : op = .opMemberDecorate := opcode
  obtain rfl : given = _ := operands
  obtain ⟨n', member', d', rest', behind, same, further⟩ := operands_of_memberDecorate taken
  cases same
  rw [literal] at further
  cases behind with
  | nil => cases further
  | cons value behind =>
      cases further
      exact ⟨value, rfl⟩

/-! ## All instructions -/

theorem hasLiteral_of_readInstructions {fuel : Nat} {scalars : Scalars} {ws : List UInt32}
    {is : List Instruction} (read : readInstructions fuel scalars ws = some is) :
    ∀ i ∈ is, i.HasLiteral := by
  induction fuel generalizing scalars ws is with
  | zero =>
      cases ws <;> cases read
      exact List.forall_mem_nil _
  | succ fuel ih =>
      cases ws with
      | nil =>
          cases read
          exact List.forall_mem_nil _
      | cons first ws =>
          unfold readInstructions at read
          dsimp only at read
          split at read
          · cases read
          · simp only [Option.bind_eq_bind, Option.bind_eq_some_iff, Option.pure_def,
              Option.some.injEq] at read
            obtain ⟨i, one, rest, others, rfl⟩ := read
            exact List.forall_mem_cons.mpr ⟨hasLiteral_of_readInstruction one, ih others⟩

namespace Module

section

variable {d d' : Draft} {i : Instruction}

theorem done_of_addToBlock (added : d.addToBlock i = some d') : d'.done = d.done := by
  obtain ⟨b, -, rfl⟩ := Option.map_eq_some_iff.mp added
  rfl

/-- Sorting an instruction adds nothing else to the annotations. -/
theorem annotations_of_add (added : d.add i = some d') :
    d'.done.annotations = d.done.annotations ∨
      d'.done.annotations = d.done.annotations ++ [i] := by
  unfold Draft.add at added
  cases place : i.opcode.place with
  | decoration =>
      simp only [place] at added
      cases added
      exact .inr rfl
  | lineMark =>
      simp only [place] at added
      split at added
      · rename_i next inBlock
        cases added
        exact .inl (congrArg annotations (done_of_addToBlock inBlock))
      · cases added
        exact .inl rfl
  | globalOrLocal =>
      simp only [place] at added
      split at added
      · cases added
        exact .inl rfl
      · exact .inl (congrArg annotations (done_of_addToBlock added))
  | functionStart | blockStart =>
      simp only [place] at added
      split at added
      · cases added
        exact .inl rfl
      · cases added
  | functionParameter =>
      simp only [place] at added
      obtain ⟨f, -, rfl⟩ := Option.map_eq_some_iff.mp added
      exact .inl rfl
  | functionEnd =>
      simp only [place, Draft.closeFunction] at added
      split at added
      · cases added
        exact .inl rfl
      · cases added
  | blockEnd =>
      simp only [place, Draft.closeBlock] at added
      split at added
      · cases added
        exact .inl rfl
      · cases added
  | block =>
      simp only [place] at added
      exact .inl (congrArg annotations (done_of_addToBlock added))
  | _ =>
      simp only [place] at added
      cases added
      exact .inl rfl

end

theorem mem_annotations_of_foldlM {is : List Instruction} {d d' : Draft}
    (sorted : is.foldlM Draft.add d = some d') :
    ∀ i ∈ d'.done.annotations, i ∈ d.done.annotations ∨ i ∈ is := by
  induction is generalizing d with
  | nil =>
      cases sorted
      exact fun i among => .inl among
  | cons j rest ih =>
      rw [List.foldlM_cons] at sorted
      obtain ⟨next, added, sorted⟩ := Option.bind_eq_some_iff.mp sorted
      intro i among
      rcases ih sorted i among with before | later
      · rcases annotations_of_add added with same | more
        · exact .inl (same ▸ before)
        · rw [more, List.mem_append, List.mem_singleton] at before
          rcases before with before | rfl
          · exact .inl before
          · exact .inr List.mem_cons_self
      · exact .inr (List.mem_cons_of_mem j later)

/-- The annotations of a module that was read off words have their literals. -/
theorem hasLiteral_of_ofWords? {ws : List UInt32} {m : Module} (decoded : ofWords? ws = some m) :
    ∀ i ∈ m.annotations, i.HasLiteral := by
  simp only [ofWords?, Option.bind_eq_bind, Option.bind_eq_some_iff] at decoded
  obtain ⟨⟨header, body⟩, -, is, read, sorted⟩ := decoded
  unfold ofInstructions? at sorted
  obtain ⟨d, ended, finished⟩ := Option.bind_eq_some_iff.mp sorted
  unfold Draft.finish? at finished
  split at finished
  · cases finished
    intro i among
    rcases mem_annotations_of_foldlM ended i among with before | own
    · cases before
    · exact hasLiteral_of_readInstructions read i own
  · cases finished

end Module

/-! ## Offsets -/

/-- What an annotation with its literal states for an offset is that literal. -/
theorem valueFor?_offset {i : Instruction} (has : i.HasLiteral) (id : Id) (member : UInt32) :
    i.valueFor? ⟨id, some member, .offset⟩ =
      saidOf Instruction.memberOffset? (id, member) i := by
  unfold Instruction.valueFor? saidOf
  cases offset : i.memberOffset? with
  | some statement =>
      unfold Instruction.memberOffset? at offset
      split at offset
      · rename_i n k v rest opcode operands
        cases offset
        have stated : i.statement? = some (⟨n, some k, .offset⟩, v) :=
          (i.statement?_eq_some_iff _ _).mpr ⟨opcode, .word v :: rest, operands, rfl⟩
        rw [stated]
        by_cases same : (n, k) = (id, member)
        · cases same
          simp
        · have other : (⟨id, some member, .offset⟩ : Key) ≠ ⟨n, some k, .offset⟩ := by
            rintro ⟨⟩
            exact same rfl
          simp [same, other]
      · cases offset
  | none =>
      cases statement : i.statement? with
      | none => rfl
      | some stated =>
          obtain ⟨k, value⟩ := stated
          refine if_neg ?_
          rintro rfl
          -- an offset that is stated would have its literal
          obtain ⟨opcode, rest, operands, -⟩ := (i.statement?_eq_some_iff _ _).mp statement
          obtain ⟨v, rfl⟩ := has id member .offset rest opcode operands rfl
          change i.opcode = .opMemberDecorate at opcode
          change i.operands = [.id id, .word member, .decoration .offset, .word v] at operands
          simp [Instruction.memberOffset?, opcode, operands] at offset

/-- In a module that was read off words, the value of an offset is the one that is said last. -/
theorem valueAt_offset {ws : List UInt32} {m : Module} {t : Tables}
    (decoded : Module.ofWords? ws = some m) (read : Tables.ofModule m = .ok t) (id : Id)
    (member : UInt32) : t.valueAt ⟨id, some member, .offset⟩ = m.memberOffset? id member := by
  rw [Tables.valueAt_of_ofModule read]
  unfold valuesFor Module.memberOffset? saidLast
  congr 1
  exact List.filterMap_congr fun i among =>
    valueFor?_offset (Module.hasLiteral_of_ofWords? decoded i among) id member

/-! ## Shaders -/

/-- What a shader answers of types and members is what its module says. -/
structure ModuleShader.ToldByModule (s : ModuleShader) : Prop where
  types : ∀ id, Raised s.module.globals id (Shader.typeOf s id)
  memberName : ∀ id member,
    Shader.memberName s id member = (s.module.memberName? id member).getD ""
  memberOffset : ∀ id member,
    Shader.memberOffset s id member = (s.module.memberOffset? id member).getD 0

theorem module_of_ofWords {ws : List UInt32} {s : ModuleShader}
    (decoded : ModuleShader.ofWords ws = .ok s) :
    Module.ofWords? ws = some s.module ∧ ModuleShader.ofModule s.module = .ok s := by
  unfold ModuleShader.ofWords at decoded
  split at decoded
  · rename_i m known
    obtain ⟨rfl, -⟩ := read_of_ofModule decoded
    exact ⟨known, decoded⟩
  · cases decoded

theorem toldByModule_of_ofWords {ws : List UInt32} {s : ModuleShader}
    (decoded : ModuleShader.ofWords ws = .ok s) : s.ToldByModule := by
  obtain ⟨known, accepted⟩ := module_of_ofWords decoded
  obtain ⟨-, read⟩ := read_of_ofModule accepted
  refine ⟨Tables.raised_of_ofModule read, fun id member => ?_, fun id member => ?_⟩
  · rw [← (Tables.tells_of_ofModule read).memberNames]
    rfl
  · rw [← valueAt_offset known read]
    rfl

end ShaderBundle.Spirv
