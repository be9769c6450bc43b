/-
# Proofs.Spirv.Sweeps — what reading one instruction does

`ofModule` goes over the sections of a module in four sweeps, and each of them is inverted here
once: what reading one instruction did to the tables (`addEntryPoint_eq_ok`, `addName_eq_ok`,
`addAnnotation_eq_ok`, `addGlobal_eq_ok`).  What the steps of a sweep keep, the sweep keeps
(`foldlM_invariant`, `foldlM_keeps`).  So whatever neither entry points nor names nor annotations
write is not known before the globals are read (`unread_before_globals`).

Of types, constants and decorations the inversions say only that nothing else is written with
them; `Grounded` and `valueAt` tell their values.
-/
import ShaderBundle.Proofs.Spirv.Annotations

namespace ShaderBundle.Spirv

set_option autoImplicit false

/-! ## What one instruction says -/

namespace Instruction

/-- The id that an instruction names, and the name. -/
def name? (i : Instruction) : Option (Id × String) :=
  if i.opcode = .opName then
    match i.operands[0]?, i.operands[1]? with
    | some (Operand.id n), some (Operand.text name) => some (n, name)
    | _, _ => none
  else none

/-- The member that an instruction names, and the name. -/
def memberName? (i : Instruction) : Option ((Id × UInt32) × String) :=
  if i.opcode = .opMemberName then
    match i.operands[0]?, i.operands[1]?, i.operands[2]? with
    | some (Operand.id n), some (Operand.word member), some (Operand.text name) =>
      some ((n, member), name)
    | _, _, _ => none
  else none

/-- The pointer type that an instruction defines, and what it points to. -/
def pointee? (i : Instruction) : Option (Id × Id) :=
  if i.opcode = .opTypePointer then
    match i.resultId, i.operands[1]? with
    | some pointer, some (Operand.id pointee) => some (pointer, pointee)
    | _, _ => none
  else none

/-- The array type that an instruction defines, and the type of its elements. -/
def element? (i : Instruction) : Option (Id × Id) :=
  if i.opcode = .opTypeArray ∨ i.opcode = .opTypeRuntimeArray then
    match i.resultId, i.operands[0]? with
    | some array, some (Operand.id element) => some (array, element)
    | _, _ => none
  else none

def declared? (i : Instruction) : Option Variable :=
  if i.opcode = .opVariable then
    match i.resultId, i.resultType, i.operands[0]? with
    | some id, some pointer, some (Operand.storage storage) => some ⟨id, pointer, storage⟩
    | _, _, _ => none
  else none

def usedIds (i : Instruction) : List Id := (i.operands.drop 3).filterMap Tables.idOf?

theorem getElem?_of_needText {i : Instruction} {place : Nat} {s : String}
    (needed : i.needText place = .ok s) : i.operands[place]? = some (.text s) := by
  unfold needText at needed
  split at needed
  · cases needed
    assumption
  · cases needed

theorem eq_some_of_require {α : Type} {i : Instruction} {part : Option α} {a : α}
    (needed : i.require part = .ok a) : part = some a := by
  unfold require at needed
  split at needed
  · cases needed
    rfl
  · cases needed

theorem getElem?_of_needStorage {i : Instruction} {place : Nat} {c : StorageClass}
    (needed : i.needStorage place = .ok c) : i.operands[place]? = some (.storage c) := by
  unfold needStorage at needed
  split at needed
  · cases needed
    assumption
  · cases needed

end Instruction

def noted {κ ν : Type} [DecidableEq κ] (t : Table κ ν) (statement : Option (κ × ν)) : Table κ ν :=
  match statement with
  | some (k, v) => t.insert k v
  | none => t

namespace Tables

variable {m : Module} {t t' : Tables} {i : Instruction} {is : List Instruction}
  {read : Tables → Instruction → Except ModuleFault Tables}

/-! ## Sweeps -/

/-- What every step keeps, a run keeps. -/
theorem foldlM_invariant {P : Tables → Prop}
    (keeps : ∀ i ∈ is, ∀ t t', P t → read t i = .ok t' → P t') (start : P t)
    (ended : is.foldlM read t = .ok t') : P t' := by
  induction is generalizing t with
  | nil =>
      cases ended
      exact start
  | cons i rest ih =>
      rw [List.forall_mem_cons] at keeps
      rw [List.foldlM_cons] at ended
      obtain ⟨next, first, ended⟩ := except_bind_eq_ok_iff.mp ended
      exact ih keeps.2 (keeps.1 t next start first) ended

/-- What no step changes, a run keeps. -/
theorem foldlM_keeps {β : Type} (get : Tables → β)
    (keeps : ∀ t t' i, read t i = .ok t' → get t' = get t) (ended : is.foldlM read t = .ok t') :
    get t' = get t := by
  refine foldlM_invariant (P := fun u => get u = get t) ?_ rfl ended
  intro i _ u u' same first
  exact (keeps u u' i first).trans same

/-! ## Steps -/

theorem resultId_of_needResult {id : Id} (needed : i.needResult = .ok id) : i.resultId = some id :=
  Instruction.eq_some_of_require needed

theorem addEntryPoint_eq_ok (read : t.addEntryPoint i = .ok t') :
    ∃ entry, t' = { t with
      entryPoints := t.entryPoints ++ [entry]
      interface := if t.entryPoints = [] then i.usedIds else t.interface } := by
  unfold addEntryPoint at read
  simp only [except_bind_eq_ok_iff] at read
  obtain ⟨model, -, name, -, same⟩ := read
  cases same
  exact ⟨_, rfl⟩

theorem addName_eq_ok (read : t.addName i = .ok t') :
    t' = { t with
      names := noted t.names i.name?
      memberNames := noted t.memberNames i.memberName? } := by
  unfold addName at read
  cases opcode : i.opcode with
  | opName =>
      simp only [opcode, except_bind_eq_ok_iff] at read
      obtain ⟨id, needId, name, needText, same⟩ := read
      cases same
      have first := Instruction.getElem?_of_needId needId
      have second := Instruction.getElem?_of_needText needText
      simp [Instruction.name?, Instruction.memberName?, opcode, first, second, noted]
  | opMemberName =>
      simp only [opcode, except_bind_eq_ok_iff] at read
      obtain ⟨id, needId, member, needWord, name, needText, same⟩ := read
      cases same
      have first := Instruction.getElem?_of_needId needId
      have second := Instruction.getElem?_of_needWord needWord
      have third := Instruction.getElem?_of_needText needText
      simp [Instruction.name?, Instruction.memberName?, opcode, first, second, third, noted]
  | _ =>
      simp only [opcode] at read
      cases read
      simp [Instruction.name?, Instruction.memberName?, opcode, noted]

theorem addAnnotation_eq_ok (read : t.addAnnotation i = .ok t') :
    ∃ ids members, t' = { t with decorations := ids, memberDecorations := members } := by
  unfold addAnnotation at read
  cases opcode : i.opcode with
  | opDecorate =>
      simp only [opcode, except_bind_eq_ok_iff] at read
      obtain ⟨id, -, d, -, same⟩ := read
      cases same
      exact ⟨_, _, rfl⟩
  | opMemberDecorate =>
      simp only [opcode, except_bind_eq_ok_iff] at read
      obtain ⟨id, -, member, -, d, -, same⟩ := read
      cases same
      exact ⟨_, _, rfl⟩
  | _ =>
      simp only [opcode] at read
      cases read
      exact ⟨_, _, rfl⟩

/-- What reading a type, a constant or a variable changes of names, arrays and variables. -/
structure AddsGlobal (t : Tables) (i : Instruction) (t' : Tables) : Prop where
  interface : t'.interface = t.interface
  names : t'.names = t.names
  memberNames : t'.memberNames = t.memberNames
  elements : t'.elements = noted t.elements i.element?
  pointers : t'.pointers = noted t.pointers i.pointee?
  globalVars : t'.globalVars = t.globalVars ++ i.declared?.toList

/-- An operation that makes no array, no pointer and no variable. -/
def IsPlain (op : Opcode) : Prop :=
  op ≠ .opTypeArray ∧ op ≠ .opTypeRuntimeArray ∧ op ≠ .opTypePointer ∧ op ≠ .opVariable

theorem addsGlobal_of_plain (plain : IsPlain i.opcode)
    (same : ∃ types constants, t' = { t with types := types, constants := constants }) :
    AddsGlobal t i t' := by
  obtain ⟨types, constants, rfl⟩ := same
  obtain ⟨noArray, noRuntimeArray, noPointer, noVariable⟩ := plain
  have element : i.element? = none := by simp [Instruction.element?, noArray, noRuntimeArray]
  have pointee : i.pointee? = none := by simp [Instruction.pointee?, noPointer]
  have declared : i.declared? = none := by simp [Instruction.declared?, noVariable]
  constructor <;> simp [element, pointee, declared, noted]

theorem exists_of_addType {type : TypeDesc} (read : t.addType i type = .ok t') :
    ∃ types constants, t' = { t with types := types, constants := constants } := by
  obtain ⟨id, -, same⟩ := except_bind_eq_ok_iff.mp read
  cases same
  exact ⟨_, _, rfl⟩

theorem addsGlobal_of_array {element : Id} {type : TypeDesc} {next : Tables}
    (array : i.opcode = .opTypeArray ∨ i.opcode = .opTypeRuntimeArray)
    (needed : i.needId 0 = .ok element) (added : t.addElement i element = .ok next)
    (read : next.addType i type = .ok t') : AddsGlobal t i t' := by
  obtain ⟨id, needResult, same⟩ := except_bind_eq_ok_iff.mp added
  cases same
  obtain ⟨again, -, same⟩ := except_bind_eq_ok_iff.mp read
  cases same
  have element : i.element? = some (id, element) := by
    simp [Instruction.element?, array, resultId_of_needResult needResult,
      Instruction.getElem?_of_needId needed]
  have pointee : i.pointee? = none := by
    rcases array with opcode | opcode <;> simp [Instruction.pointee?, opcode]
  have declared : i.declared? = none := by
    rcases array with opcode | opcode <;> simp [Instruction.declared?, opcode]
  constructor <;> simp [element, pointee, declared, noted]

theorem addGlobal_eq_ok (read : t.addGlobal i = .ok t') : AddsGlobal t i t' := by
  unfold addGlobal at read
  cases opcode : i.opcode with
  | opTypeArray =>
      simp only [opcode, except_bind_eq_ok_iff] at read
      obtain ⟨element, needed, length, -, next, added, read⟩ := read
      exact addsGlobal_of_array (.inl opcode) needed added read
  | opTypeRuntimeArray =>
      simp only [opcode, except_bind_eq_ok_iff] at read
      obtain ⟨element, needed, next, added, read⟩ := read
      exact addsGlobal_of_array (.inr opcode) needed added read
  | opTypePointer =>
      simp only [opcode, except_bind_eq_ok_iff] at read
      obtain ⟨storage, -, target, needed, id, needResult, same⟩ := read
      cases same
      have element : i.element? = none := by simp [Instruction.element?, opcode]
      have pointee : i.pointee? = some (id, target) := by
        simp [Instruction.pointee?, opcode, resultId_of_needResult needResult,
          Instruction.getElem?_of_needId needed]
      have declared : i.declared? = none := by simp [Instruction.declared?, opcode]
      constructor <;> simp [element, pointee, declared, noted]
  | opVariable =>
      simp only [opcode, except_bind_eq_ok_iff] at read
      obtain ⟨storage, needed, id, needResult, pointer, needType, same⟩ := read
      cases same
      have element : i.element? = none := by simp [Instruction.element?, opcode]
      have pointee : i.pointee? = none := by simp [Instruction.pointee?, opcode]
      have declared : i.declared? = some ⟨id, pointer, storage⟩ := by
        simp [Instruction.declared?, opcode, resultId_of_needResult needResult,
          Instruction.eq_some_of_require needType, Instruction.getElem?_of_needStorage needed]
      constructor <;> simp [element, pointee, declared, noted]
  | opConstant =>
      simp only [opcode] at read
      refine addsGlobal_of_plain (by simp [IsPlain, opcode]) ?_
      split at read
      · obtain ⟨id, -, same⟩ := except_bind_eq_ok_iff.mp read
        cases same
        exact ⟨_, _, rfl⟩
      · cases read
        exact ⟨_, _, rfl⟩
  | opTypeVoid | opTypeBool | opTypeSampler =>
      simp only [opcode] at read
      exact addsGlobal_of_plain (by simp [IsPlain, opcode]) (exists_of_addType read)
  | opTypeFloat | opTypeStruct | opTypeImage | opTypeSampledImage =>
      simp only [opcode, except_bind_eq_ok_iff] at read
      obtain ⟨_, -, read⟩ := read
      exact addsGlobal_of_plain (by simp [IsPlain, opcode]) (exists_of_addType read)
  | opTypeInt | opTypeVector | opTypeMatrix =>
      simp only [opcode, except_bind_eq_ok_iff] at read
      obtain ⟨_, -, _, -, read⟩ := read
      exact addsGlobal_of_plain (by simp [IsPlain, opcode]) (exists_of_addType read)
  | _ =>
      simp only [opcode] at read
      cases read
      exact addsGlobal_of_plain (by simp [IsPlain, opcode]) ⟨_, _, rfl⟩

/-! ## Before the globals -/

section

variable {β : Type} (get : Tables → β)

theorem keeps_entryPoints (blind : ∀ t entries interface,
      get { t with entryPoints := entries, interface := interface } = get t)
    (ended : is.foldlM addEntryPoint t = .ok t') : get t' = get t := by
  refine foldlM_keeps get (fun u u' i read => ?_) ended
  obtain ⟨entry, rfl⟩ := addEntryPoint_eq_ok read
  exact blind u _ _

theorem keeps_names (blind : ∀ t names members,
      get { t with names := names, memberNames := members } = get t)
    (ended : is.foldlM addName t = .ok t') : get t' = get t := by
  refine foldlM_keeps get (fun u u' i read => ?_) ended
  rw [addName_eq_ok read]
  exact blind u _ _

theorem keeps_annotations (blind : ∀ t ids members,
      get { t with decorations := ids, memberDecorations := members } = get t)
    (ended : is.foldlM addAnnotation t = .ok t') : get t' = get t := by
  refine foldlM_keeps get (fun u u' i read => ?_) ended
  obtain ⟨ids, members, rfl⟩ := addAnnotation_eq_ok read
  exact blind u _ _

end

/-- The variables of instructions are listed in their order. -/
theorem globalVars_of_globals (globals : is.foldlM addGlobal t = .ok t') :
    t'.globalVars = t.globalVars ++ is.filterMap (·.declared?) := by
  induction is generalizing t with
  | nil =>
      cases globals
      simp
  | cons i rest ih =>
      rw [List.foldlM_cons] at globals
      obtain ⟨next, first, globals⟩ := except_bind_eq_ok_iff.mp globals
      rw [ih globals, (addGlobal_eq_ok first).globalVars, List.append_assoc]
      cases declared : i.declared? <;> simp [declared]

/-- What is read neither from entry points nor from names or annotations is not known before
the globals are read. -/
theorem unread_before_globals {β : Type} (get : Tables → β) {t₁ t₂ t₃ : Tables}
    (entries : m.entryPoints.foldlM addEntryPoint empty = .ok t₁)
    (names : m.debugNames.foldlM addName t₁ = .ok t₂)
    (annotations : m.annotations.foldlM addAnnotation t₂ = .ok t₃)
    (blindEntries : ∀ t entries interface,
      get { t with entryPoints := entries, interface := interface } = get t)
    (blindNames : ∀ t names members,
      get { t with names := names, memberNames := members } = get t)
    (blindAnnotations : ∀ t ids members,
      get { t with decorations := ids, memberDecorations := members } = get t) :
    get t₃ = get empty :=
  (keeps_annotations get blindAnnotations annotations).trans
    ((keeps_names get blindNames names).trans (keeps_entryPoints get blindEntries entries))

end Tables

end ShaderBundle.Spirv
