/-
# Proofs.Spirv.Once — ids that are defined once

Where no id is the result of two instructions (`DefinedOnce`), an instruction is the only one to
say what its result is.  So a type stays what it was made when its instruction was read
(`typeOf_foldlM`), and what it was made of is known by then, or it never is.

A type is made in one of three ways (`AddsType`): it is an array of another type; it is a vector, a
matrix or a sampled image and takes over the arrays of what it is made of; or it has no arrays.
-/
import ShaderBundle.Proofs.Spirv.Latest

namespace ShaderBundle.Spirv

set_option autoImplicit false

/-! ## What one instruction defines -/

namespace Instruction

/-- The constant of one word that an instruction defines, and its value. -/
def constant? (i : Instruction) : Option (Id × UInt32) :=
  if i.opcode = .opConstant then
    match i.resultId, i.operands with
    | some id, Operand.word n :: _ => some (id, n)
    | _, _ => none
  else none

/-- The vector, matrix or sampled image that an instruction defines, and what it is made of. -/
def madeOf? (i : Instruction) : Option (Id × Id) :=
  if i.opcode = .opTypeVector ∨ i.opcode = .opTypeMatrix ∨ i.opcode = .opTypeSampledImage then
    match i.resultId, i.operands[0]? with
    | some id, some (Operand.id base) => some (id, base)
    | _, _ => none
  else none

/-- The length of the arrays that an instruction defines, where ids have these values.  It is 0 for
arrays without a length and for a length without a value. -/
def lengthBy (i : Instruction) (value? : Id → Option UInt32) : UInt32 :=
  if i.opcode = .opTypeArray then
    match i.operands[1]? with
    | some (Operand.id length) => (value? length).getD 0
    | _ => 0
  else 0

theorem resultId_of_element? {i : Instruction} {array element : Id}
    (said : i.element? = some (array, element)) : i.resultId = some array := by
  unfold element? at said
  split_ifs at said
  split at said
  · cases said
    assumption
  · cases said

theorem resultId_of_madeOf? {i : Instruction} {id base : Id} (said : i.madeOf? = some (id, base)) :
    i.resultId = some id := by
  unfold madeOf? at said
  split_ifs at said
  split at said
  · cases said
    assumption
  · cases said

end Instruction

/-! ## Distinct results -/

/-- No id is the result of two instructions. -/
def DefinedOnce (is : List Instruction) : Prop := (is.filterMap (·.resultId)).Nodup

section

variable {before after : List Instruction} {i : Instruction} {id : Id}

theorem DefinedOnce.of_append (once : DefinedOnce (before ++ after)) : DefinedOnce before := by
  unfold DefinedOnce at once
  rw [List.filterMap_append] at once
  exact (List.nodup_append.mp once).1

/-- An id is not defined before its instruction. -/
theorem DefinedOnce.ne_before (once : DefinedOnce (before ++ i :: after))
    (result : i.resultId = some id) : ∀ j ∈ before, j.resultId ≠ some id := by
  unfold DefinedOnce at once
  rw [List.filterMap_append, List.filterMap_cons, result] at once
  intro j earlier same
  have inBefore : id ∈ before.filterMap (·.resultId) := List.mem_filterMap.mpr ⟨j, earlier, same⟩
  exact (List.nodup_append.mp once).2.2 id inBefore id List.mem_cons_self rfl

/-- An id is not defined again after its instruction. -/
theorem DefinedOnce.ne_after (once : DefinedOnce (before ++ i :: after))
    (result : i.resultId = some id) : ∀ j ∈ after, j.resultId ≠ some id := by
  unfold DefinedOnce at once
  rw [List.filterMap_append, List.filterMap_cons, result] at once
  intro j later same
  have inAfter : id ∈ after.filterMap (·.resultId) := List.mem_filterMap.mpr ⟨j, later, same⟩
  exact (List.nodup_cons.mp (List.nodup_append.mp once).2.1).1 inAfter

/-- What an instruction defines is defined by no other one. -/
theorem DefinedOnce.eq (once : DefinedOnce (before ++ i :: after)) (result : i.resultId = some id)
    {j : Instruction} (among : j ∈ before ++ i :: after) (same : j.resultId = some id) : j = i := by
  rcases List.mem_append.mp among with earlier | others
  · exact absurd same (once.ne_before result j earlier)
  · rcases List.mem_cons.mp others with own | later
    · exact own
    · exact absurd same (once.ne_after result j later)

/-- The only instruction for an array says last what its elements are. -/
theorem saidLast_element? (once : DefinedOnce (before ++ i :: after)) {array element : Id}
    (said : i.element? = some (array, element)) :
    saidLast Instruction.element? (before ++ i :: after) array = some element := by
  have own : saidOf Instruction.element? array i = some element := by simp [saidOf, said]
  have isSaid : (saidLast Instruction.element? (before ++ i :: after) array).isSome := by
    unfold saidLast
    rw [List.getLast?_isSome]
    exact List.ne_nil_of_mem (List.mem_filterMap.mpr ⟨i, by simp, own⟩)
  obtain ⟨other, last⟩ := Option.isSome_iff_exists.mp isSaid
  obtain ⟨j, among, said'⟩ := exists_of_saidLast last
  obtain rfl := once.eq (Instruction.resultId_of_element? said) among
    (Instruction.resultId_of_element? said')
  cases said.symm.trans said'
  exact last

end

/-! ## Types -/

namespace Tables

variable {t t' : Tables} {i : Instruction} {is : List Instruction}

/-- What reading a type, a constant or a variable changes of types and constants. -/
structure AddsType (t : Tables) (i : Instruction) (t' : Tables) : Prop where
  constants : t'.constants = noted t.constants i.constant?
  /-- Only the result of the instruction gets another type. -/
  others : ∀ id, i.resultId ≠ some id → t'.typeOf id = t.typeOf id
  array : ∀ id element, i.element? = some (id, element) →
    t'.typeOf id = (t.typeOf element).arrayOf (i.lengthBy t.constants.find?)
  made : ∀ id base, i.madeOf? = some (id, base) → (t'.typeOf id).array = (t.typeOf base).array
  /-- All other types have no arrays, and what is no type gets none. -/
  plain : ∀ id, i.element? = none → i.madeOf? = none →
    (t'.typeOf id).array = [] ∨ t'.typeOf id = t.typeOf id

/-- What changes no types adds none. -/
theorem addsType_of_untyped (types : t'.types = t.types)
    (constants : t'.constants = noted t.constants i.constant?) (element : i.element? = none)
    (made : i.madeOf? = none) : AddsType t i t' := by
  have same (id : Id) : t'.typeOf id = t.typeOf id := by rw [typeOf, types, typeOf]
  refine ⟨constants, fun id _ => same id, ?_, ?_, fun id _ _ => .inr (same id)⟩
  · rw [element]
    nofun
  · rw [made]
    nofun

theorem addsType_of_addType {d : TypeDesc} (read : t.addType i d = .ok t')
    (constant : i.constant? = none)
    (array : ∀ id element, i.element? = some (id, element) →
      d = (t.typeOf element).arrayOf (i.lengthBy t.constants.find?))
    (made : ∀ id base, i.madeOf? = some (id, base) → d.array = (t.typeOf base).array)
    (plain : i.element? = none → i.madeOf? = none → d.array = []) : AddsType t i t' := by
  obtain ⟨own, needed, same⟩ := except_bind_eq_ok_iff.mp read
  cases same
  have result := resultId_of_needResult needed
  have typed (id : Id) : ({ t with types := t.types.insert own d } : Tables).typeOf id =
      if id = own then d else t.typeOf id := by
    unfold typeOf
    rw [Table.find?_insert]
    split <;> rfl
  refine ⟨by rw [constant, noted], fun id other => ?_, fun id element said => ?_,
    fun id base said => ?_, fun id noArray notMade => ?_⟩
  · rw [typed, if_neg]
    rintro rfl
    exact other result
  · cases result.symm.trans (Instruction.resultId_of_element? said)
    rw [typed, if_pos rfl, array _ _ said]
  · cases result.symm.trans (Instruction.resultId_of_madeOf? said)
    rw [typed, if_pos rfl, made _ _ said]
  · rw [typed]
    split_ifs
    · exact .inl (plain noArray notMade)
    · exact .inr rfl

theorem addsType_of_array {element : Id} {next : Tables}
    (array : i.opcode = .opTypeArray ∨ i.opcode = .opTypeRuntimeArray)
    (needed : i.needId 0 = .ok element) (added : t.addElement i element = .ok next)
    (read : next.addType i ((t.typeOf element).arrayOf (i.lengthBy t.constants.find?)) = .ok t') :
    AddsType t i t' := by
  obtain ⟨id, -, same⟩ := except_bind_eq_ok_iff.mp added
  cases same
  have constant : i.constant? = none := by
    rcases array with opcode | opcode <;> simp [Instruction.constant?, opcode]
  have made : i.madeOf? = none := by
    rcases array with opcode | opcode <;> simp [Instruction.madeOf?, opcode]
  have elementAt := Instruction.getElem?_of_needId needed
  have said (result : Id) (isResult : i.resultId = some result) :
      i.element? = some (result, element) := by
    simp [Instruction.element?, array, isResult, elementAt]
  obtain ⟨result, needResult, -⟩ := except_bind_eq_ok_iff.mp read
  have own := said result (resultId_of_needResult needResult)
  -- the element was noted in between, which changes no type
  have adds := addsType_of_addType read constant
    (fun id other said' => by cases own.symm.trans said'; rfl)
    (fun id base said' => by rw [made] at said'; cases said')
    (fun noArray => by rw [own] at noArray; cases noArray)
  exact ⟨adds.constants, adds.others, adds.array, adds.made, adds.plain⟩

theorem addsType_of_made {base : Id} {d : TypeDesc}
    (made : i.opcode = .opTypeVector ∨ i.opcode = .opTypeMatrix ∨ i.opcode = .opTypeSampledImage)
    (needed : i.needId 0 = .ok base) (read : t.addType i d = .ok t')
    (arrays : d.array = (t.typeOf base).array) : AddsType t i t' := by
  have constant : i.constant? = none := by
    rcases made with opcode | opcode | opcode <;> simp [Instruction.constant?, opcode]
  have element : i.element? = none := by
    rcases made with opcode | opcode | opcode <;> simp [Instruction.element?, opcode]
  have baseAt := Instruction.getElem?_of_needId needed
  obtain ⟨result, needResult, -⟩ := except_bind_eq_ok_iff.mp read
  have own : i.madeOf? = some (result, base) := by
    simp [Instruction.madeOf?, made, resultId_of_needResult needResult, baseAt]
  refine addsType_of_addType read constant (fun id other said => ?_) (fun id other said => ?_)
    (fun _ notMade => ?_)
  · rw [element] at said
    cases said
  · cases own.symm.trans said
    exact arrays
  · rw [own] at notMade
    cases notMade

/-- An operation that makes neither a constant nor a type of another type. -/
def IsBare (op : Opcode) : Prop :=
  op ≠ .opConstant ∧ op ≠ .opTypeArray ∧ op ≠ .opTypeRuntimeArray ∧ op ≠ .opTypeVector ∧
    op ≠ .opTypeMatrix ∧ op ≠ .opTypeSampledImage

theorem IsBare.says_nothing (bare : IsBare i.opcode) :
    i.constant? = none ∧ i.element? = none ∧ i.madeOf? = none := by
  obtain ⟨noConstant, noArray, noRuntimeArray, noVector, noMatrix, noSampledImage⟩ := bare
  refine ⟨if_neg noConstant, if_neg ?_, if_neg ?_⟩
  · simp [noArray, noRuntimeArray]
  · simp [noVector, noMatrix, noSampledImage]

theorem addsType_of_bare {d : TypeDesc} (bare : IsBare i.opcode) (read : t.addType i d = .ok t')
    (noArrays : d.array = []) : AddsType t i t' := by
  obtain ⟨constant, element, made⟩ := bare.says_nothing
  refine addsType_of_addType read constant (fun id other said => ?_) (fun id other said => ?_)
    (fun _ _ => noArrays)
  · rw [element] at said
    cases said
  · rw [made] at said
    cases said

/-- Reading one instruction. -/
theorem addsType_of_addGlobal (read : t.addGlobal i = .ok t') : AddsType t i t' := by
  have untyped (bare : IsBare i.opcode) (same : t'.types = t.types ∧ t'.constants = t.constants) :
      AddsType t i t' := by
    obtain ⟨constant, element, made⟩ := bare.says_nothing
    exact addsType_of_untyped same.1 (by rw [constant, same.2, noted]) element made
  unfold addGlobal at read
  cases opcode : i.opcode with
  | opTypeArray =>
      simp only [opcode, except_bind_eq_ok_iff] at read
      obtain ⟨element, needed, length, needLength, next, added, read⟩ := read
      have lengthAt := Instruction.getElem?_of_needId needLength
      have same : i.lengthBy t.constants.find? = (t.constants.find? length).getD 0 := by
        simp [Instruction.lengthBy, opcode, lengthAt]
      rw [← same] at read
      exact addsType_of_array (.inl opcode) needed added read
  | opTypeRuntimeArray =>
      simp only [opcode, except_bind_eq_ok_iff] at read
      obtain ⟨element, needed, next, added, read⟩ := read
      have same : i.lengthBy t.constants.find? = 0 := by simp [Instruction.lengthBy, opcode]
      rw [← same] at read
      exact addsType_of_array (.inr opcode) needed added read
  | opTypeVector =>
      simp only [opcode, except_bind_eq_ok_iff] at read
      obtain ⟨component, needed, count, -, read⟩ := read
      exact addsType_of_made (.inl opcode) needed read rfl
  | opTypeMatrix =>
      simp only [opcode, except_bind_eq_ok_iff] at read
      obtain ⟨column, needed, count, -, read⟩ := read
      exact addsType_of_made (.inr (.inl opcode)) needed read rfl
  | opTypeSampledImage =>
      simp only [opcode, except_bind_eq_ok_iff] at read
      obtain ⟨image, needed, read⟩ := read
      exact addsType_of_made (.inr (.inr opcode)) needed read rfl
  | opTypeVoid | opTypeBool | opTypeSampler =>
      simp only [opcode] at read
      exact addsType_of_bare (by simp [IsBare, opcode]) read rfl
  | opTypeFloat | opTypeStruct | opTypeImage =>
      simp only [opcode, except_bind_eq_ok_iff] at read
      obtain ⟨_, -, read⟩ := read
      exact addsType_of_bare (by simp [IsBare, opcode]) read rfl
  | opTypeInt =>
      simp only [opcode, except_bind_eq_ok_iff] at read
      obtain ⟨_, -, _, -, read⟩ := read
      exact addsType_of_bare (by simp [IsBare, opcode]) read rfl
  | opTypePointer =>
      simp only [opcode, except_bind_eq_ok_iff] at read
      obtain ⟨storage, -, target, -, id, -, same⟩ := read
      cases same
      exact untyped (by simp [IsBare, opcode]) ⟨rfl, rfl⟩
  | opVariable =>
      simp only [opcode, except_bind_eq_ok_iff] at read
      obtain ⟨storage, -, id, -, pointer, -, same⟩ := read
      cases same
      exact untyped (by simp [IsBare, opcode]) ⟨rfl, rfl⟩
  | opConstant =>
      simp only [opcode] at read
      have element : i.element? = none := by simp [Instruction.element?, opcode]
      have made : i.madeOf? = none := by simp [Instruction.madeOf?, opcode]
      split at read
      · rename_i n rest operands
        obtain ⟨id, needed, same⟩ := except_bind_eq_ok_iff.mp read
        cases same
        have constant : i.constant? = some (id, n) := by
          simp [Instruction.constant?, opcode, resultId_of_needResult needed, operands]
        exact addsType_of_untyped rfl (by rw [constant, noted]) element made
      · rename_i noWord
        cases read
        have constant : i.constant? = none := by
          unfold Instruction.constant?
          rw [if_pos opcode]
          split
          · rename_i operands
            exact absurd operands (noWord _ _)
          · rfl
        exact addsType_of_untyped rfl (by rw [constant, noted]) element made
  | _ =>
      simp only [opcode] at read
      cases read
      exact untyped (by simp [IsBare, opcode]) ⟨rfl, rfl⟩

/-- What no instruction defines keeps its type. -/
theorem typeOf_foldlM {id : Id} (others : ∀ i ∈ is, i.resultId ≠ some id)
    (ended : is.foldlM addGlobal t = .ok t') : t'.typeOf id = t.typeOf id := by
  refine foldlM_invariant (P := fun u => u.typeOf id = t.typeOf id) ?_ rfl ended
  intro i among u u' same first
  exact ((addsType_of_addGlobal first).others id (others i among)).trans same

/-- The constants that are known are those that instructions say. -/
theorem constants_foldlM (unknown : t.constants = .empty) (ended : is.foldlM addGlobal t = .ok t')
    (id : Id) : t'.constants.find? id = saidLast Instruction.constant? is id := by
  rw [find?_foldlM (·.constants) Instruction.constant?
    (fun _ _ _ read => (addsType_of_addGlobal read).constants) ended id, unknown]
  exact Option.or_none

/-- A module is read up to any place in its globals, and then the rest of them. -/
theorem exists_of_split {m : Module} {before rest : List Instruction} (read : ofModule m = .ok t)
    (split : m.globals = before ++ rest) :
    ∃ start u, start.types = .empty ∧ start.constants = .empty ∧
      before.foldlM addGlobal start = .ok u ∧ rest.foldlM addGlobal u = .ok t := by
  obtain ⟨t₁, entries, -, t₂, names, t₃, annotations, globals⟩ := (ofModule_sweeps m t).mp read
  have fresh {β : Type} (get : Tables → β) := unread_before_globals get entries names annotations
  rw [split, List.foldlM_append] at globals
  obtain ⟨u, first, later⟩ := except_bind_eq_ok_iff.mp globals
  exact ⟨t₃, u, fresh (·.types) (fun _ _ _ => rfl) (fun _ _ _ => rfl) (fun _ _ _ => rfl),
    fresh (·.constants) (fun _ _ _ => rfl) (fun _ _ _ => rfl) (fun _ _ _ => rfl), first, later⟩

end Tables

end ShaderBundle.Spirv
