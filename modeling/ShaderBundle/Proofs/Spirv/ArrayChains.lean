/-
# Proofs.Spirv.ArrayChains — arrays of arrays

A chain of arrays leads from its outermost type to a type that is no array (`ArrayChain`).  The
tables know of it in two ways.  Each description of an array has the lengths of all arrays of the
chain, and a table of its own has the type of the elements of each.  `array_chain_exact` says that
both agree with the instructions, and what is made of them: following elements ends at the
innermost type, a member of a block shows one length, and a structure that ends in such a member is
as large as stride and outermost length make it.

What carries the proofs is the order of definitions.  An array comes after the type of its elements
(`Module.InOrder`), so when it is read the description of these is final (`typeOf_array`), and no
array is among its own elements (`InOrder.acyclic`).  Following elements looks at no order.

A type that is no array may have lengths all the same: a vector of arrays takes these over
(`HoldsArray`).  They stand before the lengths of the chain, so the first of all lengths is one of
them (`vector_of_arrays_keeps_lengths`).
-/
import ShaderBundle.Proofs.Bundle.Layouts
import ShaderBundle.Proofs.Spirv.Once
import ShaderBundle.Proofs.Spirv.Resources
import ShaderBundle.Proofs.Spirv.Sizes

namespace ShaderBundle.Spirv

set_option autoImplicit false

/-! ## Chains -/

/-- Ids are defined once, and the type of the elements of an array before the array. -/
structure Module.InOrder (m : Module) : Prop where
  once : DefinedOnce m.globals
  elementsFirst : ∀ before i after array element, m.globals = before ++ i :: after →
    i.element? = some (array, element) → ∃ j ∈ before, j.resultId = some element

/-- Arrays of arrays, from a type that is no array outwards, with their lengths from the inside
out.  The length of an array is the constant that its length id has by then. -/
inductive ArrayChain (is : List Instruction) (inner : Id) : List UInt32 → Id → Prop where
  | inner : (∀ i ∈ is, ∀ element, i.element? ≠ some (inner, element)) → ArrayChain is inner [] inner
  | array {before after : List Instruction} {i : Instruction} {lengths : List UInt32}
      {element outer : Id} : is = before ++ i :: after → i.element? = some (outer, element) →
      ArrayChain is inner lengths element →
      ArrayChain is inner (lengths ++ [i.lengthBy (saidLast Instruction.constant? before)]) outer

/-- An id is defined as an array, or as a vector, a matrix or a sampled image of what was defined
as one before. -/
inductive HoldsArray : List Instruction → Id → Prop where
  | array {before after : List Instruction} {i : Instruction} {id element : Id} :
      i.element? = some (id, element) → HoldsArray (before ++ i :: after) id
  | made {before after : List Instruction} {i : Instruction} {id base : Id} :
      i.madeOf? = some (id, base) → HoldsArray before base → HoldsArray (before ++ i :: after) id

section

variable {is : List Instruction} {i : Instruction} {id : Id}

/-- Where a list with one more element at its end is split, that is the element in the middle, or
it stands behind it. -/
theorem split_of_concat {α : Type} {l before after : List α} {a b : α}
    (split : l ++ [a] = before ++ b :: after) :
    (l = before ∧ a = b) ∨ ∃ rest, l = before ++ b :: rest := by
  rcases List.eq_nil_or_concat after with rfl | ⟨rest, c, rfl⟩
  · exact .inl (List.append_singleton_inj.mp split)
  · rw [List.concat_eq_append, ← List.cons_append, ← List.append_assoc] at split
    exact .inr ⟨rest, (List.append_singleton_inj.mp split).1⟩

/-- What one more instruction adds. -/
theorem holdsArray_concat_iff : HoldsArray (is ++ [i]) id ↔
    HoldsArray is id ∨ (∃ element, i.element? = some (id, element)) ∨
      ∃ base, i.madeOf? = some (id, base) ∧ HoldsArray is base := by
  constructor
  · intro holds
    generalize whole : is ++ [i] = all at holds
    cases holds with
    | array said =>
        rcases split_of_concat whole with ⟨-, rfl⟩ | ⟨rest, rfl⟩
        · exact .inr (.inl ⟨_, said⟩)
        · exact .inl (.array said)
    | made said earlier =>
        rcases split_of_concat whole with ⟨rfl, rfl⟩ | ⟨rest, rfl⟩
        · exact .inr (.inr ⟨_, said, earlier⟩)
        · exact .inl (.made said earlier)
  · rintro (holds | ⟨element, said⟩ | ⟨base, said, earlier⟩)
    · cases holds with
      | array said =>
          rw [List.append_assoc]
          exact .array said
      | made said earlier =>
          rw [List.append_assoc]
          exact .made said earlier
    · exact .array said
    · exact .made said earlier

theorem HoldsArray.defined (holds : HoldsArray is id) : ∃ i ∈ is, i.resultId = some id := by
  cases holds with
  | @array before after i _ element said =>
      exact ⟨i, by simp, Instruction.resultId_of_element? said⟩
  | @made before after i _ base said earlier =>
      exact ⟨i, by simp, Instruction.resultId_of_madeOf? said⟩

end

/-! ## Descriptions -/

namespace Tables

variable {m : Module} {t t' : Tables}

/-- After one more instruction an id has lengths if it had some, if it is an array now, or if it
is made of what had some. -/
theorem AddsType.array_ne_nil_iff {i : Instruction} (adds : AddsType t i t') {id : Id}
    (new : i.resultId = some id → (t.typeOf id).array = []) :
    (t'.typeOf id).array ≠ [] ↔ (t.typeOf id).array ≠ [] ∨
      (∃ element, i.element? = some (id, element)) ∨
        ∃ base, i.madeOf? = some (id, base) ∧ (t.typeOf base).array ≠ [] := by
  by_cases own : i.resultId = some id
  · have none := new own
    cases array : i.element? with
    | some said =>
        obtain ⟨result, element⟩ := said
        cases own.symm.trans (Instruction.resultId_of_element? array)
        rw [adds.array _ _ array]
        simp [TypeDesc.arrayOf]
    | none =>
        cases made : i.madeOf? with
        | some said =>
            obtain ⟨result, base⟩ := said
            cases own.symm.trans (Instruction.resultId_of_madeOf? made)
            rw [adds.made _ _ made]
            simp [none]
        | none =>
            rcases adds.plain id array made with empty | same
            · simp [empty, none]
            · simp [same, none]
  · have noArray (element : Id) : i.element? ≠ some (id, element) :=
      fun said => own (Instruction.resultId_of_element? said)
    have notMade (base : Id) : i.madeOf? ≠ some (id, base) :=
      fun said => own (Instruction.resultId_of_madeOf? said)
    rw [adds.others id own]
    simp [noArray, notMade]

theorem array_ne_nil_iff_of_globals {is : List Instruction} (once : DefinedOnce is)
    (untyped : t.types = .empty) (ended : is.foldlM addGlobal t = .ok t') (id : Id) :
    (t'.typeOf id).array ≠ [] ↔ HoldsArray is id := by
  induction is using List.reverseRecOn generalizing t' id with
  | nil =>
      cases ended
      constructor
      · intro lengths
        rw [typeOf, untyped] at lengths
        exact absurd rfl lengths
      · intro holds
        obtain ⟨i, among, -⟩ := holds.defined
        cases among
  | append_singleton is i ih =>
      rw [List.foldlM_append] at ended
      obtain ⟨u, first, last⟩ := except_bind_eq_ok_iff.mp ended
      obtain ⟨next, last, same⟩ := except_bind_eq_ok_iff.mp last
      cases same
      have before := ih once.of_append first
      -- what the instruction defines was not defined before
      have new (own : i.resultId = some id) : (u.typeOf id).array = [] := by
        by_contra lengths
        obtain ⟨j, earlier, same⟩ := ((before id).mp lengths).defined
        exact once.ne_before own j earlier same
      rw [holdsArray_concat_iff, (addsType_of_addGlobal last).array_ne_nil_iff new]
      simp only [before]

/-- **A description has lengths exactly where an array is held.** -/
theorem array_ne_nil_iff (read : ofModule m = .ok t) (once : DefinedOnce m.globals) (id : Id) :
    (t.typeOf id).array ≠ [] ↔ HoldsArray m.globals id := by
  obtain ⟨start, u, untyped, -, first, rest⟩ :=
    exists_of_split read (List.append_nil m.globals).symm
  cases rest
  exact array_ne_nil_iff_of_globals once untyped first id

/-- Where the type of the elements comes first, an array is described by its final description. -/
theorem typeOf_array (read : ofModule m = .ok t) (inOrder : m.InOrder)
    {before after : List Instruction} {i : Instruction} {array element : Id}
    (split : m.globals = before ++ i :: after) (said : i.element? = some (array, element)) :
    t.typeOf array = (t.typeOf element).arrayOf
      (i.lengthBy (saidLast Instruction.constant? before)) := by
  obtain ⟨start, u, -, noConstants, first, rest⟩ := exists_of_split read split
  have once := inOrder.once
  rw [split] at once
  have constants : u.constants.find? = saidLast Instruction.constant? before :=
    funext (constants_foldlM noConstants first)
  have kept : t.typeOf element = u.typeOf element := by
    obtain ⟨j, earlier, defines⟩ := inOrder.elementsFirst before i after array element split said
    obtain ⟨front, back, rfl⟩ := List.append_of_mem earlier
    rw [List.append_assoc, List.cons_append] at once
    refine typeOf_foldlM (fun k later => once.ne_after defines k ?_) rest
    exact List.mem_append_right _ later
  rw [List.foldlM_cons] at rest
  obtain ⟨next, step, later⟩ := except_bind_eq_ok_iff.mp rest
  have result := Instruction.resultId_of_element? said
  calc t.typeOf array = next.typeOf array := typeOf_foldlM (once.ne_after result) later
    _ = (u.typeOf element).arrayOf (i.lengthBy u.constants.find?) :=
        (addsType_of_addGlobal step).array array element said
    _ = _ := by rw [kept, constants]

/-- The lengths of a chain stand behind those that the innermost type has. -/
theorem typeOf_of_chain (read : ofModule m = .ok t) (inOrder : m.InOrder) {inner outer : Id}
    {lengths : List UInt32} (chain : ArrayChain m.globals inner lengths outer) :
    t.typeOf outer =
      { t.typeOf inner with array := (t.typeOf inner).array ++ lengths } := by
  induction chain with
  | inner => rw [List.append_nil]
  | array split said _ ih =>
      rw [typeOf_array read inOrder split said, ih, TypeDesc.arrayOf, List.append_assoc]

end Tables

/-! ## Elements -/

section

variable {m : Module}

/-- The place of the instruction that defines an id. -/
def Module.placeOf (m : Module) (id : Id) : Nat :=
  m.globals.findIdx fun i => i.resultId = some id

/-- Where the type of the elements comes first, no array is among its own elements. -/
theorem Module.InOrder.acyclic (inOrder : m.InOrder) :
    NoCycle fun a b => m.element? a = some b := by
  apply noCycle_of_below m.placeOf
  intro array element goes
  obtain ⟨i, among, said⟩ := exists_of_saidLast goes
  obtain ⟨before, after, split⟩ := List.append_of_mem among
  obtain ⟨j, earlier, defines⟩ := inOrder.elementsFirst before i after array element split said
  have once := inOrder.once
  rw [split] at once
  have fresh := once.ne_before (Instruction.resultId_of_element? said)
  have early : (before.findIdx fun k => k.resultId = some element) < before.length :=
    List.findIdx_lt_length_of_exists ⟨j, earlier, decide_eq_true defines⟩
  have late : (before.findIdx fun k => k.resultId = some array) = before.length := by
    apply List.findIdx_eq_length_of_false
    intro k inBefore
    exact decide_eq_false (fresh k inBefore)
  show (m.globals.findIdx _) < (m.globals.findIdx _)
  rw [split, List.findIdx_append, List.findIdx_append, if_pos early, late, if_neg (Nat.lt_irrefl _)]
  omega

/-- Elements lead down the chain, one link for each length. -/
theorem elements_of_chain (inOrder : m.InOrder) {inner outer : Id} {lengths : List UInt32}
    (chain : ArrayChain m.globals inner lengths outer) :
    Leads m.element? outer inner ∧ EndsWithin m.element? lengths.length outer := by
  induction chain with
  | inner noArray =>
      have ends : m.element? inner = none := by
        by_contra goes
        obtain ⟨element, goes⟩ := Option.ne_none_iff_exists'.mp goes
        obtain ⟨i, among, said⟩ := exists_of_saidLast goes
        exact noArray i among element said
      exact ⟨.done ends, .done ends⟩
  | @array before after i lengths element outer split said _ ih =>
      have once := inOrder.once
      rw [split] at once
      have goes : m.element? outer = some element := by
        rw [Module.element?, split]
        exact saidLast_element? once said
      rw [List.length_append, List.length_singleton]
      exact ⟨.link goes ih.1, .link goes ih.2⟩

end

/-! ## What is made of a chain -/

/-- What a shader makes of a chain of arrays. -/
structure SeesChain (s : ModuleShader) (inner : Id) (lengths : List UInt32) (outer : Id) :
    Prop where
  /-- The outermost type is the innermost one with the lengths of the chain behind its own. -/
  type : Shader.typeOf s outer =
    { Shader.typeOf s inner with array := (Shader.typeOf s inner).array ++ lengths }
  /-- It has lengths of its own only if it is made of arrays. -/
  own : (Shader.typeOf s inner).array ≠ [] ↔ HoldsArray s.module.globals inner
  /-- Elements lead to the innermost type, and nowhere from there. -/
  ends : Leads s.tables.elements.find? outer inner
  /-- Following as many of them as there are lengths gets there, and more change nothing. -/
  strips : ∀ fuel, lengths.length ≤ fuel → s.tables.stripArrays fuel outer = inner
  strip : s.tables.strip outer = inner
  /-- A member of a block shows the first of the lengths. -/
  count : ∀ (scheme : BindingScheme) (r : Resource) (k : Nat),
    (Shader.typeOf s r.baseType).members[k]? = some outer →
    ∃ u, (reflectBlock scheme s r).uniforms[k]? = some u ∧
      u.arrayCount = ((Shader.typeOf s inner).array ++ lengths).headD 0
  /-- At the end of a structure it takes its stride for each element of the outermost length. -/
  size : ∀ (id : Id) (length : UInt32), (Shader.typeOf s id).members.getLast? = some outer →
    lengths.getLast? = some length →
    (Shader.structSize s id).toNat =
      min (s.tables.lastOffset id +
        min ((Shader.decoration s outer .arrayStride).toNat * length.toNat) greatestWord)
        greatestWord

/-- The chains over a type that is not made of arrays are described by their own lengths. -/
theorem SeesChain.of_not_holdsArray {s : ModuleShader} {inner outer : Id} {lengths : List UInt32}
    (sees : SeesChain s inner lengths outer) (plain : ¬ HoldsArray s.module.globals inner) :
    Shader.typeOf s outer = { Shader.typeOf s inner with array := lengths } := by
  have noLengths : (Shader.typeOf s inner).array = [] := by
    by_contra lengths
    exact plain (sees.own.mp lengths)
  rw [sees.type, noLengths, List.nil_append]

/-- The declared size of a structure that ends in an array. -/
theorem Tables.toNat_structSize_of_array {t : Tables} {id memberType : Id} {length : UInt32}
    (last : (t.typeOf id).members.getLast? = some memberType)
    (outermost : (t.typeOf memberType).array.getLast? = some length) :
    (t.structSize id).toNat =
      min (t.lastOffset id + min ((t.decoration memberType .arrayStride).toNat * length.toNat)
        greatestWord) greatestWord := by
  have ending : t.ending id =
      .bytes ((t.decoration memberType .arrayStride).toNat * length.toNat) := by
    simp only [ending, last, outermost]
  rw [structSize, toNat_structSizeUpTo_succ, ending, min_add_min]

/-- **Chains of arrays are read exactly.** -/
theorem array_chain_exact {m : Module} {s : ModuleShader}
    (accepted : ModuleShader.ofModule m = .ok s) (inOrder : m.InOrder) {inner outer : Id}
    {lengths : List UInt32} (chain : ArrayChain m.globals inner lengths outer) :
    SeesChain s inner lengths outer := by
  obtain ⟨rfl, read⟩ := read_of_ofModule accepted
  have elements : s.tables.elements.find? = s.module.element? :=
    funext (Tables.tells_of_ofModule read).elements
  obtain ⟨leads, within⟩ := elements_of_chain inOrder chain
  have acyclic := inOrder.acyclic
  rw [← elements] at leads within acyclic
  have type := Tables.typeOf_of_chain read inOrder chain
  have lengthsOf : (s.tables.typeOf outer).array = (s.tables.typeOf inner).array ++ lengths := by
    rw [type]
  refine ⟨type, Tables.array_ne_nil_iff read inOrder.once inner, leads, ?_, ?_, ?_, ?_⟩
  · intro fuel enough
    exact (leads_stripArrays within enough).unique leads
  · exact (leads_strip acyclic outer).unique leads
  · intro scheme r k member
    refine ⟨reflectUniform s r.baseType (0 + UInt32.ofNat k) outer, ?_,
      congrArg (·.headD 0) lengthsOf⟩
    show (reflectUniforms s r.baseType 0 _)[k]? = _
    rw [getElem?_reflectUniforms, member, Option.map_some]
  · intro id length last outermost
    refine Tables.toNat_structSize_of_array last ?_
    rw [lengthsOf, List.getLast?_append, outermost, Option.some_or]

/-! ## Modules with chains -/

section

variable {is : List Instruction}

theorem eq_take_append_drop {n : Nat} {i : Instruction} (atPlace : is[n]? = some i) :
    is = is.take n ++ i :: is.drop (n + 1) := by
  obtain ⟨inList, rfl⟩ := List.getElem?_eq_some_iff.mp atPlace
  rw [List.cons_getElem_drop_succ, List.take_append_drop]

/-- It is enough to look at the instructions before each array. -/
theorem Module.inOrder_of_checked {m : Module} (once : DefinedOnce m.globals)
    (checked : (List.range m.globals.length).all fun n =>
      (m.globals[n]?.bind (·.element?)).all fun said =>
        (m.globals.take n).any fun j => j.resultId = some said.2) : m.InOrder := by
  refine ⟨once, ?_⟩
  intro before i after array element split said
  have inList : before.length < m.globals.length := by
    rw [split, List.length_append, List.length_cons]
    omega
  have atPlace : m.globals[before.length]? = some i := by simp [split]
  have front : m.globals.take before.length = before := by simp [split]
  have own := List.all_eq_true.mp checked before.length (List.mem_range.mpr inList)
  rw [atPlace, Option.bind_some, said, Option.all_some, front, List.any_eq_true] at own
  simpa using own

theorem ArrayChain.of_checked {inner : Id}
    (checked : is.all fun i => i.element?.all fun said => said.1 ≠ inner) :
    ArrayChain is inner [] inner := by
  refine .inner fun i among element said => ?_
  have own := List.all_eq_true.mp checked i among
  simp [said] at own

/-- The instruction at a place makes a chain longer. -/
theorem ArrayChain.array_at {inner element outer : Id} {lengths : List UInt32} {length : UInt32}
    (chain : ArrayChain is inner lengths element) (n : Nat)
    (said : is[n]?.bind (·.element?) = some (outer, element))
    (long : is[n]?.map (·.lengthBy (saidLast Instruction.constant? (is.take n))) = some length) :
    ArrayChain is inner (lengths ++ [length]) outer := by
  obtain ⟨i, atPlace, said⟩ := Option.bind_eq_some_iff.mp said
  rw [atPlace, Option.map_some] at long
  rw [← Option.some.inj long]
  exact .array (eq_take_append_drop atPlace) said chain

end

/-- A module of a fragment shader whose block ends in arrays of arrays of arrays of colors: two in
each of the inner ones, no number given for the next, and five of these. -/
def stackModule : Module :=
  let steps : Builder.Build Unit := do
    let color ← Builder.vec 4
    let row ← Builder.array color 2 16
    let rows ← Builder.addGlobal .opTypeRuntimeArray none [.id row]
    Builder.decorate rows .arrayStride [.word 32]
    let stack ← Builder.array rows 5 0x40000000
    let _ ← Builder.uniformBlock "params" [⟨"tint", color, 0⟩, ⟨"stack", stack, 16⟩] 0 0
  (steps.run (.start .fragment)).2.finish "main"

theorem stackModule_inOrder : stackModule.InOrder := by
  apply Module.inOrder_of_checked
  · show List.Nodup _
    decide +kernel
  · decide +kernel

theorem stackModule_chain : ArrayChain stackModule.globals 2 [2, 0, 5] 8 := by
  have color : ArrayChain stackModule.globals 2 [] 2 := .of_checked (by decide +kernel)
  have row : ArrayChain stackModule.globals 2 [2] 5 :=
    color.array_at 4 (by decide +kernel) (by decide +kernel)
  have rows : ArrayChain stackModule.globals 2 [2, 0] 6 :=
    row.array_at 5 (by decide +kernel) (by decide +kernel)
  exact rows.array_at 7 (by decide +kernel) (by decide +kernel)

/-- The block shows the stack as two, and its size is more than the greatest word. -/
theorem array_chain_exact_stack :
    ModuleShader.ofModule stackModule = .ok (shaderOf stackModule) ∧ stackModule.InOrder ∧
      ArrayChain stackModule.globals 2 [2, 0, 5] 8 ∧
      Shader.typeOf (shaderOf stackModule) 8 =
        { Shader.typeOf (shaderOf stackModule) 2 with array := [2, 0, 5] } ∧
      (shaderOf stackModule).tables.strip 8 = 2 ∧
      (∀ scheme r, r.baseType = 9 → ∃ u : Uniform,
        (reflectBlock scheme (shaderOf stackModule) r).uniforms[1]? = some u ∧ u.arrayCount = 2) ∧
      (Shader.structSize (shaderOf stackModule) 9).toNat = greatestWord := by
  have accepted : ModuleShader.ofModule stackModule = .ok (shaderOf stackModule) := by
    decide +kernel
  have sees := array_chain_exact accepted stackModule_inOrder stackModule_chain
  have own : (Shader.typeOf (shaderOf stackModule) 2).array = [] := by decide +kernel
  have members : (Shader.typeOf (shaderOf stackModule) 9).members = [2, 8] := by decide +kernel
  have offset : (shaderOf stackModule).tables.lastOffset 9 = 16 := by decide +kernel
  have stride : Shader.decoration (shaderOf stackModule) 8 .arrayStride = 0x40000000 := by
    decide +kernel
  refine ⟨accepted, stackModule_inOrder, stackModule_chain, ?_, sees.strip, ?_, ?_⟩
  · apply sees.of_not_holdsArray
    intro holds
    exact sees.own.mpr holds own
  · intro scheme r block
    obtain ⟨u, shown, count⟩ := sees.count scheme r 1 (by rw [block, members]; rfl)
    rw [own] at count
    exact ⟨u, shown, count⟩
  · have size := sees.size 9 5 (by rw [members]; rfl) rfl
    rw [offset, stride] at size
    exact size.trans (by decide)

/-- A module of a fragment shader whose block is an array of vectors whose components are arrays
of two floats. -/
def bundledModule : Module :=
  let steps : Builder.Build Unit := do
    let float ← Builder.float
    let pair ← Builder.array float 2 4
    let lanes ← Builder.addGlobal .opTypeVector none [.id pair, .word 4]
    let bundle ← Builder.array lanes 3 16
    let _ ← Builder.uniformBlock "params" [⟨"lanes", bundle, 0⟩] 0 0
  (steps.run (.start .fragment)).2.finish "main"

/-- A vector is no array, but a vector of arrays has their lengths. -/
theorem vector_of_arrays_keeps_lengths :
    ¬ ∀ (m : Module) (s : ModuleShader), ModuleShader.ofModule m = .ok s → m.InOrder →
      ∀ (inner outer : Id) (lengths : List UInt32), ArrayChain m.globals inner lengths outer →
        Shader.typeOf s outer = { Shader.typeOf s inner with array := lengths } := by
  intro always
  have accepted : ModuleShader.ofModule bundledModule = .ok (shaderOf bundledModule) := by
    decide +kernel
  have inOrder : bundledModule.InOrder := by
    apply Module.inOrder_of_checked
    · show List.Nodup _
      decide +kernel
    · decide +kernel
  have lanes : ArrayChain bundledModule.globals 5 [] 5 := .of_checked (by decide +kernel)
  have bundle : ArrayChain bundledModule.globals 5 [3] 7 :=
    lanes.array_at 6 (by decide +kernel) (by decide +kernel)
  have described := congrArg TypeDesc.array (always _ _ accepted inOrder 5 7 [3] bundle)
  have lengths : (Shader.typeOf (shaderOf bundledModule) 7).array = [2, 3] := by decide +kernel
  rw [lengths] at described
  exact absurd described (by decide)

end ShaderBundle.Spirv
