/-
# Proofs.Spirv.SlotAnnotations — what is left of the bindings a module came with

Fixing the bind slots restates the set and the binding of every block and image.  If at most
one annotation gave an id its binding, exactly one does so afterwards, and it gives the new
one (`SlotAnnotated.once_iff`).  If more than one did, only the first of them is changed: the
others are still there, and since the last one counts, reading the module again gives the
binding that it came with (`SlotAnnotated.read_again`).  The tables, which answer questions
in memory, have the new binding either way.
-/
import ShaderBundle.Proofs.Spirv.Rebinding
import ShaderBundle.Proofs.Spirv.Variables

namespace ShaderBundle.Spirv

set_option autoImplicit false

/-! ## A key that is set once -/

section

variable {s : ModuleShader} {r : Rewrite} {rs : List Rewrite}

/-- Where no key is set twice, and none is of a member, no other rewrite touches the key of one. -/
theorem exists_split_of_mem (given : r ∈ rs) (ids : ∀ q ∈ rs, q.key.member = none)
    (distinct : (rs.map Rewrite.key).Nodup) :
    ∃ before after, rs = before ++ r :: after ∧ (∀ q ∈ before, ¬ q.Touches r.key) ∧
      ∀ q ∈ after, ¬ q.Touches r.key := by
  obtain ⟨before, after, rfl⟩ := List.append_of_mem given
  have untouched {q : Rewrite} (among : q ∈ before ++ r :: after) (apart : q.key ≠ r.key) :
      ¬ q.Touches r.key := by
    rintro (same | opposite)
    · exact apart same
    · rw [Key.opposite?, ids q among] at opposite
      cases opposite
  rw [List.map_append, List.map_cons, List.nodup_append, List.nodup_cons] at distinct
  obtain ⟨-, ⟨notAfter, -⟩, apart⟩ := distinct
  refine ⟨before, after, rfl, ?_, ?_⟩
  · intro q among
    exact untouched (List.mem_append_left _ among)
      (apart q.key (List.mem_map_of_mem among) r.key List.mem_cons_self)
  · intro q among
    refine untouched (List.mem_append_right _ (List.mem_cons_of_mem _ among)) ?_
    intro same
    exact notAfter (same ▸ List.mem_map_of_mem among)

/-- A key that is set once is restated once. -/
theorem stated_rewriteAll_of_once {before after : List Rewrite}
    (earlier : ∀ q ∈ before, ¬ q.Touches r.key) (later : ∀ q ∈ after, ¬ q.Touches r.key) :
    ∃ first, first.opcode = r.key.opcode ∧ first.operands = r.instruction.operands ∧
      stated (s.rewriteAll (before ++ r :: after)).module.annotations r.key =
        first :: (stated s.module.annotations r.key).tail := by
  rw [rewriteAll_append, ← stated_rewriteAll_of_untouched (s := s) earlier]
  have behind : stated ((s.rewriteAll before).rewriteAll (r :: after)).module.annotations r.key =
      stated ((s.rewriteAll before).rewrite r).module.annotations r.key :=
    stated_rewriteAll_of_untouched later
  rw [behind]
  exact stated_rewrite_self (s.rewriteAll before) r

theorem valueAt_rewriteAll_of_once (before : List Rewrite) {after : List Rewrite}
    (later : ∀ q ∈ after, ¬ q.Touches r.key) :
    (s.rewriteAll (before ++ r :: after)).tables.valueAt r.key = some r.value := by
  rw [valueAt_rewriteAll_of_last later, valueAt_rewrite, if_pos rfl]

end

/-! ## Reading again -/

theorem valuesFor_eq (annotations : List Instruction) (k : Key) :
    valuesFor annotations k = (stated annotations k).filterMap (·.valueFor? k) := by
  unfold valuesFor stated
  rw [List.filterMap_filter]
  congr 1
  funext i
  by_cases states : i.states k
  · rw [if_pos states]
  · rw [if_neg states, Instruction.valueFor?_eq_none states]

/-- The first of several annotations of a key does not count. -/
theorem getLast?_valuesFor_of_rest {annotations : List Instruction} {k : Key} {first : Instruction}
    {rest : List Instruction} (split : stated annotations k = first :: rest) (more : rest ≠ []) :
    (valuesFor annotations k).getLast? = (rest.filterMap (·.valueFor? k)).getLast? := by
  have states : ∀ i ∈ rest, i.states k := by
    intro i behind
    have among : i ∈ stated annotations k := by
      rw [split]
      exact List.mem_cons_of_mem _ behind
    exact (List.mem_filter.mp among).2
  have valued : rest.filterMap (·.valueFor? k) ≠ [] := by
    obtain ⟨i, behind⟩ := List.exists_mem_of_ne_nil rest more
    obtain ⟨value, statement⟩ := Option.isSome_iff_exists.mp
      ((i.valueFor?_isSome_iff k).mpr (states i behind))
    exact List.ne_nil_of_mem (List.mem_filterMap.mpr ⟨i, behind, statement⟩)
  rw [valuesFor_eq, split, List.filterMap_cons]
  cases first.valueFor? k with
  | none => rfl
  | some value => exact List.getLast?_cons_of_ne_nil valued

/-! ## A slot that is set -/

/-- Exactly one annotation gives an id this decoration, with this literal. -/
def StatedOnce (annotations : List Instruction) (id : Id) (d : Decoration) (value : UInt32) : Prop :=
  ∃ i, stated annotations ⟨id, none, d⟩ = [i] ∧ i.opcode = .opDecorate ∧
    i.operands = [.id id, .decoration d, .word value]

/-- What became of the annotations of an id when its place was set. -/
structure SlotAnnotated (s fixed : ModuleShader) (id : Id) (d : Decoration) : Prop where
  restated : ∃ first, first.opcode = .opDecorate ∧
    first.operands = [.id id, .decoration d, .word (fixed.tables.decoration id d)] ∧
    stated fixed.module.annotations ⟨id, none, d⟩ =
      first :: (stated s.module.annotations ⟨id, none, d⟩).tail
  once_iff : StatedOnce fixed.module.annotations id d (fixed.tables.decoration id d) ↔
    (stated s.module.annotations ⟨id, none, d⟩).length ≤ 1
  /-- Whoever reads the module that is generated finds the new value, or still the old one. -/
  read_again : ∃ fresh, Tables.ofModule fixed.module = .ok fresh ∧
    fresh.decoration id d =
      if (stated s.module.annotations ⟨id, none, d⟩).length ≤ 1 then fixed.tables.decoration id d
      else s.tables.decoration id d

theorem statedOnce_iff {annotations : List Instruction} {id : Id} {d : Decoration} {value : UInt32}
    {first : Instruction} {rest : List Instruction} (opcode : first.opcode = .opDecorate)
    (operands : first.operands = [.id id, .decoration d, .word value])
    (split : stated annotations ⟨id, none, d⟩ = first :: rest) :
    StatedOnce annotations id d value ↔ rest = [] := by
  unfold StatedOnce
  rw [split]
  constructor
  · rintro ⟨i, only, -, -⟩
    exact (List.cons.inj only).2
  · rintro rfl
    exact ⟨first, rfl, opcode, operands⟩

theorem tail_eq_nil_iff {α : Type} (l : List α) : l.tail = [] ↔ l.length ≤ 1 := by
  rw [← List.length_eq_zero_iff, List.length_tail, Nat.sub_eq_zero_iff_le]

/-- Where only the first of several annotations was changed, the old value is read again. -/
theorem valueAt_of_several {s fixed : ModuleShader} {fresh : Tables} {k : Key}
    {changed : Instruction} (read : Tables.ofModule s.module = .ok s.tables)
    (readFresh : Tables.ofModule fixed.module = .ok fresh)
    (restated : stated fixed.module.annotations k = changed :: (stated s.module.annotations k).tail)
    (several : ¬ (stated s.module.annotations k).length ≤ 1) :
    fresh.valueAt k = s.tables.valueAt k := by
  have more : (stated s.module.annotations k).tail ≠ [] := (tail_eq_nil_iff _).not.mpr several
  rw [Tables.valueAt_of_ofModule readFresh, Tables.valueAt_of_ofModule read]
  cases old : stated s.module.annotations k with
  | nil => simp [old] at several
  | cons first rest =>
      rw [old, List.tail_cons] at restated more
      rw [getLast?_valuesFor_of_rest restated more, getLast?_valuesFor_of_rest old more]

/-- Setting decorations of ids, each of them once. -/
theorem slotAnnotated_of_mem {m : Module} {s : ModuleShader}
    (accepted : ModuleShader.ofModule m = .ok s) {rs : List Rewrite}
    (ids : ∀ q ∈ rs, q.key.member = none) (faithful : ∀ q ∈ rs, q.Faithful)
    (distinct : (rs.map Rewrite.key).Nodup) {id : Id} {d : Decoration} {value : UInt32}
    (given : ⟨⟨id, none, d⟩, value⟩ ∈ rs) (literal : d.takesLiteral) :
    SlotAnnotated s (s.rewriteAll rs) id d := by
  obtain ⟨rfl, read⟩ := read_of_ofModule accepted
  obtain ⟨before, after, split, earlier, later⟩ := exists_split_of_mem given ids distinct
  have set : (s.rewriteAll rs).tables.decoration id d = value := by
    have valueAt := valueAt_rewriteAll_of_once (s := s) before later
    rw [← split] at valueAt
    exact congrArg (Option.getD · 0) valueAt
  obtain ⟨first, opcode, operands, restated⟩ := stated_rewriteAll_of_once (s := s) earlier later
  rw [← split] at restated
  have written : first.operands =
      [.id id, .decoration d, .word ((s.rewriteAll rs).tables.decoration id d)] := by
    rw [operands, set]
    change _ ++ d.literals value = _
    rw [Decoration.literals, if_pos literal]
    rfl
  refine ⟨⟨first, opcode, written, restated⟩, ?_, ?_⟩
  · rw [statedOnce_iff opcode written restated]
    exact tail_eq_nil_iff _
  obtain ⟨fresh, readFresh, agree⟩ := rewriteAll_agree accepted faithful
  refine ⟨fresh, readFresh, ?_⟩
  split
  · rename_i once
    -- the annotations and the tables are in step
    unfold stated at once
    rw [← List.countP_eq_length_filter] at once
    exact congrArg (Option.getD · 0) (agree.same_value ⟨id, none, d⟩ once)
  · rename_i several
    exact congrArg (Option.getD · 0) (valueAt_of_several read readFresh restated several)

/-! ## Fixing the bind slots -/

section

variable (stage : Stage) (scheme : BindingScheme)

/-- The slots of every resource that is bound are set. -/
theorem exists_slotRewrite {res : Resources} {q : Resource} {d : Decoration}
    (bound : q ∈ res.uniformBuffers ++ res.sampledImages) (placing : d = .descriptorSet ∨ d = .binding) :
    ∃ r ∈ res.slotRewrites stage scheme, r.key = ⟨q.id, none, d⟩ := by
  have key : (⟨q.id, none, d⟩ : Key) ∈ placingKeys (res.uniformBuffers ++ res.sampledImages) := by
    refine List.mem_flatMap.mpr ⟨q, bound, ?_⟩
    rcases placing with rfl | rfl
    · exact List.mem_cons_self
    · exact List.mem_cons_of_mem _ List.mem_cons_self
  rw [← map_key_slotRewrites stage scheme] at key
  exact List.mem_map.mp key

theorem takesLiteral_of_placing {d : Decoration} (placing : d = .descriptorSet ∨ d = .binding) :
    d.takesLiteral := by
  rcases placing with rfl | rfl <;> rfl

theorem faithful_of_mem_slotRewrites {res : Resources} :
    ∀ r ∈ res.slotRewrites stage scheme, r.Faithful := by
  intro r given
  rcases List.mem_append.mp given with block | image
  · exact .inl (takesLiteral_of_placing (key_of_mem_bindRewrites block).2)
  · exact .inl (takesLiteral_of_placing (key_of_mem_bindRewrites image).2)

/-- **Fixing the bind slots changes the first annotation of each set and binding, and leaves
the others.**  So exactly one is left with the new value if there was at most one before, and
otherwise the module that is generated is still read with the old value. -/
theorem fixBindSlots_annotations {m : Module} {s : ModuleShader}
    (accepted : ModuleShader.ofModule m = .ok s) (distinct : m.variableIds.Nodup) :
    ∀ q ∈ boundResources s, ∀ d, d = .descriptorSet ∨ d = .binding →
      SlotAnnotated s (fixBindSlots stage scheme s) q.id d := by
  intro q bound d placing
  have apart := nodup_key_slotRewrites stage scheme (distinctIds_of_ofModule accepted distinct)
  obtain ⟨⟨_, value⟩, given, rfl⟩ := exists_slotRewrite stage scheme bound placing
  rw [fixBindSlots_eq_rewriteAll, slotRewrites_resources]
  exact slotAnnotated_of_mem accepted (member_of_mem_slotRewrites stage scheme _)
    (faithful_of_mem_slotRewrites stage scheme) apart given (takesLiteral_of_placing placing)

end

/-- A module that gives its block two bindings. -/
def twiceModule : Module :=
  { boundModule with
    annotations := boundModule.annotations ++ [(⟨⟨4, none, .binding⟩, 9⟩ : Rewrite).instruction] }

def twiceShader : ModuleShader where
  module := twiceModule
  tables := (Tables.ofModule twiceModule).toOption.getD .empty

def twiceBlock : Resource := ⟨4, 2, 2, "params"⟩

theorem fixBindSlots_annotations_twice :
    ModuleShader.ofModule twiceModule = .ok twiceShader ∧ twiceModule.variableIds.Nodup ∧
      twiceBlock ∈ boundResources twiceShader ∧
      SlotAnnotated twiceShader (fixBindSlots .fragment .native twiceShader) 4 .descriptorSet ∧
      SlotAnnotated twiceShader (fixBindSlots .fragment .native twiceShader) 4 .binding := by
  have accepted : ModuleShader.ofModule twiceModule = .ok twiceShader := by decide +kernel
  have distinct : twiceModule.variableIds.Nodup := by decide +kernel
  have bound : twiceBlock ∈ boundResources twiceShader := by decide +kernel
  have annotated := fixBindSlots_annotations .fragment .native accepted distinct twiceBlock bound
  exact ⟨accepted, distinct, bound, annotated _ (.inl rfl), annotated _ (.inr rfl)⟩

/-- A binding that a module came with need not be discarded. -/
theorem fixBindSlots_keeps_second_binding :
    ¬ ∀ (stage : Stage) (scheme : BindingScheme) (m : Module) (s : ModuleShader),
      ModuleShader.ofModule m = .ok s → m.variableIds.Nodup →
      ∀ q ∈ boundResources s, ∀ d, d = .descriptorSet ∨ d = .binding →
        StatedOnce (fixBindSlots stage scheme s).module.annotations q.id d
          (Shader.decoration (fixBindSlots stage scheme s) q.id d) := by
  intro always
  have accepted : ModuleShader.ofModule twiceModule = .ok twiceShader := by decide +kernel
  have distinct : twiceModule.variableIds.Nodup := by decide +kernel
  have bound : twiceBlock ∈ boundResources twiceShader := by decide +kernel
  obtain ⟨i, only, -, -⟩ := always .fragment .native _ _ accepted distinct twiceBlock bound .binding
    (.inr rfl)
  have two : (stated (fixBindSlots .fragment .native twiceShader).module.annotations
      ⟨4, none, .binding⟩).length = 2 := by decide +kernel
  change stated _ ⟨4, none, .binding⟩ = [i] at only
  rw [only] at two
  cases two

end ShaderBundle.Spirv
