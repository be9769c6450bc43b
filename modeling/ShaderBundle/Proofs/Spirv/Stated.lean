/-
# Proofs.Spirv.Stated — which annotations state a key

Several annotations may state one key.  A rewrite changes the first of them, or adds one if
there is none, and leaves the others as they are (`stated_restate_self`); removing a key
removes all of them (`stated_retract_self`).  Annotations that state no key which a rewrite
touches stay, and stay in their order (`filter_rewriteAll_of_silent`).

None of this depends on what the annotations say of the key, so it holds of any module.
-/
import ShaderBundle.Proofs.Spirv.Rewrites

namespace ShaderBundle.Spirv

set_option autoImplicit false

/-! ## One annotation -/

theorem Instruction.states_of_written {i : Instruction} {r : Rewrite}
    (opcode : i.opcode = r.key.opcode) (operands : i.operands = r.instruction.operands) :
    i.states r.key :=
  (i.states_iff r.key).mpr ⟨opcode, _, operands⟩

theorem Rewrite.states_instruction (r : Rewrite) : r.instruction.states r.key :=
  Instruction.states_of_written rfl rfl

/-- What stated a key still does with its operands replaced. -/
theorem Instruction.states_replaced {i : Instruction} {r : Rewrite} (states : i.states r.key) :
    { i with operands := r.instruction.operands }.states r.key :=
  Instruction.states_of_written ((i.states_iff r.key).mp states).1 rfl

/-- An instruction states one key. -/
theorem Instruction.eq_of_states {i : Instruction} {j k : Key} (own : i.states j)
    (states : i.states k) : j = k := by
  obtain ⟨value, statement⟩ := Instruction.exists_statement own
  obtain ⟨value', statement'⟩ := Instruction.exists_statement states
  rw [statement] at statement'
  cases statement'
  rfl

/-! ## All annotations -/

/-- The annotations that state a key, in their order. -/
def stated (annotations : List Instruction) (k : Key) : List Instruction :=
  annotations.filter (·.states k)

theorem stated_cons_of_states {i : Instruction} {k : Key} (states : i.states k)
    (rest : List Instruction) : stated (i :: rest) k = i :: stated rest k :=
  List.filter_cons_of_pos states

theorem stated_cons_of_silent {i : Instruction} {k : Key} (silent : ¬ i.states k)
    (rest : List Instruction) : stated (i :: rest) k = stated rest k :=
  List.filter_cons_of_neg silent

theorem stated_eq_nil_iff (annotations : List Instruction) (k : Key) :
    stated annotations k = [] ↔ ∀ i ∈ annotations, ¬ i.states k :=
  List.filter_eq_nil_iff

section

variable {annotations : List Instruction} {r : Rewrite} {p : Instruction → Bool}

/-- What states a key is not among the annotations that are looked for. -/
def SilentOn (p : Instruction → Bool) (k : Key) : Prop := ∀ i, i.states k → p i = false

theorem silentOn_states {j k : Key} (apart : j ≠ k) : SilentOn (·.states j) k := by
  intro i states
  rw [Bool.eq_false_iff]
  exact fun own => apart (Instruction.eq_of_states own states)

theorem filter_retract_of_silent {k : Key} (silent : SilentOn p k) :
    (retract annotations k).filter p = annotations.filter p := by
  unfold retract
  rw [List.filter_filter]
  apply List.filter_congr
  intro i _
  by_cases states : i.states k
  · simp [silent i states]
  · simp [states]

theorem filter_restate_of_silent (silent : SilentOn p r.key) :
    (restate annotations r).filter p = annotations.filter p := by
  unfold restate
  induction annotations with
  | nil => simp [replaceFirst, silent _ r.states_instruction]
  | cons i rest ih =>
      unfold replaceFirst
      by_cases states : i.states r.key
      · have before := silent i states
        have after := silent _ (Instruction.states_replaced states)
        rw [if_pos states, List.filter_cons_of_neg (by simp [after]),
          List.filter_cons_of_neg (by simp [before])]
      · rw [if_neg states, List.filter_cons, List.filter_cons, ih]

theorem stated_retract_self (annotations : List Instruction) (k : Key) :
    stated (retract annotations k) k = [] := by
  rw [stated_eq_nil_iff]
  intro i kept states
  have other := (List.mem_filter.mp kept).2
  simp [states] at other

/-- The first annotation of a key is restated, or one is added. -/
theorem stated_restate_self (annotations : List Instruction) (r : Rewrite) :
    ∃ first, first.opcode = r.key.opcode ∧ first.operands = r.instruction.operands ∧
      stated (restate annotations r) r.key = first :: (stated annotations r.key).tail := by
  unfold restate
  induction annotations with
  | nil => exact ⟨r.instruction, rfl, rfl, stated_cons_of_states r.states_instruction []⟩
  | cons i rest ih =>
      unfold replaceFirst
      by_cases states : i.states r.key
      · have changed := Instruction.states_replaced states
        rw [if_pos states, stated_cons_of_states changed, stated_cons_of_states states]
        exact ⟨{ i with operands := r.instruction.operands },
          ((i.states_iff r.key).mp states).1, rfl, rfl⟩
      · rw [if_neg states, stated_cons_of_silent states, stated_cons_of_silent states]
        exact ih

end

/-! ## Rewrites -/

section

variable {s : ModuleShader} {r : Rewrite} {rs : List Rewrite} {p : Instruction → Bool}

/-- Rewrites change nothing in the module but its annotations. -/
theorem module_rewriteAll (s : ModuleShader) (rs : List Rewrite) :
    (s.rewriteAll rs).module =
      { s.module with annotations := (s.rewriteAll rs).module.annotations } := by
  induction rs generalizing s with
  | nil => rfl
  | cons r rest ih =>
      have own : (s.rewrite r).module =
          { s.module with annotations := (s.rewrite r).module.annotations } := by
        obtain ⟨⟨id, member, d⟩, value⟩ := r
        cases member with
        | none => rfl
        | some member => cases d <;> rfl
      refine (ih (s.rewrite r)).trans ?_
      rw [own]
      rfl

theorem filter_rewrite_of_silent (silent : ∀ k, r.Touches k → SilentOn p k) :
    (s.rewrite r).module.annotations.filter p = s.module.annotations.filter p := by
  have own : SilentOn p r.key := silent r.key (.inl rfl)
  rw [s.rewrite_eq]
  cases opposite : r.key.opposite? with
  | none => exact filter_restate_of_silent own
  | some j =>
      exact (filter_restate_of_silent own).trans
        (filter_retract_of_silent (silent j (.inr opposite)))

/-- Annotations that state nothing which rewrites touch stay as they are. -/
theorem filter_rewriteAll_of_silent (silent : ∀ r ∈ rs, ∀ k, r.Touches k → SilentOn p k) :
    (s.rewriteAll rs).module.annotations.filter p = s.module.annotations.filter p := by
  induction rs generalizing s with
  | nil => rfl
  | cons r rest ih =>
      rw [List.forall_mem_cons] at silent
      exact (ih silent.2).trans (filter_rewrite_of_silent silent.1)

theorem stated_rewriteAll_of_untouched {k : Key} (untouched : ∀ r ∈ rs, ¬ r.Touches k) :
    stated (s.rewriteAll rs).module.annotations k = stated s.module.annotations k := by
  refine filter_rewriteAll_of_silent ?_
  intro r given j touches
  refine silentOn_states ?_
  rintro rfl
  exact untouched r given touches

/-- A rewrite restates its own key. -/
theorem stated_rewrite_self (s : ModuleShader) (r : Rewrite) :
    ∃ first, first.opcode = r.key.opcode ∧ first.operands = r.instruction.operands ∧
      stated (s.rewrite r).module.annotations r.key =
        first :: (stated s.module.annotations r.key).tail := by
  rw [s.rewrite_eq]
  cases opposite : r.key.opposite? with
  | none => exact stated_restate_self _ r
  | some j =>
      have apart : r.key ≠ j := Key.ne_of_opposite? opposite
      have kept : stated (s.remove j).module.annotations r.key =
          stated s.module.annotations r.key :=
        filter_retract_of_silent (silentOn_states apart)
      rw [← kept]
      exact stated_restate_self _ r

/-- A rewrite leaves no annotation of the layout that its own excludes. -/
theorem stated_rewrite_opposite {j : Key} (opposite : r.key.opposite? = some j) :
    stated (s.rewrite r).module.annotations j = [] := by
  have apart : j ≠ r.key := (Key.ne_of_opposite? opposite).symm
  rw [s.rewrite_eq, opposite]
  exact (filter_restate_of_silent (silentOn_states apart)).trans (stated_retract_self _ j)

end

end ShaderBundle.Spirv
