/-
# Proofs.Spirv.Rewrites — the tables and the annotations stay in step

A decoration that is set is written twice: its value goes into the tables, and an annotation
is changed or added.  For a key that at most one annotation states, both say the same when
the annotations state exactly the value in the tables (`InStep`).  Two things are ever done
to both sides, a key is removed or it is given a value, and each keeps every key in step.
So does a rewrite, which may remove the opposite layout and then sets its own key, and so
does any sequence of rewrites.

The annotations stay readable and nothing but them changes in the module.  Reading the
tables of the rewritten module therefore succeeds, and gives what the tables in memory say
for every key that was in step before.
-/
import ShaderBundle.Proofs.Shader.Slots
import ShaderBundle.Proofs.Spirv.Annotations

namespace ShaderBundle.Spirv

set_option autoImplicit false

/-- The key of the layout of the same member that a layout excludes. -/
def Key.opposite? (k : Key) : Option Key :=
  match k.member with
  | none => none
  | some _ => k.decoration.opposite?.map fun d => { k with decoration := d }

/-- A layout does not exclude itself. -/
theorem Key.ne_of_opposite? {j k : Key} (opposite : j.opposite? = some k) : j ≠ k := by
  obtain ⟨id, member, d⟩ := j
  rintro rfl
  cases member with
  | none => cases opposite
  | some member => cases d <;> cases opposite

/-- A decoration that is set, of an id or of a member. -/
structure Rewrite where
  key : Key
  value : UInt32

/-- A decoration without a literal can only have the value 1. -/
def Rewrite.Faithful (r : Rewrite) : Prop := r.key.decoration.takesLiteral ∨ r.value = 1

instance (r : Rewrite) : Decidable r.Faithful :=
  inferInstanceAs (Decidable (r.key.decoration.takesLiteral ∨ r.value = 1))

/-- The annotation that a rewrite adds if there is none to change. -/
def Rewrite.instruction (r : Rewrite) : Instruction :=
  .plain r.key.opcode (r.key.operands ++ r.key.decoration.literals r.value)

/-- A rewrite sets a key or removes it. -/
def Rewrite.Touches (r : Rewrite) (k : Key) : Prop := r.key = k ∨ r.key.opposite? = some k

namespace ModuleShader

def rewrite (s : ModuleShader) (r : Rewrite) : ModuleShader :=
  match r.key.member with
  | none => s.decorate r.key.id r.key.decoration r.value
  | some member => s.decorateMember r.key.id member r.key.decoration r.value

/-- Sets one decoration after the other. -/
def rewriteAll (s : ModuleShader) (rs : List Rewrite) : ModuleShader := rs.foldl rewrite s

end ModuleShader

/-! ## The annotations -/

def retract (annotations : List Instruction) (k : Key) : List Instruction :=
  annotations.filter fun i => !i.states k

/-- The annotations with the value of a rewrite for its key. -/
def restate (annotations : List Instruction) (r : Rewrite) : List Instruction :=
  replaceFirst (·.states r.key) r.instruction annotations

namespace Instruction

theorem valueFor?_of_statement {i : Instruction} {j : Key} {value : UInt32}
    (statement : i.statement? = some (j, value)) (k : Key) :
    i.valueFor? k = if k = j then some value else none := by
  simp only [valueFor?, statement]

theorem valueFor?_eq_none {i : Instruction} {k : Key} (silent : ¬i.states k) :
    i.valueFor? k = none := by
  rw [← valueFor?_isSome_iff] at silent
  exact Option.not_isSome_iff_eq_none.mp silent

theorem exists_statement {i : Instruction} {k : Key} (states : i.states k) :
    ∃ value, i.statement? = some (k, value) := by
  obtain ⟨opcode, rest, operands⟩ := (i.states_iff k).mp states
  exact ⟨_, (i.statement?_eq_some_iff k _).mpr ⟨opcode, rest, operands, rfl⟩⟩

/-- What is written for a value that can be written states this value. -/
theorem statement?_of_written {i : Instruction} {r : Rewrite} (faithful : r.Faithful)
    (opcode : i.opcode = r.key.opcode) (operands : i.operands = r.instruction.operands) :
    i.statement? = some (r.key, r.value) := by
  refine (i.statement?_eq_some_iff _ _).mpr ⟨opcode, _, operands, ?_⟩
  unfold Decoration.literals
  split
  · rfl
  · rename_i flag
    rcases faithful with literal | one
    · exact absurd literal flag
    · exact one.symm

end Instruction

theorem valuesFor_retract (annotations : List Instruction) (j k : Key) :
    valuesFor (retract annotations j) k = if k = j then [] else valuesFor annotations k := by
  unfold valuesFor retract
  rw [List.filterMap_filter]
  split
  · rename_i own
    subst own
    rw [List.filterMap_eq_nil_iff]
    intro i _
    by_cases states : i.states k
    · simp [states]
    · simp [states, Instruction.valueFor?_eq_none states]
  · rename_i other
    congr 1
    funext i
    by_cases states : i.states j
    · obtain ⟨value, statement⟩ := Instruction.exists_statement states
      simp [states, Instruction.valueFor?_of_statement statement, other]
    · simp [states]

theorem valuesFor_restate (annotations : List Instruction) {r : Rewrite} (faithful : r.Faithful)
    (k : Key) :
    valuesFor (restate annotations r) k =
      if k = r.key then r.value :: (valuesFor annotations k).tail
      else valuesFor annotations k := by
  unfold valuesFor restate
  induction annotations with
  | nil =>
      have fresh : r.instruction.statement? = some (r.key, r.value) :=
        Instruction.statement?_of_written faithful rfl rfl
      rw [replaceFirst, List.filterMap_cons, Instruction.valueFor?_of_statement fresh]
      by_cases own : k = r.key <;> simp [own]
  | cons i rest ih =>
      unfold replaceFirst
      by_cases states : i.states r.key
      · -- the first of the key states the new value, and whatever follows still follows
        obtain ⟨value, statement⟩ := Instruction.exists_statement states
        have changed : { i with operands := r.instruction.operands }.statement? =
            some (r.key, r.value) :=
          Instruction.statement?_of_written faithful ((i.states_iff r.key).mp states).1 rfl
        rw [if_pos states, List.filterMap_cons, List.filterMap_cons,
          Instruction.valueFor?_of_statement changed, Instruction.valueFor?_of_statement statement]
        by_cases own : k = r.key <;> simp [own]
      · rw [if_neg states, List.filterMap_cons, List.filterMap_cons, ih]
        by_cases own : k = r.key
        · subst own
          rw [Instruction.valueFor?_eq_none states]
        · simp only [own, if_false]

theorem readable_retract {annotations : List Instruction}
    (readable : ∀ i ∈ annotations, i.Readable) (k : Key) :
    ∀ i ∈ retract annotations k, i.Readable :=
  fun i kept => readable i (List.mem_filter.mp kept).1

theorem readable_restate {annotations : List Instruction}
    (readable : ∀ i ∈ annotations, i.Readable) {r : Rewrite} (faithful : r.Faithful) :
    ∀ i ∈ restate annotations r, i.Readable := by
  unfold restate
  induction annotations with
  | nil =>
      intro i fresh _
      rw [List.mem_singleton.mp fresh]
      exact ⟨_, _, Instruction.statement?_of_written faithful rfl rfl⟩
  | cons i rest ih =>
      rw [List.forall_mem_cons] at readable
      unfold replaceFirst
      split
      · rename_i states
        rw [List.forall_mem_cons]
        refine ⟨fun _ => ⟨_, _, Instruction.statement?_of_written faithful ?_ rfl⟩, readable.2⟩
        exact ((i.states_iff r.key).mp states).1
      · exact List.forall_mem_cons.mpr ⟨readable.1, ih readable.2⟩

/-! ## The tables -/

namespace Tables

/-- The tables without a value for a key. -/
def remove (t : Tables) (k : Key) : Tables :=
  match k.member with
  | none => t.mapDecorations (·.erase (k.id, k.decoration)) id
  | some member => t.mapDecorations id (·.erase (k.id, member, k.decoration))

/-- The tables without any decoration. -/
def bare (t : Tables) : Tables := t.mapDecorations (fun _ => .empty) (fun _ => .empty)

theorem valueAt_remove (t : Tables) (j k : Key) :
    (t.remove j).valueAt k = if k = j then none else t.valueAt k := by
  obtain ⟨id, member, d⟩ := k
  obtain ⟨id', member', d'⟩ := j
  cases member <;> cases member' <;> simp [remove, valueAt, mapDecorations, Table.find?_erase]

theorem bare_mapDecorations (t : Tables)
    (ids : Table (Id × Decoration) UInt32 → Table (Id × Decoration) UInt32)
    (members : Table (Id × UInt32 × Decoration) UInt32 → Table (Id × UInt32 × Decoration) UInt32) :
    (t.mapDecorations ids members).bare = t.bare := rfl

theorem bare_noteAll (t : Tables) (annotations : List Instruction) :
    (t.noteAll annotations).bare = t.bare := by
  obtain ⟨ids, members, noted⟩ := noteAll_eq_mapDecorations annotations
  rw [noted, bare_mapDecorations]

end Tables

/-! ## In step -/

/-- The annotations state for a key exactly the value that the tables have. -/
def InStep (annotations : List Instruction) (t : Tables) (k : Key) : Prop :=
  valuesFor annotations k = (t.valueAt k).toList

theorem InStep.retract {annotations : List Instruction} {t : Tables} {k : Key}
    (inStep : InStep annotations t k) (j : Key) :
    InStep (retract annotations j) (t.remove j) k := by
  unfold InStep at inStep ⊢
  rw [valuesFor_retract, Tables.valueAt_remove, inStep]
  split <;> rfl

theorem InStep.restate {annotations : List Instruction} {t : Tables} {k : Key}
    (inStep : InStep annotations t k) {r : Rewrite} (faithful : r.Faithful) :
    InStep (restate annotations r) (t.put r.key r.value) k := by
  unfold InStep at inStep ⊢
  rw [valuesFor_restate annotations faithful, Tables.valueAt_put, inStep]
  split
  · cases t.valueAt k <;> rfl
  · rfl

namespace ModuleShader

def remove (s : ModuleShader) (k : Key) : ModuleShader where
  module := { s.module with annotations := retract s.module.annotations k }
  tables := s.tables.remove k

def put (s : ModuleShader) (r : Rewrite) : ModuleShader where
  module := { s.module with annotations := restate s.module.annotations r }
  tables := s.tables.put r.key r.value

/-- A rewrite removes the opposite layout, if there is one, and sets its key. -/
theorem rewrite_eq (s : ModuleShader) (r : Rewrite) :
    s.rewrite r = ((r.key.opposite?.map s.remove).getD s).put r := by
  obtain ⟨⟨id, member, d⟩, value⟩ := r
  cases member with
  | none => rfl
  | some member => cases d <;> rfl

end ModuleShader

/-! ## One rewrite -/

/-- What no rewrite changes: the module but for its annotations, which stay readable, and the
tables but for the decorations. -/
structure Framed (m : Module) (bare : Tables) (s : ModuleShader) : Prop where
  module_eq : s.module = { m with annotations := s.module.annotations }
  readable : ∀ i ∈ s.module.annotations, i.Readable
  bare_eq : s.tables.bare = bare

section

variable {m : Module} {bare : Tables} {s : ModuleShader} {r : Rewrite} {k : Key}

theorem Framed.remove (framed : Framed m bare s) (k : Key) : Framed m bare (s.remove k) where
  module_eq := by
    change { s.module with annotations := retract s.module.annotations k } = _
    rw [framed.module_eq]
    rfl
  readable := readable_retract framed.readable k
  bare_eq := by
    rw [← framed.bare_eq]
    unfold ModuleShader.remove Tables.remove
    cases k.member <;> rfl

theorem Framed.put (framed : Framed m bare s) (faithful : r.Faithful) :
    Framed m bare (s.put r) where
  module_eq := by
    change { s.module with annotations := restate s.module.annotations r } = _
    rw [framed.module_eq]
    rfl
  readable := readable_restate framed.readable faithful
  bare_eq := by
    rw [← framed.bare_eq]
    unfold ModuleShader.put Tables.put
    cases r.key.member <;> rfl

theorem Framed.rewrite (framed : Framed m bare s) (faithful : r.Faithful) :
    Framed m bare (s.rewrite r) := by
  rw [s.rewrite_eq]
  cases r.key.opposite? with
  | none => exact framed.put faithful
  | some j => exact (framed.remove j).put faithful

theorem InStep.rewrite (inStep : InStep s.module.annotations s.tables k)
    (faithful : r.Faithful) :
    InStep (s.rewrite r).module.annotations (s.rewrite r).tables k := by
  rw [s.rewrite_eq]
  cases r.key.opposite? with
  | none => exact inStep.restate faithful
  | some j => exact (inStep.retract j).restate faithful

theorem valueAt_rewrite (s : ModuleShader) (r : Rewrite) (k : Key) :
    (s.rewrite r).tables.valueAt k =
      if k = r.key then some r.value
      else if r.key.opposite? = some k then none
      else s.tables.valueAt k := by
  rw [s.rewrite_eq]
  unfold ModuleShader.put
  rw [Tables.valueAt_put]
  cases r.key.opposite? with
  | none => rfl
  | some j =>
      simp only [Option.map_some, Option.getD_some, ModuleShader.remove, Tables.valueAt_remove,
        Option.some.injEq, eq_comm (a := j)]

/-! ## All rewrites -/

variable {rs : List Rewrite}

theorem Framed.rewriteAll (framed : Framed m bare s) (faithful : ∀ r ∈ rs, r.Faithful) :
    Framed m bare (s.rewriteAll rs) := by
  induction rs generalizing s with
  | nil => exact framed
  | cons r rest ih =>
      rw [List.forall_mem_cons] at faithful
      exact ih (framed.rewrite faithful.1) faithful.2

theorem InStep.rewriteAll (inStep : InStep s.module.annotations s.tables k)
    (faithful : ∀ r ∈ rs, r.Faithful) :
    InStep (s.rewriteAll rs).module.annotations (s.rewriteAll rs).tables k := by
  induction rs generalizing s with
  | nil => exact inStep
  | cons r rest ih =>
      rw [List.forall_mem_cons] at faithful
      exact ih (inStep.rewrite faithful.1) faithful.2

theorem valueAt_rewriteAll_of_untouched (untouched : ∀ r ∈ rs, ¬r.Touches k) :
    (s.rewriteAll rs).tables.valueAt k = s.tables.valueAt k := by
  induction rs generalizing s with
  | nil => rfl
  | cons r rest ih =>
      rw [List.forall_mem_cons] at untouched
      refine (ih untouched.2).trans ?_
      have apart := not_or.mp untouched.1
      rw [valueAt_rewrite, if_neg (Ne.symm apart.1), if_neg apart.2]

/-- The value of a key is that of the last rewrite that touches it. -/
theorem valueAt_rewriteAll_of_last {before after : List Rewrite}
    (untouched : ∀ later ∈ after, ¬later.Touches k) :
    (s.rewriteAll (before ++ r :: after)).tables.valueAt k =
      ((s.rewriteAll before).rewrite r).tables.valueAt k := by
  have split : s.rewriteAll (before ++ r :: after) =
      ((s.rewriteAll before).rewrite r).rewriteAll after := by
    simp only [ModuleShader.rewriteAll, List.foldl_append, List.foldl_cons]
  rw [split, valueAt_rewriteAll_of_untouched untouched]

end

/-! ## The rewritten module -/

/-- The value that a key has after rewrites, by its value before. -/
structure LastValue (rs : List Rewrite) (k : Key) (original now : Option UInt32) : Prop where
  set : ∀ before r after, rs = before ++ r :: after → r.key = k →
    (∀ later ∈ after, ¬later.Touches k) → now = some r.value
  removed : ∀ before r after, rs = before ++ r :: after → r.key.opposite? = some k →
    (∀ later ∈ after, ¬later.Touches k) → now = none
  untouched : (∀ r ∈ rs, ¬r.Touches k) → now = original

/-- The tables in memory and those of the rewritten module. -/
structure Agree (m : Module) (rs : List Rewrite) (original inMemory fresh : Tables) : Prop where
  same_value : ∀ k, m.annotations.countP (·.states k) ≤ 1 → fresh.valueAt k = inMemory.valueAt k
  last_value : ∀ k, LastValue rs k (original.valueAt k) (inMemory.valueAt k)
  /-- Entry points, names, types, pointers, constants and variables. -/
  all_else : fresh.bare = inMemory.bare ∧ inMemory.bare = original.bare

theorem lastValue_rewriteAll (s : ModuleShader) (rs : List Rewrite) (k : Key) :
    LastValue rs k (s.tables.valueAt k) ((s.rewriteAll rs).tables.valueAt k) where
  set before r after split own untouched := by
    rw [split, valueAt_rewriteAll_of_last untouched, valueAt_rewrite, if_pos own.symm]
  removed before r after split opposite untouched := by
    rw [split, valueAt_rewriteAll_of_last untouched, valueAt_rewrite,
      if_neg (Key.ne_of_opposite? opposite).symm, if_pos opposite]
  untouched := valueAt_rewriteAll_of_untouched

/-- A key that at most one annotation states is in step when a module is read. -/
theorem inStep_of_ofModule {m : Module} {t : Tables} (read : Tables.ofModule m = .ok t) {k : Key}
    (once : m.annotations.countP (·.states k) ≤ 1) : InStep m.annotations t k := by
  unfold InStep
  have counted : (valuesFor m.annotations k).length = m.annotations.countP (·.states k) := by
    unfold valuesFor
    rw [List.length_filterMap_eq_countP]
    simp only [Bool.eq_iff_iff.mpr (Instruction.valueFor?_isSome_iff _ k)]
  rw [Tables.valueAt_of_ofModule read]
  rw [← counted] at once
  match valuesFor m.annotations k, once with
  | [], _ => rfl
  | [_], _ => rfl

/-- A module with other annotations is read into the same tables but for these. -/
theorem Framed.ofModule {m : Module} {t unread : Tables} {s : ModuleShader}
    (framed : Framed m t s) (read : Tables.ofModule { m with annotations := [] } = .ok unread) :
    Tables.ofModule s.module = .ok (unread.noteAll s.module.annotations) := by
  refine (Tables.ofModule_eq_ok_iff _ _).mpr ⟨unread, ?_, framed.readable, rfl⟩
  rw [framed.module_eq]
  exact read

/-- A key that is in step has the same value when the module is read again. -/
theorem InStep.valueAt_ofModule {s : ModuleShader} {fresh : Tables} {k : Key}
    (inStep : InStep s.module.annotations s.tables k)
    (read : Tables.ofModule s.module = .ok fresh) : fresh.valueAt k = s.tables.valueAt k := by
  unfold InStep at inStep
  rw [Tables.valueAt_of_ofModule read, inStep]
  cases s.tables.valueAt k <;> rfl

/-- **The tables and the annotations stay in step under every sequence of rewrites.** -/
theorem rewriteAll_agree {m : Module} {s : ModuleShader}
    (accepted : ModuleShader.ofModule m = .ok s) {rs : List Rewrite}
    (faithful : ∀ r ∈ rs, r.Faithful) :
    ∃ fresh, Tables.ofModule (s.rewriteAll rs).module = .ok fresh ∧
      Agree m rs s.tables (s.rewriteAll rs).tables fresh := by
  obtain ⟨t, read, same⟩ := except_bind_eq_ok_iff.mp accepted
  cases same
  obtain ⟨unread, readUnread, readable, noted⟩ := (Tables.ofModule_eq_ok_iff m t).mp read
  have start : Framed m t.bare ⟨m, t⟩ := ⟨rfl, readable, rfl⟩
  have framed := start.rewriteAll faithful
  have again := framed.ofModule readUnread
  refine ⟨_, again, ?_, lastValue_rewriteAll ⟨m, t⟩ rs, ?_, framed.bare_eq⟩
  · intro k once
    have inStep : InStep m.annotations t k := inStep_of_ofModule read once
    exact (inStep.rewriteAll (s := ⟨m, t⟩) faithful).valueAt_ofModule again
  · rw [framed.bare_eq, Tables.bare_noteAll, ← noted, Tables.bare_noteAll]

/-- The block of `boundModule` is bound anew, and its member laid out by rows, then by columns. -/
def boundRewrites : List Rewrite :=
  [⟨⟨4, none, .binding⟩, 0⟩, ⟨⟨2, some 0, .rowMajor⟩, 1⟩, ⟨⟨2, some 0, .colMajor⟩, 1⟩]

theorem rewriteAll_agree_bound :
    ModuleShader.ofModule boundModule = .ok boundShader ∧ (∀ r ∈ boundRewrites, r.Faithful) ∧
      ∃ fresh, Tables.ofModule (boundShader.rewriteAll boundRewrites).module = .ok fresh ∧
        Agree boundModule boundRewrites boundShader.tables
          (boundShader.rewriteAll boundRewrites).tables fresh :=
  have accepted : ModuleShader.ofModule boundModule = .ok boundShader := rfl
  have faithful : ∀ r ∈ boundRewrites, r.Faithful := by decide
  ⟨accepted, faithful, rewriteAll_agree accepted faithful⟩

/-- Where two annotations state a key, only the first is changed, and the second is read. -/
example :
    let binding : Key := ⟨4, none, .binding⟩
    let twice : Module := { boundModule with
      annotations := boundModule.annotations ++ [(⟨binding, 9⟩ : Rewrite).instruction] }
    let s := ModuleShader.rewrite ⟨twice, boundShader.tables.put binding 9⟩ ⟨binding, 0⟩
    s.tables.valueAt binding = some 0 ∧
      (Tables.ofModule s.module).toOption.bind (·.valueAt binding) = some 9 :=
  ⟨rfl, rfl⟩

end ShaderBundle.Spirv
