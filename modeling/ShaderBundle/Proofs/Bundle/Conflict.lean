/-
# Proofs.Bundle.Conflict — when unification fails, and that order does not matter

A definition is compared only with the first of its name, through the table.  The table
therefore has to show, under every name, what the row of definitions walked over shows
there first (`Mirrors`): one look-up keeps this (`Interns.mirrors`), and a look-up is a
conflict exactly when its definition strays from that first one (`Strays`).  The walk over
all definitions in a row then ends at the first that strays (`internAll_conflict`).

That two definitions of one name disagree somewhere is said without any order.  It is the
same as that one of them strays, because agreeing is having the same shape.  So the order
does not decide whether unification fails; and when it does not fail, the shapes in the
table are those of all definitions, each once (`Walk.mem_shapes_iff`).
-/
import Mathlib.Data.List.Forall2
import ShaderBundle.Proofs.Bundle.Names
import ShaderBundle.Proofs.Bundle.Unify

namespace ShaderBundle

set_option autoImplicit false

namespace Unify

open Shared LawfulShared

variable {α : Type} [Shared α]

/-! ## The first of a name -/

/-- A definition that disagrees with the first of its name. -/
def Strays (items : List α) (a : α) : Prop :=
  ∃ first, FirstWith (fun b => name b = name a) items first ∧ agrees first a = false

theorem strays_iff (items : List α) (a : α) :
    Strays items a ↔
      ∃ first, (items.find? fun b => name b = name a) = some first ∧ agrees first a = false := by
  simp only [Strays, find?_eq_some_iff_firstWith]

instance (items : List α) (a : α) : Decidable (Strays items a) :=
  decidable_of_iff
    (((items.find? fun b => name b = name a).any fun first => !agrees first a) = true) (by
      rw [strays_iff, Option.any_eq_true]
      simp only [Bool.not_eq_true'])

/-- A look-up is a conflict exactly when what stands under the name disagrees. -/
theorem intern_eq_none_iff (table : List α) (item : α) :
    intern table item = none ↔ Strays table item := by
  rw [strays_iff, List.find?_eq_bind_findIdx?_getElem?]
  unfold intern
  cases place : table.findIdx? fun other => name other = name item with
  | none => simp
  | some k =>
      obtain ⟨inTable, -, -⟩ := List.findIdx?_eq_some_iff_getElem.mp place
      simp [List.getElem?_eq_getElem inTable]

theorem firstsAfter_sublist (seen : List String) (items : List α) :
    (firstsAfter seen items).Sublist items := by
  induction items generalizing seen with
  | nil => exact .refl _
  | cons a rest ih =>
      rw [firstsAfter]
      split
      · exact (ih _).cons _
      · exact (ih _).cons_cons _

/-! ## The table and the row -/

variable [LawfulShared α]

/-- The table shows under every name the shape that comes first in the row. -/
def Mirrors (table seen : List α) : Prop :=
  ∀ n, (table.find? fun a => name a = n).map shape = (seen.find? fun a => name a = n).map shape

theorem Mirrors.strays_iff {table seen : List α} (mirrors : Mirrors table seen) (a : α) :
    Strays table a ↔ Strays seen a := by
  have same := mirrors (name a)
  rw [Unify.strays_iff, Unify.strays_iff]
  simp only [← Bool.not_eq_true, agrees_iff]
  cases inTable : table.find? fun b => name b = name a with
  | none =>
      rw [inTable] at same
      rw [Option.map_eq_none_iff.mp same.symm]
  | some first =>
      rw [inTable] at same
      obtain ⟨first', inSeen, shapes⟩ := Option.map_eq_some_iff.mp same.symm
      simp [inSeen, shapes]

/-- One look-up keeps the table a mirror of the row. -/
theorem Interns.mirrors {table table' seen : List α} {item item' : α}
    (step : Interns table item item' table') (mirrors : Mirrors table seen) :
    Mirrors table' (seen ++ [item]) := by
  intro n
  rw [List.find?_append, Option.map_or, ← mirrors n]
  cases step with
  | fresh new =>
      have shown : ([withIndex item table.length].find? fun a => name a = n).map shape =
          ([item].find? fun a => name a = n).map shape := by
        by_cases own : name item = n <;> simp [own]
      rw [List.find?_append, Option.map_or, shown]
  | known k inTable same =>
      by_cases own : name item = n
      · -- what it agrees with stands in the table under its name
        have named : (table.find? fun a => name a = n).isSome := by
          rw [List.find?_isSome]
          exact ⟨_, List.getElem_mem inTable, by simpa [own] using name_eq_of_agrees same⟩
        obtain ⟨first, found⟩ := Option.isSome_iff_exists.mp named
        simp [found]
      · simp [own]

/-- What is new under its name strays from nothing, so only what came before matters. -/
theorem strays_append_cons_iff (seen rest : List α) (item : α) :
    Strays (seen ++ item :: rest) item ↔ Strays seen item := by
  rw [strays_iff, strays_iff, List.find?_append]
  cases seen.find? fun b => name b = name item with
  | some first => simp
  | none => simp [agrees_self]

/-- The walk ends at the first definition that strays. -/
theorem internAll_conflict {table seen : List α} (items : List α) (mirrors : Mirrors table seen) :
    (internAll table items).conflict =
      (items.find? fun a => Strays (seen ++ items) a).map name := by
  -- what was walked over moves from the row to `seen`, so the whole row stays the same
  induction items generalizing table seen with
  | nil => rfl
  | cons item rest ih =>
      have here : intern table item = none ↔ Strays (seen ++ item :: rest) item := by
        rw [intern_eq_none_iff, mirrors.strays_iff, strays_append_cons_iff]
      unfold internAll
      cases found : intern table item with
      | none => rw [List.find?_cons_of_pos (by simpa using here.mp found), Option.map_some]
      | some answer =>
          have agreeing : ¬Strays (seen ++ item :: rest) item := by
            rw [← here, found]
            exact Option.some_ne_none answer
          have later := ih ((interns_of_eq_some found).mirrors mirrors)
          rw [List.append_assoc, List.singleton_append] at later
          rw [List.find?_cons_of_neg (by simpa using agreeing), ← later]

/-- Some definition strays exactly when two of one name disagree. -/
theorem exists_strays_iff (items : List α) :
    (∃ a ∈ items, Strays items a) ↔
      ∃ a ∈ items, ∃ b ∈ items, name a = name b ∧ agrees a b = false := by
  constructor
  · rintro ⟨a, inRow, first, ⟨before, after, rfl, own, -⟩, apart⟩
    exact ⟨first, by simp, a, inRow, own, apart⟩
  · rintro ⟨a, inRowA, b, inRowB, own, apart⟩
    by_contra none
    -- both would agree with the first of their name, and so with one another
    have named : (items.find? fun c => name c = name b).isSome := by
      rw [List.find?_isSome]
      exact ⟨b, inRowB, by simp⟩
    obtain ⟨first, found⟩ := Option.isSome_iff_exists.mp named
    have agreesWith : ∀ c ∈ items, name c = name b → shape first = shape c := by
      intro c inRow named
      by_contra differ
      refine none ⟨c, inRow, (strays_iff _ _).mpr ⟨first, by rw [named, found], ?_⟩⟩
      rwa [← Bool.not_eq_true, agrees_iff]
    have shapes : shape a = shape b :=
      (agreesWith a inRowA own).symm.trans (agreesWith b inRowB rfl)
    rw [(agrees_iff a b).mpr shapes] at apart
    cases apart

/-! ## The definitions in the table -/

section

variable {final items items' : List α}

theorem Walk.shapes_eq {table : List α} (walk : Walk table items items' final) :
    items'.map shape = items.map shape := by
  induction walk with
  | nil => rfl
  | cons step _ ih =>
      rw [List.map_cons, List.map_cons, ih]
      cases step <;> rw [shape_withIndex]

/-- From an empty table, the table has the shapes of all definitions. -/
theorem Walk.mem_shapes_iff (walk : Walk [] items items' final) (x : α) :
    x ∈ final.map shape ↔ x ∈ items.map shape := by
  rw [← walk.shapes_eq]
  constructor
  · rw [walk.table_eq, List.nil_append]
    intro inTable
    exact (firstsAfter_sublist _ _).map shape |>.subset inTable
  · rw [List.mem_map]
    rintro ⟨a, given, rfl⟩
    obtain ⟨k, inTable, -, same⟩ := walk.placed a given
    rw [← (agrees_iff _ _).mp same]
    exact List.mem_map_of_mem (List.getElem_mem inTable)

/-- Each shape stands in the table once. -/
theorem Indexed.shapes_nodup {table : List α} (indexed : Indexed table) :
    (table.map shape).Nodup := by
  have names : (table.map shape).map name = table.map name := by
    simp only [List.map_map, Function.comp_def, name_shape]
  refine List.Nodup.of_map name ?_
  rw [names]
  exact indexed.distinct

/-- Walks over the same definitions in another order end with the same shapes. -/
theorem Walk.shapes_perm {other other' final' : List α} (walk : Walk [] items items' final)
    (walk' : Walk [] other other' final') (reordered : items.Perm other) :
    (final.map shape).Perm (final'.map shape) := by
  rw [List.perm_ext_iff_of_nodup (walk.indexed indexed_nil).shapes_nodup
    (walk'.indexed indexed_nil).shapes_nodup]
  intro x
  rw [walk.mem_shapes_iff, walk'.mem_shapes_iff, (reordered.map shape).mem_iff]

end

end Unify

/-! ## Exact and blind to order -/

section

open Shared LawfulShared Unify

/-- When unification fails, and whose name it then gives. -/
structure ConflictExact (α : Type) [Shared α] (sources : List CompiledShader) : Prop where
  fails_iff : (gather (α := α) [] sources).conflict ≠ none ↔
    ∃ a ∈ sources.flatMap itemsOf, ∃ b ∈ sources.flatMap itemsOf,
      name (α := α) a = name (α := α) b ∧ agrees (α := α) a b = false
  names_first : ∀ n, (gather (α := α) [] sources).conflict = some n ↔
    ∃ a : α, FirstWith (Strays (sources.flatMap itemsOf)) (sources.flatMap itemsOf) a ∧ name a = n

/-- The same shaders in another order, each with its definitions in another order. -/
def Reordered (α : Type) [Shared α] (sources sources' : List CompiledShader) : Prop :=
  ∃ between, sources.Perm between ∧
    List.Forall₂ (fun s t => (itemsOf s : List α).Perm (itemsOf t)) between sources'

/-- Unification ends the same way for both, and with the same definitions. -/
structure SameOutcome {α β : Type} [Shared α] (definition : α → β)
    (sources sources' : List CompiledShader) : Prop where
  succeeds_iff : (gather (α := α) [] sources).conflict = none ↔
    (gather (α := α) [] sources').conflict = none
  definitions : (gather (α := α) [] sources).conflict = none →
    ((gather [] sources).table.map definition).Perm ((gather [] sources').table.map definition)

variable {α : Type} [Shared α]

theorem Reordered.perm {sources sources' : List CompiledShader}
    (reordered : Reordered α sources sources') :
    (sources.flatMap (itemsOf (α := α))).Perm (sources'.flatMap itemsOf) := by
  obtain ⟨between, moved, inside⟩ := reordered
  refine (moved.flatMap_right _).trans ?_
  clear moved
  induction inside with
  | nil => exact .refl _
  | cons own _ ih => exact own.append ih

variable [LawfulShared α]

theorem conflictExact (sources : List CompiledShader) : ConflictExact α sources := by
  have conflict := internAll_conflict (sources.flatMap (itemsOf (α := α)))
    (fun _ => rfl : Mirrors ([] : List α) [])
  rw [← (gather_row [] sources).2, List.nil_append] at conflict
  constructor
  · rw [← exists_strays_iff, conflict, ne_eq, Option.map_eq_none_iff, List.find?_eq_none]
    simp only [decide_eq_true_eq, not_forall, not_not, exists_prop]
  · intro n
    simp only [conflict, Option.map_eq_some_iff, find?_eq_some_iff_firstWith]

/-- What a definition keeps of its shape does not depend on the order. -/
theorem sameOutcome {β : Type} (definition : α → β)
    (ofShape : ∀ a, definition (shape a) = definition a) {sources sources' : List CompiledShader}
    (reordered : Reordered α sources sources') : SameOutcome definition sources sources' := by
  have perm := reordered.perm
  have outcome : (gather (α := α) [] sources).conflict = none ↔
      (gather (α := α) [] sources').conflict = none := by
    rw [← not_iff_not, ← ne_eq, ← ne_eq, (conflictExact sources).fails_iff,
      (conflictExact sources').fails_iff]
    simp only [perm.mem_iff]
  refine ⟨outcome, fun clean => ?_⟩
  have shapes := (gather_walk clean).shapes_perm (gather_walk (outcome.mp clean)) perm
  simpa only [List.map_map, Function.comp_def, ofShape] using shapes.map definition

/-- **Conflicts between blocks and images are found exactly, and in whatever order.** -/
theorem gather_conflict_exact (sources : List CompiledShader) :
    ConflictExact UniformBlock sources ∧ ConflictExact Image sources ∧
      (∀ sources', Reordered UniformBlock sources sources' →
        SameOutcome (fun b : UniformBlock => (b.name, b.size, b.uniforms)) sources sources') ∧
      ∀ sources', Reordered Image sources sources' →
        SameOutcome (fun i : Image => (i.name, i.type, i.sampleType)) sources sources' :=
  ⟨conflictExact sources, conflictExact sources, fun _ => sameOutcome _ fun _ => rfl,
    fun _ => sameOutcome _ fun _ => rfl⟩

/-- `litAndSky` backwards, with the blocks of the one that has two the other way round. -/
def skyAndLit : List CompiledShader :=
  [⟨1, "sky", { (default : Interface) with
      uniformBlocks := [⟨1, 64, "params", [], none⟩, ⟨0, 16, "sun", [], some 9⟩]
      images := [⟨0, "clouds", .cube, .float, none⟩] }⟩,
    ⟨0, "lit", { (default : Interface) with uniformBlocks := [⟨0, 64, "params", [], none⟩] }⟩]

theorem gather_conflict_exact_litAndSky :
    Reordered UniformBlock litAndSky skyAndLit ∧ Reordered Image litAndSky skyAndLit ∧
      SameOutcome (fun b : UniformBlock => (b.name, b.size, b.uniforms)) litAndSky skyAndLit ∧
      SameOutcome (fun i : Image => (i.name, i.type, i.sampleType)) litAndSky skyAndLit :=
  have blocks : Reordered UniformBlock litAndSky skyAndLit :=
    ⟨_, .swap _ _ _, .cons (.swap _ _ _) (.cons (.refl _) .nil)⟩
  have images : Reordered Image litAndSky skyAndLit :=
    ⟨_, .swap _ _ _, .cons (.refl _) (.cons (.refl _) .nil)⟩
  ⟨blocks, images, (gather_conflict_exact litAndSky).2.2.1 skyAndLit blocks,
    (gather_conflict_exact litAndSky).2.2.2 skyAndLit images⟩

/-- A block that is larger in a third shader is the conflict, in whatever slot it is. -/
example : (gather (α := UniformBlock) [] (litAndSky ++
    [⟨2, "sea", { (default : Interface) with
      uniformBlocks := [⟨3, 16, "sun", [], none⟩, ⟨0, 80, "params", [], none⟩] }⟩])).conflict =
      some "params" := by decide

end

end ShaderBundle
