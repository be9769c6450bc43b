/-
# Proofs.Bundle.Unify — the table and the indices belong together

`LawfulShared` says what unification relies on: an index can be set and taken away
again without changing anything else, definitions agree when they are equal up to slot
and index, and the definitions of an interface can be replaced as a whole.  Uniform
blocks and images are lawful.

One look-up finds a definition that agrees or adds a fresh one (`Interns`).  A `Walk` is
a sequence of such look-ups; the walk over all shaders is one over all their definitions
in a row (`gather_walk`).  Three things hold along every walk: the table stays `Indexed`,
what was placed stays `Placed`, and the table grows by the first definitions of new
names.  Together they give `Unified`, the contract of unification.
-/
import Mathlib.Data.List.Nodup
import Mathlib.Tactic.Tauto
import ShaderBundle.Bundle.Unify

namespace ShaderBundle

set_option autoImplicit false

/-- The laws of what is shared by name. -/
class LawfulShared (α : Type) [Shared α] where
  /-- The unique index, if there is one. -/
  index : α → Option Nat
  withoutIndex : α → α
  /-- What agreeing definitions have in common: all but slot and unique index. -/
  shape : α → α
  index_withIndex : ∀ (a : α) (k : Nat), index (Shared.withIndex a k) = some k
  withoutIndex_withIndex : ∀ (a : α) (k : Nat),
    withoutIndex (Shared.withIndex a k) = withoutIndex a
  shape_withIndex : ∀ (a : α) (k : Nat), shape (Shared.withIndex a k) = shape a
  name_shape : ∀ a : α, Shared.name (shape a) = Shared.name a
  agrees_iff : ∀ a b : α, Shared.agrees a b = true ↔ shape a = shape b
  ofInterface_putInto : ∀ (i : Interface) (as : List α),
    Shared.ofInterface (Shared.putInto i as) = as
  putInto_putInto : ∀ (i : Interface) (as bs : List α),
    Shared.putInto (Shared.putInto i as) bs = Shared.putInto i bs

instance : LawfulShared UniformBlock where
  index b := b.uniqueIndex
  withoutIndex b := { b with uniqueIndex := none }
  shape b := { b with slot := 0, uniqueIndex := none }
  index_withIndex _ _ := rfl
  withoutIndex_withIndex _ _ := rfl
  shape_withIndex _ _ := rfl
  name_shape _ := rfl
  agrees_iff a b := by
    simp only [Shared.agrees, UniformBlock.agrees, Bool.and_eq_true, decide_eq_true_eq,
      UniformBlock.mk.injEq]
    tauto
  ofInterface_putInto _ _ := rfl
  putInto_putInto _ _ _ := rfl

instance : LawfulShared Image where
  index i := i.uniqueIndex
  withoutIndex i := { i with uniqueIndex := none }
  shape i := { i with slot := 0, uniqueIndex := none }
  index_withIndex _ _ := rfl
  withoutIndex_withIndex _ _ := rfl
  shape_withIndex _ _ := rfl
  name_shape _ := rfl
  agrees_iff a b := by
    simp only [Shared.agrees, Image.agrees, Bool.and_eq_true, decide_eq_true_eq, Image.mk.injEq]
    tauto
  ofInterface_putInto _ _ := rfl
  putInto_putInto _ _ _ := rfl

namespace Unify

open Shared LawfulShared

variable {α : Type} [Shared α]

/-! ## Walks -/

/-- What a look-up that is no conflict answers with. -/
inductive Interns (table : List α) (item : α) : α → List α → Prop where
  | known (k : Nat) (inTable : k < table.length) :
      agrees table[k] item = true → Interns table item (withIndex item k) table
  | fresh : name item ∉ table.map name →
      Interns table item (withIndex item table.length)
        (table ++ [withIndex item table.length])

/-- From a table and definitions, through one look-up after the other, to the
definitions under their indices and the final table. -/
inductive Walk : List α → List α → List α → List α → Prop where
  | nil (table : List α) : Walk table [] [] table
  | cons {table table' final items items' : List α} {item item' : α} :
      Interns table item item' table' → Walk table' items items' final →
      Walk table (item :: items) (item' :: items') final

theorem interns_of_eq_some {table table' : List α} {item item' : α}
    (found : intern table item = some (item', table')) : Interns table item item' table' := by
  unfold intern at found
  split at found
  · rename_i missing
    obtain ⟨rfl, rfl⟩ := Prod.mk.inj (Option.some.inj found)
    refine .fresh ?_
    rw [List.findIdx?_eq_none_iff] at missing
    simpa using missing
  · rename_i k place
    obtain ⟨inTable, -, -⟩ := List.findIdx?_eq_some_iff_getElem.mp place
    rw [List.getElem?_eq_getElem inTable] at found
    simp only at found
    split at found
    · rename_i same
      obtain ⟨rfl, rfl⟩ := Prod.mk.inj (Option.some.inj found)
      exact .known k inTable same
    · cases found

theorem Walk.append {table table' final items items' more more' : List α}
    (first : Walk table items items' table') (second : Walk table' more more' final) :
    Walk table (items ++ more) (items' ++ more') final := by
  induction first with
  | nil => exact second
  | cons step _ ih => exact .cons step (ih second)

/-- A walk that ends without a conflict is one. -/
theorem internAll_walk {table items : List α} (clean : (internAll table items).conflict = none) :
    Walk table items (internAll table items).items (internAll table items).table := by
  induction items generalizing table with
  | nil => exact .nil table
  | cons item rest ih =>
      unfold internAll at clean ⊢
      cases found : intern table item with
      | none =>
          rw [found] at clean
          cases clean
      | some answer =>
          rw [found] at clean
          exact .cons (interns_of_eq_some found) (ih clean)

/-- Tables only grow. -/
theorem Walk.grows {table final items items' : List α} (walk : Walk table items items' final) :
    ∃ more, final = table ++ more := by
  induction walk with
  | nil table => exact ⟨[], (List.append_nil table).symm⟩
  | cons step _ ih =>
      obtain ⟨more, rfl⟩ := ih
      cases step with
      | known => exact ⟨more, rfl⟩
      | fresh => exact ⟨_ :: more, List.append_assoc ..⟩

/-- Goes on with more definitions, unless a conflict ended the walk. -/
def Interned.goOn (r : Interned α) (more : List α) : Interned α :=
  match r.conflict with
  | some _ => { r with items := r.items ++ more }
  | none =>
    let next := internAll r.table more
    { next with items := r.items ++ next.items }

/-- Nothing is carried over from one definition to the next but the table. -/
theorem internAll_append (table items more : List α) :
    internAll table (items ++ more) = (internAll table items).goOn more := by
  induction items generalizing table with
  | nil => rfl
  | cons item rest ih =>
      simp only [List.cons_append, internAll]
      cases intern table item with
      | none => rfl
      | some answer =>
          simp only [ih, Interned.goOn]
          cases (internAll answer.2 rest).conflict <;> rfl

/-- The walk over all shaders ends where the one over all definitions in a row does. -/
theorem gather_row (table : List α) (sources : List CompiledShader) :
    (gather table sources).table = (internAll table (sources.flatMap itemsOf)).table ∧
      (gather table sources).conflict = (internAll table (sources.flatMap itemsOf)).conflict := by
  induction sources generalizing table with
  | nil => exact ⟨rfl, rfl⟩
  | cons s rest ih =>
      rw [List.flatMap_cons, internAll_append]
      unfold gather Interned.goOn
      cases ended : (internAll table (itemsOf s)).conflict with
      | some name => simp only [ended, and_self]
      | none =>
          simp only [ended]
          exact ih (internAll table (itemsOf s)).table

/-- Only the definitions matter to the table and to a conflict. -/
theorem gather_congr {table : List α} {sources sources' : List CompiledShader}
    (same : sources.map (itemsOf (α := α)) = sources'.map itemsOf) :
    (gather table sources).table = (gather table sources').table ∧
      (gather table sources).conflict = (gather table sources').conflict := by
  have rows : sources.flatMap (itemsOf (α := α)) = sources'.flatMap itemsOf := by
    rw [List.flatMap_def, List.flatMap_def, same]
  have row := gather_row table sources
  rw [rows] at row
  have row' := gather_row table sources'
  exact ⟨row.1.trans row'.1.symm, row.2.trans row'.2.symm⟩

/-- The definitions whose name is neither seen before nor that of an earlier one. -/
def firstsAfter (seen : List String) : List α → List α
  | [] => []
  | a :: rest =>
    if name a ∈ seen then firstsAfter seen rest
    else a :: firstsAfter (seen ++ [name a]) rest

/-! ## Laws -/

variable [LawfulShared α]

attribute [simp] index_withIndex withoutIndex_withIndex shape_withIndex

@[simp] theorem name_withIndex (a : α) (k : Nat) : name (withIndex a k) = name a := by
  rw [← name_shape, shape_withIndex, name_shape]

@[simp] theorem agrees_withIndex (a b : α) (k : Nat) : agrees a (withIndex b k) = agrees a b := by
  rw [Bool.eq_iff_iff, agrees_iff, agrees_iff, shape_withIndex]

@[simp] theorem withIndex_agrees (a b : α) (k : Nat) : agrees (withIndex a k) b = agrees a b := by
  rw [Bool.eq_iff_iff, agrees_iff, agrees_iff, shape_withIndex]

theorem agrees_self (a : α) : agrees a a = true := (agrees_iff a a).mpr rfl

theorem name_eq_of_agrees {a b : α} (same : agrees a b = true) : name a = name b := by
  rw [← name_shape a, (agrees_iff a b).mp same, name_shape]

/-! ## Tables -/

/-- Every definition of a table carries its own place, and no name repeats. -/
structure Indexed (table : List α) : Prop where
  distinct : (table.map name).Nodup
  own_place : ∀ (k : Nat) (inTable : k < table.length), index table[k] = some k

/-- A definition carries a place in a table, and agrees with what stands there. -/
def Placed (table : List α) (item : α) : Prop :=
  ∃ (k : Nat) (inTable : k < table.length), index item = some k ∧ agrees table[k] item = true

theorem indexed_nil : Indexed ([] : List α) := ⟨List.nodup_nil, nofun⟩

theorem Placed.append {table : List α} {item : α} (placed : Placed table item) (more : List α) :
    Placed (table ++ more) item := by
  obtain ⟨k, inTable, own, same⟩ := placed
  refine ⟨k, by rw [List.length_append]; omega, own, ?_⟩
  rw [List.getElem_append_left inTable]
  exact same

/-- Definitions of one table have the same place exactly when they have the same name. -/
theorem index_eq_iff_name_eq {table : List α} (indexed : Indexed table) {a b : α}
    (placedA : Placed table a) (placedB : Placed table b) :
    index a = index b ↔ name a = name b := by
  obtain ⟨j, inTableA, ownA, sameA⟩ := placedA
  obtain ⟨k, inTableB, ownB, sameB⟩ := placedB
  rw [ownA, ownB, Option.some.injEq, ← name_eq_of_agrees sameA, ← name_eq_of_agrees sameB]
  constructor
  · rintro rfl
    rfl
  · intro same
    have inNamesA : j < (table.map name).length := by simpa using inTableA
    have inNamesB : k < (table.map name).length := by simpa using inTableB
    have sameName : (table.map name)[j] = (table.map name)[k] := by simpa using same
    exact indexed.distinct.getElem_inj_iff.mp sameName

/-- Definitions with one place in a table agree. -/
theorem agrees_of_index_eq {table : List α} {a b : α} (placedA : Placed table a)
    (placedB : Placed table b) (same : index a = index b) : agrees a b = true := by
  obtain ⟨j, inTableA, ownA, sameA⟩ := placedA
  obtain ⟨k, inTableB, ownB, sameB⟩ := placedB
  rw [ownA, ownB] at same
  obtain rfl := Option.some.inj same
  rw [agrees_iff] at sameA sameB ⊢
  exact sameA.symm.trans sameB

theorem Interns.indexed {table table' : List α} {item item' : α}
    (step : Interns table item item' table') (indexed : Indexed table) : Indexed table' := by
  cases step with
  | known => exact indexed
  | fresh new =>
      constructor
      · rw [List.map_append, List.map_singleton, name_withIndex]
        have apart : ∀ a ∈ table.map name, ∀ b ∈ [name item], a ≠ b := by
          intro a old b given
          rw [List.mem_singleton.mp given]
          rintro rfl
          exact new old
        exact List.nodup_append.mpr ⟨indexed.distinct, List.nodup_singleton _, apart⟩
      · intro k inTable
        rw [List.length_append, List.length_singleton] at inTable
        by_cases old : k < table.length
        · rw [List.getElem_append_left old]
          exact indexed.own_place k old
        · have last : k = table.length := by omega
          subst last
          simp

theorem Interns.placed {table table' : List α} {item item' : α}
    (step : Interns table item item' table') : Placed table' item' := by
  cases step with
  | known k inTable same => exact ⟨k, inTable, by simp, by simpa using same⟩
  | fresh new => exact ⟨table.length, by simp, by simp, by simpa using agrees_self item⟩

/-- Definitions that are walked over lose nothing but their index. -/
theorem internAll_items (table items : List α) :
    (internAll table items).items.map withoutIndex = items.map withoutIndex := by
  induction items generalizing table with
  | nil => rfl
  | cons item rest ih =>
      unfold internAll
      cases found : intern table item with
      | none => rfl
      | some answer =>
          obtain ⟨item', table'⟩ := answer
          have kept : withoutIndex item' = withoutIndex item := by
            cases interns_of_eq_some found <;> simp
          simp only [List.map_cons, kept, ih]

/-! ## Along a walk -/

section

variable {table final items items' : List α}

theorem Walk.indexed (walk : Walk table items items' final) (start : Indexed table) :
    Indexed final := by
  induction walk with
  | nil => exact start
  | cons step _ ih => exact ih (step.indexed start)

/-- What a step places is still there when the walk is over. -/
theorem Walk.placed (walk : Walk table items items' final) : ∀ a ∈ items', Placed final a := by
  induction walk with
  | nil => nofun
  | cons step walk ih =>
      rintro a inItems
      rcases List.mem_cons.mp inItems with rfl | later
      · -- placed in the table of this step, which the rest of the walk only extends
        obtain ⟨more, rfl⟩ := walk.grows
        exact step.placed.append more
      · exact ih a later

/-- The first definition of each new name enters the table. -/
theorem Walk.table_eq (walk : Walk table items items' final) :
    final = table ++ firstsAfter (table.map name) items' := by
  induction walk with
  | nil table => exact (List.append_nil table).symm
  | cons step _ ih =>
      cases step with
      | known k inTable same =>
          -- what agrees has its name, so the name was seen
          have seen := List.mem_map_of_mem (f := name) (List.getElem_mem inTable)
          rw [name_eq_of_agrees same] at seen
          rw [ih, firstsAfter, name_withIndex, if_pos seen]
      | fresh new =>
          rw [ih, firstsAfter, name_withIndex, if_neg new, List.map_append, List.map_singleton,
            name_withIndex, List.append_assoc, List.singleton_append]

end

/-! ## All shaders -/

@[simp] theorem itemsOf_putItems (s : CompiledShader) (items : List α) :
    itemsOf (putItems s items) = items :=
  ofInterface_putInto _ _

variable (α) in
/-- A shader without the indices of its definitions. -/
def clear (s : CompiledShader) : CompiledShader :=
  putItems s ((itemsOf s : List α).map withoutIndex)

theorem clear_putItems {s : CompiledShader} {items : List α}
    (same : items.map withoutIndex = (itemsOf s : List α).map withoutIndex) :
    clear α (putItems s items) = clear α s := by
  unfold clear
  rw [itemsOf_putItems, same]
  simp only [putItems, putInto_putInto]

/-- With or without a conflict, nothing but indices changes. -/
theorem gather_clear (table : List α) (sources : List CompiledShader) :
    (gather table sources).sources.map (clear α) = sources.map (clear α) := by
  induction sources generalizing table with
  | nil => rfl
  | cons s rest ih =>
      have done := clear_putItems (internAll_items table (itemsOf s))
      unfold gather
      cases ended : (internAll table (itemsOf s)).conflict with
      | none => simp only [ended, List.map_cons, done, ih]
      | some name => simp only [ended, List.map_cons, done]

/-- What does not see indices stays as it was. -/
theorem gather_map_of_blind {β : Type} (f : CompiledShader → β)
    (blind : ∀ s, f (clear α s) = f s) (table : List α) (sources : List CompiledShader) :
    (gather table sources).sources.map f = sources.map f := by
  have cleared := congrArg (List.map f) (gather_clear table sources)
  have same : f ∘ clear α = f := funext blind
  rw [List.map_map, List.map_map, same] at cleared
  exact cleared

/-- The walk over all shaders is one over all their definitions in a row. -/
theorem gather_walk {table : List α} {sources : List CompiledShader}
    (clean : (gather table sources).conflict = none) :
    Walk table (sources.flatMap itemsOf) ((gather table sources).sources.flatMap itemsOf)
      (gather table sources).table := by
  induction sources generalizing table with
  | nil => exact .nil table
  | cons s rest ih =>
      unfold gather at clean ⊢
      cases ended : (internAll table (itemsOf s)).conflict with
      | some name =>
          simp only [ended] at clean
          cases clean
      | none =>
          simp only [ended] at clean
          simp only [ended, List.flatMap_cons, itemsOf_putItems]
          exact (internAll_walk ended).append (ih clean)

end Unify

/-! ## The contract -/

section

open Shared LawfulShared Unify

/-- What holds of shaders before and after a unification, and of its table. -/
structure Unified {α : Type} [Shared α] [LawfulShared α] (sources : List CompiledShader)
    (after : Gathered α) : Prop where
  names_distinct : (after.table.map name).Nodup
  own_index : ∀ (k : Nat) (inTable : k < after.table.length), index after.table[k] = some k
  indexed_and_agreeing : ∀ s ∈ after.sources, ∀ a ∈ itemsOf s,
    ∃ (k : Nat) (inTable : k < after.table.length),
      index a = some k ∧ agrees after.table[k] a = true
  same_index_iff_same_name : ∀ s ∈ after.sources, ∀ a ∈ itemsOf s, ∀ t ∈ after.sources,
    ∀ b ∈ itemsOf t, index a = index b ↔ name (α := α) a = name (α := α) b
  table_firsts : after.table = firstsAfter [] (after.sources.flatMap itemsOf)
  only_indices_change : after.sources.map (clear α) = sources.map (clear α)

/-- Unification that ends without a conflict keeps its contract. -/
theorem unified_of_clean {α : Type} [Shared α] [LawfulShared α] (sources : List CompiledShader)
    (clean : (gather (α := α) [] sources).conflict = none) :
    Unified (α := α) sources (gather [] sources) := by
  have walk := gather_walk clean
  have indexed := walk.indexed indexed_nil
  have placed : ∀ s ∈ (gather (α := α) [] sources).sources, ∀ a ∈ itemsOf s,
      Placed (gather (α := α) [] sources).table a :=
    fun s ofSources a ofShader => walk.placed a (List.mem_flatMap.mpr ⟨s, ofSources, ofShader⟩)
  exact {
    names_distinct := indexed.distinct
    own_index := indexed.own_place
    indexed_and_agreeing := placed
    same_index_iff_same_name := fun s ofSources a inS t ofSources' b inT =>
      index_eq_iff_name_eq indexed (placed s ofSources a inS) (placed t ofSources' b inT)
    table_firsts := walk.table_eq
    only_indices_change := gather_clear [] sources }

/-- **Unified blocks and images: the table and the indices belong together.** -/
theorem gather_unified (sources : List CompiledShader) :
    ((gather (α := UniformBlock) [] sources).conflict = none →
        Unified (α := UniformBlock) sources (gather [] sources)) ∧
      ((gather (α := Image) [] sources).conflict = none →
        Unified (α := Image) sources (gather [] sources)) :=
  ⟨unified_of_clean sources, unified_of_clean sources⟩

/-- Two shaders that share a block at different slots, the second with an image of its own. -/
def litAndSky : List CompiledShader :=
  [⟨0, "lit", { (default : Interface) with uniformBlocks := [⟨0, 64, "params", [], none⟩] }⟩,
    ⟨1, "sky", { (default : Interface) with
      uniformBlocks := [⟨0, 16, "sun", [], some 9⟩, ⟨1, 64, "params", [], none⟩]
      images := [⟨0, "clouds", .cube, .float, none⟩] }⟩]

theorem gather_unified_litAndSky :
    ((gather (α := UniformBlock) [] litAndSky).conflict = none ∧
        (gather (α := Image) [] litAndSky).conflict = none) ∧
      Unified (α := UniformBlock) litAndSky (gather [] litAndSky) ∧
      Unified (α := Image) litAndSky (gather [] litAndSky) :=
  have blocks : (gather (α := UniformBlock) [] litAndSky).conflict = none := by decide
  have images : (gather (α := Image) [] litAndSky).conflict = none := by decide
  ⟨⟨blocks, images⟩, (gather_unified litAndSky).1 blocks, (gather_unified litAndSky).2 images⟩

end

end ShaderBundle
