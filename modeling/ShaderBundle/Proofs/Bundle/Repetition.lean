/-
# Proofs.Bundle.Repetition — unifying in parts, again, and in either order

Unification carries nothing from one shader to the next but the table.  So it can end after
some shaders and go on with others from the table it has then (`Gathered.goOn`); a conflict
among the first leaves the others as they are.

A table keeps a definition when looking it up changes neither (`Kept`).  What a look-up
answers with is kept by the table after it (`kept_of_intern`), and by every longer one, because
a name stands where it stands first (`Kept.append`).  In the end the table keeps every
definition, and unifying a second time changes nothing.  This does not need the first table to
be in order: a name may repeat in it, and its indices may be wrong.

Blocks and images have different places in an interface.  Whichever are unified first, the
others do not notice.
-/
import ShaderBundle.Proofs.Bundle.Interruption

namespace ShaderBundle

set_option autoImplicit false

section

variable {α : Type} [Shared α]

/-- Goes on with more shaders, unless a conflict ended the walk. -/
def Gathered.goOn (g : Gathered α) (more : List CompiledShader) : Gathered α :=
  match g.conflict with
  | some _ => { g with sources := g.sources ++ more }
  | none =>
    let next := gather g.table more
    { next with sources := g.sources ++ next.sources }

end

namespace Unify

open Shared LawfulShared

section

variable {α : Type} [Shared α]

/-! ## In parts -/

theorem gather_append (table : List α) (sources more : List CompiledShader) :
    gather table (sources ++ more) = (gather table sources).goOn more := by
  induction sources generalizing table with
  | nil => rfl
  | cons s rest ih =>
      simp only [List.cons_append, gather]
      cases ended : (internAll table (itemsOf s)).conflict with
      | some name => rfl
      | none =>
          simp only [ih, Gathered.goOn]
          cases (gather (internAll table (itemsOf s)).table rest).conflict <;> rfl

/-! ## Again -/

/-- A table keeps a definition: looking it up changes neither. -/
def Kept (table : List α) (item : α) : Prop := intern table item = some (item, table)

/-- Where the first of its name stands in a table, a definition that is kept has its index. -/
theorem kept_iff (table : List α) (item : α) :
    Kept table item ↔ ∃ k first, table.findIdx? (fun other => name other = name item) = some k ∧
      table[k]? = some first ∧ agrees first item = true ∧ withIndex item k = item := by
  unfold Kept intern
  cases place : table.findIdx? fun other => name other = name item with
  | none => simp
  | some k =>
      obtain ⟨inTable, -, -⟩ := List.findIdx?_eq_some_iff_getElem.mp place
      simp [List.getElem?_eq_getElem inTable]

theorem Kept.append {table : List α} {item : α} (kept : Kept table item) (more : List α) :
    Kept (table ++ more) item := by
  obtain ⟨k, first, place, there, same, own⟩ := (kept_iff table item).mp kept
  obtain ⟨inTable, -⟩ := List.getElem?_eq_some_iff.mp there
  refine (kept_iff _ item).mpr ⟨k, first, ?_, ?_, same, own⟩
  · rw [List.findIdx?_append, place, Option.some_or]
  · rw [List.getElem?_append_left inTable, there]

theorem internAll_of_kept {table items : List α} (kept : ∀ item ∈ items, Kept table item) :
    internAll table items = ⟨items, table, none⟩ := by
  induction items with
  | nil => rfl
  | cons item rest ih =>
      obtain ⟨first, later⟩ := List.forall_mem_cons.mp kept
      unfold Kept at first
      rw [internAll, first]
      simp only [ih later]

variable [StableShared α]

/-- What a look-up answers with is kept. -/
theorem kept_of_intern {table table' : List α} {item item' : α}
    (found : intern table item = some (item', table')) : Kept table' item' := by
  rw [kept_iff]
  unfold intern at found
  split at found
  · rename_i missing
    obtain ⟨rfl, rfl⟩ := Prod.mk.inj (Option.some.inj found)
    refine ⟨table.length, withIndex item table.length, ?_, ?_, agrees_self _,
      StableShared.withIndex_withIndex _ _ _⟩
    · simp [List.findIdx?_append, missing]
    · simp
  · rename_i k place
    split at found
    · rename_i first there
      split at found
      · rename_i same
        obtain ⟨rfl, rfl⟩ := Prod.mk.inj (Option.some.inj found)
        refine ⟨k, first, ?_, there, ?_, StableShared.withIndex_withIndex _ _ _⟩
        · rw [name_withIndex, place]
        · rw [agrees_withIndex, same]
      · cases found
    · cases found

/-- When a walk is over, the table keeps all that was walked over. -/
theorem kept_of_internAll {table items : List α} (clean : (internAll table items).conflict = none) :
    ∀ item ∈ (internAll table items).items, Kept (internAll table items).table item := by
  induction items generalizing table with
  | nil => nofun
  | cons item rest ih =>
      unfold internAll at clean ⊢
      cases found : intern table item with
      | none =>
          rw [found] at clean
          cases clean
      | some answer =>
          rw [found] at clean
          obtain ⟨item', table'⟩ := answer
          obtain ⟨more, grown⟩ := (internAll_walk clean).grows
          refine List.forall_mem_cons.mpr ⟨?_, ih clean⟩
          simp only [grown]
          exact (kept_of_intern found).append more

theorem gather_of_kept {table : List α} {sources : List CompiledShader}
    (kept : ∀ item ∈ sources.flatMap itemsOf, Kept table item) :
    gather table sources = ⟨sources, table, none⟩ := by
  rw [gather_eq, internAll_of_kept kept, refill_row]

/-- Unifying again changes nothing. -/
theorem gather_gather {table : List α} {sources : List CompiledShader}
    (clean : (gather table sources).conflict = none) :
    gather (gather table sources).table (gather table sources).sources = gather table sources := by
  have row := (gather_row table sources).2
  rw [clean] at row
  have kept := kept_of_internAll row.symm
  have same : (gather table sources).sources.flatMap itemsOf =
      (internAll table (sources.flatMap itemsOf)).items := by
    rw [gather_eq, row_refill (length_internAll _ _)]
  rw [← same, ← (gather_row table sources).1] at kept
  rw [gather_of_kept kept, ← clean]

end

/-! ## In either order -/

theorem refill_comm (sources : List CompiledShader) (blocks : List UniformBlock)
    (images : List Image) :
    refill (refill sources blocks) images = refill (refill sources images) blocks := by
  induction sources generalizing blocks images with
  | nil => rfl
  | cons s rest ih =>
      simp only [refill]
      exact congrArg _ (ih _ _)

/-- The definitions of one kind in a row are the same before and after the other is unified. -/
theorem row_of_blind {α β : Type} [Shared α] [LawfulShared α] [Shared β]
    (blind : ∀ s, itemsOf (α := β) (clear α s) = itemsOf s) (table : List α)
    (sources : List CompiledShader) :
    (gather table sources).sources.flatMap (itemsOf (α := β)) = sources.flatMap itemsOf := by
  rw [List.flatMap_def, List.flatMap_def, gather_map_of_blind itemsOf blind]

end Unify

/-! ## The contract -/

section

open Unify

/-- How unification can be repeated: shaders may come in parts, and come again. -/
structure Repeatable (α : Type) [Shared α] : Prop where
  in_parts : ∀ (table : List α) (sources more : List CompiledShader),
    gather table (sources ++ more) = (gather table sources).goOn more
  again : ∀ (table : List α) (sources : List CompiledShader),
    (gather table sources).conflict = none →
    gather (gather table sources).table (gather table sources).sources = gather table sources

/-- Blocks and images are unified independently, with or without a conflict. -/
structure EitherOrder (blocks : List UniformBlock) (images : List Image)
    (sources : List CompiledShader) : Prop where
  same_sources : (gather images (gather blocks sources).sources).sources =
    (gather blocks (gather images sources).sources).sources
  block_table : (gather blocks (gather images sources).sources).table =
    (gather blocks sources).table
  image_table : (gather images (gather blocks sources).sources).table =
    (gather images sources).table
  block_conflict : (gather blocks (gather images sources).sources).conflict =
    (gather blocks sources).conflict
  image_conflict : (gather images (gather blocks sources).sources).conflict =
    (gather images sources).conflict

theorem repeatable (α : Type) [Shared α] [StableShared α] : Repeatable α where
  in_parts := gather_append
  again _ _ := gather_gather

theorem eitherOrder (blocks : List UniformBlock) (images : List Image)
    (sources : List CompiledShader) : EitherOrder blocks images sources := by
  have ofImages := row_of_blind (β := Image) (fun _ => rfl) blocks sources
  have ofBlocks := row_of_blind (β := UniformBlock) (fun _ => rfl) images sources
  have imagesLater := gather_eq images (gather blocks sources).sources
  have blocksLater := gather_eq blocks (gather images sources).sources
  rw [ofImages] at imagesLater
  rw [ofBlocks] at blocksLater
  refine ⟨?_, ?_, ?_, ?_, ?_⟩
  · rw [imagesLater, blocksLater, gather_eq blocks sources, gather_eq images sources]
    exact refill_comm sources _ _
  · rw [blocksLater, gather_eq blocks sources]
  · rw [imagesLater, gather_eq images sources]
  · rw [blocksLater, gather_eq blocks sources]
  · rw [imagesLater, gather_eq images sources]

/-- **Unification can be done in parts, a second time, and for blocks and images in either
order.** -/
theorem gather_repeatable :
    Repeatable UniformBlock ∧ Repeatable Image ∧
      ∀ (blocks : List UniformBlock) (images : List Image) (sources : List CompiledShader),
        EitherOrder blocks images sources :=
  ⟨repeatable UniformBlock, repeatable Image, eitherOrder⟩

/-- From a table that is not in order: unified again, and gone on with to a conflict. -/
theorem gather_repeatable_worn :
    ((gather wornTable litAndSky).conflict = none ∧
        gather (gather wornTable litAndSky).table (gather wornTable litAndSky).sources =
          gather wornTable litAndSky) ∧
      ((gather wornTable (litAndSky ++ litSkyAndSea)).conflict = some "params" ∧
        gather wornTable (litAndSky ++ litSkyAndSea) =
          (gather wornTable litAndSky).goOn litSkyAndSea) ∧
      EitherOrder wornTable [] litSkyAndSea := by
  have clean : (gather wornTable litAndSky).conflict = none := by decide
  refine ⟨⟨clean, ?_⟩, ⟨by decide, ?_⟩, ?_⟩
  · exact gather_repeatable.1.again wornTable litAndSky clean
  · exact gather_repeatable.1.in_parts wornTable litAndSky litSkyAndSea
  · exact gather_repeatable.2.2 wornTable [] litSkyAndSea

end

end ShaderBundle
