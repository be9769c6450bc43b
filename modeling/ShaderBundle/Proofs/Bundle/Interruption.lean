/-
# Proofs.Bundle.Interruption — what a conflict leaves behind

Unification goes shader by shader, and in each shader definition by definition.  It is one
walk over all definitions in a row (`gather_eq`): what comes out of the walk is put back into
the shaders, each of which takes as many definitions as it had (`refill`).

A conflict ends the walk at one definition of the row (`exists_cut`).  Those before it were
looked up without a conflict; they carry their indices, and the table is the one that they
made.  That definition and all behind it were never touched, and of the shaders nothing but
indices has changed (`EndedAt`).

Nothing is asked of the table that the walk starts from.  Names may repeat in it, since only
the first of a name is ever looked at, and the indices in it are not read.
-/
import ShaderBundle.Proofs.Bundle.Conflict

namespace ShaderBundle

set_option autoImplicit false

/-- Lawful, and what is put back or indexed a second time leaves no trace of the first. -/
class StableShared (α : Type) [Shared α] extends LawfulShared α where
  putInto_ofInterface : ∀ i : Interface, Shared.putInto i (Shared.ofInterface i : List α) = i
  withIndex_withIndex : ∀ (a : α) (j k : Nat),
    Shared.withIndex (Shared.withIndex a j) k = Shared.withIndex a k

instance : StableShared UniformBlock where
  putInto_ofInterface _ := rfl
  withIndex_withIndex _ _ _ := rfl

instance : StableShared Image where
  putInto_ofInterface _ := rfl
  withIndex_withIndex _ _ _ := rfl

namespace Unify

open Shared LawfulShared

variable {α : Type} [Shared α]

/-! ## Shaders and their definitions in a row -/

/-- Shaders with the definitions of a row in place of their own, each with as many as it had. -/
def refill : List CompiledShader → List α → List CompiledShader
  | [], _ => []
  | s :: rest, row =>
    putItems s (row.take (itemsOf (α := α) s).length) ::
      refill rest (row.drop (itemsOf (α := α) s).length)

theorem refill_cons {s : CompiledShader} {items : List α}
    (fits : items.length = (itemsOf (α := α) s).length) (rest : List CompiledShader)
    (row : List α) : refill (s :: rest) (items ++ row) = putItems s items :: refill rest row := by
  rw [refill, ← fits, List.take_left, List.drop_left]

@[simp] theorem length_refill (sources : List CompiledShader) (row : List α) :
    (refill sources row).length = sources.length := by
  induction sources generalizing row with
  | nil => rfl
  | cons s rest ih => rw [refill, List.length_cons, List.length_cons, ih]

/-- A row is divided between the shaders in front and those behind. -/
theorem refill_append {front : List CompiledShader} {items : List α}
    (fits : items.length = (front.flatMap (itemsOf (α := α))).length)
    (behind : List CompiledShader) (row : List α) :
    refill (front ++ behind) (items ++ row) = refill front items ++ refill behind row := by
  induction front generalizing items with
  | nil =>
      rw [List.length_eq_zero_iff.mp fits]
      rfl
  | cons s rest ih =>
      rw [List.flatMap_cons, List.length_append] at fits
      have enough : (itemsOf (α := α) s).length ≤ items.length := by omega
      have left : (items.drop (itemsOf (α := α) s).length).length =
          (rest.flatMap (itemsOf (α := α))).length := by
        rw [List.length_drop]
        omega
      simp only [List.cons_append, refill, List.take_append_of_le_length enough,
        List.drop_append_of_le_length enough, ih left]

section

variable [LawfulShared α]

theorem length_internAll (table items : List α) :
    (internAll table items).items.length = items.length := by
  have same := congrArg List.length (internAll_items table items)
  rwa [List.length_map, List.length_map] at same

theorem row_refill {sources : List CompiledShader} {row : List α}
    (fits : row.length = (sources.flatMap (itemsOf (α := α))).length) :
    (refill sources row).flatMap itemsOf = row := by
  induction sources generalizing row with
  | nil => exact (List.length_eq_zero_iff.mp fits).symm
  | cons s rest ih =>
      rw [List.flatMap_cons, List.length_append] at fits
      have left : (row.drop (itemsOf (α := α) s).length).length =
          (rest.flatMap (itemsOf (α := α))).length := by
        rw [List.length_drop]
        omega
      rw [refill, List.flatMap_cons, itemsOf_putItems, ih left, List.take_append_drop]

end

section

variable [StableShared α]

theorem putItems_itemsOf (s : CompiledShader) : putItems s (itemsOf (α := α) s) = s := by
  unfold putItems itemsOf
  rw [StableShared.putInto_ofInterface]

/-- Shaders that are given their own definitions stay as they are. -/
theorem refill_row (sources : List CompiledShader) :
    refill sources (sources.flatMap (itemsOf (α := α))) = sources := by
  induction sources with
  | nil => rfl
  | cons s rest ih => rw [List.flatMap_cons, refill_cons rfl, putItems_itemsOf, ih]

/-- Unification is one walk over all definitions in a row. -/
theorem gather_eq (table : List α) (sources : List CompiledShader) :
    gather table sources =
      { sources := refill sources (internAll table (sources.flatMap itemsOf)).items
        table := (internAll table (sources.flatMap itemsOf)).table
        conflict := (internAll table (sources.flatMap itemsOf)).conflict } := by
  induction sources generalizing table with
  | nil => rfl
  | cons s rest ih =>
      rw [List.flatMap_cons, internAll_append]
      unfold gather Interned.goOn
      cases ended : (internAll table (itemsOf s)).conflict with
      | some name => simp only [ended, refill_cons (length_internAll table (itemsOf s)), refill_row]
      | none => simp only [ended, ih, refill_cons (length_internAll table (itemsOf s))]

end

/-! ## Where a walk ends -/

/-- A definition that disagrees with the first of its name ends the walk. -/
theorem internAll_cut {table before : List α} {item : α}
    (clean : (internAll table before).conflict = none)
    (strays : Strays (internAll table before).table item) (after : List α) :
    internAll table (before ++ item :: after) =
      ⟨(internAll table before).items ++ item :: after, (internAll table before).table,
        some (name item)⟩ := by
  have ended : internAll (internAll table before).table (item :: after) =
      ⟨item :: after, (internAll table before).table, some (name item)⟩ := by
    rw [internAll, (intern_eq_none_iff _ _).mpr strays]
  rw [internAll_append]
  unfold Interned.goOn
  simp only [clean, ended]

/-- A walk with a conflict has such a definition, and none in front of it. -/
theorem exists_cut {table row : List α} (ended : (internAll table row).conflict ≠ none) :
    ∃ before item after, row = before ++ item :: after ∧
      (internAll table before).conflict = none ∧ Strays (internAll table before).table item := by
  induction row generalizing table with
  | nil => exact absurd rfl ended
  | cons item rest ih =>
      cases found : intern table item with
      | none => exact ⟨[], item, rest, rfl, rfl, (intern_eq_none_iff table item).mp found⟩
      | some answer =>
          have later : (internAll answer.2 rest).conflict ≠ none := by
            rwa [internAll, found] at ended
          obtain ⟨before, cut, after, rfl, clean, strays⟩ := ih later
          refine ⟨item :: before, cut, after, rfl, ?_, ?_⟩
          · rw [internAll, found]
            exact clean
          · rw [internAll, found]
            exact strays

/-- A row that is cut no later than where the shaders in front end. -/
theorem exists_split_of_row {front rest : List CompiledShader} {before after : List α} {item : α}
    (row : (front ++ rest).flatMap itemsOf = before ++ item :: after)
    (early : before.length ≤ (front.flatMap (itemsOf (α := α))).length) :
    ∃ more, front.flatMap itemsOf = before ++ more ∧ item :: after = more ++ rest.flatMap itemsOf := by
  rw [List.flatMap_append] at row
  rcases List.append_eq_append_iff.mp row with ⟨more, longer, same⟩ | ⟨more, longer, same⟩
  · have lengths := congrArg List.length longer
    rw [List.length_append] at lengths
    obtain rfl : more = [] := List.length_eq_zero_iff.mp (by omega)
    exact ⟨[], by rw [longer, List.append_nil, List.append_nil], same.symm⟩
  · exact ⟨more, longer, same⟩

end Unify

/-! ## What is left -/

section

open Shared LawfulShared Unify

/-- How things are left by a conflict at a definition of the row. -/
structure EndedAt {α : Type} [Shared α] [LawfulShared α] (table : List α)
    (sources : List CompiledShader) (before : List α) (item : α) (after : List α) : Prop where
  row : sources.flatMap itemsOf = before ++ item :: after
  /-- Those before it are looked up without a conflict, and it is one in the table they make. -/
  first : (internAll table before).conflict = none ∧ Strays (internAll table before).table item
  named : (gather table sources).conflict = some (name item)
  table_left : (gather table sources).table = (internAll table before).table
  row_left : (gather table sources).sources.flatMap itemsOf =
    (internAll table before).items ++ item :: after
  only_indices_change : (gather table sources).sources.map (clear α) = sources.map (clear α)
  /-- The shaders behind it are the very same. -/
  behind : ∀ front rest, sources = front ++ rest →
    before.length ≤ (front.flatMap (itemsOf (α := α))).length →
    (gather table sources).sources.drop front.length = rest

variable {α : Type} [Shared α] [StableShared α]

theorem endedAt_of_cut {table : List α} {sources : List CompiledShader} {before after : List α}
    {item : α} (row : sources.flatMap itemsOf = before ++ item :: after)
    (clean : (internAll table before).conflict = none)
    (strays : Strays (internAll table before).table item) :
    EndedAt table sources before item after := by
  have gathered := gather_eq table sources
  rw [row, internAll_cut clean strays] at gathered
  have sameLength : ((internAll table before).items ++ item :: after).length =
      (sources.flatMap (itemsOf (α := α))).length := by
    rw [row, List.length_append, List.length_append, length_internAll]
  refine ⟨row, ⟨clean, strays⟩, ?_, ?_, ?_, gather_clear table sources, ?_⟩
  · rw [gathered]
  · rw [gathered]
  · rw [gathered]
    exact row_refill sameLength
  · rintro front rest rfl behind
    -- the cut is within what the shaders in front have, or right behind it
    obtain ⟨more, inFront, split⟩ := exists_split_of_row row behind
    have fits : ((internAll table before).items ++ more).length =
        (front.flatMap (itemsOf (α := α))).length := by
      rw [inFront, List.length_append, List.length_append, length_internAll]
    rw [gathered, split, ← List.append_assoc, refill_append fits, refill_row]
    exact List.drop_left' (length_refill _ _)

theorem exists_endedAt {table : List α} {sources : List CompiledShader}
    (conflict : (gather table sources).conflict ≠ none) :
    ∃ before item after, EndedAt table sources before item after := by
  rw [(gather_row table sources).2] at conflict
  obtain ⟨before, item, after, row, clean, strays⟩ := exists_cut conflict
  exact ⟨before, item, after, endedAt_of_cut row clean strays⟩

/-- **A conflict cuts the row of all definitions in two.**  Those in front of it are unified as
they would be alone; it and all behind it, and whatever is no index, stay as they were. -/
theorem gather_conflict_leaves :
    (∀ (table : List UniformBlock) (sources : List CompiledShader),
        (gather table sources).conflict ≠ none →
        ∃ before item after, EndedAt table sources before item after) ∧
      ∀ (table : List Image) (sources : List CompiledShader),
        (gather table sources).conflict ≠ none →
        ∃ before item after, EndedAt table sources before item after :=
  ⟨fun _ _ => exists_endedAt, fun _ _ => exists_endedAt⟩

/-- A table that has a name twice, under an index that is out of date. -/
def wornTable : List UniformBlock :=
  [⟨0, 64, "params", [], some 7⟩, ⟨0, 80, "params", [], none⟩]

/-- A third shader, whose second block agrees with the second of its name in `wornTable` only,
and whose first image is a cube elsewhere. -/
def litSkyAndSea : List CompiledShader :=
  litAndSky ++ [⟨2, "sea", { (default : Interface) with
    uniformBlocks := [⟨3, 16, "sun", [], none⟩, ⟨0, 80, "params", [], some 4⟩, ⟨1, 16, "moon", [], none⟩]
    images := [⟨0, "clouds", .plane, .float, some 5⟩] }⟩]

/-- The indices that are left, also of what the conflict is about and of what is behind it. -/
example : (gather wornTable litSkyAndSea).sources.flatMap
    (fun s => s.interface.uniformBlocks.map (·.uniqueIndex)) =
      [some 0, some 2, some 0, some 2, some 4, none] := by decide

theorem gather_conflict_leaves_sea :
    ((gather wornTable litSkyAndSea).conflict = some "params" ∧
        ∃ before item after, EndedAt wornTable litSkyAndSea before item after) ∧
      (gather ([] : List Image) litSkyAndSea).conflict = some "clouds" ∧
        ∃ before item after, EndedAt ([] : List Image) litSkyAndSea before item after := by
  have blocks : (gather wornTable litSkyAndSea).conflict = some "params" := by decide
  have images : (gather ([] : List Image) litSkyAndSea).conflict = some "clouds" := by decide
  refine ⟨⟨blocks, ?_⟩, images, ?_⟩
  · exact gather_conflict_leaves.1 wornTable litSkyAndSea (by simp [blocks])
  · exact gather_conflict_leaves.2 [] litSkyAndSea (by simp [images])

end

end ShaderBundle
