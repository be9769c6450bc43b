/-
# Proofs.Shader.Bindings — where resources are bound

A resource that is bound has a place: a set and a binding in it (`boundAt`).  `bindFrom`
gives resources their places one after the other.  With distinct ids no resource takes the
place of an earlier one away, and nothing changes but the two decorations of these ids.

`fixBindSlots` therefore binds blocks and images in two rows of places
(`map_boundAt_fixBindSlots`), whatever they were bound to before (`decoration_fixBindSlots_congr`).
The rows of one shader never meet.  Under the web scheme the rows of both stages are in use
at once, and the fifth vertex block has the place of the first fragment block
(`sharePlace_iff`).
-/
import Mathlib.Data.Fintype.Card
import Mathlib.Data.List.Nodup
import ShaderBundle.Proofs.Shader.Lawful
import ShaderBundle.Shader.Binding

namespace ShaderBundle

set_option autoImplicit false

/-! ## Rows of places -/

/-- So many places of a set, one after the other. -/
def placesFrom (set first : UInt32) (count : Nat) : List (UInt32 × UInt32) :=
  (List.range count).map fun j => (set, first + UInt32.ofNat j)

/-- Counting from the next number on. -/
theorem add_one_add_ofNat (first : UInt32) (j : Nat) :
    first + 1 + UInt32.ofNat j = first + UInt32.ofNat (j + 1) := by
  rw [UInt32.ofNat_add, UInt32.add_assoc, UInt32.add_comm 1]
  rfl

theorem placesFrom_succ (set first : UInt32) (count : Nat) :
    placesFrom set first (count + 1) = (set, first) :: placesFrom set (first + 1) count := by
  simp [placesFrom, List.range_succ_eq_map, add_one_add_ofNat]

theorem mem_placesFrom_iff (set first : UInt32) (count : Nat) (place : UInt32 × UInt32) :
    place ∈ placesFrom set first count ↔
      ∃ j < count, place = (set, first + UInt32.ofNat j) := by
  simp [placesFrom, eq_comm]

/-- A row does not come back to a place before it has gone through all bindings. -/
theorem nodup_placesFrom (set first : UInt32) {count : Nat} (fits : count ≤ UInt32.size) :
    (placesFrom set first count).Nodup := by
  refine List.Nodup.map_on ?_ List.nodup_range
  intro i inRow j inRow' same
  rw [List.mem_range] at inRow inRow'
  have binding : UInt32.ofNat i = UInt32.ofNat j :=
    (UInt32.add_right_inj first).mp (congrArg Prod.snd same)
  have inNat := congrArg UInt32.toNat binding
  rwa [UInt32.toNat_ofNat_of_lt' (by omega), UInt32.toNat_ofNat_of_lt' (by omega)] at inNat

section

variable {σ : Type} [Shader σ]

/-- The place of a resource: its set and its binding. -/
def boundAt (s : σ) (r : Resource) : UInt32 × UInt32 :=
  (Shader.decoration s r.id .descriptorSet, Shader.decoration s r.id .binding)

/-- The resources that are bound: the blocks, then the images. -/
def boundResources (s : σ) : List Resource :=
  (Shader.resources s).uniformBuffers ++ (Shader.resources s).sampledImages

/-- No resource that is bound has the id of another. -/
def DistinctIds (s : σ) : Prop := ((boundResources s).map Resource.id).Nodup

instance (s : σ) : Decidable (DistinctIds s) :=
  inferInstanceAs (Decidable ((boundResources s).map Resource.id).Nodup)

/-- Whether a decoration of an id is part of the place of a resource. -/
def IsPlacing (s : σ) (id : Id) (d : Spirv.Decoration) : Prop :=
  id ∈ (boundResources s).map Resource.id ∧ (d = .descriptorSet ∨ d = .binding)

/-- Ids have 32 bits, so no more resources can be told apart. -/
theorem length_le_of_distinctIds {rs : List Resource} (distinct : (rs.map Resource.id).Nodup) :
    rs.length ≤ UInt32.size := by
  have places : ((rs.map Resource.id).map UInt32.toFin).Nodup :=
    distinct.map fun _ _ same => UInt32.toFin_inj.mp same
  have bounded := places.length_le_card
  rwa [List.length_map, List.length_map, Fintype.card_fin] at bounded

variable [LawfulShader σ]

open LawfulShader

/-! ## Binding one after the other -/

theorem resources_bindFrom (set slot : UInt32) (rs : List Resource) (s : σ) :
    Shader.resources (bindFrom set slot rs s) = Shader.resources s := by
  induction rs generalizing slot s with
  | nil => rfl
  | cons r rest ih =>
      unfold bindFrom
      rw [ih, resources_decorate _ _ _ _ (by decide) (by decide),
        resources_decorate _ _ _ _ (by decide) (by decide)]

theorem memberDecoration_bindFrom (set slot : UInt32) (rs : List Resource) (s : σ) :
    Shader.memberDecoration (bindFrom set slot rs s) = Shader.memberDecoration s := by
  induction rs generalizing slot s with
  | nil => rfl
  | cons r rest ih =>
      unfold bindFrom
      rw [ih, memberDecoration_decorate, memberDecoration_decorate]

/-- Binding resources leaves every other id alone, and every other decoration. -/
theorem decoration_bindFrom_of_other (set slot : UInt32) {rs : List Resource} (s : σ) {id : Id}
    {d : Spirv.Decoration}
    (other : ¬ (id ∈ rs.map Resource.id ∧ (d = .descriptorSet ∨ d = .binding))) :
    Shader.decoration (bindFrom set slot rs s) id d = Shader.decoration s id d := by
  induction rs generalizing slot s with
  | nil => rfl
  | cons r rest ih =>
      have later : ¬ (id ∈ rest.map Resource.id ∧ (d = .descriptorSet ∨ d = .binding)) :=
        fun placing => other ⟨List.mem_cons_of_mem r.id placing.1, placing.2⟩
      have own {e : Spirv.Decoration} (placing : e = .descriptorSet ∨ e = .binding) :
          (id, d) ≠ (r.id, e) := by
        rintro ⟨rfl, rfl⟩
        exact other ⟨List.mem_cons_self, placing⟩
      unfold bindFrom
      rw [ih _ _ later, decoration_decorate, if_neg (own (.inr rfl)), decoration_decorate,
        if_neg (own (.inl rfl))]

theorem boundAt_bindFrom_of_notMem (set slot : UInt32) {rs : List Resource} (s : σ)
    {r : Resource} (other : r.id ∉ rs.map Resource.id) :
    boundAt (bindFrom set slot rs s) r = boundAt s r := by
  unfold boundAt
  rw [decoration_bindFrom_of_other _ _ _ fun placing => other placing.1,
    decoration_bindFrom_of_other _ _ _ fun placing => other placing.1]

/-- Resources with distinct ids get a row of places. -/
theorem map_boundAt_bindFrom (set slot : UInt32) {rs : List Resource} (s : σ)
    (distinct : (rs.map Resource.id).Nodup) :
    rs.map (boundAt (bindFrom set slot rs s)) = placesFrom set slot rs.length := by
  induction rs generalizing slot s with
  | nil => rfl
  | cons r rest ih =>
      rw [List.map_cons, List.nodup_cons] at distinct
      unfold bindFrom
      rw [List.map_cons, ih _ _ distinct.2, List.length_cons, placesFrom_succ]
      congr 1
      -- no later resource has this id, so its own place is still there
      rw [boundAt_bindFrom_of_notMem _ _ _ distinct.1]
      simp [boundAt, decoration_decorate]

/-! ## After the slots were fixed -/

variable (stage : Stage) (scheme : BindingScheme)

theorem resources_fixBindSlots (s : σ) :
    Shader.resources (fixBindSlots stage scheme s) = Shader.resources s := by
  unfold fixBindSlots
  rw [resources_bindFrom, resources_bindFrom]

theorem memberDecoration_fixBindSlots (s : σ) :
    Shader.memberDecoration (fixBindSlots stage scheme s) = Shader.memberDecoration s := by
  unfold fixBindSlots
  rw [memberDecoration_bindFrom, memberDecoration_bindFrom]

theorem decoration_fixBindSlots_of_not_isPlacing (s : σ) {id : Id} {d : Spirv.Decoration}
    (other : ¬ IsPlacing s id d) :
    Shader.decoration (fixBindSlots stage scheme s) id d = Shader.decoration s id d := by
  have noBlock : ¬ (id ∈ (Shader.resources s).uniformBuffers.map Resource.id ∧
      (d = .descriptorSet ∨ d = .binding)) := by
    rintro ⟨isBlock, placing⟩
    exact other ⟨by rw [boundResources, List.map_append]; exact List.mem_append_left _ isBlock,
      placing⟩
  have noImage : ¬ (id ∈ (Shader.resources s).sampledImages.map Resource.id ∧
      (d = .descriptorSet ∨ d = .binding)) := by
    rintro ⟨isImage, placing⟩
    exact other ⟨by rw [boundResources, List.map_append]; exact List.mem_append_right _ isImage,
      placing⟩
  unfold fixBindSlots
  rw [decoration_bindFrom_of_other _ _ _ noImage, decoration_bindFrom_of_other _ _ _ noBlock]

/-- Blocks are bound in a row of set 0, images in a row of their own set. -/
theorem map_boundAt_fixBindSlots {s : σ} (distinct : DistinctIds s) :
    (boundResources s).map (boundAt (fixBindSlots stage scheme s)) =
      placesFrom 0 (scheme.firstBlock stage) (Shader.resources s).uniformBuffers.length ++
        placesFrom (scheme.imageSet stage) 0 (Shader.resources s).sampledImages.length := by
  unfold DistinctIds boundResources at distinct
  rw [List.map_append, List.nodup_append] at distinct
  obtain ⟨blocks, images, apart⟩ := distinct
  unfold boundResources fixBindSlots
  rw [List.map_append, map_boundAt_bindFrom _ _ _ images, ← map_boundAt_bindFrom 0 _ s blocks]
  congr 1
  apply List.map_congr_left
  intro r isBlock
  apply boundAt_bindFrom_of_notMem
  intro isImage
  exact apart r.id (List.mem_map_of_mem isBlock) r.id isImage rfl

theorem boundAt_fixBindSlots_block {s : σ} (distinct : DistinctIds s) (j : Nat)
    (inList : j < (Shader.resources s).uniformBuffers.length) :
    boundAt (fixBindSlots stage scheme s) (Shader.resources s).uniformBuffers[j] =
      (0, scheme.firstBlock stage + UInt32.ofNat j) := by
  have row := congrArg (·[j]?) (map_boundAt_fixBindSlots stage scheme distinct)
  simpa [boundResources, placesFrom, List.getElem?_append, inList] using row

theorem boundAt_fixBindSlots_image {s : σ} (distinct : DistinctIds s) (j : Nat)
    (inList : j < (Shader.resources s).sampledImages.length) :
    boundAt (fixBindSlots stage scheme s) (Shader.resources s).sampledImages[j] =
      (scheme.imageSet stage, UInt32.ofNat j) := by
  have row := congrArg (·[(Shader.resources s).uniformBuffers.length + j]?)
    (map_boundAt_fixBindSlots stage scheme distinct)
  simpa [boundResources, placesFrom, List.getElem?_append, inList] using row

/-- No two resources of a shader have one place: blocks are in another set than images. -/
theorem nodup_boundAt_fixBindSlots {s : σ} (distinct : DistinctIds s) :
    ((boundResources s).map (boundAt (fixBindSlots stage scheme s))).Nodup := by
  have fits := length_le_of_distinctIds distinct
  rw [boundResources, List.length_append] at fits
  rw [map_boundAt_fixBindSlots stage scheme distinct, List.nodup_append]
  refine ⟨nodup_placesFrom _ _ (by omega), nodup_placesFrom _ _ (by omega), ?_⟩
  intro place isBlock place' isImage same
  obtain ⟨i, -, rfl⟩ := (mem_placesFrom_iff _ _ _ _).mp isBlock
  obtain ⟨j, -, rfl⟩ := (mem_placesFrom_iff _ _ _ _).mp isImage
  have sets : (0 : UInt32) = scheme.imageSet stage := congrArg Prod.fst same
  cases scheme <;> cases stage <;> exact absurd sets (by decide)

/-- Places do not depend on what resources were bound to before. -/
theorem decoration_fixBindSlots_congr {s t : σ} (distinct : DistinctIds s)
    (resources : Shader.resources t = Shader.resources s)
    (others : ∀ id d, ¬ IsPlacing s id d → Shader.decoration t id d = Shader.decoration s id d)
    (id : Id) (d : Spirv.Decoration) :
    Shader.decoration (fixBindSlots stage scheme t) id d =
      Shader.decoration (fixBindSlots stage scheme s) id d := by
  have bound : boundResources t = boundResources s := by
    unfold boundResources
    rw [resources]
  by_cases placing : IsPlacing s id d
  · obtain ⟨given, isSetOrBinding⟩ := placing
    obtain ⟨r, isBound, rfl⟩ := List.mem_map.mp given
    have distinct' : DistinctIds t := by
      unfold DistinctIds
      rw [bound]
      exact distinct
    have rows := map_boundAt_fixBindSlots stage scheme distinct'
    rw [resources, bound, ← map_boundAt_fixBindSlots stage scheme distinct,
      List.map_inj_left] at rows
    have place := rows r isBound
    rcases isSetOrBinding with rfl | rfl
    · exact congrArg Prod.fst place
    · exact congrArg Prod.snd place
  · have placing' : ¬ IsPlacing t id d := by
      unfold IsPlacing
      rw [bound]
      exact placing
    rw [decoration_fixBindSlots_of_not_isPlacing _ _ _ placing, ← others id d placing]
    exact decoration_fixBindSlots_of_not_isPlacing _ _ _ placing'

/-- What `fixBindSlots` does to a shader. -/
structure PlacesFixed (s : σ) : Prop where
  block_place : ∀ (j : Nat) (inList : j < (Shader.resources s).uniformBuffers.length),
    boundAt (fixBindSlots stage scheme s) (Shader.resources s).uniformBuffers[j] =
      (0, (if scheme = .web ∧ stage = .fragment then 4 else 0) + UInt32.ofNat j)
  image_place : ∀ (j : Nat) (inList : j < (Shader.resources s).sampledImages.length),
    boundAt (fixBindSlots stage scheme s) (Shader.resources s).sampledImages[j] =
      (if scheme = .web ∧ stage = .fragment then 2 else 1, UInt32.ofNat j)
  distinct_places : ((boundResources s).map (boundAt (fixBindSlots stage scheme s))).Nodup
  others_kept : ∀ id d, ¬ IsPlacing s id d →
    Shader.decoration (fixBindSlots stage scheme s) id d = Shader.decoration s id d
  members_kept : ∀ id index d,
    Shader.memberDecoration (fixBindSlots stage scheme s) id index d =
      Shader.memberDecoration s id index d
  /-- Another shader that differs in the places of its resources only ends up the same. -/
  any_places : ∀ t : σ, Shader.resources t = Shader.resources s →
    (∀ id d, ¬ IsPlacing s id d → Shader.decoration t id d = Shader.decoration s id d) →
    ∀ id d, Shader.decoration (fixBindSlots stage scheme t) id d =
      Shader.decoration (fixBindSlots stage scheme s) id d

theorem placesFixed_of_distinctIds {s : σ} (distinct : DistinctIds s) :
    PlacesFixed stage scheme s where
  block_place j inList := by
    rw [boundAt_fixBindSlots_block stage scheme distinct]
    cases scheme <;> cases stage <;> rfl
  image_place j inList := by
    rw [boundAt_fixBindSlots_image stage scheme distinct]
    cases scheme <;> cases stage <;> rfl
  distinct_places := nodup_boundAt_fixBindSlots stage scheme distinct
  others_kept _ _ := decoration_fixBindSlots_of_not_isPlacing stage scheme s
  members_kept id index d := by rw [memberDecoration_fixBindSlots]
  any_places _ resources others :=
    decoration_fixBindSlots_congr stage scheme distinct resources others

/-! ## Places of two stages -/

/-- Under the web scheme, some resource of a vertex shader has the place of one of a fragment
shader. -/
def SharePlace (vertex fragment : σ) : Prop :=
  ∃ r ∈ boundResources vertex, ∃ q ∈ boundResources fragment,
    boundAt (fixBindSlots .vertex .web vertex) r = boundAt (fixBindSlots .fragment .web fragment) q

omit [LawfulShader σ] in
theorem sharePlace_iff_mem {v f : σ} : SharePlace v f ↔
    ∃ place, place ∈ (boundResources v).map (boundAt (fixBindSlots .vertex .web v)) ∧
      place ∈ (boundResources f).map (boundAt (fixBindSlots .fragment .web f)) := by
  unfold SharePlace
  constructor
  · rintro ⟨r, isBound, q, isBound', same⟩
    exact ⟨_, List.mem_map_of_mem isBound, same ▸ List.mem_map_of_mem isBound'⟩
  · rintro ⟨place, given, given'⟩
    obtain ⟨r, isBound, rfl⟩ := List.mem_map.mp given
    obtain ⟨q, isBound', same⟩ := List.mem_map.mp given'
    exact ⟨r, isBound, q, isBound', same.symm⟩

/-- Only blocks can share a place, and only in the row that both stages have in set 0. -/
theorem sharePlace_iff_binding {v f : σ} (vertexIds : DistinctIds v) (fragmentIds : DistinctIds f) :
    SharePlace v f ↔ ∃ i < (Shader.resources v).uniformBuffers.length,
      ∃ j < (Shader.resources f).uniformBuffers.length,
        UInt32.ofNat i = fragmentBlockOffset + UInt32.ofNat j := by
  rw [sharePlace_iff_mem, map_boundAt_fixBindSlots _ _ vertexIds,
    map_boundAt_fixBindSlots _ _ fragmentIds]
  simp only [List.mem_append, mem_placesFrom_iff, BindingScheme.firstBlock,
    BindingScheme.imageSet, UInt32.zero_add]
  constructor
  · rintro ⟨place, ⟨i, inRow, rfl⟩ | ⟨i, inRow, rfl⟩, ⟨j, inRow', same⟩ | ⟨j, inRow', same⟩⟩
    · exact ⟨i, inRow, j, inRow', congrArg Prod.snd same⟩
    · exact absurd (show (0 : UInt32) = 2 from congrArg Prod.fst same) (by decide)
    · exact absurd (show (1 : UInt32) = 0 from congrArg Prod.fst same) (by decide)
    · exact absurd (show (1 : UInt32) = 2 from congrArg Prod.fst same) (by decide)
  · rintro ⟨i, inRow, j, inRow', same⟩
    exact ⟨_, .inl ⟨i, inRow, rfl⟩, .inl ⟨j, inRow', by rw [same]⟩⟩

/-- Two rows in one set meet where the later starts in the earlier, or wraps around to it. -/
theorem exists_ofNat_eq_offset_add_iff {v f : Nat} (few : v ≤ UInt32.size) :
    (∃ i < v, ∃ j < f, UInt32.ofNat i = fragmentBlockOffset + UInt32.ofNat j) ↔
      4 < v ∧ 0 < f ∨ 0 < v ∧ UInt32.size - 4 < f := by
  have inNat {i j : Nat} (inRow : i < v) :
      UInt32.ofNat i = fragmentBlockOffset + UInt32.ofNat j ↔ i = (4 + j) % UInt32.size := by
    have offset : fragmentBlockOffset.toNat = 4 := rfl
    rw [← UInt32.toNat_inj, UInt32.toNat_ofNat_of_lt' (by omega), UInt32.toNat_add, offset,
      UInt32.toNat_ofNat', Nat.add_mod_mod]
  constructor
  · rintro ⟨i, inRow, j, inRow', same⟩
    have same := (inNat inRow).mp same
    by_cases wrapped : UInt32.size ≤ 4 + j
    · exact .inr ⟨by omega, by omega⟩
    · rw [Nat.mod_eq_of_lt (by omega)] at same
      exact .inl ⟨by omega, by omega⟩
  · rintro (⟨five, one⟩ | ⟨one, wrapped⟩)
    · exact ⟨4, five, 0, one, (inNat five).mpr rfl⟩
    · exact ⟨0, one, UInt32.size - 4, wrapped, (inNat one).mpr rfl⟩

theorem sharePlace_iff {v f : σ} (vertexIds : DistinctIds v) (fragmentIds : DistinctIds f) :
    SharePlace v f ↔
      4 < (Shader.resources v).uniformBuffers.length ∧
          0 < (Shader.resources f).uniformBuffers.length ∨
        0 < (Shader.resources v).uniformBuffers.length ∧
          UInt32.size - 4 < (Shader.resources f).uniformBuffers.length := by
  have few := length_le_of_distinctIds vertexIds
  rw [boundResources, List.length_append] at few
  rw [sharePlace_iff_binding vertexIds fragmentIds]
  exact exists_ofNat_eq_offset_add_iff (by omega)

/-- When two stages share a place under the web scheme.  The fragment bindings go on from 0
once they have run out; till then the stages share one exactly from the fifth vertex block on. -/
structure StagesMeet (vertex fragment : σ) : Prop where
  shared_iff : (Shader.resources fragment).uniformBuffers.length ≤ UInt32.size - 4 →
    (SharePlace vertex fragment ↔ 4 < (Shader.resources vertex).uniformBuffers.length ∧
      0 < (Shader.resources fragment).uniformBuffers.length)
  wrapped_iff : UInt32.size - 4 < (Shader.resources fragment).uniformBuffers.length →
    (SharePlace vertex fragment ↔ 0 < (Shader.resources vertex).uniformBuffers.length)

theorem stagesMeet_of_distinctIds {v f : σ} (vertexIds : DistinctIds v)
    (fragmentIds : DistinctIds f) : StagesMeet v f := by
  have shared := sharePlace_iff vertexIds fragmentIds
  constructor
  · intro fits
    rw [shared]
    omega
  · intro wrapped
    rw [shared]
    omega

end

end ShaderBundle
