/-
# Proofs.Spirv.Rebinding — fixing the bind slots a second time

Fixing the bind slots sets one key after the other, none of them twice.  After the first
time the annotations state every key the way it would be stated again (`Settled`), and the
tables have the bindings of these keys in front, in the order in which they would be put
there again.  So the second time changes neither (`rewriteAll_rewriteAll`), and leaves a
module as it is.

A sketch also keeps a list of the calls made to it, so it stays the same but for these.
-/
import ShaderBundle.Proofs.Spirv.Prepare
import ShaderBundle.Proofs.Spirv.Stated

namespace ShaderBundle

set_option autoImplicit false

/-! ## Tables -/

namespace Table

variable {κ ν : Type} [DecidableEq κ]

/-- The table with the pairs of a list bound in order. -/
def insertAll (t : Table κ ν) (es : List (κ × ν)) : Table κ ν :=
  es.foldl (fun t e => t.insert e.1 e.2) t

theorem insertAll_append (t : Table κ ν) (es es' : List (κ × ν)) :
    t.insertAll (es ++ es') = (t.insertAll es).insertAll es' :=
  List.foldl_append

/-- Pairs with distinct keys end up in front, the last of them first. -/
theorem entries_insertAll (t : Table κ ν) {es : List (κ × ν)} (distinct : (es.map Prod.fst).Nodup) :
    (t.insertAll es).entries =
      es.reverse ++ t.entries.filter fun e => e.1 ∉ es.map Prod.fst := by
  induction es generalizing t with
  | nil => simp [insertAll]
  | cons e rest ih =>
      rw [List.map_cons, List.nodup_cons] at distinct
      have later : (t.insertAll (e :: rest)).entries = ((t.insert e.1 e.2).insertAll rest).entries :=
        rfl
      rw [later, ih _ distinct.2, List.reverse_cons, List.append_assoc]
      congr 1
      show List.filter _ (e :: t.entries.filter fun other => other.1 ≠ e.1) = e :: _
      rw [List.filter_cons_of_pos (by simpa using distinct.1), List.filter_filter]
      congr 2
      funext other
      rw [List.map_cons, ← Bool.decide_and, decide_eq_decide, List.mem_cons, not_or, and_comm]

/-- Binding the same pairs again changes nothing. -/
theorem insertAll_insertAll (t : Table κ ν) {es : List (κ × ν)}
    (distinct : (es.map Prod.fst).Nodup) : (t.insertAll es).insertAll es = t.insertAll es := by
  have replaced : es.reverse.filter (fun e => e.1 ∉ es.map Prod.fst) = [] := by
    rw [List.filter_eq_nil_iff]
    intro e among
    have bound := List.mem_map_of_mem (f := Prod.fst) (List.mem_reverse.mp among)
    simpa using bound
  have same : ((t.insertAll es).insertAll es).entries = (t.insertAll es).entries := by
    rw [entries_insertAll _ distinct, entries_insertAll _ distinct, List.filter_append, replaced,
      List.filter_filter]
    simp
  exact congrArg Table.mk same

end Table

namespace Spirv

/-! ## Annotations -/

/-- The first annotation that states a key. -/
def firstFor? (annotations : List Instruction) (k : Key) : Option Instruction :=
  annotations.find? fun i => i.states k

theorem firstFor?_cons_of_states {i : Instruction} {k : Key} (states : i.states k)
    (rest : List Instruction) : firstFor? (i :: rest) k = some i :=
  List.find?_cons_of_pos states

theorem firstFor?_cons_of_silent {i : Instruction} {k : Key} (silent : ¬ i.states k)
    (rest : List Instruction) : firstFor? (i :: rest) k = firstFor? rest k :=
  List.find?_cons_of_neg silent

/-- Stating a key again would change nothing: the first annotation for it says the same. -/
def Settled (annotations : List Instruction) (r : Rewrite) : Prop :=
  ∃ i, firstFor? annotations r.key = some i ∧ i.operands = r.instruction.operands

theorem restate_of_settled {annotations : List Instruction} {r : Rewrite}
    (settled : Settled annotations r) : restate annotations r = annotations := by
  obtain ⟨first, found, operands⟩ := settled
  unfold restate
  induction annotations with
  | nil => cases found
  | cons i rest ih =>
      unfold replaceFirst
      by_cases states : i.states r.key
      · rw [firstFor?_cons_of_states states] at found
        obtain rfl := Option.some.inj found
        rw [if_pos states, ← operands]
      · rw [firstFor?_cons_of_silent states] at found
        rw [if_neg states, ih found]

theorem firstFor?_eq_head?_stated (annotations : List Instruction) (k : Key) :
    firstFor? annotations k = (stated annotations k).head? :=
  (List.head?_filter ..).symm

theorem settled_restate (annotations : List Instruction) (r : Rewrite) :
    Settled (restate annotations r) r := by
  obtain ⟨first, -, operands, restated⟩ := stated_restate_self annotations r
  refine ⟨first, ?_, operands⟩
  rw [firstFor?_eq_head?_stated, restated, List.head?_cons]

/-- Stating another key settles and unsettles nothing. -/
theorem firstFor?_restate_of_ne (annotations : List Instruction) {r : Rewrite} {k : Key}
    (apart : r.key ≠ k) : firstFor? (restate annotations r) k = firstFor? annotations k := by
  have kept : stated (restate annotations r) k = stated annotations k :=
    filter_restate_of_silent (silentOn_states apart.symm)
  rw [firstFor?_eq_head?_stated, firstFor?_eq_head?_stated, kept]

theorem settled_foldl_restate (annotations : List Instruction) {rs : List Rewrite}
    (distinct : (rs.map Rewrite.key).Nodup) : ∀ r ∈ rs, Settled (rs.foldl restate annotations) r := by
  induction rs using List.reverseRecOn with
  | nil => nofun
  | append_singleton rs q ih =>
      rw [List.map_append, List.map_singleton, List.nodup_append] at distinct
      obtain ⟨before, -, apart⟩ := distinct
      intro r among
      rw [List.foldl_append, List.foldl_cons, List.foldl_nil]
      rcases List.mem_append.mp among with earlier | last
      · unfold Settled
        rw [firstFor?_restate_of_ne]
        · exact ih before r earlier
        · intro same
          exact apart r.key (List.mem_map_of_mem earlier) q.key List.mem_cons_self same.symm
      · obtain rfl := List.mem_singleton.mp last
        exact settled_restate _ r

theorem foldl_restate_of_settled {annotations : List Instruction} {rs : List Rewrite}
    (settled : ∀ r ∈ rs, Settled annotations r) : rs.foldl restate annotations = annotations := by
  induction rs with
  | nil => rfl
  | cons r rest ih =>
      rw [List.forall_mem_cons] at settled
      rw [List.foldl_cons, restate_of_settled settled.1]
      exact ih settled.2

/-! ## Rewriting ids -/

/-- What a rewrite of an id binds in the tables. -/
def Rewrite.entry (r : Rewrite) : (Id × Decoration) × UInt32 := ((r.key.id, r.key.decoration), r.value)

/-- Rewriting ids restates their keys and binds their values. -/
theorem rewriteAll_of_ids (s : ModuleShader) {rs : List Rewrite}
    (ids : ∀ r ∈ rs, r.key.member = none) :
    s.rewriteAll rs =
      { module := { s.module with annotations := rs.foldl restate s.module.annotations }
        tables := { s.tables with
          decorations := s.tables.decorations.insertAll (rs.map Rewrite.entry) } } := by
  induction rs generalizing s with
  | nil => rfl
  | cons r rest ih =>
      obtain ⟨⟨id, member, d⟩, value⟩ := r
      rw [List.forall_mem_cons] at ids
      obtain ⟨rfl, later⟩ := ids
      exact ih (s.decorate id d value) later

/-- The keys of ids are apart as the pairs that are bound are. -/
theorem nodup_entry_of_ids {rs : List Rewrite} (ids : ∀ r ∈ rs, r.key.member = none)
    (distinct : (rs.map Rewrite.key).Nodup) : ((rs.map Rewrite.entry).map Prod.fst).Nodup := by
  rw [List.map_map]
  refine List.Nodup.map_on ?_ distinct.of_map
  intro q isQ r isR same
  have key : q.key = r.key := by
    obtain ⟨⟨id, member, d⟩, value⟩ := q
    obtain ⟨⟨id', member', d'⟩, value'⟩ := r
    obtain rfl := ids _ isQ
    obtain rfl := ids _ isR
    obtain ⟨rfl, rfl⟩ := Prod.mk.inj same
    rfl
  exact List.inj_on_of_nodup_map distinct isQ isR key

/-- Setting distinct decorations of ids a second time changes nothing. -/
theorem rewriteAll_rewriteAll (s : ModuleShader) {rs : List Rewrite}
    (ids : ∀ r ∈ rs, r.key.member = none) (distinct : (rs.map Rewrite.key).Nodup) :
    (s.rewriteAll rs).rewriteAll rs = s.rewriteAll rs := by
  rw [rewriteAll_of_ids _ ids, rewriteAll_of_ids s ids]
  simp only [foldl_restate_of_settled (settled_foldl_restate _ distinct),
    Table.insertAll_insertAll _ (nodup_entry_of_ids ids distinct)]

/-! ## Fixing the bind slots -/

/-- The keys by which resources are bound, in their order. -/
def placingKeys (rs : List Resource) : List Key :=
  rs.flatMap fun r => [⟨r.id, none, .descriptorSet⟩, ⟨r.id, none, .binding⟩]

theorem map_key_bindRewrites (set slot : UInt32) (rs : List Resource) :
    (bindRewrites set slot rs).map Rewrite.key = placingKeys rs := by
  induction rs generalizing slot with
  | nil => rfl
  | cons r rest ih =>
      unfold bindRewrites
      rw [List.map_cons, List.map_cons, ih]
      rfl

theorem nodup_placingKeys {rs : List Resource} (distinct : (rs.map Resource.id).Nodup) :
    (placingKeys rs).Nodup := by
  unfold placingKeys
  rw [List.nodup_flatMap]
  refine ⟨fun r _ => by simp, ?_⟩
  rw [List.Nodup, List.pairwise_map] at distinct
  refine distinct.imp ?_
  intro r q apart
  simp [Function.onFun, apart.symm]

end Spirv

/-- The rewrites that fix the bind slots of resources. -/
def Resources.slotRewrites (res : Resources) (stage : Stage) (scheme : BindingScheme) :
    List Spirv.Rewrite :=
  Spirv.bindRewrites 0 (scheme.firstBlock stage) res.uniformBuffers ++
    Spirv.bindRewrites (scheme.imageSet stage) 0 res.sampledImages

section

variable (stage : Stage) (scheme : BindingScheme)

theorem slotRewrites_resources (t : Spirv.Tables) :
    t.slotRewrites stage scheme = t.resources.slotRewrites stage scheme := rfl

theorem member_of_mem_slotRewrites (res : Resources) :
    ∀ r ∈ res.slotRewrites stage scheme, r.key.member = none := by
  intro r given
  rcases List.mem_append.mp given with block | image
  · exact (Spirv.key_of_mem_bindRewrites block).1
  · exact (Spirv.key_of_mem_bindRewrites image).1

theorem map_key_slotRewrites (res : Resources) :
    (res.slotRewrites stage scheme).map Spirv.Rewrite.key =
      Spirv.placingKeys (res.uniformBuffers ++ res.sampledImages) := by
  unfold Resources.slotRewrites Spirv.placingKeys
  rw [List.map_append, Spirv.map_key_bindRewrites, Spirv.map_key_bindRewrites, List.flatMap_append]
  rfl

theorem nodup_key_slotRewrites {res : Resources}
    (distinct : ((res.uniformBuffers ++ res.sampledImages).map Resource.id).Nodup) :
    ((res.slotRewrites stage scheme).map Spirv.Rewrite.key).Nodup := by
  rw [map_key_slotRewrites]
  exact Spirv.nodup_placingKeys distinct

theorem fixBindSlots_fixBindSlots_module {s : Spirv.ModuleShader} (distinct : DistinctIds s) :
    fixBindSlots stage scheme (fixBindSlots stage scheme s) = fixBindSlots stage scheme s := by
  have resources : (fixBindSlots stage scheme s).tables.resources = s.tables.resources :=
    resources_fixBindSlots stage scheme s
  rw [Spirv.fixBindSlots_eq_rewriteAll stage scheme (fixBindSlots stage scheme s),
    slotRewrites_resources, resources, Spirv.fixBindSlots_eq_rewriteAll, slotRewrites_resources]
  exact Spirv.rewriteAll_rewriteAll s (member_of_mem_slotRewrites stage scheme s.tables.resources)
    (nodup_key_slotRewrites stage scheme distinct)

/-- Binding the resources of a sketch binds their keys, and adds calls. -/
theorem bindFrom_sketch (set slot : UInt32) (rs : List Resource) (s : Sketch) :
    ∃ calls, bindFrom set slot rs s =
      { s with
        decorations := s.decorations.insertAll
          ((Spirv.bindRewrites set slot rs).map Spirv.Rewrite.entry)
        calls := calls } := by
  induction rs generalizing slot s with
  | nil => exact ⟨s.calls, rfl⟩
  | cons r rest ih => exact ih (slot + 1) _

theorem fixBindSlots_sketch (s : Sketch) :
    ∃ calls, fixBindSlots stage scheme s =
      { s with
        decorations := s.decorations.insertAll
          ((s.resources.slotRewrites stage scheme).map Spirv.Rewrite.entry)
        calls := calls } := by
  obtain ⟨blockCalls, blocks⟩ :=
    bindFrom_sketch 0 (scheme.firstBlock stage) s.resources.uniformBuffers s
  obtain ⟨calls, images⟩ := bindFrom_sketch (scheme.imageSet stage) 0 s.resources.sampledImages
    (bindFrom 0 (scheme.firstBlock stage) s.resources.uniformBuffers s)
  refine ⟨calls, images.trans ?_⟩
  rw [blocks]
  unfold Resources.slotRewrites
  rw [List.map_append, Table.insertAll_append]

theorem fixBindSlots_fixBindSlots_sketch {s : Sketch} (distinct : DistinctIds s) :
    { fixBindSlots stage scheme (fixBindSlots stage scheme s) with
        calls := (fixBindSlots stage scheme s).calls } = fixBindSlots stage scheme s := by
  obtain ⟨calls, fixed⟩ := fixBindSlots_sketch stage scheme s
  obtain ⟨calls', fixedAgain⟩ := fixBindSlots_sketch stage scheme (fixBindSlots stage scheme s)
  have apart := Spirv.nodup_entry_of_ids (member_of_mem_slotRewrites stage scheme s.resources)
    (nodup_key_slotRewrites stage scheme distinct)
  rw [fixedAgain, fixed]
  simp only [Table.insertAll_insertAll _ apart]

/-- **Fixing the bind slots gives every block and every image a place of its own, changes
nothing else, and does not depend on the places before; a second time changes nothing.  A
vertex and a fragment shader share a place under the web scheme exactly when the first has
more than four blocks and the second has any.** -/
theorem fixBindSlots_places :
    (∀ s : Spirv.ModuleShader, DistinctIds s → PlacesFixed stage scheme s ∧
        fixBindSlots stage scheme (fixBindSlots stage scheme s) = fixBindSlots stage scheme s) ∧
      (∀ s : Sketch, DistinctIds s → PlacesFixed stage scheme s ∧
        { fixBindSlots stage scheme (fixBindSlots stage scheme s) with
          calls := (fixBindSlots stage scheme s).calls } = fixBindSlots stage scheme s) ∧
      (∀ v f : Spirv.ModuleShader, DistinctIds v → DistinctIds f → StagesMeet v f) ∧
      ∀ v f : Sketch, DistinctIds v → DistinctIds f → StagesMeet v f := by
  refine ⟨?_, ?_, ?_, ?_⟩
  · intro s distinct
    exact ⟨placesFixed_of_distinctIds stage scheme distinct,
      fixBindSlots_fixBindSlots_module stage scheme distinct⟩
  · intro s distinct
    exact ⟨placesFixed_of_distinctIds stage scheme distinct,
      fixBindSlots_fixBindSlots_sketch stage scheme distinct⟩
  · intro v f
    exact stagesMeet_of_distinctIds
  · intro v f
    exact stagesMeet_of_distinctIds

end

/-- A fragment shader with one empty block. -/
def oneBlock : Sketch :=
  { Sketch.blank .fragment with
    resources := { Resources.empty with uniformBuffers := [⟨2, 1, 1, "lit"⟩] }
    types := .ofList [(1, .structOf [])] }

theorem fixBindSlots_places_bound :
    (Spirv.ModuleShader.ofModule boundModule = .ok boundShader ∧
        PlacesFixed .fragment .web boundShader ∧
        fixBindSlots .fragment .web (fixBindSlots .fragment .web boundShader) =
          fixBindSlots .fragment .web boundShader) ∧
      PlacesFixed .vertex .web fiveBlocks ∧
      StagesMeet boundShader boundShader ∧
      (StagesMeet fiveBlocks oneBlock ∧ SharePlace fiveBlocks oneBlock) := by
  have bound : DistinctIds boundShader := by decide +kernel
  have five : DistinctIds fiveBlocks := by decide
  have one : DistinctIds oneBlock := by decide
  have meet : StagesMeet fiveBlocks oneBlock :=
    (fixBindSlots_places .vertex .web).2.2.2 fiveBlocks oneBlock five one
  exact ⟨⟨rfl, (fixBindSlots_places .fragment .web).1 boundShader bound⟩,
    ((fixBindSlots_places .vertex .web).2.1 fiveBlocks five).1,
    (fixBindSlots_places .vertex .web).2.2.1 boundShader boundShader bound bound,
    meet, (meet.shared_iff (by decide)).mpr ⟨by decide, by decide⟩⟩

end ShaderBundle
