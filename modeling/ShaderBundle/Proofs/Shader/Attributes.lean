/-
# Proofs.Shader.Attributes — which attributes an interface shows

Attributes are read one after the other into slots by location.  A stage has one attribute
at a location, so when several resources have the same — a variable without a location has
location 0, and variables may share one as components — the last of them stays
(`KeepsLast`).  Every resource is shown exactly when no two have the same location.

What reading one more resource does is `reflectAttributes_concat`; the rest is by induction
on it.
-/
import Mathlib.Data.List.Dedup
import ShaderBundle.Proofs.Interface.Attributes
import ShaderBundle.Proofs.Occurrence
import ShaderBundle.Proofs.Shader.Reflect
import ShaderBundle.Spirv.Builder
import ShaderBundle.Spirv.Shader

namespace ShaderBundle

set_option autoImplicit false

section

variable {σ : Type} [Shader σ]

/-- The location of a resource, 0 if it has none. -/
def location (s : σ) (r : Resource) : Nat := (Shader.decoration s r.id .location).toNat

/-- Slots keep the last resource of every location. -/
structure KeepsLast (s : σ) (rs : List Resource) (slots : AttributeSlots) : Prop where
  in_range : ∀ r ∈ rs, location s r < maxAttributes
  held_iff : ∀ (n : Nat) (a : Attribute), slots.get? n = some a ↔
    ∃ k r, LastAt (fun r => location s r = n) rs k r ∧ a = .atSlot (UInt16.ofNat n) r.name
  size_eq : slots.size = (rs.map (location s)).dedup.length
  all_kept_iff : slots.size = rs.length ↔ (rs.map (location s)).Nodup
  own_name : (rs.map (location s)).Nodup → ∀ r ∈ rs,
    slots.get? (location s r) = some (.atSlot (UInt16.ofNat (location s r)) r.name)

/-! ## One more resource -/

theorem reflectAttributes_concat (s : σ) (rs : List Resource) (r : Resource) :
    reflectAttributes s (rs ++ [r]) = reflectAttributes s rs >>= fun slots =>
      slots.insert (Shader.decoration s r.id .location) r.name := by
  simp [reflectAttributes, List.foldlM_append]

/-- Resources are read exactly when their locations are in range. -/
theorem exists_reflectAttributes_iff (s : σ) (rs : List Resource) :
    (∃ slots, reflectAttributes s rs = .ok slots) ↔ ∀ r ∈ rs, location s r < maxAttributes := by
  induction rs using List.reverseRecOn with
  | nil => exact ⟨fun _ => by simp, fun _ => ⟨.empty, rfl⟩⟩
  | append_singleton rs r ih =>
      rw [List.forall_mem_append, List.forall_mem_singleton, ← ih, reflectAttributes_concat]
      constructor
      · rintro ⟨slots, read⟩
        obtain ⟨before, readBefore, inserted⟩ := except_bind_eq_ok_iff.mp read
        refine ⟨⟨before, readBefore⟩, ?_⟩
        by_contra outside
        rw [AttributeSlots.insert_of_le before r.name (Nat.not_lt.mp outside)] at inserted
        cases inserted
      · rintro ⟨⟨before, readBefore⟩, fits⟩
        obtain ⟨slots, inserted, -⟩ := before.insert_of_lt r.name fits
        exact ⟨slots, except_bind_eq_ok_iff.mpr ⟨before, readBefore, inserted⟩⟩

/-- What stands in a slot is the last resource with its location. -/
theorem get?_reflectAttributes_iff {s : σ} {rs : List Resource} {slots : AttributeSlots}
    (read : reflectAttributes s rs = .ok slots) (n : Nat) (a : Attribute) :
    slots.get? n = some a ↔
      ∃ k r, LastAt (fun r => location s r = n) rs k r ∧
        a = .atSlot (UInt16.ofNat n) r.name := by
  induction rs using List.reverseRecOn generalizing slots with
  | nil =>
      cases read
      simp [AttributeSlots.get?_empty, not_lastAt_nil]
  | append_singleton rs r ih =>
      have fits : location s r < maxAttributes :=
        (exists_reflectAttributes_iff s (rs ++ [r])).mp ⟨slots, read⟩ r (by simp)
      rw [reflectAttributes_concat] at read
      obtain ⟨before, readBefore, inserted⟩ := except_bind_eq_ok_iff.mp read
      obtain ⟨after, insertedAfter, held⟩ := before.insert_of_lt r.name fits
      obtain rfl : after = slots := Except.ok.inj (insertedAfter.symm.trans inserted)
      have held : after.get? n =
          if n = location s r then some (.atSlot (UInt16.ofNat (location s r)) r.name)
          else before.get? n := held n
      simp only [lastAt_concat_iff]
      rw [held]
      by_cases here : n = location s r
      · rw [if_pos here]
        subst here
        constructor
        · intro taken
          exact ⟨rs.length, r, .inl ⟨rfl, rfl, rfl⟩, (Option.some.inj taken).symm⟩
        · rintro ⟨k, q, ⟨-, -, rfl⟩ | ⟨other, -⟩, rfl⟩
          · rfl
          · exact absurd rfl other
      · rw [if_neg here, ih readBefore]
        simp [Ne.symm here]

/-! ## All resources -/

/-- Some resource has a location exactly when its slot is used. -/
theorem mem_map_location_iff {s : σ} {rs : List Resource} {slots : AttributeSlots}
    (read : reflectAttributes s rs = .ok slots) (n : Nat) :
    n ∈ rs.map (location s) ↔ (slots.get? n).isSome := by
  rw [List.mem_map, Option.isSome_iff_exists]
  constructor
  · rintro ⟨r, among, there⟩
    obtain ⟨k, q, last⟩ := exists_lastAt (p := fun r => location s r = n) among there
    exact ⟨_, (get?_reflectAttributes_iff read n _).mpr ⟨k, q, last, rfl⟩⟩
  · rintro ⟨a, held⟩
    obtain ⟨k, r, last, -⟩ := (get?_reflectAttributes_iff read n a).mp held
    exact ⟨r, List.mem_of_getElem? last.atPlace, last.holds⟩

theorem keepsLast_of_eq_ok {s : σ} {rs : List Resource} {slots : AttributeSlots}
    (read : reflectAttributes s rs = .ok slots) : KeepsLast s rs slots := by
  have held_iff := get?_reflectAttributes_iff read
  have size_eq : slots.size = (rs.map (location s)).dedup.length := by
    apply slots.size_eq_length (List.nodup_dedup _)
    intro n
    rw [List.mem_dedup, mem_map_location_iff read]
  refine ⟨(exists_reflectAttributes_iff s rs).mp ⟨slots, read⟩, held_iff, size_eq, ?_, ?_⟩
  · rw [size_eq, ← List.dedup_eq_self]
    constructor
    · intro all
      exact (List.dedup_sublist _).eq_of_length (by rw [all, List.length_map])
    · intro same
      rw [same, List.length_map]
  · intro distinct r among
    obtain ⟨k, q, last⟩ := exists_lastAt (p := fun q => location s q = location s r) among rfl
    obtain rfl : q = r :=
      List.inj_on_of_nodup_map distinct (List.mem_of_getElem? last.atPlace) among last.holds
    exact (held_iff _ _).mpr ⟨k, q, last, rfl⟩

/-- **A shader is read exactly when its locations are in range, and then the slots keep the
last resource of every location.** -/
theorem reflect_attributes (scheme : BindingScheme) (s : σ) :
    ((∃ i, reflect scheme s = .ok i) ↔
        ∀ r ∈ (Shader.resources s).stageInputs ++ (Shader.resources s).stageOutputs,
          location s r < maxAttributes) ∧
      ∀ i, reflect scheme s = .ok i →
        KeepsLast s (Shader.resources s).stageInputs i.inputs ∧
          KeepsLast s (Shader.resources s).stageOutputs i.outputs := by
  refine ⟨?_, ?_⟩
  · rw [List.forall_mem_append, ← exists_reflectAttributes_iff, ← exists_reflectAttributes_iff]
    constructor
    · rintro ⟨i, read⟩
      have reflects := reflects_of_eq_ok read
      exact ⟨⟨i.inputs, reflects.inputs⟩, ⟨i.outputs, reflects.outputs⟩⟩
    · rintro ⟨⟨inputs, readInputs⟩, ⟨outputs, readOutputs⟩⟩
      exact ⟨_, except_bind_eq_ok_iff.mpr ⟨inputs, readInputs,
        except_bind_eq_ok_iff.mpr ⟨outputs, readOutputs, rfl⟩⟩⟩
  · intro i read
    have reflects := reflects_of_eq_ok read
    exact ⟨keepsLast_of_eq_ok reflects.inputs, keepsLast_of_eq_ok reflects.outputs⟩

end

/-! ## Two inputs in one location -/

/-- A fragment shader with two inputs in location 1, the second behind the first. -/
def packedModule : Spirv.Module :=
  let steps : Spirv.Builder.Build Unit := do
    let pair ← Spirv.Builder.vec 2
    let _ ← Spirv.Builder.input "uv" pair 1
    let tint ← Spirv.Builder.input "tint" pair 1
    Spirv.Builder.decorate tint .component [.word 2]
  (steps.run (.start .fragment)).2.finish "main"

def packedShader : Spirv.ModuleShader where
  module := packedModule
  tables := (Spirv.Tables.ofModule packedModule).toOption.getD .empty

def packedInterface : Interface where
  stage := .fragment
  entryPoint := "main"
  inputs := (AttributeSlots.ofList [.atSlot 1 "tint"]).toOption.getD .empty
  outputs := .empty
  uniformBlocks := []
  images := []

theorem reflect_attributes_packed :
    Spirv.ModuleShader.ofModule packedModule = .ok packedShader ∧
      (Shader.resources packedShader).stageInputs.map Resource.name = ["uv", "tint"] ∧
      reflect .native packedShader = .ok packedInterface ∧
      KeepsLast packedShader (Shader.resources packedShader).stageInputs packedInterface.inputs ∧
      KeepsLast packedShader (Shader.resources packedShader).stageOutputs packedInterface.outputs :=
  ⟨rfl, by decide +kernel, rfl, (reflect_attributes .native packedShader).2 packedInterface rfl⟩

/-- Not every input is shown: the second of two in one location hides the first. -/
theorem packed_hides_input :
    reflect .native packedShader = .ok packedInterface ∧
      (¬ ∀ r ∈ (Shader.resources packedShader).stageInputs,
        (packedInterface.inputs.get? (location packedShader r)).map Attribute.name =
          some r.name) ∧
      packedInterface.inputs.size ≠ (Shader.resources packedShader).stageInputs.length :=
  ⟨rfl, by decide +kernel, by decide +kernel⟩

end ShaderBundle
