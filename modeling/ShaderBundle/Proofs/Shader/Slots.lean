/-
# Proofs.Shader.Slots — the slots an interface shows

After `fixBindSlots` the `j`-th block is bound at the first block's binding plus `j`, and
the `j`-th image at `j`.

`reflect` takes the fragment offset away again by the value of a binding alone.  That is
right for fragment blocks, which all have it, and for any binding below the offset.  A
shader of another stage under the web scheme has bindings of its own from the offset on:
its block `j` with `4 ≤ j` shows slot `j - 4`, which is that of another block.  So every
block shows its own slot exactly up to four blocks there, and always elsewhere.
-/
import Mathlib.Algebra.Group.Nat.Defs
import ShaderBundle.Proofs.Shader.Bindings
import ShaderBundle.Proofs.Shader.Reflect
import ShaderBundle.Spirv.Builder

namespace ShaderBundle

set_option autoImplicit false

section

variable {σ : Type} [Shader σ] [LawfulShader σ]

/-! ## After the slots were fixed -/

/-- No resource that is bound has the id of another, and bindings do not run out. -/
structure Bindable (s : σ) : Prop where
  distinct : (((Shader.resources s).uniformBuffers ++
    (Shader.resources s).sampledImages).map Resource.id).Nodup
  few_blocks : (Shader.resources s).uniformBuffers.length < 2 ^ 32 - 4
  few_images : (Shader.resources s).sampledImages.length < 2 ^ 32 - 4

variable {s : σ} (stage : Stage) (scheme : BindingScheme)

theorem binding_fixBindSlots_block (bindable : Bindable s) (j : Nat)
    (inList : j < (Shader.resources s).uniformBuffers.length) :
    Shader.decoration (fixBindSlots stage scheme s) (Shader.resources s).uniformBuffers[j].id
      .binding = scheme.firstBlock stage + UInt32.ofNat j :=
  congrArg Prod.snd (boundAt_fixBindSlots_block stage scheme bindable.distinct j inList)

theorem binding_fixBindSlots_image (bindable : Bindable s) (j : Nat)
    (inList : j < (Shader.resources s).sampledImages.length) :
    Shader.decoration (fixBindSlots stage scheme s) (Shader.resources s).sampledImages[j].id
      .binding = UInt32.ofNat j :=
  congrArg Prod.snd (boundAt_fixBindSlots_image stage scheme bindable.distinct j inList)

end

/-! ## The slots shown -/

/-- The slot that block `j` shows. -/
def shownSlot (stage : Stage) (scheme : BindingScheme) (j : Nat) : Nat :=
  if scheme = .web ∧ stage ≠ .fragment ∧ 4 ≤ j then j - 4 else j

/-- Bindings do not wrap around. -/
theorem firstBlock_add_toNat (stage : Stage) (scheme : BindingScheme) {j : Nat}
    (fits : j < 2 ^ 32 - 4) :
    (scheme.firstBlock stage + UInt32.ofNat j).toNat = (scheme.firstBlock stage).toNat + j := by
  have offset : (scheme.firstBlock stage).toNat ≤ 4 := by
    cases scheme <;> cases stage <;> decide
  rw [UInt32.toNat_add, UInt32.toNat_ofNat', Nat.add_mod_mod]
  exact Nat.mod_eq_of_lt (by omega)

theorem logicalSlot_native (binding : UInt32) :
    BindingScheme.native.logicalSlot binding = binding := rfl

theorem logicalSlot_web_toNat (binding : UInt32) :
    (BindingScheme.web.logicalSlot binding).toNat =
      if 4 ≤ binding.toNat then binding.toNat - 4 else binding.toNat := by
  have offset : fragmentBlockOffset.toNat = 4 := rfl
  unfold BindingScheme.logicalSlot
  by_cases shifted : fragmentBlockOffset ≤ binding
  · have inNat := UInt32.le_iff_toNat_le.mp shifted
    rw [offset] at inNat
    simp [shifted, inNat, UInt32.toNat_sub_of_le, offset]
  · have inNat := mt UInt32.le_iff_toNat_le.mpr shifted
    rw [offset] at inNat
    simp [shifted, inNat]

theorem logicalSlot_firstBlock_add (stage : Stage) (scheme : BindingScheme) {j : Nat}
    (fits : j < 2 ^ 32 - 4) :
    (scheme.logicalSlot (scheme.firstBlock stage + UInt32.ofNat j)).toNat =
      shownSlot stage scheme j := by
  have binding := firstBlock_add_toNat stage scheme fits
  unfold shownSlot
  cases scheme with
  | native =>
      rw [logicalSlot_native, binding]
      simp [BindingScheme.firstBlock]
  | web =>
      rw [logicalSlot_web_toNat, binding]
      cases stage <;> simp [BindingScheme.firstBlock, fragmentBlockOffset]

/-- Blocks show their own slots exactly where none is taken for a fragment block. -/
theorem shownSlot_eq_self_iff (stage : Stage) (scheme : BindingScheme) (count : Nat) :
    (∀ j < count, shownSlot stage scheme j = j) ↔
      ¬ (scheme = .web ∧ stage ≠ .fragment ∧ 4 < count) := by
  unfold shownSlot
  constructor
  · rintro own ⟨web, otherStage, five⟩
    have fifth := own 4 five
    rw [if_pos ⟨web, otherStage, Nat.le_refl 4⟩] at fifth
    cases fifth
  · intro spared j inCount
    refine if_neg ?_
    rintro ⟨web, otherStage, shifted⟩
    exact spared ⟨web, otherStage, by omega⟩

/-- The slots that an interface shows of a shader. -/
structure SlotsShown {σ : Type} [Shader σ] (stage : Stage) (scheme : BindingScheme) (s : σ)
    (i : Interface) : Prop where
  every_block : i.uniformBlocks.length = (Shader.resources s).uniformBuffers.length
  every_image : i.images.length = (Shader.resources s).sampledImages.length
  block_slot : ∀ (j : Nat) (inList : j < i.uniformBlocks.length),
    i.uniformBlocks[j].slot.toNat = shownSlot stage scheme j
  image_slot : ∀ (j : Nat) (inList : j < i.images.length), i.images[j].slot.toNat = j
  own_slots_iff : (∀ (j : Nat) (inList : j < i.uniformBlocks.length),
      i.uniformBlocks[j].slot.toNat = j) ↔
    ¬ (scheme = .web ∧ stage ≠ .fragment ∧ 4 < i.uniformBlocks.length)

theorem slotsShown_of_lawful {σ : Type} [Shader σ] [LawfulShader σ] (stage : Stage)
    (scheme : BindingScheme) {s : σ} {i : Interface} (bindable : Bindable s)
    (read : reflect scheme (fixBindSlots stage scheme s) = .ok i) :
    SlotsShown stage scheme s i := by
  have blocks := (reflects_of_eq_ok read).uniformBlocks
  have images := (reflects_of_eq_ok read).images
  rw [resources_fixBindSlots] at blocks images
  have every_block : i.uniformBlocks.length = (Shader.resources s).uniformBuffers.length := by
    rw [blocks, List.length_map]
  have every_image : i.images.length = (Shader.resources s).sampledImages.length := by
    rw [images, List.length_map]
  have block_slot (j : Nat) (inList : j < i.uniformBlocks.length) :
      i.uniformBlocks[j].slot.toNat = shownSlot stage scheme j := by
    have isBlock : j < (Shader.resources s).uniformBuffers.length := every_block ▸ inList
    have few := bindable.few_blocks
    simp only [blocks, List.getElem_map, reflectBlock]
    rw [binding_fixBindSlots_block stage scheme bindable j isBlock]
    exact logicalSlot_firstBlock_add stage scheme (by omega)
  have image_slot (j : Nat) (inList : j < i.images.length) : i.images[j].slot.toNat = j := by
    have isImage : j < (Shader.resources s).sampledImages.length := every_image ▸ inList
    have few := bindable.few_images
    simp only [images, List.getElem_map, reflectImage_slot]
    rw [binding_fixBindSlots_image stage scheme bindable j isImage]
    exact UInt32.toNat_ofNat_of_lt' (Nat.lt_trans (Nat.lt_trans isImage few) (by decide))
  refine ⟨every_block, every_image, block_slot, image_slot, ?_⟩
  rw [← shownSlot_eq_self_iff]
  constructor
  · intro own j inList
    rw [← block_slot j inList]
    exact own j inList
  · intro own j inList
    rw [block_slot j inList]
    exact own j inList

/-- **After the slots were fixed, images show their own slots, and blocks do but for those
from the fifth on outside of fragment shaders under the web scheme.** -/
theorem reflect_fixBindSlots (stage : Stage) (scheme : BindingScheme) :
    (∀ (s : Spirv.ModuleShader) (i : Interface), Bindable s →
        reflect scheme (fixBindSlots stage scheme s) = .ok i → SlotsShown stage scheme s i) ∧
      ∀ (s : Sketch) (i : Interface), Bindable s →
        reflect scheme (fixBindSlots stage scheme s) = .ok i → SlotsShown stage scheme s i :=
  ⟨fun _ _ => slotsShown_of_lawful stage scheme, fun _ _ => slotsShown_of_lawful stage scheme⟩

/-! ## Two shaders -/

/-- A module of a fragment shader with a block and an image, bound at 7. -/
def boundModule : Spirv.Module :=
  let steps : Spirv.Builder.Build Unit := do
    let float ← Spirv.Builder.float
    let _ ← Spirv.Builder.uniformBlock "params" [⟨"tint", float, 0⟩] 3 7
    let _ ← Spirv.Builder.sampledImage "albedo" float .plane false 0 7
  (steps.run (.start .fragment)).2.finish "main"

def boundShader : Spirv.ModuleShader where
  module := boundModule
  tables := (Spirv.Tables.ofModule boundModule).toOption.getD .empty

/-- Its interface after the slots were fixed. -/
def boundInterface : Interface where
  stage := .fragment
  entryPoint := "main"
  inputs := .empty
  outputs := .empty
  uniformBlocks := [⟨0, 4, "params", [⟨"tint", .float, 0, 0⟩], none⟩]
  images := [⟨0, "albedo", .plane, .float, none⟩]

/-- A vertex shader with five empty blocks. -/
def fiveBlocks : Sketch :=
  { Sketch.blank .vertex with
    resources := { Resources.empty with
      uniformBuffers := [⟨2, 1, 1, "a"⟩, ⟨3, 1, 1, "b"⟩, ⟨4, 1, 1, "c"⟩, ⟨5, 1, 1, "d"⟩,
        ⟨6, 1, 1, "e"⟩] }
    types := .ofList [(1, .structOf [])] }

/-- Its interface after the slots were fixed for the web. -/
def fiveBlocksInterface : Interface where
  stage := .vertex
  entryPoint := ""
  inputs := .empty
  outputs := .empty
  uniformBlocks := [⟨0, 0, "a", [], none⟩, ⟨1, 0, "b", [], none⟩, ⟨2, 0, "c", [], none⟩,
    ⟨3, 0, "d", [], none⟩, ⟨0, 0, "e", [], none⟩]
  images := []

theorem boundShader_bindable : Bindable boundShader :=
  ⟨by decide +kernel, by decide +kernel, by decide +kernel⟩

theorem fiveBlocks_bindable : Bindable fiveBlocks := ⟨by decide, by decide, by decide⟩

theorem reflect_fixBindSlots_bound :
    (Spirv.ModuleShader.ofModule boundModule = .ok boundShader ∧ Bindable boundShader ∧
        reflect .web (fixBindSlots .fragment .web boundShader) = .ok boundInterface ∧
        SlotsShown .fragment .web boundShader boundInterface) ∧
      Bindable fiveBlocks ∧
        reflect .web (fixBindSlots .vertex .web fiveBlocks) = .ok fiveBlocksInterface ∧
        SlotsShown .vertex .web fiveBlocks fiveBlocksInterface :=
  ⟨⟨rfl, boundShader_bindable, rfl,
      (reflect_fixBindSlots .fragment .web).1 _ _ boundShader_bindable rfl⟩,
    fiveBlocks_bindable, rfl, (reflect_fixBindSlots .vertex .web).2 _ _ fiveBlocks_bindable rfl⟩

/-- The fifth block of a vertex shader under the web scheme shows the slot of the first. -/
theorem fiveBlocks_share_slot :
    Bindable fiveBlocks ∧
      reflect .web (fixBindSlots .vertex .web fiveBlocks) = .ok fiveBlocksInterface ∧
      ¬ ∀ (j : Nat) (inList : j < fiveBlocksInterface.uniformBlocks.length),
        fiveBlocksInterface.uniformBlocks[j].slot.toNat = j := by
  refine ⟨fiveBlocks_bindable, rfl, ?_⟩
  intro own
  have fifth := own 4 (by decide)
  exact absurd fifth (by decide)

end ShaderBundle
