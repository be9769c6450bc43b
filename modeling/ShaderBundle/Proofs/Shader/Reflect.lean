/-
# Proofs.Shader.Reflect — what a successful reading has read

`reflect` fails only at an attribute without a slot.  When it does not, every part of
the interface is what was read off the shader for it (`Reflects`), and nothing has a
unique index yet.
-/
import ShaderBundle.Shader.Reflect

namespace ShaderBundle

set_option autoImplicit false

/-- A computation in two steps ends well when both steps do. -/
theorem except_bind_eq_ok_iff {ε α β : Type} {x : Except ε α} {f : α → Except ε β} {b : β} :
    (x >>= f) = .ok b ↔ ∃ a, x = .ok a ∧ f a = .ok b := by
  cases x with
  | error e =>
      constructor
      · nofun
      · rintro ⟨a, failed, -⟩
        cases failed
  | ok a =>
      constructor
      · exact fun second => ⟨a, rfl, second⟩
      · rintro ⟨_, ended, second⟩
        cases ended
        exact second

/-- It fails in its first step or in its second. -/
theorem except_bind_eq_error_iff {ε α β : Type} {x : Except ε α} {f : α → Except ε β} {e : ε} :
    (x >>= f) = .error e ↔ x = .error e ∨ ∃ a, x = .ok a ∧ f a = .error e := by
  cases x with
  | error fault =>
      constructor
      · intro failed
        cases failed
        exact .inl rfl
      · rintro (failed | ⟨_, ended, -⟩)
        · cases failed
          rfl
        · cases ended
  | ok a =>
      constructor
      · exact fun second => .inr ⟨a, rfl, second⟩
      · rintro (failed | ⟨_, ended, second⟩)
        · cases failed
        · cases ended
          exact second

section

variable {σ : Type} [Shader σ]

/-- The parts of an interface are those of a shader. -/
structure Reflects (scheme : BindingScheme) (s : σ) (i : Interface) : Prop where
  stage : i.stage = Stage.ofModel (Shader.model s)
  entryPoint : i.entryPoint = reflectEntryPoint s
  inputs : reflectAttributes s (Shader.resources s).stageInputs = .ok i.inputs
  outputs : reflectAttributes s (Shader.resources s).stageOutputs = .ok i.outputs
  uniformBlocks : i.uniformBlocks =
    (Shader.resources s).uniformBuffers.map (reflectBlock scheme s)
  images : i.images = (Shader.resources s).sampledImages.map (reflectImage s)

theorem reflects_of_eq_ok {scheme : BindingScheme} {s : σ} {i : Interface}
    (read : reflect scheme s = .ok i) : Reflects scheme s i := by
  obtain ⟨inputs, readInputs, read⟩ := except_bind_eq_ok_iff.mp read
  obtain ⟨outputs, readOutputs, read⟩ := except_bind_eq_ok_iff.mp read
  cases read
  exact ⟨rfl, rfl, readInputs, readOutputs, rfl, rfl⟩

theorem reflectImage_slot (s : σ) (r : Resource) :
    (reflectImage s r).slot = Shader.decoration s r.id .binding := by
  unfold reflectImage
  split <;> rfl

theorem reflectImage_uniqueIndex (s : σ) (r : Resource) :
    (reflectImage s r).uniqueIndex = none := by
  unfold reflectImage
  split <;> rfl

end

/-- No block and no image of an interface has a unique index. -/
structure Interface.Unindexed (i : Interface) : Prop where
  blocks : ∀ b ∈ i.uniformBlocks, b.uniqueIndex = none
  images : ∀ m ∈ i.images, m.uniqueIndex = none

theorem Reflects.unindexed {σ : Type} [Shader σ] {scheme : BindingScheme} {s : σ} {i : Interface}
    (reflects : Reflects scheme s i) : i.Unindexed := by
  constructor
  · intro b isBlock
    rw [reflects.uniformBlocks] at isBlock
    obtain ⟨r, -, rfl⟩ := List.mem_map.mp isBlock
    rfl
  · intro m isImage
    rw [reflects.images] at isImage
    obtain ⟨r, -, rfl⟩ := List.mem_map.mp isImage
    exact reflectImage_uniqueIndex s r

end ShaderBundle
