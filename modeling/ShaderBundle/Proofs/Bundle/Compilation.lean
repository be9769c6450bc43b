/-
# Proofs.Bundle.Compilation — how a compilation ends

The first thing that goes wrong ends a compilation, and what was reached before it
stays.  A blob that does not compile leaves the shaders before it, without unique
indices and with empty tables (`Stopped`).  If every blob compiles, a conflict between
uniform blocks comes first and leaves the images alone, then a conflict between images,
then the programs (`Finished`).  Conflicts stand at line 0 of the bundle file.

Unification changes nothing but unique indices, so neither the order of the shaders nor
their code is touched by what goes wrong later, and images are the same before and after
the blocks were unified.
-/
import ShaderBundle.Proofs.Bundle.Blobs
import ShaderBundle.Proofs.Bundle.Unify
import ShaderBundle.Shader.Sketch
import ShaderBundle.Spirv.Shader

namespace ShaderBundle

set_option autoImplicit false

open Unify

/-! ## After the blobs -/

/-- A compilation that a blob ended: `done` was compiled before it. -/
structure Stopped (b : Bundle) (target : Target) (blob : Blob) (done : List CompiledShader)
    (e : Diagnostic) (c : Compilation) : Prop where
  kept : c = ⟨target, done, [], [], some e⟩
  unindexed : ∀ s ∈ done, s.interface.Unindexed
  file : e.file = b.basePath
  line : e.lineIndex = blob.line b

/-- The name of the first definition that does not agree with an earlier one. -/
def conflictIn (α : Type) [Shared α] (sources : List CompiledShader) : Option String :=
  (gather (α := α) [] sources).conflict

/-- A shader without any unique index. -/
def bare (s : CompiledShader) : CompiledShader := clear Image (clear UniformBlock s)

/-- A compilation of blobs that all compiled, to `done`. -/
structure Finished (b : Bundle) (target : Target) (blobs : List Blob) (done : List CompiledShader)
    (c : Compilation) : Prop where
  target : c.target = target
  snippets : c.sources.map CompiledShader.snippetIndex = blobs.map Blob.snippetIndex
  codes : ∀ s ∈ c.sources, s.sourceCode ≠ ""
  bare : c.sources.map bare = done.map bare
  block_conflict : ∀ name, conflictIn UniformBlock done = some name →
    c.error = some ⟨b.basePath, 0, (Conflict.uniformBlock name).message⟩ ∧
      c.uniqueImages = [] ∧ ∀ s ∈ c.sources, ∀ i ∈ s.interface.images, i.uniqueIndex = none
  image_conflict : conflictIn UniformBlock done = none →
    ∀ name, conflictIn Image done = some name →
      c.error = some ⟨b.basePath, 0, (Conflict.image name).message⟩
  linked : conflictIn UniformBlock done = none → conflictIn Image done = none →
    c.error = checkLinks b c.sources

/-! ## Unifying and linking -/

theorem bare_clear_block (s : CompiledShader) : bare (clear UniformBlock s) = bare s := by
  simp [bare, clear, putItems, itemsOf, Shared.putInto, Shared.ofInterface,
    LawfulShared.withoutIndex, Function.comp_def]

theorem bare_clear_image (s : CompiledShader) : bare (clear Image s) = bare s := by
  simp [bare, clear, putItems, itemsOf, Shared.putInto, Shared.ofInterface,
    LawfulShared.withoutIndex, Function.comp_def]

/-- The images are the same once the blocks were unified. -/
theorem conflictIn_image_gather_block (sources : List CompiledShader) :
    conflictIn Image (gather (α := UniformBlock) [] sources).sources =
      conflictIn Image sources :=
  (gather_congr (gather_map_of_blind (itemsOf (α := Image)) (fun _ => rfl) _ _)).2

section

variable (b : Bundle) (target : Target) {sources : List CompiledShader}

theorem unifyAndLink_of_block_conflict {name : String}
    (conflict : conflictIn UniformBlock sources = some name) :
    (unifyAndLink b target sources).1 =
      ⟨target, (gather (α := UniformBlock) [] sources).sources,
        (gather (α := UniformBlock) [] sources).table, [],
        some ⟨b.basePath, 0, (Conflict.uniformBlock name).message⟩⟩ := by
  unfold conflictIn at conflict
  simp only [unifyAndLink, conflict, Bundle.diagnostic]

/-- Without a conflict between blocks, the images decide what is reported. -/
theorem unifyAndLink_of_blocks_clean (clean : conflictIn UniformBlock sources = none) :
    (unifyAndLink b target sources).1 =
      ⟨target, (gather (α := Image) [] (gather (α := UniformBlock) [] sources).sources).sources,
        (gather (α := UniformBlock) [] sources).table,
        (gather (α := Image) [] (gather (α := UniformBlock) [] sources).sources).table,
        match conflictIn Image sources with
        | some name => some ⟨b.basePath, 0, (Conflict.image name).message⟩
        | none => checkLinks b
            (gather (α := Image) [] (gather (α := UniformBlock) [] sources).sources).sources⟩ := by
  have images := conflictIn_image_gather_block sources
  unfold conflictIn at clean images
  unfold conflictIn
  rw [← images]
  simp only [unifyAndLink, clean, Bundle.diagnostic]
  cases (gather (α := Image) [] (gather (α := UniformBlock) [] sources).sources).conflict <;> rfl

/-- What does not see any index stays as it was. -/
theorem unifyAndLink_map_of_blind {β : Type} (f : CompiledShader → β)
    (noBlock : ∀ s, f (clear UniformBlock s) = f s) (noImage : ∀ s, f (clear Image s) = f s) :
    (unifyAndLink b target sources).1.sources.map f = sources.map f := by
  have blocks := gather_map_of_blind (α := UniformBlock) f noBlock [] sources
  have images := gather_map_of_blind (α := Image) f noImage []
    (gather (α := UniformBlock) [] sources).sources
  cases conflict : conflictIn UniformBlock sources with
  | some name =>
      rw [unifyAndLink_of_block_conflict b target conflict]
      exact blocks
  | none =>
      rw [unifyAndLink_of_blocks_clean b target conflict]
      exact images.trans blocks

end

section

variable {σ : Type} [Shader σ] {b : Bundle} {target : Target} {backend : Backend σ}

theorem unifyAndLink_finished {blobs : List Blob} {done : List CompiledShader}
    (all : AllCompile b target backend blobs done) :
    Finished b target blobs done (unifyAndLink b target done).1 where
  target := by
    cases conflict : conflictIn UniformBlock done with
    | some name => rw [unifyAndLink_of_block_conflict b target conflict]
    | none => rw [unifyAndLink_of_blocks_clean b target conflict]
  snippets := by
    rw [unifyAndLink_map_of_blind b target _ (fun _ => rfl) (fun _ => rfl)]
    exact all.snippets
  codes := by
    intro s ofSources
    have code := List.mem_map_of_mem (f := CompiledShader.sourceCode) ofSources
    rw [unifyAndLink_map_of_blind b target _ (fun _ => rfl) (fun _ => rfl)] at code
    obtain ⟨own, ofDone, sameCode⟩ := List.mem_map.mp code
    obtain ⟨blob, -, fresh⟩ := all.fresh own ofDone
    exact sameCode ▸ fresh.code
  bare := unifyAndLink_map_of_blind b target _ bare_clear_block bare_clear_image
  block_conflict name conflict := by
    rw [unifyAndLink_of_block_conflict b target conflict]
    refine ⟨rfl, rfl, ?_⟩
    intro s ofSources i isImage
    have images := List.mem_map_of_mem (f := itemsOf (α := Image)) ofSources
    rw [gather_map_of_blind _ fun _ => rfl] at images
    obtain ⟨own, ofDone, sameImages⟩ := List.mem_map.mp images
    obtain ⟨blob, -, fresh⟩ := all.fresh own ofDone
    -- the walk over the blocks left the images as they were compiled
    refine fresh.unindexed.images i ?_
    change i ∈ itemsOf own
    rw [sameImages]
    exact isImage
  image_conflict clean name conflict := by
    rw [unifyAndLink_of_blocks_clean b target clean, conflict]
  linked blocksClean imagesClean := by
    rw [unifyAndLink_of_blocks_clean b target blocksClean, imagesClean]

/-! ## The bundle -/

/-- What the blobs yield decides the compilation. -/
theorem compileBundle_of_runs {blobs : List Blob} {runs : BlobRuns σ}
    (ran : compileBlobs b target backend blobs = .ok runs) :
    ∃ run, compileBundle b blobs target backend = .ok run ∧
      run.compilation =
        match runs.error with
        | some e => ⟨target, runs.sources, [], [], some e⟩
        | none => (unifyAndLink b target runs.sources).1 := by
  unfold compileBundle
  rw [ran]
  refine ⟨_, rfl, ?_⟩
  cases runs.error <;> rfl

theorem compileBundle_stopped {before : List Blob} {done : List CompiledShader} {blob : Blob}
    {e : Diagnostic} (all : AllCompile b target backend before done)
    (failed : blobResult b target backend blob = .ok (.error e)) (after : List Blob) :
    ∃ run, compileBundle b (before ++ blob :: after) target backend = .ok run ∧
      Stopped b target blob done e run.compilation := by
  obtain ⟨runs, ran, rfl, error⟩ := compileBlobs_of_failed all failed after
  obtain ⟨run, compiled, kept⟩ := compileBundle_of_runs ran
  rw [error] at kept
  obtain ⟨file, line⟩ := place_of_failed failed
  refine ⟨run, compiled, kept, ?_, file, line⟩
  intro s ofDone
  obtain ⟨own, -, fresh⟩ := all.fresh s ofDone
  exact fresh.unindexed

theorem compileBundle_finished {blobs : List Blob} {done : List CompiledShader}
    (all : AllCompile b target backend blobs done) :
    ∃ run, compileBundle b blobs target backend = .ok run ∧
      Finished b target blobs done run.compilation := by
  obtain ⟨runs, ran, rfl, error⟩ := compileBlobs_of_all all
  obtain ⟨run, compiled, finished⟩ := compileBundle_of_runs ran
  rw [error] at finished
  exact ⟨run, compiled, finished ▸ unifyAndLink_finished all⟩

theorem compileBundle_broken {before : List Blob} {done : List CompiledShader} {blob : Blob}
    {fault : ListingFault} (all : AllCompile b target backend before done)
    (broken : blobResult b target backend blob = .error fault) (after : List Blob) :
    compileBundle b (before ++ blob :: after) target backend = .error fault := by
  unfold compileBundle
  rw [compileBlobs_of_broken all broken after]
  rfl

/-- There is no error exactly when nothing goes wrong in any phase. -/
theorem compileBundle_error_eq_none_iff {blobs : List Blob} {run : Run σ}
    (compiled : compileBundle b blobs target backend = .ok run) :
    run.compilation.error = none ↔
      ∃ done, AllCompile b target backend blobs done ∧ conflictIn UniformBlock done = none ∧
        conflictIn Image done = none ∧ checkLinks b run.compilation.sources = none := by
  constructor
  · intro noError
    rcases ends_of_blobs b target backend blobs with
      ⟨done, all⟩ | ⟨before, blob, after, done, rfl, all, ⟨e, failed⟩ | ⟨fault, broken⟩⟩
    · obtain ⟨own, again, finished⟩ := compileBundle_finished all
      cases compiled.symm.trans again
      cases blocks : conflictIn UniformBlock done with
      | some name => cases noError.symm.trans (finished.block_conflict name blocks).1
      | none =>
          cases images : conflictIn Image done with
          | some name => cases noError.symm.trans (finished.image_conflict blocks name images)
          | none => exact ⟨done, all, blocks, images, finished.linked blocks images ▸ noError⟩
    · obtain ⟨own, again, stopped⟩ := compileBundle_stopped all failed after
      cases compiled.symm.trans again
      rw [stopped.kept] at noError
      cases noError
    · cases compiled.symm.trans (compileBundle_broken all broken after)
  · rintro ⟨done, all, blocks, images, links⟩
    obtain ⟨own, again, finished⟩ := compileBundle_finished all
    cases compiled.symm.trans again
    exact (finished.linked blocks images).trans links

end

/-! ## One program -/

/-- A program of two shaders. -/
def litBundle : Bundle :=
  .of "lit.shd" [⟨"lit", .vertex, [3], .empty⟩, ⟨"lit", .fragment, [9], .empty⟩]
    [⟨"lit", "lit", "lit", 20⟩]

def litBlobs : List Blob := [⟨0, .vertex, []⟩, ⟨1, .fragment, []⟩]

/-- A backend that knows both shaders. -/
def litBackend : Backend Sketch :=
  Sketch.backend (.ofList [(0, { Sketch.blank .vertex with source := "vertex code" }),
    (1, { Sketch.blank .fragment with source := "fragment code" })])

end ShaderBundle
