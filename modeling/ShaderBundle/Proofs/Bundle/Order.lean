/-
# Proofs.Bundle.Order — neither the order nor the company of a blob matters

A blob compiles on its own: what it yields depends on its snippet, the target and the
backend, and on nothing else of the bundle (`blobResult_congr`).  Unifying gives indices and
changes nothing else, so up to these the shader at a place of the result is what the blob at
this place yields, whatever went wrong later (`sources_of_compiled`).

Blobs in another order yield the same shaders in another order.  Whether two definitions
of a name disagree does not depend on the order, and a link check only looks shaders up by
their snippets; where no two blobs are of one snippet, these look-ups find the same shaders.
So the bundle is accepted in one order exactly when it is in the other.
-/
import Mathlib.Data.List.Perm.Basic
import ShaderBundle.Proofs.Bundle.Compilation
import ShaderBundle.Proofs.Bundle.Conflict
import ShaderBundle.Proofs.Bundle.Linking

namespace ShaderBundle

set_option autoImplicit false

open Unify

section

variable {σ : Type} [Shader σ] {b b' : Bundle} {target : Target} {backend : Backend σ}
  {blobs blobs' : List Blob} {run run' : Run σ}

/-! ## One blob in its company -/

/-- What a blob yields depends on no snippet but its own, and on no program. -/
theorem blobResult_congr {blob : Blob} {s : CompiledShader}
    (sameSnippet : b.snippets[blob.snippetIndex]? = b'.snippets[blob.snippetIndex]?)
    (compiled : blobResult b target backend blob = .ok (.ok s)) :
    blobResult b' target backend blob = .ok (.ok s) := by
  have outcome := blobOutcome b target backend blob
  rw [compiled] at outcome
  cases outcome with
  | compiled known create generate code read =>
      rw [sameSnippet] at known
      simp only [blobResult, compileBlob, known, create, generate, bind, Except.bind, if_neg code,
        read]
      rfl

/-- However a compilation ends, its shaders are those of the first blobs up to indices. -/
theorem sources_of_compiled (compiled : compileBundle b blobs target backend = .ok run) :
    ∃ before after done, blobs = before ++ after ∧ AllCompile b target backend before done ∧
      run.compilation.sources.map bare = done.map bare := by
  rcases ends_of_blobs b target backend blobs with
    ⟨done, all⟩ | ⟨before, blob, after, done, rfl, all, ⟨e, failed⟩ | ⟨fault, broken⟩⟩
  · obtain ⟨own, again, finished⟩ := compileBundle_finished all
    cases compiled.symm.trans again
    exact ⟨blobs, [], done, (List.append_nil blobs).symm, all, finished.bare⟩
  · obtain ⟨own, again, stopped⟩ := compileBundle_stopped all failed after
    cases compiled.symm.trans again
    exact ⟨before, blob :: after, done, rfl, all, by rw [stopped.kept]⟩
  · cases compiled.symm.trans (compileBundle_broken all broken after)

theorem blob_of_source {k : Nat} {s : CompiledShader}
    (compiled : compileBundle b blobs target backend = .ok run)
    (found : run.compilation.sources[k]? = some s) : ∃ blob, blobs[k]? = some blob := by
  obtain ⟨before, after, done, rfl, all, same⟩ := sources_of_compiled compiled
  have sizes := congrArg List.length same
  rw [List.length_map, List.length_map, ← all.length_eq] at sizes
  have inSources := (List.getElem?_eq_some_iff.mp found).1
  have inBlobs : k < (before ++ after).length := by
    rw [List.length_append]
    omega
  exact ⟨_, List.getElem?_eq_getElem inBlobs⟩

/-- The shader at a place is what the blob at this place yields, up to indices. -/
theorem source_of_blob {k : Nat} {blob : Blob} {s : CompiledShader}
    (compiled : compileBundle b blobs target backend = .ok run) (given : blobs[k]? = some blob)
    (found : run.compilation.sources[k]? = some s) :
    ∃ own, blobResult b target backend blob = .ok (.ok own) ∧ bare s = bare own := by
  obtain ⟨before, after, done, rfl, all, same⟩ := sources_of_compiled compiled
  have atPlace : (done.map bare)[k]? = some (bare s) := by
    rw [← same, List.getElem?_map, found, Option.map_some]
  rw [List.getElem?_map, Option.map_eq_some_iff] at atPlace
  obtain ⟨own, ownAt, sameBare⟩ := atPlace
  obtain ⟨inDone, rfl⟩ := List.getElem?_eq_some_iff.mp ownAt
  have inBefore : k < before.length := all.length_eq ▸ inDone
  rw [List.getElem?_append_left inBefore, List.getElem?_eq_getElem inBefore] at given
  cases given
  exact ⟨_, List.Forall₂.get all inBefore inDone, sameBare.symm⟩

/-! ## Look-ups by snippet -/

theorem findSource_map_bare (sources : List CompiledShader) (i : Nat) :
    findSource (sources.map bare) i = (findSource sources i).map bare := by
  unfold findSource
  rw [List.find?_map]
  rfl

/-- Where every snippet has one shader at most, it is found in every order. -/
theorem findSource_eq_some_iff_mem {sources : List CompiledShader}
    (distinct : (sources.map CompiledShader.snippetIndex).Nodup) (i : Nat) (s : CompiledShader) :
    findSource sources i = some s ↔ s ∈ sources ∧ s.snippetIndex = i := by
  constructor
  · intro found
    exact ⟨List.mem_of_find?_eq_some found, by simpa using List.find?_some found⟩
  · rintro ⟨given, rfl⟩
    obtain ⟨first, isFirst⟩ := (noSource_or_firstSource sources s.snippetIndex).resolve_left
      fun none => none s given rfl
    have found := (findSource_eq_some_iff sources _ first).mpr isFirst
    have firstGiven := List.mem_of_find?_eq_some found
    have sameSnippet : first.snippetIndex = s.snippetIndex := by simpa using List.find?_some found
    rw [found, List.inj_on_of_nodup_map distinct firstGiven given sameSnippet]

theorem findSource_eq_of_perm {sources sources' : List CompiledShader}
    (perm : sources.Perm sources')
    (distinct : (sources.map CompiledShader.snippetIndex).Nodup) (i : Nat) :
    findSource sources i = findSource sources' i := by
  have distinct' := (perm.map CompiledShader.snippetIndex).nodup_iff.mp distinct
  ext s
  rw [findSource_eq_some_iff_mem distinct, findSource_eq_some_iff_mem distinct', perm.mem_iff]

/-- Shaders that are looked up alike, indices aside. -/
def LookAlike (sources sources' : List CompiledShader) : Prop :=
  ∀ i, (findSource sources i).map bare = (findSource sources' i).map bare

theorem lookAlike_of_perm {sources sources' done done' : List CompiledShader}
    (same : sources.map bare = done.map bare) (same' : sources'.map bare = done'.map bare)
    (perm : done.Perm done') (distinct : (done.map CompiledShader.snippetIndex).Nodup) :
    LookAlike sources sources' := by
  intro i
  rw [← findSource_map_bare, ← findSource_map_bare, same, same', findSource_map_bare,
    findSource_map_bare, findSource_eq_of_perm perm distinct]

/-- The shader that is found instead has the same attributes. -/
theorem LookAlike.firstSource {sources sources' : List CompiledShader}
    (alike : LookAlike sources sources') {i : Nat} {s : CompiledShader}
    (first : FirstSource sources i s) :
    ∃ s', FirstSource sources' i s' ∧ s'.interface.inputs = s.interface.inputs ∧
      s'.interface.outputs = s.interface.outputs := by
  have atPlace := alike i
  rw [(findSource_eq_some_iff _ _ _).mpr first, Option.map_some] at atPlace
  obtain ⟨s', found, sameBare⟩ := Option.map_eq_some_iff.mp atPlace.symm
  exact ⟨s', (findSource_eq_some_iff _ _ _).mp found,
    congrArg (fun t => t.interface.inputs) sameBare,
    congrArg (fun t => t.interface.outputs) sameBare⟩

/-- A program links whichever of the two its shaders are looked up in. -/
theorem LookAlike.links {sources sources' : List CompiledShader}
    (alike : LookAlike sources sources') {snippets : List Snippet} {p : Program}
    (links : Links snippets sources p) : Links snippets sources' p := by
  obtain ⟨i, j, vertex, fragment, vertexAt, fragmentAt, vertexOf, fragmentOf, met⟩ := links
  obtain ⟨vertex', vertexOf', -, outputs⟩ := alike.firstSource vertexOf
  obtain ⟨fragment', fragmentOf', inputs, -⟩ := alike.firstSource fragmentOf
  refine ⟨i, j, vertex', fragment', vertexAt, fragmentAt, vertexOf', fragmentOf', ?_⟩
  rw [outputs, inputs]
  exact met

theorem LookAlike.checkLinks_eq_none {sources sources' : List CompiledShader}
    (alike : LookAlike sources sources') (linked : checkLinks b sources = none) :
    checkLinks b sources' = none := by
  unfold checkLinks at linked ⊢
  rw [Option.map_eq_none_iff, firstLinkFault_eq_none_iff] at linked ⊢
  exact fun p given => alike.links (linked p given)

/-! ## Blobs in another order -/

/-- A compilation that ends without an error. -/
structure Accepts (b : Bundle) (blobs : List Blob) (target : Target) (backend : Backend σ)
    (run : Run σ) : Prop where
  compiled : compileBundle b blobs target backend = .ok run
  clean : run.compilation.error = none

/-- The shaders of blobs in another order are the same in another order. -/
theorem AllCompile.perm {done : List CompiledShader}
    (all : AllCompile b target backend blobs done) (perm : blobs.Perm blobs') :
    ∃ done', AllCompile b target backend blobs' done' ∧ done.Perm done' := by
  obtain ⟨done', all', moved⟩ := List.perm_comp_forall₂ perm.symm all
  exact ⟨done', all', moved.symm⟩

theorem conflictIn_eq_none_of_perm {α : Type} [Shared α] [LawfulShared α]
    {sources sources' : List CompiledShader} (perm : sources.Perm sources')
    (clean : conflictIn α sources = none) : conflictIn α sources' = none := by
  have reordered : Reordered α sources sources' :=
    ⟨sources', perm, List.forall₂_same.mpr fun _ _ => .refl _⟩
  exact (sameOutcome Shared.name LawfulShared.name_shape reordered).succeeds_iff.mp clean

/-- What is accepted in one order is accepted in every other, with the same shaders. -/
theorem Accepts.perm (accepts : Accepts b blobs target backend run) (perm : blobs.Perm blobs')
    (distinct : (blobs.map Blob.snippetIndex).Nodup) :
    ∃ run', Accepts b blobs' target backend run' ∧
      LookAlike run.compilation.sources run'.compilation.sources := by
  obtain ⟨done, all, blocks, images, links⟩ :=
    (compileBundle_error_eq_none_iff accepts.compiled).mp accepts.clean
  obtain ⟨own, again, finished⟩ := compileBundle_finished all
  cases accepts.compiled.symm.trans again
  obtain ⟨done', all', moved⟩ := all.perm perm
  obtain ⟨run', compiled', finished'⟩ := compileBundle_finished all'
  have alike : LookAlike run.compilation.sources run'.compilation.sources :=
    lookAlike_of_perm finished.bare finished'.bare moved (all.snippets ▸ distinct)
  refine ⟨run', ⟨compiled', (compileBundle_error_eq_none_iff compiled').mpr ?_⟩, alike⟩
  exact ⟨done', all', conflictIn_eq_none_of_perm moved blocks,
    conflictIn_eq_none_of_perm moved images, alike.checkLinks_eq_none links⟩

/-- **Neither the order nor the company of blobs matters.**  Blobs of distinct snippets are
accepted in one order exactly when they are in another, with the same shader for every
snippet; and what a blob yields is the same in every bundle that has its snippet. -/
theorem compileBundle_order_and_company (b : Bundle) (blobs : List Blob) (target : Target)
    (backend : Backend σ) :
    (∀ blobs', blobs.Perm blobs' → (blobs.map Blob.snippetIndex).Nodup →
        ((∃ run, Accepts b blobs target backend run) ↔
          ∃ run', Accepts b blobs' target backend run') ∧
        ∀ run run', Accepts b blobs target backend run → Accepts b blobs' target backend run' →
          LookAlike run.compilation.sources run'.compilation.sources) ∧
      ∀ (b' : Bundle) (blobs' : List Blob) (run run' : Run σ),
        compileBundle b blobs target backend = .ok run →
        compileBundle b' blobs' target backend = .ok run' →
        ∀ (k k' : Nat) (blob : Blob) (s s' : CompiledShader),
          blobs[k]? = some blob → blobs'[k']? = some blob →
          b.snippets[blob.snippetIndex]? = b'.snippets[blob.snippetIndex]? →
          run.compilation.sources[k]? = some s → run'.compilation.sources[k']? = some s' →
          bare s = bare s' := by
  constructor
  · intro blobs' perm distinct
    have distinct' := (perm.map Blob.snippetIndex).nodup_iff.mp distinct
    refine ⟨⟨?_, ?_⟩, ?_⟩
    · rintro ⟨run, accepts⟩
      obtain ⟨run', accepts', -⟩ := accepts.perm perm distinct
      exact ⟨run', accepts'⟩
    · rintro ⟨run', accepts'⟩
      obtain ⟨run, accepts, -⟩ := accepts'.perm perm.symm distinct'
      exact ⟨run, accepts⟩
    · intro run run' accepts accepts'
      obtain ⟨own, again, alike⟩ := accepts.perm perm distinct
      cases accepts'.compiled.symm.trans again.compiled
      exact alike
  · intro b' blobs' run run' compiled compiled' k k' blob s s' given given' sameSnippet found found'
    obtain ⟨own, yields, same⟩ := source_of_blob compiled given found
    obtain ⟨own', yields', same'⟩ := source_of_blob compiled' given' found'
    cases yields'.symm.trans (blobResult_congr sameSnippet yields)
    exact same.trans same'.symm

end

/-- A backend whose two shaders share a block, behind another one in the fragment shader. -/
def sunBackend : Backend Sketch :=
  let block (id : Id) (name : String) : Resource := ⟨id, 1, 1, name⟩
  let sketch (model : Spirv.ExecutionModel) (blocks : List Resource) : Sketch :=
    { Sketch.blank model with
      source := "code", resources := { Resources.empty with uniformBuffers := blocks } }
  Sketch.backend (.ofList [(0, sketch .vertex [block 2 "params"]),
    (1, sketch .fragment [block 2 "sun", block 3 "params"])])

/-- What its fragment shader compiles to, with the unique indices of its blocks. -/
def sunFragment (sun params : Nat) : CompiledShader :=
  ⟨1, "code", { (default : Interface) with
    stage := .fragment
    uniformBlocks := [⟨0, 0, "sun", [], some sun⟩, ⟨1, 0, "params", [], some params⟩] }⟩

/-- The snippets of `litBundle` in another file, without a program. -/
def looseBundle : Bundle := .of "loose.shd" litBundle.snippets []

/-- Alone, the fragment shader has other unique indices than behind the vertex shader. -/
theorem compileBundle_order_and_company_lit :
    litBlobs.Perm litBlobs.reverse ∧ (litBlobs.map Blob.snippetIndex).Nodup ∧
      ∃ run run' lone, Accepts litBundle litBlobs .hlsl5 sunBackend run ∧
        Accepts litBundle litBlobs.reverse .hlsl5 sunBackend run' ∧
        LookAlike run.compilation.sources run'.compilation.sources ∧
        compileBundle looseBundle [⟨1, .fragment, []⟩] .hlsl5 sunBackend = .ok lone ∧
        run.compilation.sources[1]? = some (sunFragment 1 0) ∧
        lone.compilation.sources[0]? = some (sunFragment 0 1) ∧
        bare (sunFragment 1 0) = bare (sunFragment 0 1) := by
  have perm : litBlobs.Perm litBlobs.reverse := (List.reverse_perm litBlobs).symm
  have distinct : (litBlobs.map Blob.snippetIndex).Nodup := by decide
  obtain ⟨reordered, company⟩ :=
    compileBundle_order_and_company litBundle litBlobs .hlsl5 sunBackend
  obtain ⟨run, accepts, found⟩ : ∃ run, Accepts litBundle litBlobs .hlsl5 sunBackend run ∧
      run.compilation.sources[1]? = some (sunFragment 1 0) := ⟨_, ⟨rfl, rfl⟩, rfl⟩
  obtain ⟨lone, compiled, alone⟩ :
      ∃ lone, compileBundle looseBundle [⟨1, .fragment, []⟩] .hlsl5 sunBackend = .ok lone ∧
        lone.compilation.sources[0]? = some (sunFragment 0 1) := ⟨_, rfl, rfl⟩
  obtain ⟨both, alike⟩ := reordered _ perm distinct
  obtain ⟨run', accepts'⟩ := both.mp ⟨run, accepts⟩
  exact ⟨perm, distinct, run, run', lone, accepts, accepts', alike _ _ accepts accepts', compiled,
    found, alone, company _ _ _ _ accepts.compiled compiled 1 0 _ _ _ rfl rfl rfl found alone⟩

end ShaderBundle
