/-
# Proofs.Bundle.Blobs — what blobs compile to

A blob ends in one of six ways (`BlobOutcome`): it compiles, code generation breaks
down, or there is an error — its snippet is unknown, the backend makes no shader, there
is no code, or an attribute has no slot.  Errors stand in the bundle file, at the first
line of the snippet, or at line 0 if there is none.

Blobs that compile one by one are passed over by `compileBlobs`, and their shaders are
kept in front of whatever the rest yields (`compileBlobs_append`).  So the first blob
that does not compile decides how the blobs end, and `ends_of_blobs` says that nothing
else can happen.
-/
import Mathlib.Data.List.Forall2
import ShaderBundle.Bundle.Compilation
import ShaderBundle.Proofs.Shader.Reflect

namespace ShaderBundle

set_option autoImplicit false

def Blob.line (blob : Blob) (b : Bundle) : Nat :=
  match b.snippets[blob.snippetIndex]? with
  | some snippet => snippet.firstLine
  | none => 0

section

variable {σ : Type} [Shader σ] (b : Bundle) (target : Target) (backend : Backend σ)

/-! ## One blob -/

def blobResult (blob : Blob) : Except ListingFault (Except Diagnostic CompiledShader) :=
  (compileBlob b target backend blob).map BlobRun.result

/-- The switches of a snippet for the target. -/
abbrev optionsOf (snippet : Snippet) : CodeOptions :=
  CodeOptions.of target (snippet.optionsFor target)

/-- The ways a blob can end. -/
inductive BlobOutcome (blob : Blob) :
    Except ListingFault (Except Diagnostic CompiledShader) → Prop where
  | unknown : b.snippets[blob.snippetIndex]? = none →
      BlobOutcome blob (.ok (.error (b.diagnostic (blob.line b)
        s!"SPIR-V blob refers to unknown snippet #{blob.snippetIndex}")))
  | refused {snippet : Snippet} {text : String} :
      b.snippets[blob.snippetIndex]? = some snippet →
      backend.create blob (optionsOf target snippet) = .error text →
      BlobOutcome blob (.ok (.error (b.diagnostic (blob.line b)
        s!"Failed to cross-compile to {target.name}.")))
  | broken {snippet : Snippet} {made : σ} {fault : ListingFault} :
      b.snippets[blob.snippetIndex]? = some snippet →
      backend.create blob (optionsOf target snippet) = .ok made →
      Shader.generate (prepare target snippet.kind.stage made) = .error fault →
      BlobOutcome blob (.error fault)
  | empty {snippet : Snippet} {made s : σ} :
      b.snippets[blob.snippetIndex]? = some snippet →
      backend.create blob (optionsOf target snippet) = .ok made →
      Shader.generate (prepare target snippet.kind.stage made) = .ok ("", s) →
      BlobOutcome blob (.ok (.error (b.diagnostic (blob.line b)
        s!"Failed to cross-compile to {target.name}.")))
  | overflow {snippet : Snippet} {made s : σ} {code : String} {slots : SlotOverflow} :
      b.snippets[blob.snippetIndex]? = some snippet →
      backend.create blob (optionsOf target snippet) = .ok made →
      Shader.generate (prepare target snippet.kind.stage made) = .ok (code, s) → code ≠ "" →
      reflectFor target s = .error slots →
      BlobOutcome blob (.ok (.error (b.diagnostic (blob.line b) slots.message)))
  | compiled {snippet : Snippet} {made s : σ} {code : String} {i : Interface} :
      b.snippets[blob.snippetIndex]? = some snippet →
      backend.create blob (optionsOf target snippet) = .ok made →
      Shader.generate (prepare target snippet.kind.stage made) = .ok (code, s) → code ≠ "" →
      reflectFor target s = .ok i →
      BlobOutcome blob (.ok (.ok ⟨blob.snippetIndex, code, i⟩))

theorem blobOutcome (blob : Blob) :
    BlobOutcome b target backend blob (blobResult b target backend blob) := by
  unfold blobResult compileBlob
  cases known : b.snippets[blob.snippetIndex]? with
  | none =>
      have line : blob.line b = 0 := by rw [Blob.line, known]
      exact line ▸ .unknown known
  | some snippet =>
      have line : blob.line b = snippet.firstLine := by rw [Blob.line, known]
      simp only
      cases create : backend.create blob (optionsOf target snippet) with
      | error text => exact line ▸ .refused known create
      | ok made =>
          simp only
          cases generate : Shader.generate (prepare target snippet.kind.stage made) with
          | error fault => exact .broken known create generate
          | ok answer =>
              obtain ⟨code, s⟩ := answer
              by_cases noCode : code = ""
              · subst noCode
                exact line ▸ .empty known create generate
              · simp only [bind, Except.bind, if_neg noCode]
                cases read : reflectFor target s with
                | error slots => exact line ▸ .overflow known create generate noCode read
                | ok i => exact .compiled known create generate noCode read

variable {b target backend}

/-- Errors stand in the file of the bundle, at the line of the blob. -/
theorem place_of_failed {blob : Blob} {e : Diagnostic}
    (failed : blobResult b target backend blob = .ok (.error e)) :
    e.file = b.basePath ∧ e.lineIndex = blob.line b := by
  have outcome := blobOutcome b target backend blob
  rw [failed] at outcome
  cases outcome <;> exact ⟨rfl, rfl⟩

theorem unindexed_of_reflectFor {s : σ} {i : Interface} (read : reflectFor target s = .ok i) :
    i.Unindexed := by
  obtain ⟨own, reflected, named⟩ := except_bind_eq_ok_iff.mp read
  cases named
  have unindexed := (reflects_of_eq_ok reflected).unindexed
  exact ⟨unindexed.blocks, unindexed.images⟩

/-- What a blob compiles to has its code, and no unique index yet. -/
structure FreshFrom (blob : Blob) (s : CompiledShader) : Prop where
  snippet : s.snippetIndex = blob.snippetIndex
  code : s.sourceCode ≠ ""
  unindexed : s.interface.Unindexed

theorem fresh_of_compiled {blob : Blob} {s : CompiledShader}
    (compiled : blobResult b target backend blob = .ok (.ok s)) : FreshFrom blob s := by
  have outcome := blobOutcome b target backend blob
  rw [compiled] at outcome
  cases outcome with
  | compiled _ _ _ code read => exact ⟨rfl, code, unindexed_of_reflectFor read⟩

/-! ## All blobs -/

/-- Blobs compile on their own to shaders, one by one. -/
def AllCompile (b : Bundle) (target : Target) (backend : Backend σ) :
    List Blob → List CompiledShader → Prop :=
  List.Forall₂ fun blob s => blobResult b target backend blob = .ok (.ok s)

theorem AllCompile.fresh {blobs : List Blob} {done : List CompiledShader}
    (all : AllCompile b target backend blobs done) :
    ∀ s ∈ done, ∃ blob ∈ blobs, FreshFrom blob s := by
  induction all with
  | nil => nofun
  | cons compiled _ ih =>
      intro s ofDone
      rcases List.mem_cons.mp ofDone with rfl | later
      · exact ⟨_, List.mem_cons_self, fresh_of_compiled compiled⟩
      · obtain ⟨blob, ofBlobs, fresh⟩ := ih s later
        exact ⟨blob, List.mem_cons_of_mem _ ofBlobs, fresh⟩

/-- Shaders stand in the order of their blobs. -/
theorem AllCompile.snippets {blobs : List Blob} {done : List CompiledShader}
    (all : AllCompile b target backend blobs done) :
    done.map CompiledShader.snippetIndex = blobs.map Blob.snippetIndex := by
  induction all with
  | nil => rfl
  | cons compiled _ ih =>
      rw [List.map_cons, List.map_cons, (fresh_of_compiled compiled).snippet, ih]

/-- The results of blobs behind others that compiled. -/
def BlobRuns.after (attempts : List (Attempt σ)) (log : List LogRecord)
    (done : List CompiledShader) (runs : BlobRuns σ) : BlobRuns σ :=
  ⟨attempts ++ runs.attempts, log ++ runs.log, done ++ runs.sources, runs.error⟩

theorem compileBlob_of_result {blob : Blob} {result : Except Diagnostic CompiledShader}
    (ended : blobResult b target backend blob = .ok result) :
    ∃ run, compileBlob b target backend blob = .ok run ∧ run.result = result := by
  unfold blobResult at ended
  cases compiled : compileBlob b target backend blob with
  | error fault =>
      rw [compiled] at ended
      cases ended
  | ok run =>
      rw [compiled] at ended
      exact ⟨run, rfl, Except.ok.inj ended⟩

/-- Blobs that compile are passed over; their shaders come first. -/
theorem compileBlobs_append {before : List Blob} {done : List CompiledShader}
    (all : AllCompile b target backend before done) (rest : List Blob) :
    ∃ attempts log, compileBlobs b target backend (before ++ rest) =
      (compileBlobs b target backend rest).map (BlobRuns.after attempts log done) := by
  induction all with
  | nil =>
      refine ⟨[], [], ?_⟩
      rw [List.nil_append]
      cases compileBlobs b target backend rest <;> rfl
  | cons compiled _ ih =>
      obtain ⟨attempts, log, passed⟩ := ih
      obtain ⟨run, ran, result⟩ := compileBlob_of_result compiled
      refine ⟨run.attempt.toList ++ attempts, run.log ++ log, ?_⟩
      rw [List.cons_append, compileBlobs, ran]
      simp only [bind, Except.bind, result, passed]
      cases compileBlobs b target backend rest with
      | error fault => rfl
      | ok runs => simp [BlobRuns.after, pure, Except.pure, Except.map]

theorem compileBlobs_of_all {blobs : List Blob} {done : List CompiledShader}
    (all : AllCompile b target backend blobs done) :
    ∃ runs, compileBlobs b target backend blobs = .ok runs ∧ runs.sources = done ∧
      runs.error = none := by
  obtain ⟨attempts, log, passed⟩ := compileBlobs_append all []
  rw [List.append_nil] at passed
  exact ⟨_, passed, List.append_nil done, rfl⟩

theorem compileBlobs_of_failed {before : List Blob} {done : List CompiledShader} {blob : Blob}
    {e : Diagnostic} (all : AllCompile b target backend before done)
    (failed : blobResult b target backend blob = .ok (.error e)) (after : List Blob) :
    ∃ runs, compileBlobs b target backend (before ++ blob :: after) = .ok runs ∧
      runs.sources = done ∧ runs.error = some e := by
  obtain ⟨attempts, log, passed⟩ := compileBlobs_append all (blob :: after)
  obtain ⟨run, ran, result⟩ := compileBlob_of_result failed
  rw [compileBlobs, ran] at passed
  simp only [bind, Except.bind, result] at passed
  exact ⟨_, passed, List.append_nil done, rfl⟩

theorem compileBlobs_of_broken {before : List Blob} {done : List CompiledShader} {blob : Blob}
    {fault : ListingFault} (all : AllCompile b target backend before done)
    (broken : blobResult b target backend blob = .error fault) (after : List Blob) :
    compileBlobs b target backend (before ++ blob :: after) = .error fault := by
  obtain ⟨attempts, log, passed⟩ := compileBlobs_append all (blob :: after)
  unfold blobResult at broken
  cases compiled : compileBlob b target backend blob with
  | ok run =>
      rw [compiled] at broken
      cases broken
  | error other =>
      rw [compiled] at broken
      cases broken
      rw [passed, compileBlobs, compiled]
      rfl

/-- Either all blobs compile, or there is a first one that does not. -/
theorem ends_of_blobs (b : Bundle) (target : Target) (backend : Backend σ) (blobs : List Blob) :
    (∃ done, AllCompile b target backend blobs done) ∨
      ∃ before blob after done, blobs = before ++ blob :: after ∧
        AllCompile b target backend before done ∧
        ((∃ e, blobResult b target backend blob = .ok (.error e)) ∨
          ∃ fault, blobResult b target backend blob = .error fault) := by
  induction blobs with
  | nil => exact .inl ⟨[], .nil⟩
  | cons first rest ih =>
      cases ended : blobResult b target backend first with
      | error fault => exact .inr ⟨[], first, rest, [], rfl, .nil, .inr ⟨fault, ended⟩⟩
      | ok result =>
          cases result with
          | error e => exact .inr ⟨[], first, rest, [], rfl, .nil, .inl ⟨e, ended⟩⟩
          | ok s =>
              rcases ih with ⟨done, all⟩ | ⟨before, blob, after, done, rfl, all, how⟩
              · exact .inl ⟨s :: done, .cons ended all⟩
              · exact .inr ⟨first :: before, blob, after, s :: done, rfl, .cons ended all, how⟩

end

end ShaderBundle
