/-
# Proofs.Bundle.Manifest — a loaded bundle is complete

Loading only reads: the tree of files stays as it was.  A snippet either has a fault
(`SnippetFault`) or gives its blob (`Gives`), and which of the two holds depends on the
snippet and its file alone, not on its place.  So the first snippet with a fault ends the
loading (`firstFaulty_iff`), and without one the blobs are those of the shaders, counted over
all snippets (`BlobsOf`).

A bundle with such blobs cannot run into two errors of a compilation.  The snippet of every
blob is known; and once programs are linked every blob was compiled, so every name of a
shader leads to a result.
-/
import ShaderBundle.Proofs.Bundle.Compilation
import ShaderBundle.Proofs.Bundle.Linking
import ShaderBundle.Bundle.Manifest

namespace ShaderBundle

set_option autoImplicit false

/-- A computation on a tree goes on with what its first step answers. -/
theorem run_bind_of_run_eq {α β : Type} {x : StateM FileTree α} {t t' : FileTree} {a : α}
    (ran : x.run t = (a, t')) (next : α → StateM FileTree β) :
    (x >>= next).run t = (next a).run t' := by
  rw [StateT.run_bind, ran]
  rfl

section

variable (t : FileTree) (directory : String)

/-! ## One snippet -/

/-- What is wrong with a snippet of a manifest. -/
inductive SnippetFault (s : ManifestSnippet) : LoadError → Prop where
  | unexpected {spirv : String} : s.snippet.kind = .block → s.spirv = some spirv →
      SnippetFault s (.unexpectedSpirv s.snippet.name)
  | missing : s.snippet.kind ≠ .block → s.spirv = none →
      SnippetFault s (.missingSpirv s.snippet.name)
  | unreadable {spirv : String} {reason : FileError} :
      s.snippet.kind ≠ .block → s.spirv = some spirv →
      t.read (Path.join directory spirv) = .error reason →
      SnippetFault s (.unreadable (Path.join directory spirv) reason.message)
  | unaligned {spirv : String} {bytes : List UInt8} :
      s.snippet.kind ≠ .block → s.spirv = some spirv →
      t.read (Path.join directory spirv) = .ok bytes → ¬ 4 ∣ bytes.length →
      SnippetFault s (.unaligned (Path.join directory spirv) bytes.length)

/-- What a snippet at a place gives: nothing for a block, and a blob for a shader. -/
inductive Gives (index : Nat) (s : ManifestSnippet) : Option Blob → Prop where
  | block : s.snippet.kind = .block → s.spirv = none → Gives index s none
  | shader {spirv : String} {words : List UInt32} :
      s.snippet.kind ≠ .block → s.spirv = some spirv →
      t.read (Path.join directory spirv) = .ok (Spirv.Word.bytes words) →
      Gives index s (some ⟨index, s.snippet.kind.stage, words⟩)

theorem readFile_run (path : String) : (readFile FileTree.system path).run t =
    ((t.read path).mapError fun reason => .unreadable path reason.message, t) := by
  have ran : (FileTree.system.read path).run t =
      ((t.read path).mapError FileError.message, t) := rfl
  unfold readFile
  rw [run_bind_of_run_eq ran]
  cases t.read path <;> rfl

/-- A shader is what is in its file. -/
theorem loadSnippet_run_of_shader {s : ManifestSnippet} {spirv : String} (index : Nat)
    (isShader : s.snippet.kind ≠ .block) (given : s.spirv = some spirv) :
    (loadSnippet FileTree.system directory index s).run t =
      (match t.read (Path.join directory spirv) with
        | .ok bytes => (wordsOfFile (Path.join directory spirv) bytes).map fun words =>
            some ⟨index, s.snippet.kind.stage, words⟩
        | .error reason => .error (.unreadable (Path.join directory spirv) reason.message), t) := by
  have ran := readFile_run t (Path.join directory spirv)
  unfold loadSnippet
  cases kind : s.snippet.kind with
  | block => exact absurd kind isShader
  | vertex | fragment =>
      rw [given]
      simp only
      rw [run_bind_of_run_eq ran]
      cases t.read (Path.join directory spirv) <;> rfl

/-- A shader with a file of words gives these words. -/
theorem loadSnippet_run_of_words {s : ManifestSnippet} {spirv : String} {words : List UInt32}
    (index : Nat) (isShader : s.snippet.kind ≠ .block) (given : s.spirv = some spirv)
    (read : t.read (Path.join directory spirv) = .ok (Spirv.Word.bytes words)) :
    (loadSnippet FileTree.system directory index s).run t =
      (.ok (some ⟨index, s.snippet.kind.stage, words⟩), t) := by
  have cut := (Spirv.Word.ofBytes?_eq_some_iff (Spirv.Word.bytes words) words).mpr rfl
  rw [loadSnippet_run_of_shader t directory index isShader given, read]
  simp only [wordsOfFile, cut]
  rfl

/-- A snippet gives its blob or has a fault; nothing is written. -/
theorem loadSnippet_run (index : Nat) (s : ManifestSnippet) :
    (∃ blob, Gives t directory index s blob ∧
        (loadSnippet FileTree.system directory index s).run t = (.ok blob, t)) ∨
      ∃ e, SnippetFault t directory s e ∧
        (loadSnippet FileTree.system directory index s).run t = (.error e, t) := by
  by_cases isBlock : s.snippet.kind = .block
  · cases given : s.spirv with
    | none => exact .inl ⟨none, .block isBlock given, by rw [loadSnippet, isBlock, given]; rfl⟩
    | some spirv =>
        exact .inr ⟨_, .unexpected isBlock given, by rw [loadSnippet, isBlock, given]; rfl⟩
  · cases given : s.spirv with
    | none =>
        refine .inr ⟨_, .missing isBlock given, ?_⟩
        unfold loadSnippet
        cases kind : s.snippet.kind with
        | block => exact absurd kind isBlock
        | vertex | fragment => rw [given]; rfl
    | some spirv =>
        rw [loadSnippet_run_of_shader t directory index isBlock given]
        cases read : t.read (Path.join directory spirv) with
        | error reason => exact .inr ⟨_, .unreadable isBlock given read, rfl⟩
        | ok bytes =>
            simp only [wordsOfFile]
            cases words : Spirv.Word.ofBytes? bytes with
            | none =>
                have cut := (Spirv.Word.ofBytes?_eq_none_iff bytes).mp words
                exact .inr ⟨_, .unaligned isBlock given read cut, rfl⟩
            | some ws =>
                rw [(Spirv.Word.ofBytes?_eq_some_iff bytes ws).mp words] at read
                exact .inl ⟨_, .shader isBlock given read, rfl⟩

/-! ## All snippets -/

def Sound (s : ManifestSnippet) : Prop := ∀ e, ¬ SnippetFault t directory s e

/-- The error is that of the first snippet with a fault. -/
def FirstFaulty (snippets : List ManifestSnippet) (e : LoadError) : Prop :=
  ∃ before s after, snippets = before ++ s :: after ∧ (∀ q ∈ before, Sound t directory q) ∧
    SnippetFault t directory s e

/-- The blobs of the shaders among snippets that are counted from `first`. -/
structure BlobsOf (first : Nat) (snippets : List ManifestSnippet) (blobs : List Blob) : Prop where
  increasing : (blobs.map Blob.snippetIndex).Pairwise (· < ·)
  shaders : ∀ i, i ∈ blobs.map Blob.snippetIndex ↔
    ∃ s, (s, i) ∈ snippets.zipIdx first ∧ s.snippet.kind ≠ .block
  own : ∀ blob ∈ blobs, ∃ s spirv, (s, blob.snippetIndex) ∈ snippets.zipIdx first ∧
    s.spirv = some spirv ∧ blob.stage = s.snippet.kind.stage ∧
    t.read (Path.join directory spirv) = .ok (Spirv.Word.bytes blob.words)

section

variable {t directory}

theorem Gives.sound {index : Nat} {s : ManifestSnippet} {blob : Option Blob}
    (gives : Gives t directory index s blob) : Sound t directory s := by
  intro e faulty
  cases gives with
  | block isBlock none =>
      cases faulty with
      | unexpected _ given => cases none.symm.trans given
      | missing isShader _ | unreadable isShader _ _ | unaligned isShader _ _ _ =>
          exact isShader isBlock
  | shader isShader given read =>
      cases faulty with
      | unexpected isBlock _ => exact isShader isBlock
      | missing _ none => cases none.symm.trans given
      | unreadable _ again failed =>
          cases given.symm.trans again
          cases read.symm.trans failed
      | unaligned _ again other cut =>
          cases given.symm.trans again
          cases read.symm.trans other
          exact cut (Spirv.Word.four_dvd_length_bytes _)

theorem blobsOf_nil (first : Nat) : BlobsOf t directory first [] [] where
  increasing := .nil
  shaders := by simp
  own := by simp

theorem BlobsOf.first_le {first : Nat} {snippets : List ManifestSnippet} {blobs : List Blob}
    (loaded : BlobsOf t directory first snippets blobs) {i : Nat}
    (given : i ∈ blobs.map Blob.snippetIndex) : first ≤ i := by
  obtain ⟨s, place, -⟩ := (loaded.shaders i).mp given
  exact (List.mem_zipIdx place).1

/-- A snippet adds its blob in front of those of the snippets behind it. -/
theorem BlobsOf.cons {first : Nat} {s : ManifestSnippet} {rest : List ManifestSnippet}
    {blob : Option Blob} {blobs : List Blob} (gives : Gives t directory first s blob)
    (loaded : BlobsOf t directory (first + 1) rest blobs) :
    BlobsOf t directory first (s :: rest) (blob.toList ++ blobs) := by
  have later {b : Blob} (given : b ∈ blobs) :
      ∃ q spirv, (q, b.snippetIndex) ∈ (s :: rest).zipIdx first ∧ q.spirv = some spirv ∧
        b.stage = q.snippet.kind.stage ∧
        t.read (Path.join directory spirv) = .ok (Spirv.Word.bytes b.words) := by
    obtain ⟨q, spirv, place, own⟩ := loaded.own b given
    exact ⟨q, spirv, List.mem_cons_of_mem _ place, own⟩
  cases gives with
  | block isBlock none =>
      refine ⟨loaded.increasing, fun i => ?_, fun b given => later given⟩
      rw [Option.toList_none, List.nil_append, loaded.shaders i]
      simp only [List.zipIdx_cons, List.mem_cons, Prod.mk.injEq]
      constructor
      · rintro ⟨q, place, isShader⟩
        exact ⟨q, .inr place, isShader⟩
      · rintro ⟨q, ⟨rfl, rfl⟩ | place, isShader⟩
        · exact absurd isBlock isShader
        · exact ⟨q, place, isShader⟩
  | shader isShader given read =>
      rw [Option.toList_some, List.singleton_append]
      refine ⟨?_, fun i => ?_, ?_⟩
      · rw [List.map_cons]
        exact List.pairwise_cons.mpr ⟨fun i behind => loaded.first_le behind, loaded.increasing⟩
      · simp only [List.map_cons, List.mem_cons, loaded.shaders i, List.zipIdx_cons,
          Prod.mk.injEq]
        constructor
        · rintro (rfl | ⟨q, place, own⟩)
          · exact ⟨s, .inl ⟨rfl, rfl⟩, isShader⟩
          · exact ⟨q, .inr place, own⟩
        · rintro ⟨q, ⟨rfl, rfl⟩ | place, own⟩
          · exact .inl rfl
          · exact .inr ⟨q, place, own⟩
      · intro b inBlobs
        rcases List.mem_cons.mp inBlobs with rfl | behind
        · exact ⟨s, _, List.mem_cons_self, given, rfl, read⟩
        · exact later behind

theorem FirstFaulty.cons {s : ManifestSnippet} {rest : List ManifestSnippet} {e : LoadError}
    (sound : Sound t directory s) (faulty : FirstFaulty t directory rest e) :
    FirstFaulty t directory (s :: rest) e := by
  obtain ⟨before, q, after, rfl, earlier, fault⟩ := faulty
  exact ⟨s :: before, q, after, rfl, List.forall_mem_cons.mpr ⟨sound, earlier⟩, fault⟩

end

/-- Snippets give their blobs, or the first fault ends the loading. -/
theorem loadSnippets_run (first : Nat) (snippets : List ManifestSnippet) :
    (∃ blobs, BlobsOf t directory first snippets blobs ∧
        (∀ s ∈ snippets, Sound t directory s) ∧
        (loadSnippets FileTree.system directory first snippets).run t = (.ok blobs, t)) ∨
      ∃ e, FirstFaulty t directory snippets e ∧
        (loadSnippets FileTree.system directory first snippets).run t = (.error e, t) := by
  induction snippets generalizing first with
  | nil => exact .inl ⟨[], blobsOf_nil first, by simp, rfl⟩
  | cons s rest ih =>
      unfold loadSnippets
      rcases loadSnippet_run t directory first s with ⟨blob, gives, ran⟩ | ⟨e, faulty, ran⟩
      · rcases ih (first + 1) with ⟨blobs, loaded, sound, ranRest⟩ | ⟨e, faulty, ranRest⟩
        · refine .inl ⟨_, loaded.cons gives, List.forall_mem_cons.mpr ⟨gives.sound, sound⟩, ?_⟩
          rw [run_bind_of_run_eq ran, run_bind_of_run_eq ranRest]
          rfl
        · refine .inr ⟨e, faulty.cons gives.sound, ?_⟩
          rw [run_bind_of_run_eq ran, run_bind_of_run_eq ranRest]
          rfl
      · refine .inr ⟨e, ⟨[], s, rest, rfl, by simp, faulty⟩, ?_⟩
        rw [run_bind_of_run_eq ran]
        rfl

/-! ## The bundle -/

/-- The bundle of a manifest, with the SPIR-V of all its shaders. -/
structure LoadsTo (path : String) (manifest : Manifest) (loaded : LoadedBundle) : Prop where
  bundle : loaded.bundle = .of (Path.join (Path.parent path) manifest.source)
    (manifest.snippets.map ManifestSnippet.snippet) manifest.programs
  increasing : (loaded.blobs.map Blob.snippetIndex).Pairwise (· < ·)
  shaders : ∀ i, i ∈ loaded.blobs.map Blob.snippetIndex ↔
    ∃ s, manifest.snippets[i]? = some s ∧ s.snippet.kind ≠ .block
  own : ∀ blob ∈ loaded.blobs, ∃ s spirv, manifest.snippets[blob.snippetIndex]? = some s ∧
    s.spirv = some spirv ∧ blob.stage = s.snippet.kind.stage ∧
    t.read (Path.join (Path.parent path) spirv) = .ok (Spirv.Word.bytes blob.words)

section

variable {t} {path : String} {bytes : List UInt8} {manifest : Manifest}

/-- Once its manifest is read, a bundle is what its snippets give. -/
theorem loadBundle_run_of_manifest (read : t.read path = .ok bytes)
    (parsed : Manifest.read bytes = some manifest) {blobs : Except LoadError (List Blob)}
    (ran : (loadSnippets FileTree.system (Path.parent path) 0 manifest.snippets).run t =
      (blobs, t)) :
    (loadBundle FileTree.system path).run t =
      (blobs.map fun blobs => ⟨.of (Path.join (Path.parent path) manifest.source)
        (manifest.snippets.map ManifestSnippet.snippet) manifest.programs, blobs⟩, t) := by
  have ranManifest : (readFile FileTree.system path).run t = (.ok bytes, t) := by
    rw [readFile_run, read]
    rfl
  unfold loadBundle
  rw [run_bind_of_run_eq ranManifest]
  simp only [parsed]
  rw [run_bind_of_run_eq ran]
  cases blobs <;> rfl

/-- A manifest loads, or the first snippet with a fault is reported. -/
theorem loadBundle_run (read : t.read path = .ok bytes)
    (parsed : Manifest.read bytes = some manifest) :
    (∃ loaded, LoadsTo t path manifest loaded ∧
        (∀ s ∈ manifest.snippets, Sound t (Path.parent path) s) ∧
        (loadBundle FileTree.system path).run t = (.ok loaded, t)) ∨
      ∃ e, FirstFaulty t (Path.parent path) manifest.snippets e ∧
        (loadBundle FileTree.system path).run t = (.error e, t) := by
  rcases loadSnippets_run t (Path.parent path) 0 manifest.snippets with
    ⟨blobs, loaded, sound, ran⟩ | ⟨e, faulty, ran⟩
  · refine .inl ⟨⟨_, blobs⟩, ⟨rfl, loaded.increasing, ?_, ?_⟩, sound,
      loadBundle_run_of_manifest read parsed ran⟩
    · simpa only [List.mem_zipIdx_iff_getElem?] using loaded.shaders
    · simpa only [List.mem_zipIdx_iff_getElem?] using loaded.own
  · exact .inr ⟨e, faulty, loadBundle_run_of_manifest read parsed ran⟩

/-- A manifest that loads was read and parsed. -/
theorem manifest_of_loaded {loaded : LoadedBundle} {t' : FileTree}
    (ended : (loadBundle FileTree.system path).run t = (.ok loaded, t')) :
    ∃ bytes manifest, t.read path = .ok bytes ∧ Manifest.read bytes = some manifest := by
  have ranManifest := readFile_run t path
  unfold loadBundle at ended
  rw [run_bind_of_run_eq ranManifest] at ended
  cases read : t.read path with
  | error reason =>
      rw [read] at ended
      cases ended
  | ok bytes =>
      cases parsed : Manifest.read bytes with
      | none =>
          simp only [read, parsed, Except.mapError] at ended
          cases ended
      | some manifest => exact ⟨bytes, manifest, rfl, parsed⟩

/-- What is loaded is the bundle of a manifest. -/
theorem loadsTo_of_loaded {loaded : LoadedBundle} {t' : FileTree}
    (ended : (loadBundle FileTree.system path).run t = (.ok loaded, t')) :
    t' = t ∧ ∃ manifest, LoadsTo t path manifest loaded := by
  obtain ⟨bytes, manifest, read, parsed⟩ := manifest_of_loaded ended
  rcases loadBundle_run read parsed with ⟨own, loads, -, ran⟩ | ⟨e, -, ran⟩
  · cases ended.symm.trans ran
    exact ⟨rfl, manifest, loads⟩
  · cases ended.symm.trans ran

end

end

/-- Loading leaves the files as they are, whatever it answers. -/
theorem exists_loadBundle_run (t : FileTree) (path : String) :
    ∃ result, (loadBundle FileTree.system path).run t = (result, t) := by
  have ranManifest := readFile_run t path
  cases read : t.read path with
  | error reason =>
      rw [read] at ranManifest
      refine ⟨.error (.unreadable path reason.message), ?_⟩
      unfold loadBundle
      rw [run_bind_of_run_eq ranManifest]
      rfl
  | ok bytes =>
      cases parsed : Manifest.read bytes with
      | none =>
          rw [read] at ranManifest
          refine ⟨.error (.badManifest path), ?_⟩
          unfold loadBundle
          rw [run_bind_of_run_eq ranManifest]
          simp only [Except.mapError, parsed]
          rfl
      | some manifest =>
          rcases loadBundle_run read parsed with ⟨loaded, -, -, ran⟩ | ⟨e, -, ran⟩
          · exact ⟨_, ran⟩
          · exact ⟨_, ran⟩

/-! ## Two errors that are not met -/

/-- Every blob is of a snippet, and every shader has a blob. -/
structure Complete (snippets : List Snippet) (blobs : List Blob) : Prop where
  known : ∀ blob ∈ blobs, ∃ s, snippets[blob.snippetIndex]? = some s
  shaders : ∀ i s, snippets[i]? = some s → s.kind ≠ .block → i ∈ blobs.map Blob.snippetIndex

theorem LoadsTo.complete {t : FileTree} {path : String} {manifest : Manifest}
    {loaded : LoadedBundle} (loads : LoadsTo t path manifest loaded) :
    Complete loaded.bundle.snippets loaded.blobs := by
  rw [loads.bundle]
  constructor
  · intro blob given
    obtain ⟨s, -, place, -⟩ := loads.own blob given
    exact ⟨s.snippet, by rw [Bundle.of, List.getElem?_map, place, Option.map_some]⟩
  · intro i s place isShader
    rw [Bundle.of, List.getElem?_map, Option.map_eq_some_iff] at place
    obtain ⟨own, ownPlace, rfl⟩ := place
    exact (loads.shaders i).mpr ⟨own, ownPlace, isShader⟩

/-- A text that starts with a letter. -/
def Opens (c : Char) (s : String) : Prop := s.toList.head? = some c

theorem Opens.append {c : Char} {s : String} (opens : Opens c s) (rest : String) :
    Opens c (s ++ rest) := by
  unfold Opens at *
  rw [String.toList_append, List.head?_append, opens]
  rfl

theorem Opens.not_prefix {c d : Char} {s word : String} (opens : Opens c s) (other : Opens d word)
    (differ : c ≠ d) : ¬ word.toList <+: s.toList := by
  rintro ⟨rest, split⟩
  unfold Opens at *
  rw [← split, List.head?_append, other] at opens
  exact differ (Option.some.inj opens).symm

/-- The errors of a compilation that knows the snippets of its blobs and the results of its
shaders start with other letters than the two that say otherwise. -/
structure Tidy (e : Diagnostic) : Prop where
  known : ¬ "SPIR-V blob refers to unknown snippet".toList <+: e.message.toList
  translated : ¬ "no translated source".toList <+: e.message.toList

theorem tidy_of_opens {e : Diagnostic} {c : Char} (opens : Opens c e.message) (notS : c ≠ 'S')
    (notN : c ≠ 'n') : Tidy e :=
  ⟨opens.not_prefix rfl notS, opens.not_prefix rfl notN⟩

theorem faultOf_of_firstLinkFault {b : Bundle} {sources : List CompiledShader}
    {programs : List Program} {p : Program} {fault : LinkFault}
    (found : firstLinkFault b sources programs = some (p, fault)) :
    FaultOf b.snippets sources p fault := by
  induction programs with
  | nil => cases found
  | cons q rest ih =>
      unfold firstLinkFault at found
      split at found
      · rename_i own failed
        cases found
        exact checkProgram_eq_error_iff.mp failed
      · exact ih found

section

variable {σ : Type} [Shader σ] {b : Bundle} {target : Target} {backend : Backend σ}
  {blobs : List Blob}

/-- The place that a shader's name means has a result when every blob has one. -/
theorem Complete.source_of_means {snippets : List Snippet} {sources : List CompiledShader}
    (complete : Complete snippets blobs)
    (compiled : sources.map CompiledShader.snippetIndex = blobs.map Blob.snippetIndex)
    {kind : SnippetKind} {name : String} {i : Nat} (isShader : kind ≠ .block)
    (means : MeansShader snippets kind name i) : ∃ s ∈ sources, s.snippetIndex = i := by
  obtain ⟨s, found⟩ := means
  have hasBlob := complete.shaders i s found.atPlace (found.holds.1 ▸ isShader)
  rw [← compiled] at hasBlob
  exact List.mem_map.mp hasBlob

theorem Complete.tidy_of_checkLinks {sources : List CompiledShader}
    (complete : Complete b.snippets blobs)
    (compiled : sources.map CompiledShader.snippetIndex = blobs.map Blob.snippetIndex)
    {e : Diagnostic} (found : checkLinks b sources = some e) : Tidy e := by
  unfold checkLinks at found
  obtain ⟨⟨p, fault⟩, first, rfl⟩ := Option.map_eq_some_iff.mp found
  cases faultOf_of_firstLinkFault first with
  | unknownVertexShader | unknownFragmentShader =>
      refine tidy_of_opens (c := 'u') ?_ (by decide) (by decide)
      repeat apply Opens.append
      rfl
  | noVertexSource vertexAt _ noSource =>
      obtain ⟨s, given, same⟩ := complete.source_of_means compiled (by decide) vertexAt
      exact absurd same (noSource s given)
  | noFragmentSource _ fragmentAt _ noSource =>
      obtain ⟨s, given, same⟩ := complete.source_of_means compiled (by decide) fragmentAt
      exact absurd same (noSource s given)
  | mismatch =>
      refine tidy_of_opens (c := 'o') ?_ (by decide) (by decide)
      repeat apply Opens.append
      rfl

theorem tidy_of_failed {blob : Blob} {e : Diagnostic}
    (known : ∃ s, b.snippets[blob.snippetIndex]? = some s)
    (failed : blobResult b target backend blob = .ok (.error e)) : Tidy e := by
  have outcome := blobOutcome b target backend blob
  rw [failed] at outcome
  cases outcome with
  | unknown none =>
      obtain ⟨s, some⟩ := known
      cases none.symm.trans some
  | refused | empty =>
      refine tidy_of_opens (c := 'F') ?_ (by decide) (by decide)
      repeat apply Opens.append
      rfl
  | overflow =>
      refine tidy_of_opens (c := 'a') ?_ (by decide) (by decide)
      repeat apply Opens.append
      rfl

theorem tidy_of_conflict (file : String) (line : Nat) (conflict : Conflict) :
    Tidy ⟨file, line, conflict.message⟩ := by
  cases conflict <;>
  · refine tidy_of_opens (c := 'c') ?_ (by decide) (by decide)
    repeat apply Opens.append
    rfl

/-- With all its blobs, a bundle compiles to shaders of its snippets, and ends in neither of
the two errors. -/
theorem Complete.compiles {run : Run σ} (complete : Complete b.snippets blobs)
    (compiled : compileBundle b blobs target backend = .ok run) :
    (∀ s ∈ run.compilation.sources, ∃ snippet, b.snippets[s.snippetIndex]? = some snippet) ∧
      ∀ e, run.compilation.error = some e → Tidy e := by
  have ofBlobs {front : List Blob} {sources : List CompiledShader} (part : front ⊆ blobs)
      (same : sources.map CompiledShader.snippetIndex = front.map Blob.snippetIndex) :
      ∀ s ∈ sources, ∃ snippet, b.snippets[s.snippetIndex]? = some snippet := by
    intro s given
    have inFront := List.mem_map_of_mem (f := CompiledShader.snippetIndex) given
    rw [same] at inFront
    obtain ⟨blob, ofFront, sameIndex⟩ := List.mem_map.mp inFront
    exact sameIndex ▸ complete.known blob (part ofFront)
  rcases ends_of_blobs b target backend blobs with
    ⟨done, all⟩ | ⟨before, blob, after, done, rfl, all, ⟨e, failed⟩ | ⟨fault, broken⟩⟩
  · obtain ⟨own, again, finished⟩ := compileBundle_finished all
    cases compiled.symm.trans again
    refine ⟨ofBlobs (List.Subset.refl _) finished.snippets, fun e ended => ?_⟩
    cases blocks : conflictIn UniformBlock done with
    | some name =>
        cases ended.symm.trans (finished.block_conflict name blocks).1
        exact tidy_of_conflict _ _ (.uniformBlock name)
    | none =>
        cases images : conflictIn Image done with
        | some name =>
            cases ended.symm.trans (finished.image_conflict blocks name images)
            exact tidy_of_conflict _ _ (.image name)
        | none =>
            have linked := finished.linked blocks images
            exact complete.tidy_of_checkLinks finished.snippets (linked.symm.trans ended)
  · obtain ⟨own, again, stopped⟩ := compileBundle_stopped all failed after
    cases compiled.symm.trans again
    rw [stopped.kept]
    refine ⟨ofBlobs (List.subset_append_left _ _) all.snippets, fun e' ended => ?_⟩
    cases ended
    exact tidy_of_failed (complete.known blob (by simp)) failed
  · cases compiled.symm.trans (compileBundle_broken all broken after)

end

/-- **A loaded bundle is complete.**  It has all snippets of its manifest, and the blobs of
exactly the shaders among them; so for no target and backend it ends in an unknown snippet or
in a shader without a result.  A manifest whose snippets are all without a fault loads, and a
manifest that does not is refused for the first fault.  Nothing is written. -/
theorem loadBundle_complete (t : FileTree) (path : String) :
    (∀ loaded t', (loadBundle FileTree.system path).run t = (.ok loaded, t') →
        t' = t ∧
          (∃ bytes manifest, t.read path = .ok bytes ∧ Manifest.read bytes = some manifest ∧
            LoadsTo t path manifest loaded) ∧
          ∀ (σ : Type) [Shader σ] (target : Target) (backend : Backend σ) (run : Run σ),
            compileBundle loaded.bundle loaded.blobs target backend = .ok run →
            (∀ s ∈ run.compilation.sources, ∃ snippet,
                loaded.bundle.snippets[s.snippetIndex]? = some snippet) ∧
              ∀ e, run.compilation.error = some e → Tidy e) ∧
      ∀ bytes manifest, t.read path = .ok bytes → Manifest.read bytes = some manifest →
        ((∀ s ∈ manifest.snippets, Sound t (Path.parent path) s) →
            ∃ loaded, (loadBundle FileTree.system path).run t = (.ok loaded, t)) ∧
          ∀ e t', (loadBundle FileTree.system path).run t = (.error e, t') →
            t' = t ∧ FirstFaulty t (Path.parent path) manifest.snippets e := by
  constructor
  · intro loaded t' ended
    obtain ⟨bytes, manifest, read, parsed⟩ := manifest_of_loaded ended
    rcases loadBundle_run read parsed with ⟨own, loads, -, ran⟩ | ⟨e, -, ran⟩
    · cases ended.symm.trans ran
      refine ⟨rfl, ⟨bytes, manifest, read, parsed, loads⟩, ?_⟩
      intro σ _ target backend run compiled
      exact loads.complete.compiles compiled
    · cases ended.symm.trans ran
  · intro bytes manifest read parsed
    rcases loadBundle_run read parsed with ⟨loaded, -, -, ran⟩ | ⟨own, faulty, ran⟩
    · refine ⟨fun _ => ⟨loaded, ran⟩, fun e t' ended => ?_⟩
      cases ended.symm.trans ran
    · refine ⟨fun sound => ?_, fun e t' ended => ?_⟩
      · obtain ⟨before, s, after, split, -, fault⟩ := faulty
        exact absurd fault (sound s (by simp [split]) own)
      · cases ended.symm.trans ran
        exact ⟨rfl, faulty⟩

/-- The manifest of a program of two shaders, with a shared block. -/
def meadowText : String :=
  "\x7b\"source\": \"meadow.shd\", \"snippets\": [" ++
    "\x7b\"name\": \"sun\", \"type\": \"block\"\x7d, " ++
    "\x7b\"name\": \"grass\", \"type\": \"vs\", \"spirv\": \"vs.spv\"\x7d, " ++
    "\x7b\"name\": \"grass\", \"type\": \"fs\", \"spirv\": \"fs.spv\"\x7d], " ++
    "\"programs\": [[\"meadow\", \"grass\", \"grass\", 20]]\x7d"

def meadowManifest : Manifest where
  source := "meadow.shd"
  snippets := [⟨⟨"sun", .block, [], .empty⟩, none⟩,
    ⟨⟨"grass", .vertex, [], .empty⟩, some "vs.spv"⟩,
    ⟨⟨"grass", .fragment, [], .empty⟩, some "fs.spv"⟩]
  programs := [⟨"meadow", "grass", "grass", 20⟩]

/-- Its files, with these bytes for the fragment shader. -/
def meadowFiles (fragment : List UInt8) : FileTree :=
  let file (name : String) (bytes : List UInt8) : Place × FileNode :=
    (⟨.up 0, [name]⟩, .file bytes)
  ⟨.ofList [file "meadow.json" (Text.Utf8.bytes meadowText),
    file "vs.spv" (Spirv.Word.bytes [7, 8]), file "fs.spv" fragment]⟩

def meadowTree : FileTree := meadowFiles (Spirv.Word.bytes [9])

/-- Its files, with a fragment shader that is cut short. -/
def cutMeadowTree : FileTree := meadowFiles [9, 0, 0]

def meadow : LoadedBundle where
  bundle := .of "meadow.shd" (meadowManifest.snippets.map ManifestSnippet.snippet)
    meadowManifest.programs
  blobs := [⟨1, .vertex, [7, 8]⟩, ⟨2, .fragment, [9]⟩]

/-- What ends its compilation with a backend that does not know the fragment shader. -/
def meadowError : Diagnostic := ⟨"meadow.shd", 0, "Failed to cross-compile to hlsl5."⟩

theorem loadBundle_complete_meadow :
    (∃ run, (loadBundle FileTree.system "meadow.json").run meadowTree = (.ok meadow, meadowTree) ∧
        LoadsTo meadowTree "meadow.json" meadowManifest meadow ∧
        compileBundle meadow.bundle meadow.blobs .hlsl5 litBackend = .ok run ∧
        run.compilation.error = some meadowError ∧ Tidy meadowError) ∧
      (loadBundle FileTree.system "meadow.json").run cutMeadowTree =
        (.error (.unaligned "fs.spv" 3), cutMeadowTree) ∧
      FirstFaulty cutMeadowTree "" meadowManifest.snippets (.unaligned "fs.spv" 3) := by
  have parsed : Manifest.read (Text.Utf8.bytes meadowText) = some meadowManifest := by
    decide +kernel
  constructor
  · have read : meadowTree.read "meadow.json" = .ok (Text.Utf8.bytes meadowText) := by rfl
    have ran : (loadBundle FileTree.system "meadow.json").run meadowTree =
        (.ok meadow, meadowTree) := loadBundle_run_of_manifest read parsed rfl
    obtain ⟨complete, -⟩ := loadBundle_complete meadowTree "meadow.json"
    obtain ⟨-, ⟨bytes, manifest, again, parsedAgain, loads⟩, ends⟩ := complete meadow _ ran
    obtain rfl := Except.ok.inj (read.symm.trans again)
    cases parsed.symm.trans parsedAgain
    obtain ⟨run, compiled, ended⟩ :
        ∃ run, compileBundle meadow.bundle meadow.blobs .hlsl5 litBackend = .ok run ∧
          run.compilation.error = some meadowError := ⟨_, rfl, rfl⟩
    exact ⟨run, ran, loads, compiled, ended, (ends _ _ _ run compiled).2 _ ended⟩
  · have read : cutMeadowTree.read "meadow.json" = .ok (Text.Utf8.bytes meadowText) := by rfl
    have ran : (loadBundle FileTree.system "meadow.json").run cutMeadowTree =
        (.error (.unaligned "fs.spv" 3), cutMeadowTree) :=
      loadBundle_run_of_manifest read parsed rfl
    obtain ⟨-, faulty⟩ := (loadBundle_complete cutMeadowTree "meadow.json").2 _ _ read parsed
    exact ⟨ran, (faulty _ _ ran).2⟩

end ShaderBundle
