/-
# Proofs.Bundle.Output — the files of a shader are kept

`writeBundle_keeps_files`: when a run ends well, every shader whose name no later shader bears
has its files, for every target.  They are read back as the record, the interface and the code
of the shader.

A target that ends well has every shader compiled and written (`Written`).  Shaders stand in
the order of their places, so what a file of the target holds at last belongs to the last
shader of its name (`Written.lastWrite`); and a target that is wanted twice is written twice
alike.

Nothing keeps a vertex and a fragment shader from having one name, and then the first of them
loses its files (`files_of_namesakes_not_kept`).
-/
import ShaderBundle.Proofs.Bundle.Plan
import ShaderBundle.Proofs.Interface.Json
import ShaderBundle.Proofs.Record.Format
import ShaderBundle.Spirv.Builder

namespace ShaderBundle

set_option autoImplicit false

/-! ## Unique indices -/

/-- The tables of a compilation are no longer than 64 bits can count. -/
structure Compilation.Addressable (c : Compilation) : Prop where
  blocks : c.uniqueBlocks.length ≤ UInt64.size
  images : c.uniqueImages.length ≤ UInt64.size

/-- Without an error, every unique index is a place in a table. -/
theorem indicesFit_of_compiled {σ : Type} [Shader σ] {b : Bundle} {blobs : List Blob}
    {target : Target} {backend : Backend σ} {run : Run σ}
    (compiled : compileBundle b blobs target backend = .ok run)
    (noError : run.compilation.error = none) (addressable : run.compilation.Addressable) :
    ∀ c ∈ run.compilation.sources, c.interface.IndicesFit := by
  obtain ⟨done, all, blocks, images, -⟩ := (compileBundle_error_eq_none_iff compiled).mp noError
  obtain ⟨runs, ran, rfl, error⟩ := compileBlobs_of_all all
  obtain ⟨own, again, kept⟩ := compileBundle_of_runs ran
  cases compiled.symm.trans again
  rw [error] at kept
  simp only at kept
  rw [unifyAndLink_of_blocks_clean _ _ blocks] at kept
  have blocksUnified := unified_of_clean (α := UniformBlock) _ blocks
  have imagesUnified := unified_of_clean (α := Image) _
    ((conflictIn_image_gather_block _).trans images)
  -- unifying the images leaves the blocks as they are
  have sameBlocks := Unify.gather_map_of_blind (α := Image) (Unify.itemsOf (α := UniformBlock))
    (fun _ => rfl) [] (gather (α := UniformBlock) [] runs.sources).sources
  intro c given
  rw [kept] at given addressable
  constructor
  · intro block ofShader n indexed
    have listed := List.mem_map_of_mem (f := Unify.itemsOf (α := UniformBlock)) given
    rw [sameBlocks] at listed
    obtain ⟨before, ofSources, same⟩ := List.mem_map.mp listed
    have ofBefore : block ∈ (Unify.itemsOf before : List UniformBlock) := by
      rw [same]
      exact ofShader
    obtain ⟨k, inTable, index, -⟩ :=
      blocksUnified.indexed_and_agreeing before ofSources block ofBefore
    cases index.symm.trans indexed
    exact Nat.lt_of_lt_of_le inTable addressable.blocks
  · intro image ofShader n indexed
    obtain ⟨k, inTable, index, -⟩ := imagesUnified.indexed_and_agreeing c given image ofShader
    cases index.symm.trans indexed
    exact Nat.lt_of_lt_of_le inTable addressable.images

/-! ## The last file of a name -/

def ShaderAt (snippets : List Snippet) (i : Nat) (s : Snippet) : Prop :=
  snippets[i]? = some s ∧ s.kind ≠ .block

/-- A shader whose name no later shader bears. -/
structure LastOfName (snippets : List Snippet) (i : Nat) (s : Snippet) : Prop where
  isShader : ShaderAt snippets i s
  last : ∀ j q, ShaderAt snippets j q → q.name = s.name → j ≤ i

/-- No name of a shader has a slash. -/
def FlatNames (snippets : List Snippet) : Prop :=
  ∀ i s, ShaderAt snippets i s → '/' ∉ s.name.toList

theorem LoadsTo.mem_blobs_iff {t : FileTree} {path : String} {manifest : Manifest}
    {loaded : LoadedBundle} (loads : LoadsTo t path manifest loaded) (i : Nat) :
    i ∈ loaded.blobs.map Blob.snippetIndex ↔ ∃ s, ShaderAt loaded.bundle.snippets i s := by
  rw [loads.shaders i, loads.bundle]
  simp only [ShaderAt, Bundle.of, List.getElem?_map, Option.map_eq_some_iff]
  constructor
  · rintro ⟨s, place, isShader⟩
    exact ⟨s.snippet, ⟨s, place, rfl⟩, isShader⟩
  · rintro ⟨_, ⟨s, place, rfl⟩, isShader⟩
    exact ⟨s, place, isShader⟩

/-- The files of a shader hold its record, its interface and its code. -/
structure FilesHold (config : Config) (t : FileTree) (target : Target) (snippet : Snippet)
    (c : CompiledShader) : Prop where
  record : ∃ bytes, t.read (outputPath config snippet target "bin") = .ok bytes ∧
    Record.read bytes = .ok (.ofInterface c.interface) []
  json : ∃ bytes, t.read (outputPath config snippet target "json") = .ok bytes ∧
    Interface.readJson bytes = some c.interface
  code : t.read (outputPath config snippet target "spvasm") = .ok (Text.Utf8.bytes c.sourceCode)

/-- What is written last to the files of a shader is read from them. -/
theorem filesHold_of_lastWrite {config : Config} {t t' : FileTree} {target : Target}
    {snippet : Snippet} {c : CompiledShader} {files : List (String × List UInt8)}
    (wrote : t.writeAll files = .ok t') (fit : c.interface.IndicesFit)
    (fits : (Record.writeInterface c.interface).fault = none)
    (last : ∀ file ∈ shaderFiles config target snippet c,
      FileTree.LastWrite files file.1 file.2) : FilesHold config t' target snippet c := by
  have held : ∀ file ∈ shaderFiles config target snippet c, t'.read file.1 = .ok file.2 :=
    fun file given => FileTree.read_of_lastWrite wrote (last file given)
  simp only [shaderFiles, List.forall_mem_cons] at held
  obtain ⟨record, json, code, -⟩ := held
  rw [Record.writeInterface_eq] at fits
  have within := (Record.write_fault_eq_none_iff _).mp fits
  have read : Record.read (Record.writeInterface c.interface).bytes =
      .ok (.ofInterface c.interface) [] := by
    rw [Record.writeInterface_eq, Record.read_eq_ok_iff, List.append_nil]
    exact ⟨within, Record.write_bytes fits⟩
  exact ⟨⟨_, record, read⟩, ⟨_, json, Interface.read_json fit⟩, code⟩

/-! ## Targets that end well -/

/-- What the plan of a target comes to if it ends well: every shader is compiled and written,
shader by shader, and the listing behind them. -/
structure Written (config : Config) (loaded : LoadedBundle) (target : Target)
    (run : Run Spirv.ModuleShader) : Prop where
  compiled : compileBundle loaded.bundle loaded.blobs target Spirv.backend = .ok run
  noError : run.compilation.error = none
  indices : run.compilation.sources.map CompiledShader.snippetIndex =
    loaded.blobs.map Blob.snippetIndex
  each : ∀ c ∈ run.compilation.sources, ∃ s, ShaderAt loaded.bundle.snippets c.snippetIndex s ∧
    (Record.writeInterface c.interface).fault = none ∧
      (sourcePlan config loaded.bundle target c).files = shaderFiles config target s c
  files : (targetPlan config loaded target).files =
    run.compilation.sources.flatMap (fun c => (sourcePlan config loaded.bundle target c).files) ++
      (listingPlan config run.compilation).files
  listing : ∀ file ∈ (listingPlan config run.compilation).files,
    file.1 = listingPath config target

section

variable {t t' : FileTree} {config : Config} {manifest : Manifest} {loaded : LoadedBundle}
  {target target' : Target} {run : Run Spirv.ModuleShader}
  (loads : LoadsTo t config.manifestPath manifest loaded)

include loads

theorem written_of_well (well : (targetPlan config loaded target).failure = none) :
    ∃ run, Written config loaded target run := by
  obtain ⟨run, compiled, kept, files⟩ := files_targetPlan well
  obtain ⟨noError, each, sourceFiles⟩ := files_compilationPlan kept
  obtain ⟨done, all, -⟩ := (compileBundle_error_eq_none_iff compiled).mp noError
  obtain ⟨own, again, finished⟩ := compileBundle_finished all
  cases compiled.symm.trans again
  rw [finished.target] at each sourceFiles
  refine ⟨run, compiled, noError, finished.snippets, fun c given => ?_, files.trans sourceFiles,
    fun file given => ?_⟩
  · obtain ⟨s, known, fits, ownFiles⟩ := files_sourcePlan (each c given)
    have hasBlob := List.mem_map_of_mem (f := CompiledShader.snippetIndex) given
    rw [finished.snippets, loads.mem_blobs_iff] at hasBlob
    obtain ⟨q, place, isShader⟩ := hasBlob
    cases known.symm.trans place
    exact ⟨s, ⟨known, isShader⟩, fits, ownFiles⟩
  · rw [files_listingPlan file given, finished.target]

end

section

variable {t t' : FileTree} {config : Config} {loaded : LoadedBundle} {target target' : Target}
  {run : Run Spirv.ModuleShader} {snippet snippet' : Snippet} {c : CompiledShader}

theorem path_of_mem_shaderFiles : ∀ file ∈ shaderFiles config target snippet c,
    ∃ extension ∈ extensions, file.1 = outputPath config snippet target extension := by
  intro file given
  simp only [shaderFiles, List.mem_cons, List.not_mem_nil, or_false] at given
  rcases given with rfl | rfl | rfl
  · exact ⟨"bin", by decide, rfl⟩
  · exact ⟨"json", by decide, rfl⟩
  · exact ⟨"spvasm", by decide, rfl⟩

theorem apart_shaderFiles (flat : '/' ∉ snippet.name.toList) (flat' : '/' ∉ snippet'.name.toList)
    {extension : String} (plain : extension ∈ extensions)
    (differ : ¬ (snippet'.name = snippet.name ∧ target' = target)) :
    ∀ file ∈ shaderFiles config target' snippet' c,
      FileTree.Apart file.1 (outputPath config snippet target extension) := by
  intro file given
  obtain ⟨own, plainOwn, path⟩ := path_of_mem_shaderFiles file given
  rw [path]
  exact apart_outputPath config flat' plainOwn flat plain fun ⟨name, same, _⟩ =>
    differ ⟨name, same⟩

/-- Each of the files of a shader is written once. -/
theorem lastWrite_shaderFiles (flat : '/' ∉ snippet.name.toList) :
    ∀ file ∈ shaderFiles config target snippet c,
      FileTree.LastWrite (shaderFiles config target snippet c) file.1 file.2 := by
  have apart {extension extension' : String} (plain : extension ∈ extensions)
      (plain' : extension' ∈ extensions) (differ : extension ≠ extension') :
      FileTree.Apart (outputPath config snippet target extension)
        (outputPath config snippet target extension') :=
    apart_outputPath config flat plain flat plain' fun same => differ same.2.2
  apply FileTree.lastWrite_of_pairwise
  rw [shaderFiles]
  refine .cons ?_ (.cons ?_ (.cons ?_ .nil))
  · rw [List.forall_mem_cons, List.forall_mem_singleton]
    exact ⟨apart (by decide) (by decide) (by decide), apart (by decide) (by decide) (by decide)⟩
  · rw [List.forall_mem_singleton]
    exact apart (by decide) (by decide) (by decide)
  · exact List.forall_mem_nil _

variable (written : Written config loaded target run) (flat : FlatNames loaded.bundle.snippets)

include written flat

/-- The files of a target are apart from those for another target. -/
theorem Written.apart {i : Nat} (isShader : ShaderAt loaded.bundle.snippets i snippet)
    {extension : String} (plain : extension ∈ extensions) (other : target ≠ target') :
    ∀ file ∈ (targetPlan config loaded target).files,
      FileTree.Apart file.1 (outputPath config snippet target' extension) := by
  intro file given
  rw [written.files] at given
  rcases List.mem_append.mp given with ofSource | ofListing
  · obtain ⟨d, among, ofShader⟩ := List.mem_flatMap.mp ofSource
    obtain ⟨q, isShaderToo, -, files⟩ := written.each d among
    rw [files] at ofShader
    exact apart_shaderFiles (flat _ _ isShader) (flat _ _ isShaderToo) plain
      (fun same => other same.2) file ofShader
  · rw [written.listing file ofListing]
    exact apart_listingPath config (flat _ _ isShader) plain

/-- The files of a target hold last what belongs to the last shader of a name. -/
theorem Written.lastWrite (increasing : (loaded.blobs.map Blob.snippetIndex).Pairwise (· < ·))
    {i : Nat} (hasBlob : i ∈ loaded.blobs.map Blob.snippetIndex)
    (last : LastOfName loaded.bundle.snippets i snippet) :
    ∃ c ∈ run.compilation.sources, c.snippetIndex = i ∧
      (Record.writeInterface c.interface).fault = none ∧
        ∀ file ∈ shaderFiles config target snippet c,
          FileTree.LastWrite (targetPlan config loaded target).files file.1 file.2 := by
  rw [← written.indices] at hasBlob increasing
  obtain ⟨c, among, rfl⟩ := List.mem_map.mp hasBlob
  obtain ⟨own, isShader, fits, files⟩ := written.each c among
  cases isShader.1.symm.trans last.isShader.1
  refine ⟨c, among, rfl, fits, fun file given => ?_⟩
  obtain ⟨extension, plain, path⟩ := path_of_mem_shaderFiles file given
  obtain ⟨front, back, split⟩ := List.append_of_mem among
  -- shaders behind this one have greater places, so none of them bears its name
  have behind : ∀ d ∈ back, ∀ file ∈ (sourcePlan config loaded.bundle target d).files,
      FileTree.Apart file.1 (outputPath config snippet target extension) := by
    intro d inBack
    obtain ⟨q, isShaderToo, -, filesToo⟩ := written.each d (by simp [split, inBack])
    rw [split, List.map_append, List.map_cons] at increasing
    have later : c.snippetIndex < d.snippetIndex :=
      (List.pairwise_cons.mp (List.pairwise_append.mp increasing).2.1).1 _
        (List.mem_map_of_mem inBack)
    rw [filesToo]
    refine apart_shaderFiles (flat _ _ isShader) (flat _ _ isShaderToo) plain fun same => ?_
    exact absurd (last.last _ q isShaderToo same.1) (Nat.not_le.mpr later)
  have ofShader : FileTree.LastWrite (shaderFiles config target snippet c) file.1 file.2 :=
    lastWrite_shaderFiles (flat _ _ isShader) file given
  rw [path] at ofShader ⊢
  rw [written.files, split]
  rw [← files] at ofShader
  have ofSources := ofShader.flatMap
    (fun c => (sourcePlan config loaded.bundle target c).files) front behind
  refine ofSources.append [] fun file ofListing => ?_
  rw [written.listing file ofListing]
  exact apart_listingPath config (flat _ _ isShader) plain

end

theorem exists_last_of_mem {α : Type} {a : α} {l : List α} (among : a ∈ l) :
    ∃ front back, l = front ++ a :: back ∧ a ∉ back := by
  obtain ⟨back, front, split, fresh⟩ := List.eq_append_cons_of_mem (List.mem_reverse.mpr among)
  refine ⟨front.reverse, back.reverse, ?_, by simpa using fresh⟩
  simpa using congrArg List.reverse split

/-- For a target the bundle compiles, and the files of some of its shaders hold their own
records, interfaces and codes. -/
def KeepsFiles (config : Config) (loaded : LoadedBundle) (t : FileTree) (target : Target)
    (which : Nat → Snippet → Prop) : Prop :=
  ∃ run, compileBundle loaded.bundle loaded.blobs target Spirv.backend = .ok run ∧
    run.compilation.error = none ∧
      (run.compilation.Addressable → ∀ i snippet, which i snippet →
        ∃ c ∈ run.compilation.sources, c.snippetIndex = i ∧ FilesHold config t target snippet c)

/-- **A run that ends well keeps the files of every shader whose name no later shader bears.**
So it keeps the files of all shaders if their names are distinct. -/
theorem writeBundle_keeps_files {config : Config} {t t' : FileTree} {outcome : Outcome}
    (ran : (writeBundle FileTree.system config).run t = (outcome, t'))
    (well : outcome.failure = none) :
    ∃ loaded, (loadBundle FileTree.system config.manifestPath).run t = (.ok loaded, t) ∧
      (FlatNames loaded.bundle.snippets → ∀ target ∈ config.targets,
        KeepsFiles config loaded t' target (LastOfName loaded.bundle.snippets)) := by
  obtain ⟨manifest, loaded, mid, loadsRun, loads, planned, wrote⟩ :=
    writeAll_of_writeBundle ran well
  refine ⟨loaded, loadsRun, fun flat target wanted => ?_⟩
  obtain ⟨each, files⟩ := files_concat planned
  have writtenFor : ∀ target ∈ config.targets, ∃ run, Written config loaded target run :=
    fun target wanted => written_of_well loads (each _ (List.mem_map_of_mem wanted))
  obtain ⟨run, written⟩ := writtenFor target wanted
  refine ⟨run, written.compiled, written.noError, fun addressable i snippet last => ?_⟩
  have hasBlob := (loads.mem_blobs_iff i).mpr ⟨snippet, last.isShader⟩
  obtain ⟨c, among, index, fits, lastWrite⟩ :=
    written.lastWrite flat loads.increasing hasBlob last
  have fit := indicesFit_of_compiled written.compiled written.noError addressable c among
  refine ⟨c, among, index, filesHold_of_lastWrite wrote fit fits fun file given => ?_⟩
  -- a target may be wanted twice: what counts is the last time
  obtain ⟨extension, plain, path⟩ := path_of_mem_shaderFiles file given
  obtain ⟨front, back, split, final⟩ := exists_last_of_mem wanted
  rw [bundlePlan, files, split, List.map_append, List.map_cons]
  refine FileTree.LastWrite.flatMap Plan.files (lastWrite file given) _ fun plan inBack => ?_
  obtain ⟨later, isLater, rfl⟩ := List.mem_map.mp inBack
  obtain ⟨run', written'⟩ := writtenFor later (by simp [split, isLater])
  have differ : later ≠ target := fun same => final (same ▸ isLater)
  rw [path]
  exact written'.apart flat last.isShader plain differ

/-! ## Two shaders of one hill -/

/-- A module of a shader with one block of this name. -/
def hillModule (model : Spirv.ExecutionModel) (block : String) : Spirv.Module :=
  let steps : Spirv.Builder.Build Unit := do
    let vec4 ← Spirv.Builder.vec 4
    let _ ← Spirv.Builder.uniformBlock block [⟨"tint", vec4, 0⟩] 0 0
  (steps.run (.start model)).2.finish "main"

def hillVertex : List UInt32 := (hillModule .vertex "sky").words

def hillFragment : List UInt32 := (hillModule .fragment "soil").words

/-- A manifest of a vertex and a fragment shader of these names. -/
def hillJson (vs fs : String) : Json.Value :=
  .record [("source", .text "hill.shd"), ("snippets", .list [
    .record [("name", .text vs), ("type", .text "vs"), ("spirv", .text "vs.spv")],
    .record [("name", .text fs), ("type", .text "fs"), ("spirv", .text "fs.spv")]])]

/-- The snippet of the vertex shader. -/
def hillTop (vs : String) : Snippet := ⟨vs, .vertex, [], .empty⟩

def hillSide (fs : String) : Snippet := ⟨fs, .fragment, [], .empty⟩

section

variable (vs fs : String) (vertex fragment : List UInt32)

/-- The files of the manifest, with the words of its shaders. -/
def hillTree : FileTree :=
  let file (name : String) (bytes : List UInt8) : Place × FileNode :=
    (⟨.up 0, [name]⟩, .file bytes)
  ⟨.ofList [file "hill.json" (Text.Utf8.bytes (hillJson vs fs).pretty),
    file "vs.spv" (Spirv.Word.bytes vertex), file "fs.spv" (Spirv.Word.bytes fragment)]⟩

def hill : LoadedBundle where
  bundle := .of "hill.shd" [hillTop vs, hillSide fs] []
  blobs := [⟨0, .vertex, vertex⟩, ⟨1, .fragment, fragment⟩]

/-- The run that writes it for one target, into a fresh directory. -/
def hillConfig : Config := ⟨"hill.json", "out", [.hlsl5], false, .gcc⟩

theorem loadBundle_hill :
    (loadBundle FileTree.system "hill.json").run (hillTree vs fs vertex fragment) =
      (.ok (hill vs fs vertex fragment), hillTree vs fs vertex fragment) := by
  let top : ManifestSnippet := ⟨hillTop vs, some "vs.spv"⟩
  let side : ManifestSnippet := ⟨hillSide fs, some "fs.spv"⟩
  generalize tree : hillTree vs fs vertex fragment = t
  have read : t.read "hill.json" = .ok (Text.Utf8.bytes (hillJson vs fs).pretty) := by
    rw [← tree]
    rfl
  have parsed : Manifest.read (Text.Utf8.bytes (hillJson vs fs).pretty) =
      some ⟨"hill.shd", [top, side], []⟩ := by
    rw [Manifest.read, Json.Tree.read_pretty]
    rfl
  have topRan : (loadSnippet FileTree.system "" 0 top).run t =
      (.ok (some ⟨0, .vertex, vertex⟩), t) :=
    loadSnippet_run_of_words t "" 0 (by simp [top, hillTop]) rfl (by rw [← tree]; rfl)
  have sideRan : (loadSnippet FileTree.system "" 1 side).run t =
      (.ok (some ⟨1, .fragment, fragment⟩), t) :=
    loadSnippet_run_of_words t "" 1 (by simp [side, hillSide]) rfl (by rw [← tree]; rfl)
  have ranSide : (loadSnippets FileTree.system "" 1 [side]).run t =
      (.ok [⟨1, .fragment, fragment⟩], t) := by
    rw [loadSnippets, run_bind_of_run_eq sideRan]
    rfl
  have ran : (loadSnippets FileTree.system "" 0 [top, side]).run t =
      (.ok [⟨0, .vertex, vertex⟩, ⟨1, .fragment, fragment⟩], t) := by
    rw [loadSnippets, run_bind_of_run_eq topRan]
    simp only
    rw [run_bind_of_run_eq ranSide]
    rfl
  have source : Path.join (Path.parent "hill.json") "hill.shd" = "hill.shd" := by decide
  rw [loadBundle_run_of_manifest read parsed ran, source]
  rfl

theorem eq_hill_of_loaded {loaded : LoadedBundle}
    (loads : (loadBundle FileTree.system "hill.json").run (hillTree vs fs vertex fragment) =
      (.ok loaded, hillTree vs fs vertex fragment)) : loaded = hill vs fs vertex fragment :=
  Except.ok.inj (Prod.mk.inj (loads.symm.trans (loadBundle_hill vs fs vertex fragment))).1

theorem writeBundle_hill :
    (writeBundle FileTree.system hillConfig).run (hillTree vs fs vertex fragment) =
      (runSteps FileTree.system (bundlePlan hillConfig (hill vs fs vertex fragment)).failure
        (bundlePlan hillConfig (hill vs fs vertex fragment)).steps).run
          ⟨(hillTree vs fs vertex fragment).nodes.insert ⟨.up 0, ["out"]⟩ .directory⟩ :=
  writeBundle_run_of_loaded (loadBundle_hill vs fs vertex fragment) rfl

theorem shaderAt_hill {i : Nat} {s : Snippet}
    (isShader : ShaderAt (hill vs fs vertex fragment).bundle.snippets i s) :
    i = 0 ∧ s = hillTop vs ∨ i = 1 ∧ s = hillSide fs := by
  have place : [hillTop vs, hillSide fs][i]? = some s := isShader.1
  match i with
  | 0 => exact .inl ⟨rfl, (Option.some.inj place).symm⟩
  | 1 => exact .inr ⟨rfl, (Option.some.inj place).symm⟩
  | _ + 2 => cases place

end

/-- The lengths of the tables of a run, and the stages of its shaders. -/
def digest (result : Except ListingFault (Run Spirv.ModuleShader)) :
    Option ((Nat × Nat) × List (Nat × Stage)) :=
  result.toOption.map fun run =>
    ((run.compilation.uniqueBlocks.length, run.compilation.uniqueImages.length),
      run.compilation.sources.map fun c => (c.snippetIndex, c.interface.stage))

/-- Under one name or two, the shaders of the hill compile. -/
theorem digest_hill : ∀ fs ∈ ["dale", "crest"],
    digest (compileBundle (hill "crest" fs hillVertex hillFragment).bundle
      (hill "crest" fs hillVertex hillFragment).blobs .hlsl5 Spirv.backend) =
        some ((2, 0), [(0, .vertex), (1, .fragment)]) := by
  decide +kernel

/-- Under one name or two, their files are written. -/
theorem exists_writeBundle_hill : ∀ fs ∈ ["dale", "crest"], ∃ outcome t,
    (writeBundle FileTree.system hillConfig).run (hillTree "crest" fs hillVertex hillFragment) =
        (outcome, t) ∧ outcome.failure = none := by
  have well : ∀ fs ∈ ["dale", "crest"], ((writeBundle FileTree.system hillConfig).run
      (hillTree "crest" fs hillVertex hillFragment)).1.failure = none := by
    simp only [writeBundle_hill]
    decide +kernel
  exact fun fs given => ⟨_, _, (Prod.eta _).symm, well fs given⟩

theorem flatNames_hill : ∀ fs ∈ ["dale", "crest"],
    FlatNames (hill "crest" fs hillVertex hillFragment).bundle.snippets := by
  intro fs given i s isShader
  rcases shaderAt_hill _ _ _ _ isShader with ⟨-, rfl⟩ | ⟨-, rfl⟩
  · decide
  · have flat : ∀ fs ∈ ["dale", "crest"], '/' ∉ fs.toList := by decide
    exact flat fs given

theorem addressable_of_digest {run : Run Spirv.ModuleShader} {stages : List (Nat × Stage)}
    (found : digest (.ok run) = some ((2, 0), stages)) :
    run.compilation.Addressable ∧
      run.compilation.sources.map (fun c => (c.snippetIndex, c.interface.stage)) = stages := by
  obtain ⟨lengths, same⟩ := Prod.mk.inj (Option.some.inj found)
  obtain ⟨blocks, images⟩ := Prod.mk.inj lengths
  exact ⟨⟨by rw [blocks]; decide, by rw [images]; decide⟩, same⟩

theorem writeBundle_keeps_files_hill :
    ∃ outcome t, (writeBundle FileTree.system hillConfig).run
        (hillTree "crest" "dale" hillVertex hillFragment) = (outcome, t) ∧
      outcome.failure = none ∧
        ∃ run, compileBundle (hill "crest" "dale" hillVertex hillFragment).bundle
            (hill "crest" "dale" hillVertex hillFragment).blobs .hlsl5 Spirv.backend = .ok run ∧
          ∃ top ∈ run.compilation.sources, ∃ side ∈ run.compilation.sources,
            FilesHold hillConfig t .hlsl5 (hillTop "crest") top ∧
              FilesHold hillConfig t .hlsl5 (hillSide "dale") side := by
  have named : "dale" ∈ ["dale", "crest"] := by simp
  obtain ⟨outcome, t, ran, well⟩ := exists_writeBundle_hill "dale" named
  obtain ⟨loaded, loads, keeps⟩ := writeBundle_keeps_files ran well
  obtain rfl := eq_hill_of_loaded _ _ _ _ loads
  obtain ⟨run, compiled, -, kept⟩ :=
    keeps (flatNames_hill "dale" named) .hlsl5 (by simp [hillConfig])
  have digested := digest_hill "dale" named
  rw [compiled] at digested
  have addressable := (addressable_of_digest digested).1
  have topLast : LastOfName (hill "crest" "dale" hillVertex hillFragment).bundle.snippets 0
      (hillTop "crest") := by
    refine ⟨⟨rfl, by decide⟩, fun j q isShader sameName => ?_⟩
    rcases shaderAt_hill _ _ _ _ isShader with ⟨rfl, -⟩ | ⟨-, rfl⟩
    · exact Nat.le_refl 0
    · exact absurd sameName (by decide)
  have sideLast : LastOfName (hill "crest" "dale" hillVertex hillFragment).bundle.snippets 1
      (hillSide "dale") := by
    refine ⟨⟨rfl, by decide⟩, fun j q isShader _ => ?_⟩
    rcases shaderAt_hill _ _ _ _ isShader with ⟨rfl, -⟩ | ⟨rfl, -⟩ <;> omega
  obtain ⟨top, amongTop, -, topHolds⟩ := kept addressable 0 _ topLast
  obtain ⟨side, amongSide, -, sideHolds⟩ := kept addressable 1 _ sideLast
  exact ⟨outcome, t, ran, well, run, compiled, top, amongTop, side, amongSide, topHolds, sideHolds⟩

/-- The stage that the file of a record says. -/
def stageByte (t : FileTree) (path : String) : Option UInt8 :=
  match t.read path with
  | .ok bytes => bytes[6]?
  | .error _ => none

theorem stageByte_of_record {t : FileTree} {path : String} {r : Record} {bytes : List UInt8}
    (held : t.read path = .ok bytes) (record : Record.read bytes = .ok r []) :
    stageByte t path = some r.stage.byte := by
  rw [Record.read_eq_ok_iff, List.append_nil] at record
  rw [stageByte, held, record.2]
  rfl

/-- Files need not be kept: the fragment shader's stand where the vertex shader's were, if both
have one name. -/
theorem files_of_namesakes_not_kept :
    ¬ ∀ (config : Config) (t t' : FileTree) (outcome : Outcome),
      (writeBundle FileTree.system config).run t = (outcome, t') → outcome.failure = none →
        ∃ loaded, (loadBundle FileTree.system config.manifestPath).run t = (.ok loaded, t) ∧
          (FlatNames loaded.bundle.snippets → ∀ target ∈ config.targets,
            KeepsFiles config loaded t' target (ShaderAt loaded.bundle.snippets)) := by
  intro always
  have overwritten : stageByte ((writeBundle FileTree.system hillConfig).run
      (hillTree "crest" "crest" hillVertex hillFragment)).2
        (outputPath hillConfig (hillTop "crest") .hlsl5 "bin") = some Stage.fragment.byte := by
    rw [writeBundle_hill]
    decide +kernel
  have named : "crest" ∈ ["dale", "crest"] := by simp
  obtain ⟨outcome, t, ran, well⟩ := exists_writeBundle_hill "crest" named
  rw [ran] at overwritten
  obtain ⟨loaded, loads, keeps⟩ := always _ _ _ _ ran well
  obtain rfl := eq_hill_of_loaded _ _ _ _ loads
  obtain ⟨run, compiled, -, kept⟩ :=
    keeps (flatNames_hill "crest" named) .hlsl5 (by simp [hillConfig])
  have digested := digest_hill "crest" named
  rw [compiled] at digested
  obtain ⟨addressable, stages⟩ := addressable_of_digest digested
  obtain ⟨c, among, index, holds⟩ := kept addressable 0 (hillTop "crest") ⟨rfl, by decide⟩
  obtain ⟨bytes, held, record⟩ := holds.record
  have ofVertex : c.interface.stage = .vertex := by
    have listed := List.mem_map_of_mem
      (f := fun c : CompiledShader => (c.snippetIndex, c.interface.stage)) among
    rw [stages, index] at listed
    simpa using listed
  have own : stageByte t (outputPath hillConfig (hillTop "crest") .hlsl5 "bin") =
      some c.interface.stage.byte := stageByte_of_record held record
  rw [own, ofVertex] at overwritten
  exact absurd overwritten (by decide)

end ShaderBundle
