/-
# Proofs.Bundle.Delivery — a run stops between targets

`writeBundle_delivers`: as long as files can be written and every record fits, a run leaves the
files of the targets in front of the first that does not compile, all of them and in their
order, and nothing of that target or of a later one.  What it says at the end is the error of
this target, in the format that is asked for.  A bundle that cannot be loaded leaves everything
as it was.

A target either compiles (`Delivers`), and then its plan ends well and has three files for each
shader, or it ends the run (`Ends`), and then its plan has no file: whatever was compiled of it
stays behind.  Only where a record is too large it is neither (`course`).  So the plan of a
bundle is that of the targets in front, one after the other (`concat_of_well`), and it is carried
out as it stands (`runSteps_of_writeAll`).

That a file belongs to one target only does not depend on the names of snippets.  They may have
slashes, but the last name along the path of a file still ends in its target and its extension
(`apart_of_other_target`).
-/
import ShaderBundle.Proofs.Bundle.Output

namespace ShaderBundle

set_option autoImplicit false

/-! ## One target -/

/-- The files of a compilation: three for each shader, in the order of the shaders, and the
listing behind them if it is wanted. -/
def Compilation.files (config : Config) (snippets : List Snippet) (c : Compilation) :
    List (String × List UInt8) :=
  c.sources.flatMap (fun s => (snippets[s.snippetIndex]?).toList.flatMap fun snippet =>
      shaderFiles config c.target snippet s) ++
    if config.listings then
      [(listingPath config c.target, (c.listing config.format).flatMap Text.Utf8.bytes)]
    else []

/-- A target compiles without an error, and the records of its shaders can be written. -/
structure Delivers (loaded : LoadedBundle) (target : Target) (c : Compilation) : Prop where
  compiled : ∃ run, compileBundle loaded.bundle loaded.blobs target Spirv.backend = .ok run ∧
    run.compilation = c
  noError : c.error = none
  fits : ∀ s ∈ c.sources, (Record.writeInterface s.interface).fault = none

/-- What the first of some targets ends a run with: an error of its compilation, or code that
cannot be generated.  Without a target the run ends well. -/
inductive Ends (config : Config) (loaded : LoadedBundle) : List Target → Option Failure → Prop where
  | well : Ends config loaded [] none
  | error {target : Target} {run : Run Spirv.ModuleShader} {e : Diagnostic}
      (after : List Target) :
      compileBundle loaded.bundle loaded.blobs target Spirv.backend = .ok run →
      run.compilation.error = some e →
      Ends config loaded (target :: after) (some (.other (e.render config.format)))
  | broken {target : Target} {fault : ListingFault} (after : List Target) :
      compileBundle loaded.bundle loaded.blobs target Spirv.backend = .error fault →
      Ends config loaded (target :: after) (some (.listing fault))

/-- A target compiles without an error, but the record of one of its shaders is too large. -/
structure Overflows (loaded : LoadedBundle) (target : Target) (c : Compilation) : Prop where
  compiled : ∃ run, compileBundle loaded.bundle loaded.blobs target Spirv.backend = .ok run ∧
    run.compilation = c
  noError : c.error = none
  large : ∃ s ∈ c.sources, (Record.writeInterface s.interface).fault ≠ none

/-- How far some targets are gone through: up to the first that ends the run, or up to the first
with a record that is too large. -/
inductive Course (config : Config) (loaded : LoadedBundle) (targets : List Target) : Prop where
  | ends {before rest : List Target} {cs : List Compilation} {failure : Option Failure} :
      targets = before ++ rest → List.Forall₂ (Delivers loaded) before cs →
      Ends config loaded rest failure → Course config loaded targets
  | overflows {before after : List Target} {target : Target} {cs : List Compilation}
      {c : Compilation} : targets = before ++ target :: after →
      List.Forall₂ (Delivers loaded) before cs → Overflows loaded target c →
      Course config loaded targets

/-- There is always a first such target, or none and the run ends well. -/
theorem course (config : Config) (loaded : LoadedBundle) (targets : List Target) :
    Course config loaded targets := by
  induction targets with
  | nil => exact .ends rfl .nil .well
  | cons target rest ih =>
      cases compiled : compileBundle loaded.bundle loaded.blobs target Spirv.backend with
      | error fault => exact .ends (List.nil_append _).symm .nil (.broken rest compiled)
      | ok run =>
          cases error : run.compilation.error with
          | some e => exact .ends (List.nil_append _).symm .nil (.error rest compiled error)
          | none =>
              by_cases large : ∃ s ∈ run.compilation.sources,
                  (Record.writeInterface s.interface).fault ≠ none
              · exact .overflows (List.nil_append _).symm .nil ⟨⟨run, compiled, rfl⟩, error, large⟩
              · push Not at large
                have one : Delivers loaded target run.compilation :=
                  ⟨⟨run, compiled, rfl⟩, error, large⟩
                cases ih with
                | ends split delivers ends =>
                    exact .ends (congrArg (target :: ·) split) (.cons one delivers) ends
                | overflows split delivers overflows =>
                    exact .overflows (congrArg (target :: ·) split) (.cons one delivers) overflows

/-- A compilation without an error is written whole, if its snippets are there and its records
fit. -/
theorem compilationPlan_of_fits (config : Config) {b : Bundle} {c : Compilation}
    (noError : c.error = none)
    (fits : ∀ s ∈ c.sources, (Record.writeInterface s.interface).fault = none)
    (known : ∀ s ∈ c.sources, ∃ snippet, b.snippets[s.snippetIndex]? = some snippet) :
    (compilationPlan config b c).failure = none ∧
      (compilationPlan config b c).files = c.files config b.snippets := by
  have each : ∀ s ∈ c.sources, (sourcePlan config b c.target s).failure = none := by
    intro s given
    obtain ⟨snippet, there⟩ := known s given
    simp only [sourcePlan, there, shaderPlan, fits s given]
  have wellSources : ∀ p ∈ c.sources.map (sourcePlan config b c.target), p.failure = none := by
    intro p given
    obtain ⟨s, among, rfl⟩ := List.mem_map.mp given
    exact each s among
  have well : (compilationPlan config b c).failure = none := by
    simp only [compilationPlan, noError]
    rw [(concat_of_well wellSources _).1]
    by_cases wanted : config.listings <;>
      simp [Plan.concat, Plan.append, Plan.empty, listingPlan, wanted]
  obtain ⟨-, -, files⟩ := files_compilationPlan well
  refine ⟨well, files.trans ?_⟩
  unfold Compilation.files
  congr 1
  · refine List.flatMap_congr fun s given => ?_
    obtain ⟨snippet, there, -, own⟩ := files_sourcePlan (each s given)
    rw [own, there]
    simp
  · unfold listingPlan
    split_ifs <;> rfl

theorem exists_delivers_of_mem {loaded : LoadedBundle} {targets : List Target}
    {cs : List Compilation} (delivers : List.Forall₂ (Delivers loaded) targets cs) :
    ∀ c ∈ cs, ∃ target ∈ targets, Delivers loaded target c := by
  induction delivers with
  | nil => simp
  | @cons target c targets cs one _ ih =>
      intro d given
      rcases List.mem_cons.mp given with rfl | later
      · exact ⟨target, List.mem_cons_self, one⟩
      · obtain ⟨other, among, own⟩ := ih d later
        exact ⟨other, List.mem_cons_of_mem _ among, own⟩

section

variable (config : Config) {loaded : LoadedBundle} {target : Target} {c : Compilation}
  (complete : Complete loaded.bundle.snippets loaded.blobs)

include complete

/-- Every shader of a target that compiles has its snippet. -/
theorem Delivers.known (delivers : Delivers loaded target c) :
    c.target = target ∧ c.sources.map CompiledShader.snippetIndex =
        loaded.blobs.map Blob.snippetIndex ∧
      ∀ s ∈ c.sources, ∃ snippet, loaded.bundle.snippets[s.snippetIndex]? = some snippet := by
  obtain ⟨run, compiled, rfl⟩ := delivers.compiled
  obtain ⟨done, all, -⟩ := (compileBundle_error_eq_none_iff compiled).mp delivers.noError
  obtain ⟨own, again, finished⟩ := compileBundle_finished all
  cases compiled.symm.trans again
  exact ⟨finished.target, finished.snippets, (complete.compiles compiled).1⟩

/-- There are three files for each shader of the bundle. -/
theorem Delivers.length_files (delivers : Delivers loaded target c) :
    (c.files config loaded.bundle.snippets).length =
      3 * loaded.blobs.length + if config.listings then 1 else 0 := by
  obtain ⟨-, indices, known⟩ := delivers.known complete
  have three : ∀ s ∈ c.sources, ((loaded.bundle.snippets[s.snippetIndex]?).toList.flatMap
      fun snippet => shaderFiles config c.target snippet s).length = 3 := by
    intro s given
    obtain ⟨snippet, there⟩ := known s given
    rw [there]
    rfl
  have sources : c.sources.length = loaded.blobs.length := by
    simpa using congrArg List.length indices
  rw [Compilation.files, List.length_append, List.length_flatMap, List.map_congr_left three,
    List.map_const', List.sum_replicate_nat, sources, Nat.mul_comm]
  split_ifs <;> rfl

/-- The plan of a target that compiles ends well, with the files of its compilation. -/
theorem Delivers.plan (delivers : Delivers loaded target c) :
    (targetPlan config loaded target).failure = none ∧
      (targetPlan config loaded target).files = c.files config loaded.bundle.snippets := by
  obtain ⟨-, -, known⟩ := delivers.known complete
  obtain ⟨run, compiled, rfl⟩ := delivers.compiled
  obtain ⟨failure, files⟩ :=
    compilationPlan_of_fits config delivers.noError delivers.fits known
  rw [targetPlan, compiled]
  refine ⟨failure, ?_⟩
  show List.filterMap Step.file? (run.log.map .log ++ _) = _
  rw [List.filterMap_append, ← files]
  exact congrArg (· ++ _) (files_logs run.log none)

end

/-- The plan of a target that ends the run has no file. -/
theorem plan_of_ends {config : Config} {loaded : LoadedBundle} {rest : List Target}
    {failure : Option Failure} (ends : Ends config loaded rest failure) :
    (Plan.concat (rest.map (targetPlan config loaded))).failure = failure ∧
      (Plan.concat (rest.map (targetPlan config loaded))).files = [] := by
  cases ends with
  | well => exact ⟨rfl, rfl⟩
  | error after compiled failed =>
      rw [List.map_cons, Plan.concat, targetPlan, compiled]
      simp only [compilationPlan, failed, Plan.append]
      refine ⟨trivial, ?_⟩
      rw [List.append_nil]
      exact files_logs _ _
  | broken after compiled =>
      rw [List.map_cons, Plan.concat, targetPlan, compiled]
      exact ⟨rfl, rfl⟩

/-! ## Files of other targets -/

/-- A path that a file of a target is written to. -/
inductive OutputOf (config : Config) (snippets : List Snippet) (target : Target) :
    String → Prop where
  | shader {snippet : Snippet} {extension : String} : snippet ∈ snippets →
      extension ∈ extensions →
      OutputOf config snippets target (outputPath config snippet target extension)
  | listing : OutputOf config snippets target (listingPath config target)

/-- The names that files of a target have in their directories. -/
inductive NamedFor (target : Target) : String → Prop where
  | shader {snippet : Snippet} {extension : String} : '/' ∉ snippet.name.toList →
      extension ∈ extensions → NamedFor target (outputName snippet target extension)
  | listing : NamedFor target s!"{target.name}.dump.txt"

section

variable {config : Config} {snippets : List Snippet} {target target' : Target}
  {name path path' : String}

theorem NamedFor.isEntry (named : NamedFor target name) : Path.IsEntry name := by
  cases named with
  | shader flat plain => exact isEntry_outputName flat target plain
  | listing => exact isEntry_listingName target

/-- A name tells the target. -/
theorem NamedFor.target_eq (named : NamedFor target name) (named' : NamedFor target' name) :
    target = target' := by
  have never {snippet : Snippet} {own other : Target} {extension : String}
      (plain : extension ∈ extensions) :
      s!"{other.name}.dump.txt" ≠ outputName snippet own extension := by
    intro same
    have chars := congrArg String.toList same
    obtain ⟨plainEnd, -, other⟩ := plain_of_mem_extensions _ plain
    rw [toList_listingName, toList_outputName] at chars
    exact other (append_dot_inj (by decide) plainEnd chars).2.symm
  generalize same : name = name' at named'
  cases named with
  | shader flat plain =>
      cases named' with
      | shader flat' plain' => exact (outputName_inj plain plain' same).2.1
      | listing => exact absurd same.symm (never plain)
  | listing =>
      cases named' with
      | shader flat' plain' => exact absurd same (never plain')
      | listing =>
          have chars := congrArg String.toList same
          rw [toList_listingName, toList_listingName] at chars
          have stems := (append_dot_inj (by decide) (by decide) chars).1
          exact Target.name_inj.mp (String.toList_injective (List.append_cancel_right stems))

/-- Whatever slashes the name of a snippet has, its files are named for their target. -/
theorem OutputOf.exists_name (output : OutputOf config snippets target path) :
    ∃ name, NamedFor target name ∧ Path.EndsIn name.toList path := by
  cases output with
  | @shader snippet extension among plain =>
      obtain ⟨stem, flat, split⟩ : ∃ stem, '/' ∉ stem ∧
          (snippet.name.toList = stem ∨ ∃ front, snippet.name.toList = front ++ '/' :: stem) := by
        by_cases slash : '/' ∈ snippet.name.toList
        · obtain ⟨front, stem, split, flat⟩ := exists_last_of_mem slash
          exact ⟨stem, flat, .inr ⟨front, split⟩⟩
        · exact ⟨_, slash, .inl rfl⟩
      let last : Snippet := { snippet with name := String.ofList stem }
      have flatLast : '/' ∉ last.name.toList := by simpa [last] using flat
      refine ⟨outputName last target extension, .shader flatLast plain, Path.EndsIn.join ?_ _⟩
      unfold Path.EndsIn
      rw [toList_outputName, toList_outputName]
      rcases split with same | ⟨front, split⟩
      · exact .inl (by simp [last, same])
      · exact .inr ⟨front, by simp [last, split]⟩
  | listing => exact ⟨_, .listing, Path.EndsIn.join (.inl rfl) _⟩

/-- Files of different targets are apart. -/
theorem apart_of_other_target (output : OutputOf config snippets target path)
    (output' : OutputOf config snippets target' path') (other : target ≠ target') :
    FileTree.Apart path path' := by
  obtain ⟨name, named, ends⟩ := output.exists_name
  obtain ⟨name', named', ends'⟩ := output'.exists_name
  apply FileTree.apart_of_endsIn named.isEntry named'.isEntry ends ends'
  rintro rfl
  exact other (named.target_eq named')

theorem outputOf_of_mem_files {c : Compilation} :
    ∀ file ∈ c.files config snippets, OutputOf config snippets c.target file.1 := by
  intro file given
  rcases List.mem_append.mp given with ofShader | ofListing
  · obtain ⟨s, -, ofSource⟩ := List.mem_flatMap.mp ofShader
    obtain ⟨snippet, there, own⟩ := List.mem_flatMap.mp ofSource
    obtain ⟨extension, plain, path⟩ := path_of_mem_shaderFiles file own
    rw [path]
    exact .shader (List.mem_of_getElem? (Option.mem_toList.mp there)) plain
  · split_ifs at ofListing
    · rw [List.mem_singleton.mp ofListing]
      exact .listing
    · cases ofListing

end

/-! ## The run -/

/-- What a run leaves that wrote the files of some targets. -/
structure Leaves (config : Config) (loaded : LoadedBundle) (targets : List Target)
    (files : List (String × List UInt8)) (t t' : FileTree) : Prop where
  /-- Every file was there before or was written. -/
  only : ∀ place bytes, t'.node? place = some (.file bytes) →
    t.node? place = some (.file bytes) ∨
      ∃ file ∈ files, t'.locate file.1 = .ok place ∧ file.2 = bytes
  /-- Where nothing was written, what was there stays. -/
  kept : ∀ place node, t.node? place = some node →
    (∀ file ∈ files, t'.locate file.1 ≠ .ok place) → t'.node? place = some node
  /-- A path holds what was written to it last. -/
  last : ∀ path bytes, FileTree.LastWrite files path bytes → t'.read path = .ok bytes
  /-- Of another target there is no file that was not there before. -/
  others : ∀ target ∉ targets, ∀ path, OutputOf config loaded.bundle.snippets target path →
    ∀ place bytes, t'.locate path = .ok place → t'.node? place = some (.file bytes) →
      t.node? place = some (.file bytes)

theorem leaves_of_writeAll {config : Config} {loaded : LoadedBundle} {targets : List Target}
    {files : List (String × List UInt8)} {t mid t' : FileTree}
    (made : t.createDirAll config.outputDir = .ok mid) (wrote : mid.writeAll files = .ok t')
    (outputs : ∀ file ∈ files, ∃ target ∈ targets,
      OutputOf config loaded.bundle.snippets target file.1) :
    Leaves config loaded targets files t t' := by
  have directories := FileTree.moreDirectories_of_createDirAll made
  have only : ∀ place bytes, t'.node? place = some (.file bytes) →
      t.node? place = some (.file bytes) ∨
        ∃ file ∈ files, t'.locate file.1 = .ok place ∧ file.2 = bytes := by
    intro place bytes there
    rcases FileTree.node?_writeAll wrote place with same | ⟨file, among, leads, held⟩
    · rcases directories place with before | ⟨-, directory⟩
      · exact .inl (before.symm.trans (same.symm.trans there))
      · cases directory.symm.trans (same.symm.trans there)
    · cases held.symm.trans there
      exact .inr ⟨file, among, leads, rfl⟩
  refine ⟨only, ?_, fun path bytes last => FileTree.read_of_lastWrite wrote last, ?_⟩
  · intro place node there elsewhere
    rcases FileTree.node?_writeAll wrote place with same | ⟨file, among, leads, -⟩
    · rcases directories place with before | ⟨free, -⟩
      · exact same.trans (before.trans there)
      · cases free.symm.trans there
    · exact absurd leads (elsewhere file among)
  · intro target absent path output place bytes leads there
    refine (only place bytes there).resolve_right ?_
    rintro ⟨file, among, leads', -⟩
    obtain ⟨own, isOne, outputOwn⟩ := outputs file among
    have other : own ≠ target := fun same => absent (same ▸ isOne)
    exact apart_of_other_target outputOwn output other t' place place leads' leads rfl

/-- The plan of a bundle is that of the targets that compile, up to the first that does not. -/
theorem bundlePlan_of_delivers {config : Config} {loaded : LoadedBundle}
    (complete : Complete loaded.bundle.snippets loaded.blobs) {before rest : List Target}
    {cs : List Compilation} {failure : Option Failure} (split : config.targets = before ++ rest)
    (delivers : List.Forall₂ (Delivers loaded) before cs) (ends : Ends config loaded rest failure) :
    (bundlePlan config loaded).failure = failure ∧
      (bundlePlan config loaded).files =
        cs.flatMap (Compilation.files config loaded.bundle.snippets) := by
  have front : (∀ p ∈ before.map (targetPlan config loaded), p.failure = none) ∧
      (before.map (targetPlan config loaded)).flatMap Plan.files =
        cs.flatMap (Compilation.files config loaded.bundle.snippets) := by
    clear split
    induction delivers with
    | nil => exact ⟨by simp, rfl⟩
    | cons one _ ih =>
        obtain ⟨failure, files⟩ := one.plan config complete
        refine ⟨List.forall_mem_cons.mpr ⟨failure, ih.1⟩, ?_⟩
        rw [List.map_cons, List.flatMap_cons, List.flatMap_cons, files, ih.2]
  obtain ⟨failed, files⟩ := concat_of_well front.1 (rest.map (targetPlan config loaded))
  obtain ⟨own, noFile⟩ := plan_of_ends ends
  unfold bundlePlan
  rw [split, List.map_append, failed, files, own, noFile, front.2, List.append_nil]
  exact ⟨rfl, rfl⟩

/-- **A run stops between targets.**  If the bundle does not load, nothing changes.  If it does,
and no record is too large before a target ends the run, the files of the targets in front of
that one are written, three for each shader and the listing behind them if it is wanted, and no
other; the run ends with the error of this target, and well if there is none. -/
theorem writeBundle_delivers (config : Config) (t : FileTree) :
    (∀ e t₁, (loadBundle FileTree.system config.manifestPath).run t = (.error e, t₁) →
      (writeBundle FileTree.system config).run t = (⟨[], some (.load e)⟩, t)) ∧
    ∀ loaded t₁, (loadBundle FileTree.system config.manifestPath).run t = (.ok loaded, t₁) →
      Course config loaded config.targets ∧
      ∀ before rest cs failure, config.targets = before ++ rest →
        List.Forall₂ (Delivers loaded) before cs → Ends config loaded rest failure →
        ∀ mid t', t.createDirAll config.outputDir = .ok mid →
          mid.writeAll (cs.flatMap (Compilation.files config loaded.bundle.snippets)) = .ok t' →
          (∃ log, (writeBundle FileTree.system config).run t = (⟨log, failure⟩, t')) ∧
            Leaves config loaded before
              (cs.flatMap (Compilation.files config loaded.bundle.snippets)) t t' ∧
            ∀ c ∈ cs, (c.files config loaded.bundle.snippets).length =
              3 * loaded.blobs.length + if config.listings then 1 else 0 := by
  obtain ⟨result, ran⟩ := exists_loadBundle_run t config.manifestPath
  refine ⟨fun e t₁ failed => ?_, fun loaded t₁ loads => ?_⟩
  · cases failed.symm.trans ran
    unfold writeBundle
    rw [run_bind_of_run_eq ran]
    rfl
  · refine ⟨course config loaded config.targets, ?_⟩
    intro before rest cs failure split delivers ends mid t' made wrote
    cases loads.symm.trans ran
    obtain ⟨-, manifest, loadsTo⟩ := loadsTo_of_loaded ran
    have complete := loadsTo.complete
    obtain ⟨failed, files⟩ := bundlePlan_of_delivers complete split delivers ends
    refine ⟨?_, leaves_of_writeAll made wrote fun file given => ?_, fun c given => ?_⟩
    · rw [← files] at wrote
      rw [writeBundle_run_of_loaded ran made, failed]
      exact runSteps_of_writeAll failure wrote
    · obtain ⟨c, among, ofCompilation⟩ := List.mem_flatMap.mp given
      obtain ⟨target, isOne, one⟩ := exists_delivers_of_mem delivers c among
      have output := outputOf_of_mem_files file ofCompilation
      rw [(one.known complete).1] at output
      exact ⟨target, isOne, output⟩
    · obtain ⟨target, -, one⟩ := exists_delivers_of_mem delivers c given
      exact one.length_files config complete

/-! ## A hill that one target has by rows -/

/-- A module with one block of a matrix of three columns and two rows, laid out by rows or by
columns. -/
def slopeModule (model : Spirv.ExecutionModel) (rows : Bool) : Spirv.Module :=
  let steps : Spirv.Builder.Build Unit := do
    let column ← Spirv.Builder.vec 2
    let matrix ← Spirv.Builder.addGlobal .opTypeMatrix none [.id column, .word 3]
    let _ ← Spirv.Builder.uniformBlock "slope" [⟨"tilt", matrix, 0⟩] 0 0
    Spirv.Builder.decorateMember 4 0 .matrixStride 16
    if rows then
      Spirv.Builder.annotate (.plain .opMemberDecorate [.id 4, .word 0, .decoration .rowMajor])
  (steps.run (.start model)).2.finish "main"

/-- The words of the vertex shader, which has its matrix by rows. -/
def slopeVertex : List UInt32 := (slopeModule .vertex true).words

/-- The words of the fragment shader, which has it by columns. -/
def slopeFragment : List UInt32 := (slopeModule .fragment false).words

def slope : LoadedBundle := hill "crest" "dale" slopeVertex slopeFragment

def slopeTree : FileTree := hillTree "crest" "dale" slopeVertex slopeFragment

/-- The run that writes it for two targets.  Only the first of them lays all matrices out by
columns, so for the second the two shaders have blocks of different sizes. -/
def slopeConfig : Config := ⟨"hill.json", "out", [.hlsl5, .metalMacos], true, .msvc⟩

def slopeError : Diagnostic :=
  ⟨"hill.shd", 0, "conflicting uniform block definitions found for 'slope'"⟩

def slopeOut : FileTree := ⟨slopeTree.nodes.insert ⟨.up 0, ["out"]⟩ .directory⟩

theorem exists_ok_of_map {ε α β : Type} {x : Except ε α} {f : α → β} {b : β}
    (found : x.toOption.map f = some b) : ∃ a, x = .ok a ∧ f a = b := by
  cases x with
  | error e => cases found
  | ok a => exact ⟨a, rfl, Option.some.inj found⟩

theorem slope_hlsl5 : (compileBundle slope.bundle slope.blobs .hlsl5 Spirv.backend).toOption.map
    (fun run => (run.compilation.error,
      run.compilation.sources.all (fun s => (Record.writeInterface s.interface).fault = none),
      (slopeOut.writeAll (run.compilation.files slopeConfig slope.bundle.snippets)).isOk)) =
        some (none, true, true) := by
  decide +kernel

theorem slope_metal : (compileBundle slope.bundle slope.blobs .metalMacos
    Spirv.backend).toOption.map (fun run => run.compilation.error) = some (some slopeError) := by
  decide +kernel

theorem writeBundle_delivers_slope : ∃ (c : Compilation) (t' : FileTree) (log : List LogRecord),
    (writeBundle FileTree.system slopeConfig).run FileTree.empty =
        (⟨[], some (.load (.unreadable "hill.json" FileError.notFound.message))⟩,
          FileTree.empty) ∧
      Delivers slope .hlsl5 c ∧
      Ends slopeConfig slope [.metalMacos] (some (.other (slopeError.render .msvc))) ∧
      (writeBundle FileTree.system slopeConfig).run slopeTree =
        (⟨log, some (.other (slopeError.render .msvc))⟩, t') ∧
      Leaves slopeConfig slope [.hlsl5] (c.files slopeConfig slope.bundle.snippets) slopeTree t' ∧
      (c.files slopeConfig slope.bundle.snippets).length = 7 := by
  have missing : (loadBundle FileTree.system "hill.json").run FileTree.empty =
      (.error (.unreadable "hill.json" FileError.notFound.message), FileTree.empty) := by rfl
  have loads : (loadBundle FileTree.system "hill.json").run slopeTree = (.ok slope, slopeTree) :=
    loadBundle_hill "crest" "dale" slopeVertex slopeFragment
  obtain ⟨run, compiled, facts⟩ := exists_ok_of_map slope_hlsl5
  obtain ⟨noError, fits, wrote⟩ : run.compilation.error = none ∧
      run.compilation.sources.all
        (fun s => (Record.writeInterface s.interface).fault = none) = true ∧
      (slopeOut.writeAll (run.compilation.files slopeConfig slope.bundle.snippets)).isOk =
        true := by
    simpa only [Prod.mk.injEq] using facts
  have delivers : Delivers slope .hlsl5 run.compilation :=
    ⟨⟨run, compiled, rfl⟩, noError,
      fun s given => of_decide_eq_true (List.all_eq_true.mp fits s given)⟩
  obtain ⟨failed, compiledMetal, error⟩ := exists_ok_of_map slope_metal
  have ends : Ends slopeConfig slope [.metalMacos] (some (.other (slopeError.render .msvc))) :=
    .error [] compiledMetal error
  cases left : slopeOut.writeAll (run.compilation.files slopeConfig slope.bundle.snippets) with
  | error reason =>
      rw [left] at wrote
      cases wrote
  | ok t' =>
      obtain ⟨noBundle, -⟩ := writeBundle_delivers slopeConfig FileTree.empty
      obtain ⟨-, delivered⟩ := writeBundle_delivers slopeConfig slopeTree
      rw [← List.flatMap_singleton (Compilation.files _ _)] at left
      obtain ⟨⟨log, ran⟩, leaves, count⟩ := (delivered slope _ loads).2 [.hlsl5] [.metalMacos]
        [run.compilation] _ rfl (.cons delivers .nil) ends slopeOut t' rfl left
      rw [List.flatMap_singleton] at leaves
      exact ⟨run.compilation, t', log, noBundle _ _ missing, delivers, ends, ran, leaves,
        count _ List.mem_cons_self⟩

end ShaderBundle
