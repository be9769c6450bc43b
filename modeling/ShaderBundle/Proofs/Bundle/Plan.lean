/-
# Proofs.Bundle.Plan — the files of a plan

A run that ends well has written the files of its plan, one after the other
(`writeAll_of_runSteps`), and a bundle that was written had been loaded
(`writeAll_of_writeBundle`).  Conversely, steps whose files can be written are all carried out
(`runSteps_of_writeAll`).

Plans that end well are followed by whatever comes next (`concat_of_well`).  The files of a plan
are those of its targets; the files of a target are those of its shaders, and its listing behind
them (`files_targetPlan`, `files_compilationPlan`, `files_sourcePlan`).

The name of a file tells the name of the snippet, the target and the extension
(`outputName_inj`): neither a target nor an extension has a dot, so the last two dots of the
name are the ones in front of them.  Files that differ in one of the three are apart.
-/
import ShaderBundle.Bundle.Output
import ShaderBundle.Proofs.Bundle.Manifest
import ShaderBundle.Proofs.FileTree

namespace ShaderBundle

set_option autoImplicit false

/-! ## The files of a plan -/

def Step.file? : Step → Option (String × List UInt8)
  | .log _ => none
  | .write path bytes => some (path, bytes)

/-- The files of a plan, in the order in which they are written. -/
def Plan.files (p : Plan) : List (String × List UInt8) := p.steps.filterMap Step.file?

/-- Logging writes no file. -/
theorem files_logs (log : List LogRecord) (failure : Option Failure) :
    (Plan.mk (log.map .log) failure).files = [] := by
  simp [Plan.files, Step.file?, List.filterMap_map, Function.comp_def]

theorem write_run (path : String) (bytes : List UInt8) (t : FileTree) :
    (FileTree.system.write path bytes).run t =
      match t.write path bytes with
      | .ok changed => (.ok (), changed)
      | .error reason => (.error reason.message, t) := rfl

theorem createDirAll_run (path : String) (t : FileTree) :
    (FileTree.system.createDirAll path).run t =
      match t.createDirAll path with
      | .ok changed => (.ok (), changed)
      | .error reason => (.error reason.message, t) := rfl

/-- A run that ends well has written every file. -/
theorem writeAll_of_runSteps {failure : Option Failure} {steps : List Step} {t t' : FileTree}
    {outcome : Outcome} (ran : (runSteps FileTree.system failure steps).run t = (outcome, t'))
    (well : outcome.failure = none) :
    failure = none ∧ t.writeAll (steps.filterMap Step.file?) = .ok t' := by
  induction steps generalizing t outcome with
  | nil =>
      cases ran
      exact ⟨well, rfl⟩
  | cons step rest ih =>
      cases step with
      | log record =>
          obtain ⟨rested, last, ranRest⟩ : ∃ rested last,
              (runSteps FileTree.system failure rest).run t = (rested, last) := ⟨_, _, rfl⟩
          rw [runSteps, run_bind_of_run_eq ranRest] at ran
          cases ran
          exact ih ranRest well
      | write path bytes =>
          rw [runSteps] at ran
          cases wrote : t.write path bytes with
          | error reason =>
              have failed : (FileTree.system.write path bytes).run t =
                  (.error reason.message, t) := by
                rw [write_run, wrote]
              rw [run_bind_of_run_eq failed] at ran
              cases ran
              cases well
          | ok mid =>
              have done : (FileTree.system.write path bytes).run t = (.ok (), mid) := by
                rw [write_run, wrote]
              rw [run_bind_of_run_eq done] at ran
              obtain ⟨noFailure, wroteRest⟩ := ih ran well
              exact ⟨noFailure, FileTree.writeAll_cons_eq_ok_iff.mpr ⟨mid, wrote, wroteRest⟩⟩

/-- Steps whose files can be written are all carried out. -/
theorem runSteps_of_writeAll (failure : Option Failure) {steps : List Step} {t t' : FileTree}
    (wrote : t.writeAll (steps.filterMap Step.file?) = .ok t') :
    ∃ log, (runSteps FileTree.system failure steps).run t = (⟨log, failure⟩, t') := by
  induction steps generalizing t with
  | nil =>
      cases wrote
      exact ⟨[], rfl⟩
  | cons step rest ih =>
      cases step with
      | log record =>
          obtain ⟨log, ran⟩ := ih wrote
          refine ⟨record :: log, ?_⟩
          rw [runSteps, run_bind_of_run_eq ran]
          rfl
      | write path bytes =>
          obtain ⟨mid, first, wrote⟩ := FileTree.writeAll_cons_eq_ok_iff.mp wrote
          obtain ⟨log, ran⟩ := ih wrote
          have done : (FileTree.system.write path bytes).run t = (.ok (), mid) := by
            rw [write_run, first]
          refine ⟨log, ?_⟩
          rw [runSteps, run_bind_of_run_eq done]
          exact ran

theorem files_append {p q : Plan} (well : (p.append q).failure = none) :
    p.failure = none ∧ q.failure = none ∧ (p.append q).files = p.files ++ q.files := by
  unfold Plan.append at well ⊢
  cases failed : p.failure with
  | some failure =>
      rw [failed] at well
      simp only [failed] at well
      cases well
  | none =>
      simp only [failed] at well ⊢
      exact ⟨trivial, well, by simp [Plan.files]⟩

/-- Plans that all end well write their files one after the other. -/
theorem files_concat {plans : List Plan} (well : (Plan.concat plans).failure = none) :
    (∀ p ∈ plans, p.failure = none) ∧ (Plan.concat plans).files = plans.flatMap Plan.files := by
  induction plans with
  | nil => exact ⟨by simp, rfl⟩
  | cons p rest ih =>
      obtain ⟨first, later, files⟩ := files_append well
      obtain ⟨each, restFiles⟩ := ih later
      refine ⟨List.forall_mem_cons.mpr ⟨first, each⟩, ?_⟩
      rw [Plan.concat, files, restFiles, List.flatMap_cons]

/-- Plans that end well are followed by whatever comes next. -/
theorem concat_of_well {front : List Plan} (well : ∀ p ∈ front, p.failure = none)
    (back : List Plan) :
    (Plan.concat (front ++ back)).failure = (Plan.concat back).failure ∧
      (Plan.concat (front ++ back)).files =
        front.flatMap Plan.files ++ (Plan.concat back).files := by
  induction front with
  | nil => exact ⟨rfl, rfl⟩
  | cons p rest ih =>
      obtain ⟨here, later⟩ := List.forall_mem_cons.mp well
      obtain ⟨failure, files⟩ := ih later
      rw [List.cons_append, Plan.concat, Plan.append, here]
      refine ⟨failure, ?_⟩
      rw [List.flatMap_cons, List.append_assoc, ← files]
      exact List.filterMap_append

/-! ## Names of files -/

/-- Where a file of a snippet for a target is written. -/
def outputPath (config : Config) (snippet : Snippet) (target : Target) (extension : String) :
    String :=
  Path.join config.outputDir (outputName snippet target extension)

def listingPath (config : Config) (target : Target) : String :=
  Path.join config.outputDir s!"{target.name}.dump.txt"

def extensions : List String := ["bin", "json", "spvasm"]

/-- What stands behind the last dot of a text is determined by the text. -/
theorem append_dot_inj {front front' back back' : List Char} (plain : '.' ∉ back)
    (plain' : '.' ∉ back') (same : front ++ '.' :: back = front' ++ '.' :: back') :
    front = front' ∧ back = back' := by
  rcases List.append_eq_append_iff.mp same with ⟨more, rfl, behind⟩ | ⟨more, rfl, behind⟩
  · cases more with
    | nil =>
        cases behind
        exact ⟨by simp, rfl⟩
    | cons c more =>
        obtain ⟨rfl, rfl⟩ := List.cons.inj behind
        exact absurd (by simp) plain
  · cases more with
    | nil =>
        cases behind
        exact ⟨by simp, rfl⟩
    | cons c more =>
        obtain ⟨rfl, rfl⟩ := List.cons.inj behind
        exact absurd (by simp) plain'

theorem toList_outputName (snippet : Snippet) (target : Target) (extension : String) :
    (outputName snippet target extension).toList =
      (snippet.name.toList ++ '.' :: target.name.toList) ++ '.' :: extension.toList := by
  simp [outputName, toString]

theorem toList_listingName (target : Target) :
    (s!"{target.name}.dump.txt").toList =
      (target.name.toList ++ ['.', 'd', 'u', 'm', 'p']) ++ '.' :: ['t', 'x', 't'] := by
  simp [toString]

theorem plain_of_mem_extensions : ∀ extension ∈ extensions,
    '.' ∉ extension.toList ∧ '/' ∉ extension.toList ∧ extension.toList ≠ ['t', 'x', 't'] := by
  decide

theorem plain_name (target : Target) :
    '.' ∉ target.name.toList ∧ '/' ∉ target.name.toList ∧ 2 < target.name.toList.length := by
  cases target <;> decide

theorem Target.name_inj {target target' : Target} :
    target.name = target'.name ↔ target = target' := by
  constructor
  · intro same
    cases target <;> cases target' <;> first | rfl | exact absurd same (by decide)
  · exact congrArg Target.name

/-- The name of a file tells the name of the snippet, the target and the extension. -/
theorem outputName_inj {snippet snippet' : Snippet} {target target' : Target}
    {extension extension' : String} (plain : extension ∈ extensions)
    (plain' : extension' ∈ extensions)
    (same : outputName snippet target extension = outputName snippet' target' extension') :
    snippet.name = snippet'.name ∧ target = target' ∧ extension = extension' := by
  have chars := congrArg String.toList same
  rw [toList_outputName, toList_outputName] at chars
  obtain ⟨stems, ends⟩ := append_dot_inj (plain_of_mem_extensions _ plain).1
    (plain_of_mem_extensions _ plain').1 chars
  obtain ⟨names, targets⟩ := append_dot_inj (plain_name target).1 (plain_name target').1 stems
  exact ⟨String.toList_injective names, Target.name_inj.mp (String.toList_injective targets),
    String.toList_injective ends⟩

theorem isEntry_outputName {snippet : Snippet} (flat : '/' ∉ snippet.name.toList)
    (target : Target) {extension : String} (plain : extension ∈ extensions) :
    Path.IsEntry (outputName snippet target extension) := by
  obtain ⟨-, flatTarget, long⟩ := plain_name target
  have flatExtension := (plain_of_mem_extensions _ plain).2.1
  apply Path.isEntry_of_long
  · rw [toList_outputName]
    simp [flat, flatTarget, flatExtension]
  · rw [toList_outputName]
    simp only [List.length_append, List.length_cons]
    omega

theorem isEntry_listingName (target : Target) : Path.IsEntry s!"{target.name}.dump.txt" := by
  obtain ⟨-, flatTarget, long⟩ := plain_name target
  apply Path.isEntry_of_long
  · rw [toList_listingName]
    simp [flatTarget]
  · rw [toList_listingName]
    simp only [List.length_append, List.length_cons]
    omega

section

variable (config : Config) {snippet snippet' : Snippet} {target target' : Target}
  {extension extension' : String} (flat : '/' ∉ snippet.name.toList)
  (plain : extension ∈ extensions)

include flat plain

/-- Files of other snippet names, targets or extensions are apart. -/
theorem apart_outputPath (flat' : '/' ∉ snippet'.name.toList) (plain' : extension' ∈ extensions)
    (differ : ¬ (snippet.name = snippet'.name ∧ target = target' ∧ extension = extension')) :
    FileTree.Apart (outputPath config snippet target extension)
      (outputPath config snippet' target' extension') :=
  FileTree.apart_join _ (isEntry_outputName flat target plain)
    (isEntry_outputName flat' target' plain') fun same => differ (outputName_inj plain plain' same)

/-- Listings are apart from the files of shaders. -/
theorem apart_listingPath : FileTree.Apart (listingPath config target')
    (outputPath config snippet target extension) := by
  apply FileTree.apart_join _ (isEntry_listingName target') (isEntry_outputName flat target plain)
  intro same
  have chars := congrArg String.toList same
  obtain ⟨plainEnd, -, other⟩ := plain_of_mem_extensions _ plain
  rw [toList_listingName, toList_outputName] at chars
  exact other (append_dot_inj (by decide) plainEnd chars).2.symm

end

/-! ## The files of a target -/

def shaderFiles (config : Config) (target : Target) (snippet : Snippet) (c : CompiledShader) :
    List (String × List UInt8) :=
  [(outputPath config snippet target "bin", (Record.writeInterface c.interface).bytes),
    (outputPath config snippet target "json", Text.Utf8.bytes c.interface.json.pretty),
    (outputPath config snippet target "spvasm", Text.Utf8.bytes c.sourceCode)]

/-- A compiled shader is written if its snippet is there and its record fits. -/
theorem files_sourcePlan {config : Config} {b : Bundle} {target : Target} {c : CompiledShader}
    (well : (sourcePlan config b target c).failure = none) :
    ∃ snippet, b.snippets[c.snippetIndex]? = some snippet ∧
      (Record.writeInterface c.interface).fault = none ∧
        (sourcePlan config b target c).files = shaderFiles config target snippet c := by
  unfold sourcePlan at well ⊢
  cases known : b.snippets[c.snippetIndex]? with
  | none =>
      rw [known] at well
      cases well
  | some snippet =>
      rw [known] at well
      simp only [shaderPlan] at well ⊢
      cases fault : (Record.writeInterface c.interface).fault with
      | some fault =>
          rw [fault] at well
          cases well
      | none => exact ⟨snippet, rfl, rfl, rfl⟩

theorem files_listingPlan {config : Config} {c : Compilation} :
    ∀ file ∈ (listingPlan config c).files, file.1 = listingPath config c.target := by
  intro file given
  unfold listingPlan at given
  split at given
  · rw [List.mem_singleton.mp given]
    rfl
  · cases given

/-- A compilation is written shader by shader, and its listing behind them. -/
theorem files_compilationPlan {config : Config} {b : Bundle} {c : Compilation}
    (well : (compilationPlan config b c).failure = none) :
    c.error = none ∧ (∀ s ∈ c.sources, (sourcePlan config b c.target s).failure = none) ∧
      (compilationPlan config b c).files =
        c.sources.flatMap (fun s => (sourcePlan config b c.target s).files) ++
          (listingPlan config c).files := by
  unfold compilationPlan at well ⊢
  cases ended : c.error with
  | some e =>
      rw [ended] at well
      cases well
  | none =>
      rw [ended] at well
      obtain ⟨each, files⟩ := files_concat well
      refine ⟨rfl, fun s given => each _ ?_, ?_⟩
      · exact List.mem_append_left _ (List.mem_map_of_mem given)
      · simp only at files ⊢
        rw [files, List.flatMap_append, List.flatMap_map]
        simp [Plan.files, Step.file?]

theorem files_targetPlan {config : Config} {loaded : LoadedBundle} {target : Target}
    (well : (targetPlan config loaded target).failure = none) :
    ∃ run, compileBundle loaded.bundle loaded.blobs target Spirv.backend = .ok run ∧
      (compilationPlan config loaded.bundle run.compilation).failure = none ∧
      (targetPlan config loaded target).files =
        (compilationPlan config loaded.bundle run.compilation).files := by
  unfold targetPlan at well ⊢
  cases compiled : compileBundle loaded.bundle loaded.blobs target Spirv.backend with
  | error fault =>
      rw [compiled] at well
      cases well
  | ok run =>
      rw [compiled] at well
      obtain ⟨-, kept, files⟩ := files_append well
      refine ⟨run, rfl, kept, ?_⟩
      simp only at files ⊢
      rw [files, files_logs, List.nil_append]

/-! ## Carrying out the plan -/

/-- Once a bundle is loaded and the output directory is made, the plan is carried out. -/
theorem writeBundle_run_of_loaded {config : Config} {t mid : FileTree} {loaded : LoadedBundle}
    (loads : (loadBundle FileTree.system config.manifestPath).run t = (.ok loaded, t))
    (made : t.createDirAll config.outputDir = .ok mid) :
    (writeBundle FileTree.system config).run t =
      (runSteps FileTree.system (bundlePlan config loaded).failure
        (bundlePlan config loaded).steps).run mid := by
  have makes : (FileTree.system.createDirAll config.outputDir).run t = (.ok (), mid) := by
    rw [createDirAll_run, made]
  unfold writeBundle
  rw [run_bind_of_run_eq loads]
  simp only
  rw [run_bind_of_run_eq makes]

/-- A bundle that is written was loaded, and the files of its plan were written. -/
theorem writeAll_of_writeBundle {config : Config} {t t' : FileTree} {outcome : Outcome}
    (ran : (writeBundle FileTree.system config).run t = (outcome, t'))
    (well : outcome.failure = none) :
    ∃ (manifest : Manifest) (loaded : LoadedBundle) (mid : FileTree),
      (loadBundle FileTree.system config.manifestPath).run t = (.ok loaded, t) ∧
      LoadsTo t config.manifestPath manifest loaded ∧
      (bundlePlan config loaded).failure = none ∧
        mid.writeAll (bundlePlan config loaded).files = .ok t' := by
  obtain ⟨result, after, loads⟩ : ∃ result after,
      (loadBundle FileTree.system config.manifestPath).run t = (result, after) := ⟨_, _, rfl⟩
  cases result with
  | error e =>
      unfold writeBundle at ran
      rw [run_bind_of_run_eq loads] at ran
      cases ran
      cases well
  | ok loaded =>
      obtain ⟨rfl, manifest, complete⟩ := loadsTo_of_loaded loads
      cases made : after.createDirAll config.outputDir with
      | error reason =>
          have failed : (FileTree.system.createDirAll config.outputDir).run after =
              (.error reason.message, after) := by
            rw [createDirAll_run, made]
          unfold writeBundle at ran
          rw [run_bind_of_run_eq loads] at ran
          simp only at ran
          rw [run_bind_of_run_eq failed] at ran
          cases ran
          cases well
      | ok mid =>
          rw [writeBundle_run_of_loaded loads made] at ran
          obtain ⟨noFailure, wrote⟩ := writeAll_of_runSteps ran well
          exact ⟨manifest, loaded, mid, loads, complete, noFailure, wrote⟩

end ShaderBundle
