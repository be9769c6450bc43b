/-
# Proofs.Bundle.Linking — link checks, from the lists they are made of

A program is checked in five steps, and the first that fails is its fault (`FaultOf`): its
names have to mean a vertex and a fragment shader, each of these has to be compiled, and
the outputs of the one have to be the inputs of the other.  When no step fails the program
links (`Links`).  Both are said of the lists of snippets, programs and results alone; the
look-up tables and the order in which programs are kept do not appear.

Only the programs that their names mean are checked.  As they stand in the order of their
names, the fault that is reported is that of the first name in this order
(`firstLinkFault_eq_some_iff`), wherever its program was given.
-/
import ShaderBundle.Bundle.Linking
import ShaderBundle.Proofs.Bundle.Names

namespace ShaderBundle

set_option autoImplicit false

/-! ## What is looked up -/

/-- The first result for a snippet. -/
def FirstSource (sources : List CompiledShader) (snippetIndex : Nat) (s : CompiledShader) : Prop :=
  FirstWith (fun t => t.snippetIndex = snippetIndex) sources s

/-- A slot is used differently, and none before it is. -/
structure FirstMismatch (outputs inputs : AttributeSlots) (slot : Nat) : Prop where
  inRange : slot < maxAttributes
  differ : outputs.get? slot ≠ inputs.get? slot
  first : ∀ i < slot, outputs.get? i = inputs.get? i

theorem findSource_eq_some_iff (sources : List CompiledShader) (snippetIndex : Nat)
    (s : CompiledShader) :
    findSource sources snippetIndex = some s ↔ FirstSource sources snippetIndex s :=
  find?_eq_some_iff_firstWith _ sources s

theorem findSource_eq_none_iff (sources : List CompiledShader) (snippetIndex : Nat) :
    findSource sources snippetIndex = none ↔ ∀ s ∈ sources, s.snippetIndex ≠ snippetIndex := by
  simp [findSource]

theorem noSource_or_firstSource (sources : List CompiledShader) (snippetIndex : Nat) :
    (∀ s ∈ sources, s.snippetIndex ≠ snippetIndex) ∨ ∃ s, FirstSource sources snippetIndex s := by
  cases found : findSource sources snippetIndex with
  | none => exact .inl ((findSource_eq_none_iff _ _).mp found)
  | some s => exact .inr ⟨s, (findSource_eq_some_iff _ _ _).mp found⟩

theorem firstMismatch_eq_some_iff (outputs inputs : AttributeSlots) (slot : Nat) :
    firstMismatch outputs inputs = some slot ↔ FirstMismatch outputs inputs slot := by
  unfold firstMismatch
  rw [List.find?_range_eq_some]
  simp only [ne_eq, decide_not, Bool.not_eq_true', decide_eq_false_iff_not, List.mem_range,
    Bool.not_not, decide_eq_true_eq]
  constructor
  · rintro ⟨differ, inRange, first⟩
    exact ⟨inRange, differ, first⟩
  · rintro ⟨inRange, differ, first⟩
    exact ⟨differ, inRange, first⟩

/-- No slot is used differently exactly when all slots are the same. -/
theorem firstMismatch_eq_none_iff (outputs inputs : AttributeSlots) :
    firstMismatch outputs inputs = none ↔ outputs = inputs := by
  unfold firstMismatch
  simp only [List.find?_eq_none, List.mem_range, ne_eq, decide_not, Bool.not_eq_true',
    decide_eq_false_iff_not, not_not]
  constructor
  · exact AttributeSlots.ext_get?
  · rintro rfl i -
    rfl

theorem eq_or_firstMismatch (outputs inputs : AttributeSlots) :
    outputs = inputs ∨ ∃ slot, FirstMismatch outputs inputs slot := by
  cases found : firstMismatch outputs inputs with
  | none => exact .inl ((firstMismatch_eq_none_iff _ _).mp found)
  | some slot => exact .inr ⟨slot, (firstMismatch_eq_some_iff _ _ _).mp found⟩

/-! ## One program -/

section

variable (snippets : List Snippet) (sources : List CompiledShader) (p : Program)

/-- The shaders of a program exist, are compiled, and fit together. -/
def Links : Prop :=
  ∃ i j vertex fragment, MeansShader snippets .vertex p.vsName i ∧
    MeansShader snippets .fragment p.fsName j ∧ FirstSource sources i vertex ∧
    FirstSource sources j fragment ∧ vertex.interface.outputs = fragment.interface.inputs

/-- The first step of a check that fails. -/
inductive FaultOf : LinkFault → Prop where
  | unknownVertexShader : (∀ s ∈ snippets, ¬ s.IsShader .vertex p.vsName) →
      FaultOf .unknownVertexShader
  | unknownFragmentShader {i : Nat} : MeansShader snippets .vertex p.vsName i →
      (∀ s ∈ snippets, ¬ s.IsShader .fragment p.fsName) → FaultOf .unknownFragmentShader
  | noVertexSource {i j : Nat} : MeansShader snippets .vertex p.vsName i →
      MeansShader snippets .fragment p.fsName j → (∀ s ∈ sources, s.snippetIndex ≠ i) →
      FaultOf .noVertexSource
  | noFragmentSource {i j : Nat} {vertex : CompiledShader} :
      MeansShader snippets .vertex p.vsName i → MeansShader snippets .fragment p.fsName j →
      FirstSource sources i vertex → (∀ s ∈ sources, s.snippetIndex ≠ j) →
      FaultOf .noFragmentSource
  | mismatch {i j : Nat} {vertex fragment : CompiledShader} {slot : Nat} :
      MeansShader snippets .vertex p.vsName i → MeansShader snippets .fragment p.fsName j →
      FirstSource sources i vertex → FirstSource sources j fragment →
      FirstMismatch vertex.interface.outputs fragment.interface.inputs slot →
      FaultOf (.mismatch slot (vertex.interface.outputs.get? slot)
        (fragment.interface.inputs.get? slot))

end

section

variable {b : Bundle} {sources : List CompiledShader} {p : Program}

/-- A program links, or some step fails. -/
theorem links_or_faultOf (snippets : List Snippet) (sources : List CompiledShader) (p : Program) :
    Links snippets sources p ∨ ∃ fault, FaultOf snippets sources p fault := by
  obtain noVertex | ⟨i, vertexAt⟩ := noShader_or_meansShader snippets .vertex p.vsName
  · exact .inr ⟨_, .unknownVertexShader noVertex⟩
  obtain noFragment | ⟨j, fragmentAt⟩ := noShader_or_meansShader snippets .fragment p.fsName
  · exact .inr ⟨_, .unknownFragmentShader vertexAt noFragment⟩
  obtain noSource | ⟨vertex, vertexOf⟩ := noSource_or_firstSource sources i
  · exact .inr ⟨_, .noVertexSource vertexAt fragmentAt noSource⟩
  obtain noSource | ⟨fragment, fragmentOf⟩ := noSource_or_firstSource sources j
  · exact .inr ⟨_, .noFragmentSource vertexAt fragmentAt vertexOf noSource⟩
  obtain met | ⟨slot, mismatch⟩ :=
    eq_or_firstMismatch vertex.interface.outputs fragment.interface.inputs
  · exact .inl ⟨i, j, vertex, fragment, vertexAt, fragmentAt, vertexOf, fragmentOf, met⟩
  · exact .inr ⟨_, .mismatch vertexAt fragmentAt vertexOf fragmentOf mismatch⟩

theorem checkProgram_of_links (links : Links b.snippets sources p) :
    checkProgram b sources p = .ok () := by
  obtain ⟨i, j, vertex, fragment, vertexAt, fragmentAt, vertexOf, fragmentOf, met⟩ := links
  rw [← b.find?_shaders_eq_some_iff] at vertexAt fragmentAt
  rw [← findSource_eq_some_iff] at vertexOf fragmentOf
  rw [← firstMismatch_eq_none_iff] at met
  simp only [checkProgram, vertexAt, fragmentAt, vertexOf, fragmentOf, demand, bind, Except.bind,
    met]

theorem checkProgram_of_faultOf {fault : LinkFault} (faulty : FaultOf b.snippets sources p fault) :
    checkProgram b sources p = .error fault := by
  cases faulty with
  | unknownVertexShader noVertex =>
      rw [← b.find?_shaders_eq_none_iff] at noVertex
      simp only [checkProgram, noVertex, demand, bind, Except.bind]
  | unknownFragmentShader vertexAt noFragment =>
      rw [← b.find?_shaders_eq_some_iff] at vertexAt
      rw [← b.find?_shaders_eq_none_iff] at noFragment
      simp only [checkProgram, vertexAt, noFragment, demand, bind, Except.bind]
  | noVertexSource vertexAt fragmentAt noSource =>
      rw [← b.find?_shaders_eq_some_iff] at vertexAt fragmentAt
      rw [← findSource_eq_none_iff] at noSource
      simp only [checkProgram, vertexAt, fragmentAt, noSource, demand, bind, Except.bind]
  | noFragmentSource vertexAt fragmentAt vertexOf noSource =>
      rw [← b.find?_shaders_eq_some_iff] at vertexAt fragmentAt
      rw [← findSource_eq_some_iff] at vertexOf
      rw [← findSource_eq_none_iff] at noSource
      simp only [checkProgram, vertexAt, fragmentAt, vertexOf, noSource, demand, bind, Except.bind]
  | mismatch vertexAt fragmentAt vertexOf fragmentOf met =>
      rw [← b.find?_shaders_eq_some_iff] at vertexAt fragmentAt
      rw [← findSource_eq_some_iff] at vertexOf fragmentOf
      rw [← firstMismatch_eq_some_iff] at met
      simp only [checkProgram, vertexAt, fragmentAt, vertexOf, fragmentOf, demand, bind,
        Except.bind, met]

theorem checkProgram_eq_ok_iff :
    checkProgram b sources p = .ok () ↔ Links b.snippets sources p := by
  refine ⟨?_, checkProgram_of_links⟩
  intro passed
  rcases links_or_faultOf b.snippets sources p with links | ⟨fault, faulty⟩
  · exact links
  · cases passed.symm.trans (checkProgram_of_faultOf faulty)

theorem checkProgram_eq_error_iff {fault : LinkFault} :
    checkProgram b sources p = .error fault ↔ FaultOf b.snippets sources p fault := by
  refine ⟨?_, checkProgram_of_faultOf⟩
  intro failed
  rcases links_or_faultOf b.snippets sources p with links | ⟨fault', faulty⟩
  · cases failed.symm.trans (checkProgram_of_links links)
  · cases failed.symm.trans (checkProgram_of_faultOf faulty)
    exact faulty

/-! ## All programs -/

theorem firstLinkFault_eq_none_iff {programs : List Program} :
    firstLinkFault b sources programs = none ↔ ∀ p ∈ programs, Links b.snippets sources p := by
  induction programs with
  | nil => simp [firstLinkFault]
  | cons p rest ih =>
      rw [List.forall_mem_cons]
      unfold firstLinkFault
      split
      · rename_i fault failed
        constructor
        · nofun
        · rintro ⟨links, -⟩
          cases failed.symm.trans (checkProgram_of_links links)
      · rename_i passed
        rw [ih, iff_true_intro (checkProgram_eq_ok_iff.mp passed), true_and]

/-- Of sorted programs, the fault of the first name that does not link is found. -/
theorem firstLinkFault_eq_some_iff {programs : List Program} (sorted : programs.Pairwise Before)
    {p : Program} {fault : LinkFault} :
    firstLinkFault b sources programs = some (p, fault) ↔
      p ∈ programs ∧ FaultOf b.snippets sources p fault ∧
        ∀ q ∈ programs, Before q p → Links b.snippets sources q := by
  induction programs with
  | nil => simp [firstLinkFault]
  | cons r rest ih =>
      obtain ⟨first, sortedRest⟩ := List.pairwise_cons.mp sorted
      unfold firstLinkFault
      split
      · rename_i own failed
        constructor
        · rintro found
          cases found
          refine ⟨List.mem_cons_self, checkProgram_eq_error_iff.mp failed, ?_⟩
          intro q given earlier
          rcases List.mem_cons.mp given with rfl | later
          · exact absurd rfl earlier.name_ne
          · exact absurd rfl (earlier.trans (first q later)).name_ne
        · rintro ⟨given, faulty, earlier⟩
          rcases List.mem_cons.mp given with rfl | later
          · rw [Except.error.inj (failed.symm.trans (checkProgram_of_faultOf faulty))]
          · have links := earlier r List.mem_cons_self (first p later)
            cases failed.symm.trans (checkProgram_of_links links)
      · rename_i passed
        rw [ih sortedRest, List.forall_mem_cons, List.mem_cons]
        constructor
        · rintro ⟨later, faulty, earlier⟩
          exact ⟨.inr later, faulty, fun _ => checkProgram_eq_ok_iff.mp passed, earlier⟩
        · rintro ⟨rfl | later, faulty, -, earlier⟩
          · cases passed.symm.trans (checkProgram_of_faultOf faulty)
          · exact ⟨later, faulty, earlier⟩

end

/-- The fault of a program that is meant, when every program with a smaller name links. -/
structure FirstFault (snippets : List Snippet) (programs : List Program)
    (sources : List CompiledShader) (p : Program) (fault : LinkFault) : Prop where
  meant : MeansProgram programs p
  faulty : FaultOf snippets sources p fault
  smaller_link : ∀ q, MeansProgram programs q →
    Text.Utf8.bytes q.name < Text.Utf8.bytes p.name → Links snippets sources q

/-- **A bundle is accepted exactly when every program that is meant links.**  Otherwise the
fault of the smallest name is reported at the line of its program; the order of programs with
distinct names does not matter. -/
theorem checkLinks_exact (path : String) (snippets : List Snippet) (programs : List Program)
    (sources : List CompiledShader) :
    (checkLinks (.of path snippets programs) sources = none ↔
        ∀ p, MeansProgram programs p → Links snippets sources p) ∧
      (∀ d, checkLinks (.of path snippets programs) sources = some d ↔
        ∃ p fault, FirstFault snippets programs sources p fault ∧
          d = ⟨path, p.lineIndex, fault.message p⟩) ∧
      ∀ reordered, programs.Perm reordered → (programs.map Program.name).Nodup →
        checkLinks (.of path snippets reordered) sources =
          checkLinks (.of path snippets programs) sources := by
  refine ⟨?_, ?_, ?_⟩
  · unfold checkLinks
    rw [Option.map_eq_none_iff, firstLinkFault_eq_none_iff]
    simp only [Bundle.of, mem_sorted_iff]
  · intro d
    unfold checkLinks
    rw [Option.map_eq_some_iff]
    constructor
    · rintro ⟨⟨p, fault⟩, found, rfl⟩
      obtain ⟨given, faulty, smaller⟩ :=
        (firstLinkFault_eq_some_iff (sorted_pairwise programs)).mp found
      refine ⟨p, fault, ⟨(mem_sorted_iff programs p).mp given, faulty, ?_⟩, rfl⟩
      intro q meant before
      exact smaller q ((mem_sorted_iff programs q).mpr meant) before
    · rintro ⟨p, fault, ⟨meant, faulty, smaller⟩, rfl⟩
      refine ⟨(p, fault), (firstLinkFault_eq_some_iff (sorted_pairwise programs)).mpr ?_, rfl⟩
      refine ⟨(mem_sorted_iff programs p).mpr meant, faulty, ?_⟩
      intro q given before
      exact smaller q ((mem_sorted_iff programs q).mp given) before
  · intro reordered perm distinct
    unfold Bundle.of
    rw [sorted_eq_of_perm perm distinct]

/-- Two shaders of one name, the second of them behind a later vertex shader `sky`. -/
def skySnippets : List Snippet :=
  [⟨"sky", .vertex, [2], .empty⟩, ⟨"sky", .fragment, [9], .empty⟩, ⟨"sky", .vertex, [17], .empty⟩]

/-- The last vertex shader writes a slot that the fragment shader does not read. -/
def skySources : List CompiledShader :=
  [⟨1, "fragment", default⟩,
    ⟨2, "vertex", { (default : Interface) with
      outputs := AttributeSlots.empty.put (.atSlot 3 "sun") (by decide) }⟩]

/-- Two programs, of which the second in the list has the smaller name. -/
def skyPrograms : List Program := [⟨"night", "sky", "moon", 30⟩, ⟨"day", "sky", "sky", 24⟩]

theorem checkLinks_exact_sky :
    skyPrograms.Perm skyPrograms.reverse ∧ (skyPrograms.map Program.name).Nodup ∧
      checkLinks (.of "sky.shd" skySnippets skyPrograms.reverse) skySources =
        checkLinks (.of "sky.shd" skySnippets skyPrograms) skySources ∧
      ∃ p fault, FirstFault skySnippets skyPrograms skySources p fault ∧
        (⟨"sky.shd", 24, "outputs of vs 'sky' don't match inputs of fs 'sky' for attr #3 "
          ++ "(vs=sun,fs=)"⟩ : Diagnostic) = ⟨"sky.shd", p.lineIndex, fault.message p⟩ :=
  have perm : skyPrograms.Perm skyPrograms.reverse := (List.reverse_perm skyPrograms).symm
  have distinct : (skyPrograms.map Program.name).Nodup := by decide
  have whole := checkLinks_exact "sky.shd" skySnippets skyPrograms skySources
  ⟨perm, distinct, whole.2.2 _ perm distinct, (whole.2.1 _).mp (by decide)⟩

end ShaderBundle
