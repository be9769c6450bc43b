/-
# Proofs.Bundle.Names — what a name means

Names may repeat.  A name means the last shader of its kind that has it, and the last
program that has it (`LastAt`).  One more shader or program at the end does the same to
the look-up tables (`find?_placesOf_eq_some_iff`) and to the sorted programs
(`mem_sorted_iff`) as it does to the meaning.

The programs of a bundle stand strictly in the order of the bytes of their names
(`sorted_pairwise`), so which programs are meant decides the whole list
(`sorted_eq_of_perm`).
-/
import Mathlib.Data.List.Induction
import Mathlib.Data.List.Nodup
import Mathlib.Tactic.ByContra
import ShaderBundle.Bundle.Basic
import ShaderBundle.Proofs.Occurrence
import ShaderBundle.Proofs.Text.Utf8

namespace ShaderBundle

set_option autoImplicit false

/-! ## Shaders -/

def Snippet.IsShader (kind : SnippetKind) (name : String) (s : Snippet) : Prop :=
  s.kind = kind ∧ s.name = name

/-- A name means the shader at a place: the last one of its kind. -/
def MeansShader (snippets : List Snippet) (kind : SnippetKind) (name : String) (i : Nat) : Prop :=
  ∃ s, LastAt (Snippet.IsShader kind name) snippets i s

theorem placesOf_concat (kind : SnippetKind) (first : Nat) (snippets : List Snippet)
    (s : Snippet) : Bundle.placesOf kind first (snippets ++ [s]) =
      Bundle.placesOf kind first snippets ++
        if s.kind = kind then [(s.name, first + snippets.length)] else [] := by
  induction snippets generalizing first with
  | nil => simp [Bundle.placesOf]
  | cons t rest ih =>
      have shifted : first + 1 + rest.length = first + (rest.length + 1) := by omega
      simp only [List.cons_append, Bundle.placesOf, ih, shifted, List.length_cons]
      split <;> rfl

/-- One more snippet hides the shader of its kind and name, and no other. -/
theorem find?_placesOf_concat (kind : SnippetKind) (snippets : List Snippet) (s : Snippet)
    (name : String) : (Table.ofList (Bundle.placesOf kind 0 (snippets ++ [s]))).find? name =
      if s.kind = kind ∧ s.name = name then some snippets.length
      else (Table.ofList (Bundle.placesOf kind 0 snippets)).find? name := by
  rw [placesOf_concat]
  by_cases ofKind : s.kind = kind
  · rw [if_pos ofKind, Table.ofList_concat, Table.find?_insert, Nat.zero_add]
    simp only [ofKind, true_and, eq_comm (a := name)]
  · rw [if_neg ofKind, List.append_nil, if_neg fun both => ofKind both.1]

theorem find?_placesOf_eq_some_iff (snippets : List Snippet) (kind : SnippetKind) (name : String)
    (i : Nat) : (Table.ofList (Bundle.placesOf kind 0 snippets)).find? name = some i ↔
      MeansShader snippets kind name i := by
  induction snippets using List.reverseRecOn with
  | nil =>
      constructor
      · nofun
      · rintro ⟨s, found⟩
        exact absurd found (not_lastAt_nil i s)
  | append_singleton snippets s ih =>
      unfold MeansShader
      simp only [find?_placesOf_concat, lastAt_concat_iff, Snippet.IsShader]
      by_cases new : s.kind = kind ∧ s.name = name
      · simp [new, eq_comm (a := i)]
      · rw [if_neg new, ih]
        simp [new, MeansShader]

/-- A look-up of a shader answers with the place its name means. -/
theorem Bundle.find?_shaders_eq_some_iff (b : Bundle) (kind : SnippetKind) (name : String)
    (i : Nat) : (b.shaders kind).find? name = some i ↔ MeansShader b.snippets kind name i :=
  find?_placesOf_eq_some_iff b.snippets kind name i

/-- A look-up of a shader fails when no shader of the kind has the name. -/
theorem Bundle.find?_shaders_eq_none_iff (b : Bundle) (kind : SnippetKind) (name : String) :
    (b.shaders kind).find? name = none ↔ ∀ s ∈ b.snippets, ¬ s.IsShader kind name := by
  unfold shaders
  induction b.snippets using List.reverseRecOn with
  | nil => simp [placesOf, Table.ofList]
  | append_singleton snippets s ih =>
      rw [find?_placesOf_concat, List.forall_mem_append, List.forall_mem_singleton]
      by_cases new : s.kind = kind ∧ s.name = name
      · simp [new, Snippet.IsShader]
      · rw [if_neg new, ih]
        simp [new, Snippet.IsShader]

theorem noShader_or_meansShader (snippets : List Snippet) (kind : SnippetKind) (name : String) :
    (∀ s ∈ snippets, ¬ s.IsShader kind name) ∨ ∃ i, MeansShader snippets kind name i := by
  let b : Bundle := ⟨"", snippets, []⟩
  cases found : (b.shaders kind).find? name with
  | none => exact .inl ((b.find?_shaders_eq_none_iff kind name).mp found)
  | some i => exact .inr ⟨i, (b.find?_shaders_eq_some_iff kind name i).mp found⟩

/-! ## Programs -/

/-- A name means this program: no later one has it. -/
def MeansProgram (programs : List Program) (p : Program) : Prop :=
  ∃ i, LastAt (fun q => q.name = p.name) programs i p

theorem meansProgram_concat_iff (programs : List Program) (q p : Program) :
    MeansProgram (programs ++ [q]) p ↔ p = q ∨ MeansProgram programs p ∧ p.name ≠ q.name := by
  unfold MeansProgram
  simp only [lastAt_concat_iff]
  constructor
  · rintro ⟨i, ⟨-, -, same⟩ | ⟨apart, found⟩⟩
    · exact .inl same
    · exact .inr ⟨⟨i, found⟩, Ne.symm apart⟩
  · rintro (rfl | ⟨⟨i, found⟩, apart⟩)
    · exact ⟨_, .inl ⟨rfl, rfl, rfl⟩⟩
    · exact ⟨i, .inr ⟨Ne.symm apart, found⟩⟩

/-- Where names are distinct, every program is meant. -/
theorem meansProgram_iff_mem {programs : List Program}
    (distinct : (programs.map Program.name).Nodup) (p : Program) :
    MeansProgram programs p ↔ p ∈ programs := by
  constructor
  · rintro ⟨i, found⟩
    exact List.mem_of_getElem? found.atPlace
  · intro given
    obtain ⟨i, inList, rfl⟩ := List.mem_iff_getElem.mp given
    refine ⟨i, List.getElem?_eq_getElem inList, rfl, ?_⟩
    intro j q atJ sameName
    obtain ⟨inListJ, rfl⟩ := List.getElem?_eq_some_iff.mp atJ
    have inNames : i < (programs.map Program.name).length := by simpa using inList
    have inNamesJ : j < (programs.map Program.name).length := by simpa using inListJ
    have same : (programs.map Program.name)[j] = (programs.map Program.name)[i] := by
      simpa using sameName
    exact Nat.le_of_eq (distinct.getElem_inj_iff.mp same)

/-! ## The order of programs -/

/-- The bytes of a program's name come before those of another's. -/
def Before (p q : Program) : Prop := Text.Utf8.bytes p.name < Text.Utf8.bytes q.name

theorem precedes_iff (p q : Program) : p.precedes q = true ↔ Before p q := by
  simp [Program.precedes, Before]

theorem Before.trans {p q r : Program} (first : Before p q) (second : Before q r) : Before p r :=
  List.lt_trans first second

theorem Before.name_ne {p q : Program} (before : Before p q) : p.name ≠ q.name := by
  intro same
  unfold Before at before
  rw [same] at before
  exact List.lt_irrefl _ before

theorem before_of_not_before {p q : Program} (notAfter : ¬ Before p q)
    (differ : p.name ≠ q.name) : Before q p := by
  by_contra notBefore
  have same := List.le_antisymm (List.not_lt.mp notBefore) (List.not_lt.mp notAfter)
  exact differ (Text.Utf8.bytes_inj.mp same)

theorem mem_insertSorted_iff {done : List Program} (sorted : done.Pairwise Before)
    (p q : Program) : q ∈ p.insertSorted done ↔ q = p ∨ q ∈ done ∧ q.name ≠ p.name := by
  induction done with
  | nil => simp [Program.insertSorted]
  | cons r rest ih =>
      obtain ⟨first, sortedRest⟩ := List.pairwise_cons.mp sorted
      unfold Program.insertSorted
      split
      · -- it takes the place of the program of its name, which no other has
        rename_i same
        rw [List.mem_cons, List.mem_cons]
        constructor
        · rintro (rfl | later)
          · exact .inl rfl
          · exact .inr ⟨.inr later, same ▸ (first q later).name_ne.symm⟩
        · rintro (rfl | ⟨rfl | later, apart⟩)
          · exact .inl rfl
          · exact absurd same.symm apart
          · exact .inr later
      · rename_i differ
        split
        · rename_i earlier
          have behind := (precedes_iff p r).mp earlier
          rw [List.mem_cons (a := q) (b := p), List.mem_cons]
          constructor
          · rintro (rfl | rfl | later)
            · exact .inl rfl
            · exact .inr ⟨.inl rfl, behind.name_ne.symm⟩
            · exact .inr ⟨.inr later, (behind.trans (first q later)).name_ne.symm⟩
          · rintro (rfl | ⟨member, -⟩)
            · exact .inl rfl
            · exact .inr member
        · rw [List.mem_cons, List.mem_cons, ih sortedRest]
          constructor
          · rintro (rfl | rfl | ⟨later, apart⟩)
            · exact .inr ⟨.inl rfl, Ne.symm differ⟩
            · exact .inl rfl
            · exact .inr ⟨.inr later, apart⟩
          · rintro (rfl | ⟨rfl | later, apart⟩)
            · exact .inr (.inl rfl)
            · exact .inl rfl
            · exact .inr (.inr ⟨later, apart⟩)

theorem insertSorted_pairwise {done : List Program} (sorted : done.Pairwise Before)
    (p : Program) : (p.insertSorted done).Pairwise Before := by
  induction done with
  | nil => simp [Program.insertSorted]
  | cons r rest ih =>
      obtain ⟨first, sortedRest⟩ := List.pairwise_cons.mp sorted
      unfold Program.insertSorted
      split
      · rename_i same
        refine List.pairwise_cons.mpr ⟨?_, sortedRest⟩
        intro q later
        unfold Before
        rw [same]
        exact first q later
      · rename_i differ
        split
        · rename_i earlier
          have behind := (precedes_iff p r).mp earlier
          refine List.pairwise_cons.mpr ⟨?_, sorted⟩
          intro q member
          rcases List.mem_cons.mp member with rfl | later
          · exact behind
          · exact behind.trans (first q later)
        · rename_i notEarlier
          refine List.pairwise_cons.mpr ⟨?_, ih sortedRest⟩
          intro q member
          rcases (mem_insertSorted_iff sortedRest p q).mp member with rfl | ⟨later, -⟩
          · exact before_of_not_before (mt (precedes_iff q r).mpr notEarlier) differ
          · exact first q later

theorem sorted_concat (programs : List Program) (p : Program) :
    Program.sorted (programs ++ [p]) = p.insertSorted (Program.sorted programs) := by
  simp [Program.sorted]

/-- Programs stand in the order of the bytes of their names. -/
theorem sorted_pairwise (programs : List Program) : (Program.sorted programs).Pairwise Before := by
  induction programs using List.reverseRecOn with
  | nil => exact .nil
  | append_singleton programs p ih =>
      rw [sorted_concat]
      exact insertSorted_pairwise ih p

/-- The programs that their names mean are kept, and no others. -/
theorem mem_sorted_iff (programs : List Program) (p : Program) :
    p ∈ Program.sorted programs ↔ MeansProgram programs p := by
  induction programs using List.reverseRecOn with
  | nil =>
      constructor
      · nofun
      · rintro ⟨i, found⟩
        exact absurd found (not_lastAt_nil i p)
  | append_singleton programs q ih =>
      rw [sorted_concat, mem_insertSorted_iff (sorted_pairwise programs), ih,
        meansProgram_concat_iff]

/-- Programs with distinct names may come in any order. -/
theorem sorted_eq_of_perm {programs reordered : List Program} (perm : programs.Perm reordered)
    (distinct : (programs.map Program.name).Nodup) :
    Program.sorted reordered = Program.sorted programs := by
  have distinct' : (reordered.map Program.name).Nodup := (perm.map _).nodup_iff.mp distinct
  have nodup (ps : List Program) : (Program.sorted ps).Nodup :=
    (sorted_pairwise ps).imp fun before same => before.name_ne (congrArg _ same)
  have sameMembers (p : Program) :
      p ∈ Program.sorted reordered ↔ p ∈ Program.sorted programs := by
    rw [mem_sorted_iff, mem_sorted_iff, meansProgram_iff_mem distinct,
      meansProgram_iff_mem distinct', perm.mem_iff]
  refine List.Perm.eq_of_pairwise ?_ (sorted_pairwise _) (sorted_pairwise _)
    ((List.perm_ext_iff_of_nodup (nodup _) (nodup _)).mpr sameMembers)
  intro p q _ _ before after
  exact absurd rfl (before.trans after).name_ne

end ShaderBundle
