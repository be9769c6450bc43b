/-
# Proofs.Target — how the names of targets may be spelled

A spelling of a target is its name with white space around it and each letter in either case
(`Spells`), and reading a name accepts nothing else (`parse_eq_ok_iff`).  It compares
Unicode lower cases, but no name of a target has a `k`, so that comes to the same as letter
case in ASCII (`Text.lower_eq_iff`).

A list of targets is cut at its commas (`CutAtCommas`): there is one way to do so
(`pieces_eq_iff`).  It is read piece by piece, each for itself, and the first piece that spells
no target is the one that is reported (`readsAll_parseList`).
-/
import Mathlib.Data.List.Forall2
import ShaderBundle.CommandLine
import ShaderBundle.Proofs.Bundle.Plan
import ShaderBundle.Proofs.Text.Blank
import ShaderBundle.Proofs.Text.LowerCase

namespace ShaderBundle

set_option autoImplicit false

namespace Target

open Text

/-! ## One name -/

/-- A text spells a target: the name with white space around it, in any ASCII letter case. -/
def Spells (cs : List Char) (t : Target) : Prop :=
  ∃ core, Trimmed cs core ∧ core.map Char.toLower = t.name.toList

/-- What is reported of a text that spells no target: the text trimmed and in lower case. -/
def Reports (cs : List Char) (u : Unknown) : Prop :=
  ∃ core, Trimmed cs core ∧ u.name = String.ofList (lower core)

theorem name_own (t : Target) : ∀ c ∈ t.name.toList, IsOwnCase c := by
  have own : t.name.toList.all (fun c => IsOwnCase c) = true := by
    cases t <;> decide
  intro c among
  exact of_decide_eq_true (List.all_eq_true.mp own c among)

theorem ofName?_eq_some_iff (s : String) (t : Target) : ofName? s = some t ↔ t.name = s := by
  constructor
  · intro found
    simpa using List.find?_some found
  · rintro rfl
    cases t <;> decide

theorem spells_iff (cs : List Char) (t : Target) :
    Spells cs t ↔ (trim cs).map Char.toLower = t.name.toList := by
  constructor
  · rintro ⟨core, trimmed, letters⟩
    rwa [(trimmed_iff cs core).mp trimmed]
  · intro letters
    exact ⟨trim cs, trimmed_trim cs, letters⟩

theorem reports_iff (cs : List Char) (u : Unknown) :
    Reports cs u ↔ u = ⟨String.ofList (lower (trim cs))⟩ := by
  constructor
  · rintro ⟨core, trimmed, name⟩
    rw [(trimmed_iff cs core).mp trimmed, ← name]
  · rintro rfl
    exact ⟨trim cs, trimmed_trim cs, rfl⟩

/-- A text spells one target at most. -/
theorem Spells.unique {cs : List Char} {t t' : Target} (spells : Spells cs t)
    (spells' : Spells cs t') : t = t' := by
  rw [spells_iff] at spells spells'
  exact name_inj.mp (String.toList_injective (spells.symm.trans spells'))

theorem ofName?_lower_iff (cs : List Char) (t : Target) :
    ofName? (String.ofList (lower (trim cs))) = some t ↔ Spells cs t := by
  rw [ofName?_eq_some_iff, spells_iff, ← lower_eq_iff t.name_own]
  constructor
  · intro same
    rw [same, String.toList_ofList]
  · intro same
    rw [same, String.ofList_toList]

/-- A name is read exactly if it spells a target. -/
theorem parse_eq_ok_iff (s : String) (t : Target) : parse s = .ok t ↔ Spells s.toList t := by
  rw [← ofName?_lower_iff, parse]
  cases ofName? (String.ofList (lower (trim s.toList))) with
  | none => simp
  | some found => simp

/-- Anything else is reported. -/
theorem parse_eq_error_iff (s : String) (u : Unknown) :
    parse s = .error u ↔ (∀ t, ¬ Spells s.toList t) ∧ Reports s.toList u := by
  simp only [← ofName?_lower_iff, reports_iff, parse]
  cases ofName? (String.ofList (lower (trim s.toList))) with
  | none => simp [eq_comm]
  | some found => simp

/-! ## Lists of names -/

structure CutAtCommas (cs : List Char) (ps : List (List Char)) : Prop where
  some : ps ≠ []
  whole : ∀ p ∈ ps, ',' ∉ p
  joined : [','].intercalate ps = cs

theorem pieces_eq_splitOn (cs : List Char) : pieces cs = cs.splitOn ',' := by
  induction cs with
  | nil => rw [pieces, List.splitOn_nil]
  | cons c rest ih =>
      rw [pieces, List.splitOn_cons_eq_if_modifyHead, ih]
      by_cases comma : c = ','
      · simp [comma]
      · have some := List.splitOn_ne_nil ',' rest
        cases cut : rest.splitOn ',' with
        | nil => exact absurd cut some
        | cons p ps => simp [comma]

theorem not_mem_of_mem_pieces (cs : List Char) : ∀ p ∈ pieces cs, ',' ∉ p := by
  induction cs with
  | nil => simp [pieces]
  | cons c rest ih =>
      rw [pieces]
      by_cases comma : c = ','
      · rw [if_pos comma, List.forall_mem_cons]
        exact ⟨List.not_mem_nil, ih⟩
      · rw [if_neg comma]
        cases cut : pieces rest with
        | nil => simpa using Ne.symm comma
        | cons p ps =>
            rw [cut, List.forall_mem_cons] at ih
            rw [List.forall_mem_cons]
            refine ⟨?_, ih.2⟩
            rw [List.mem_cons, not_or]
            exact ⟨Ne.symm comma, ih.1⟩

/-- There is one way to cut a text at its commas. -/
theorem pieces_eq_iff (cs : List Char) (ps : List (List Char)) :
    pieces cs = ps ↔ CutAtCommas cs ps := by
  constructor
  · rintro rfl
    refine ⟨?_, not_mem_of_mem_pieces cs, ?_⟩
    · rw [pieces_eq_splitOn]
      exact List.splitOn_ne_nil ',' cs
    · rw [pieces_eq_splitOn]
      exact List.intercalate_splitOn ','
  · rintro ⟨some, whole, rfl⟩
    rw [pieces_eq_splitOn]
    exact List.splitOn_intercalate ',' whole some

/-- A list of texts is read one after the other, and the first that spells no target ends it. -/
structure ReadsAll (ps : List (List Char)) (result : Except Unknown (List Target)) : Prop where
  accepted_iff : (∃ ts, result = .ok ts) ↔ ∀ p ∈ ps, ∃ t, Spells p t
  ok_iff : ∀ ts, result = .ok ts ↔ List.Forall₂ Spells ps ts
  error_iff : ∀ u, result = .error u ↔
    ∃ p, FirstWith (fun p => ∀ t, ¬ Spells p t) ps p ∧ Reports p u

theorem exists_forall₂_iff {α β : Type} {r : α → β → Prop} (as : List α) :
    (∃ bs, List.Forall₂ r as bs) ↔ ∀ a ∈ as, ∃ b, r a b := by
  induction as with
  | nil => simp
  | cons a rest ih =>
      rw [List.forall_mem_cons, ← ih]
      constructor
      · rintro ⟨bs, all⟩
        cases all with
        | cons first others => exact ⟨⟨_, first⟩, ⟨_, others⟩⟩
      · rintro ⟨⟨b, first⟩, ⟨bs, others⟩⟩
        exact ⟨b :: bs, .cons first others⟩

section

variable {ε α β : Type} (f : α → Except ε β)

theorem mapM_eq_ok_iff (as : List α) (bs : List β) :
    as.mapM f = .ok bs ↔ List.Forall₂ (fun a b => f a = .ok b) as bs := by
  induction as generalizing bs with
  | nil =>
      rw [List.mapM_nil, List.forall₂_nil_left_iff]
      constructor
      · intro same
        cases same
        rfl
      · rintro rfl
        rfl
  | cons a rest ih =>
      rw [List.mapM_cons, List.forall₂_cons_left_iff]
      simp only [except_bind_eq_ok_iff, ih]
      constructor
      · rintro ⟨b, first, bs', others, same⟩
        cases same
        exact ⟨b, bs', first, others, rfl⟩
      · rintro ⟨b, bs', first, others, rfl⟩
        exact ⟨b, first, bs', others, rfl⟩

theorem mapM_eq_error_iff (as : List α) (e : ε) : as.mapM f = .error e ↔
    ∃ a, FirstWith (fun a => ∀ b, f a ≠ .ok b) as a ∧ f a = .error e := by
  induction as with
  | nil =>
      constructor
      · intro ended
        cases ended
      · rintro ⟨a, first, -⟩
        exact absurd first (not_firstWith_nil _ a)
  | cons a rest ih =>
      have later (b : β) : (rest.mapM f >>= fun bs => pure (b :: bs)) = .error e ↔
          ∃ a, FirstWith (fun a => ∀ b, f a ≠ .ok b) rest a ∧ f a = .error e := by
        rw [except_bind_eq_error_iff, ih]
        refine or_iff_left ?_
        rintro ⟨bs, -, ended⟩
        cases ended
      rw [List.mapM_cons, except_bind_eq_error_iff]
      simp only [later, firstWith_cons_iff]
      cases own : f a with
      | error fault =>
          constructor
          · rintro (refused | ⟨b, accepted, -⟩)
            · exact ⟨a, .inl ⟨by simp, rfl⟩, own.trans refused⟩
            · cases accepted
          · rintro ⟨first, ⟨-, rfl⟩ | ⟨accepted, -⟩, refused⟩
            · exact .inl (own.symm.trans refused)
            · exact absurd (fun b => by simp) accepted
      | ok b => simp

end

theorem readsAll_parseList (s : String) : ReadsAll (pieces s.toList) (parseList s) := by
  have own (p : List Char) (t : Target) : parse (String.ofList p) = .ok t ↔ Spells p t := by
    rw [parse_eq_ok_iff, String.toList_ofList]
  have ok (ts : List Target) :
      parseList s = .ok ts ↔ List.Forall₂ Spells (pieces s.toList) ts := by
    simp only [parseList, mapM_eq_ok_iff, own]
  refine ⟨?_, ok, fun u => ?_⟩
  · simp only [ok]
    exact exists_forall₂_iff _
  · simp only [parseList, mapM_eq_error_iff, parse_eq_error_iff, String.toList_ofList, ne_eq, own]
    constructor
    · rintro ⟨p, first, -, reports⟩
      exact ⟨p, first, reports⟩
    · rintro ⟨p, first, reports⟩
      exact ⟨p, first, first.holds, reports⟩

end Target

/-! ## The targets that are asked for -/

open Target Text

theorem targets_eq_parseList {env : CommandLine.Environment} {s : String}
    (given : env "SHDC_TARGETS" = some s) (notBlank : ∃ c ∈ s.toList, ¬ isBlank c) :
    CommandLine.targets env = parseList s := by
  have some : trim s.toList ≠ [] := by
    rw [Ne, trim_eq_nil_iff]
    intro blank
    obtain ⟨c, among, own⟩ := notBlank
    exact own (blank c among)
  unfold CommandLine.targets
  rw [given]
  exact if_neg some

/-- **Targets are asked for by their names, in any letter case, and not otherwise.**  A list that
is not blank is read piece by piece, in its order and with repetitions, or the first piece that
spells no target is reported. -/
theorem targets_spelled :
    (∀ (s : String) (t : Target), Target.parse s = .ok t ↔ Spells s.toList t) ∧
      ∀ (env : CommandLine.Environment) (s : String), env "SHDC_TARGETS" = some s →
        (∃ c ∈ s.toList, ¬ isBlank c) →
          (∃! ps, CutAtCommas s.toList ps) ∧
            ∀ ps, CutAtCommas s.toList ps → ReadsAll ps (CommandLine.targets env) := by
  refine ⟨Target.parse_eq_ok_iff, fun env s given notBlank => ⟨?_, fun ps cut => ?_⟩⟩
  · refine ⟨pieces s.toList, (pieces_eq_iff _ _).mp rfl, fun ps cut => ?_⟩
    exact ((pieces_eq_iff _ _).mpr cut).symm
  · rw [targets_eq_parseList given notBlank, ← (pieces_eq_iff _ _).mpr cut]
    exact readsAll_parseList s

/-- An environment that asks for targets and has no other variables. -/
def asking (s : String) : CommandLine.Environment :=
  fun name => if name = "SHDC_TARGETS" then some s else none

/-- Names in mixed case and with spaces, one of them twice; and a list whose second name has the
capital I with a dot in the place of an i. -/
theorem targets_spelled_mixed :
    CommandLine.targets (asking " Hlsl5,WGPU\u00a0,hlsl5") = .ok [.hlsl5, .wgpu, .hlsl5] ∧
      CommandLine.targets (asking "Wgpu, METAL_\u0130OS,glsl") =
        .error ⟨"metal_i\u0307os"⟩ := by
  obtain ⟨-, reads⟩ := targets_spelled
  constructor
  · obtain ⟨-, reads⟩ := reads (asking " Hlsl5,WGPU\u00a0,hlsl5") _ rfl ⟨'H', by decide⟩
    have cut : CutAtCommas " Hlsl5,WGPU\u00a0,hlsl5".toList
        [" Hlsl5".toList, "WGPU\u00a0".toList, "hlsl5".toList] := by
      constructor <;> decide
    refine ((reads _ cut).ok_iff _).mpr (.cons ?_ (.cons ?_ (.cons ?_ .nil)))
    all_goals
      rw [spells_iff]
      decide
  · obtain ⟨-, reads⟩ := reads (asking "Wgpu, METAL_\u0130OS,glsl") _ rfl ⟨'W', by decide⟩
    have cut : CutAtCommas "Wgpu, METAL_\u0130OS,glsl".toList
        ["Wgpu".toList, " METAL_\u0130OS".toList, "glsl".toList] := by
      constructor <;> decide
    have first : FirstWith (fun p => ∀ t, ¬ Spells p t)
        ["Wgpu".toList, " METAL_\u0130OS".toList, "glsl".toList] " METAL_\u0130OS".toList := by
      refine ⟨["Wgpu".toList], ["glsl".toList], rfl, fun t => ?_, ?_⟩
      · rw [spells_iff]
        cases t <;> decide
      · rw [List.forall_mem_singleton]
        intro no
        refine no .wgpu ?_
        rw [spells_iff]
        decide
    refine ((reads _ cut).error_iff _).mpr ⟨_, first, ?_⟩
    rw [reports_iff]
    decide

end ShaderBundle
