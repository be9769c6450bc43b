/-
# Proofs.Text.LowerCase — which texts have an ASCII lower case

Below code point 128 the lower case of a text is the ASCII one, letter by letter
(`lower_of_ascii`).  Above, every character has a lower case with a character above 128 in
it, and there is one exception: the Kelvin sign has the lower case `k` (`exists_of_foreign`).
The capital I with a dot is none, because its dot stays.

So a text has an ASCII lower case without a `k` only if it is ASCII itself and has these
letters, large or small (`lower_eq_iff`).
-/
import ShaderBundle.Proofs.Text.Utf8
import ShaderBundle.Text.LowerCase

namespace ShaderBundle.Text

set_option autoImplicit false

/-- An ASCII character that is the lower case of nothing but ASCII. -/
def IsOwnCase (c : Char) : Prop := c.toNat < 0x80 ∧ c ≠ 'k'

instance (c : Char) : Decidable (IsOwnCase c) := inferInstanceAs (Decidable (_ ∧ _))

/-! ## ASCII -/

theorem lowerChar_of_ascii {c : Char} (ascii : c.toNat < 0x80) : lowerChar c = [c.toLower] := by
  have table : ∀ n < 0x80, lowerChar (Char.ofNat n) = [(Char.ofNat n).toLower] := by decide
  have own := table c.toNat ascii
  rwa [Char.ofNat_toNat] at own

theorem toLower_of_foreign {c : Char} (foreign : 0x80 ≤ c.toNat) : c.toLower = c := by
  unfold Char.toLower
  apply dif_neg
  rintro ⟨-, last⟩
  have small : c.toNat ≤ 0x5A := last
  omega

theorem ascii_of_toLower {c : Char} (ascii : c.toLower.toNat < 0x80) : c.toNat < 0x80 := by
  apply Nat.lt_of_not_le
  intro foreign
  rw [toLower_of_foreign foreign] at ascii
  omega

theorem lowerFrom_of_ascii {cs : List Char} (ascii : ∀ c ∈ cs, c.toNat < 0x80)
    (before : List Char) : lowerFrom before cs = cs.map Char.toLower := by
  induction cs generalizing before with
  | nil => rfl
  | cons c rest ih =>
      rw [List.forall_mem_cons] at ascii
      have noSigma : c.toNat ≠ 0x3A3 := by omega
      rw [lowerFrom, List.map_cons, ih ascii.2, if_neg noSigma, lowerChar_of_ascii ascii.1]
      rfl

theorem lower_of_ascii {cs : List Char} (ascii : ∀ c ∈ cs, c.toNat < 0x80) :
    lower cs = cs.map Char.toLower :=
  lowerFrom_of_ascii ascii []

/-! ## Beyond ASCII -/

/-- The runs of a mapping only change what lies in one of them. -/
theorem mapRuns_cases (runs : List (Nat × Nat × Nat × Nat)) (n : Nat) :
    mapRuns runs n = n ∨ ∃ first last step image, (first, last, step, image) ∈ runs ∧
      first ≤ n ∧ n ≤ last ∧ mapRuns runs n = image + (n - first) := by
  induction runs with
  | nil => exact .inl rfl
  | cons run rest ih =>
      obtain ⟨first, last, step, image⟩ := run
      rw [mapRuns]
      split
      · rename_i within
        simp only [Bool.and_eq_true, decide_eq_true_eq] at within
        exact .inr ⟨first, last, step, image, List.mem_cons_self, within.1.1, within.1.2, rfl⟩
      · rcases ih with same | ⟨first', last', step', image', among, inRun⟩
        · exact .inl same
        · exact .inr ⟨first', last', step', image', List.mem_cons_of_mem _ among, inRun⟩

/-- The images of the runs lie among the characters beyond ASCII, except for one `k`. -/
theorem image_of_mem_lowerRuns {first last step image : Nat}
    (among : (first, last, step, image) ∈ lowerRuns) :
    (image = 0x6B ∧ last = first) ∨ (0x80 ≤ image ∧ image + (last - first) < 0xD800) ∨
      (0xDFFF < image ∧ image + (last - first) < 0x110000) := by
  have table : lowerRuns.all (fun r => (r.2.2.2 = 0x6B && r.2.1 = r.1) ||
      (0x80 ≤ r.2.2.2 && r.2.2.2 + (r.2.1 - r.1) < 0xD800) ||
      (0xDFFF < r.2.2.2 && r.2.2.2 + (r.2.1 - r.1) < 0x110000)) = true := by
    decide +kernel
  have own := List.all_eq_true.mp table _ among
  simpa [or_assoc] using own

theorem mapRuns_of_foreign {c : Char} (foreign : 0x80 ≤ c.toNat) :
    ¬ IsOwnCase (Char.ofNat (mapRuns lowerRuns c.toNat)) := by
  rintro ⟨ascii, notK⟩
  rcases mapRuns_cases lowerRuns c.toNat with same | ⟨first, last, step, image, among, low, high, own⟩
  · rw [same, Char.ofNat_toNat] at ascii
    omega
  · rw [own] at ascii notK
    rcases image_of_mem_lowerRuns among with ⟨rfl, single⟩ | ⟨large, valid⟩ | ⟨large, valid⟩
    · have kelvin : c.toNat - first = 0 := by omega
      rw [kelvin] at notK
      exact notK rfl
    · rw [Utf8.toNat_charOfNat (by omega)] at ascii
      omega
    · rw [Utf8.toNat_charOfNat (by omega)] at ascii
      omega

/-- The lower case of a character beyond ASCII is not ASCII either, or it is a `k`. -/
theorem exists_of_foreign {c : Char} (foreign : 0x80 ≤ c.toNat) :
    ∃ d ∈ lowerChar c, ¬ IsOwnCase d := by
  unfold lowerChar
  rw [if_neg (Nat.not_lt.mpr foreign)]
  split
  · exact ⟨Char.ofNat 0x307, by simp, by decide⟩
  · exact ⟨_, List.mem_singleton_self _, mapRuns_of_foreign foreign⟩

theorem exists_of_foreign_mem {cs : List Char} {c : Char} (among : c ∈ cs)
    (foreign : 0x80 ≤ c.toNat) (before : List Char) :
    ∃ d ∈ lowerFrom before cs, ¬ IsOwnCase d := by
  induction cs generalizing before with
  | nil => cases among
  | cons first rest ih =>
      rw [lowerFrom]
      rcases List.mem_cons.mp among with rfl | later
      · -- a sigma has two lower cases, both of them Greek
        have image : ∃ d ∈ if c.toNat = 0x3A3 then
              if metByCased before && !metByCased rest then [Char.ofNat 0x3C2]
              else [Char.ofNat 0x3C3]
            else lowerChar c, ¬ IsOwnCase d := by
          split
          · split
            · exact ⟨_, List.mem_singleton_self _, by decide⟩
            · exact ⟨_, List.mem_singleton_self _, by decide⟩
          · exact exists_of_foreign foreign
        obtain ⟨d, inImage, notOwn⟩ := image
        exact ⟨d, List.mem_append_left _ inImage, notOwn⟩
      · obtain ⟨d, inRest, notOwn⟩ := ih later (first :: before)
        exact ⟨d, List.mem_append_right _ inRest, notOwn⟩

/-- **No character beyond ASCII helps to spell an ASCII text without a `k`.** -/
theorem lower_eq_iff {name : List Char} (own : ∀ c ∈ name, IsOwnCase c) (cs : List Char) :
    lower cs = name ↔ cs.map Char.toLower = name := by
  constructor
  · rintro rfl
    have ascii : ∀ c ∈ cs, c.toNat < 0x80 := by
      intro c among
      apply Nat.lt_of_not_le
      intro foreign
      obtain ⟨d, inLower, notOwn⟩ := exists_of_foreign_mem among foreign []
      exact notOwn (own d inLower)
    exact (lower_of_ascii ascii).symm
  · rintro rfl
    have ascii : ∀ c ∈ cs, c.toNat < 0x80 := by
      intro c among
      exact ascii_of_toLower (own _ (List.mem_map_of_mem among)).1
    exact lower_of_ascii ascii

end ShaderBundle.Text
