/-
# Proofs.Occurrence — the first and the last of a list

Where things repeat, one of them counts.  The first with a property is what `find?` finds
(`FirstWith`).  The last is what is left when later ones take the place of earlier ones
(`LastAt`); lists are gone through from front to back, so proofs about it go by the last
element of the list: `lastAt_concat_iff` says what one more element does.
-/
import Mathlib.Data.List.Induction

namespace ShaderBundle

set_option autoImplicit false

/-- `a` is the first element of a list with a property. -/
def FirstWith {α : Type} (p : α → Prop) (l : List α) (a : α) : Prop :=
  ∃ before after, l = before ++ a :: after ∧ p a ∧ ∀ b ∈ before, ¬ p b

theorem FirstWith.holds {α : Type} {p : α → Prop} {l : List α} {a : α} (first : FirstWith p l a) :
    p a := by
  obtain ⟨before, after, -, own, -⟩ := first
  exact own

theorem find?_eq_some_iff_firstWith {α : Type} (p : α → Prop) [DecidablePred p] (l : List α)
    (a : α) : (l.find? fun b => p b) = some a ↔ FirstWith p l a := by
  unfold FirstWith
  rw [List.find?_eq_some_iff_append]
  simp only [decide_eq_true_eq, Bool.not_eq_true', decide_eq_false_iff_not]
  constructor
  · rintro ⟨own, before, after, split, others⟩
    exact ⟨before, after, split, own, others⟩
  · rintro ⟨before, after, split, own, others⟩
    exact ⟨own, before, after, split, others⟩

/-- Where some element has a property, one of them is the first. -/
theorem exists_firstWith {α : Type} {p : α → Prop} [DecidablePred p] {l : List α} {a : α}
    (among : a ∈ l) (holds : p a) : ∃ b, FirstWith p l b := by
  have found : (l.find? fun b => p b).isSome :=
    List.find?_isSome.mpr ⟨a, among, decide_eq_true holds⟩
  obtain ⟨b, first⟩ := Option.isSome_iff_exists.mp found
  exact ⟨b, (find?_eq_some_iff_firstWith p l b).mp first⟩

theorem not_firstWith_nil {α : Type} (p : α → Prop) (a : α) : ¬ FirstWith p [] a := by
  rintro ⟨before, after, split, -⟩
  simp at split

/-- The first with a property is in front, or it is the first of the rest. -/
theorem firstWith_cons_iff {α : Type} (p : α → Prop) (b : α) (l : List α) (a : α) :
    FirstWith p (b :: l) a ↔ (p b ∧ b = a) ∨ (¬ p b ∧ FirstWith p l a) := by
  constructor
  · rintro ⟨before, after, split, holds, others⟩
    cases before with
    | nil =>
        cases split
        exact .inl ⟨holds, rfl⟩
    | cons c before =>
        cases split
        rw [List.forall_mem_cons] at others
        exact .inr ⟨others.1, before, after, rfl, holds, others.2⟩
  · rintro (⟨holds, rfl⟩ | ⟨other, before, after, rfl, holds, others⟩)
    · exact ⟨[], l, rfl, holds, List.forall_mem_nil _⟩
    · exact ⟨b :: before, after, rfl, holds, List.forall_mem_cons.mpr ⟨other, others⟩⟩

/-- `a` is the last element of a list with a property, and `i` is its place. -/
structure LastAt {α : Type} (p : α → Prop) (l : List α) (i : Nat) (a : α) : Prop where
  atPlace : l[i]? = some a
  holds : p a
  last : ∀ j b, l[j]? = some b → p b → j ≤ i

section

variable {α : Type} {p : α → Prop} {l : List α}

theorem not_lastAt_nil (i : Nat) (a : α) : ¬ LastAt p [] i a := by
  intro found
  have := found.atPlace
  simp at this

theorem getElem?_concat_eq_some_iff (b : α) (i : Nat) (a : α) :
    (l ++ [b])[i]? = some a ↔ l[i]? = some a ∨ i = l.length ∧ b = a := by
  rcases Nat.lt_trichotomy i l.length with inList | rfl | out
  · rw [List.getElem?_append_left inList]
    simp [Nat.ne_of_lt inList]
  · simp
  · have behind : (l ++ [b]).length ≤ i := by
      rw [List.length_append, List.length_singleton]
      exact out
    simp [List.getElem?_eq_none behind, List.getElem?_eq_none (Nat.le_of_lt out), Nat.ne_of_gt out]

/-- One more element is the last with a property if it has it, and else changes nothing. -/
theorem lastAt_concat_iff (b : α) (i : Nat) (a : α) :
    LastAt p (l ++ [b]) i a ↔ p b ∧ i = l.length ∧ a = b ∨ ¬ p b ∧ LastAt p l i a := by
  have behind {j : Nat} {c : α} (atJ : l[j]? = some c) : j < l.length :=
    (List.getElem?_eq_some_iff.mp atJ).1
  constructor
  · rintro ⟨atPlace, holds, last⟩
    rcases (getElem?_concat_eq_some_iff b i a).mp atPlace with old | ⟨rfl, rfl⟩
    · have new : ¬ p b := by
        intro new
        have := last l.length b ((getElem?_concat_eq_some_iff b _ b).mpr (.inr ⟨rfl, rfl⟩)) new
        have := behind old
        omega
      refine .inr ⟨new, old, holds, ?_⟩
      intro j c atJ hasIt
      exact last j c ((getElem?_concat_eq_some_iff b j c).mpr (.inl atJ)) hasIt
    · exact .inl ⟨holds, rfl, rfl⟩
  · rintro (⟨new, rfl, rfl⟩ | ⟨new, old, holds, last⟩)
    · refine ⟨(getElem?_concat_eq_some_iff a _ a).mpr (.inr ⟨rfl, rfl⟩), new, ?_⟩
      intro j c atJ _
      rcases (getElem?_concat_eq_some_iff a j c).mp atJ with old | ⟨rfl, -⟩
      · exact Nat.le_of_lt (behind old)
      · exact Nat.le_refl _
    · refine ⟨(getElem?_concat_eq_some_iff b i a).mpr (.inl old), holds, ?_⟩
      intro j c atJ hasIt
      rcases (getElem?_concat_eq_some_iff b j c).mp atJ with older | ⟨-, rfl⟩
      · exact last j c older hasIt
      · exact absurd hasIt new

/-- Where some element has a property, one of them is the last. -/
theorem exists_lastAt {a : α} (among : a ∈ l) (holds : p a) : ∃ i b, LastAt p l i b := by
  induction l using List.reverseRecOn with
  | nil => cases among
  | append_singleton l b ih =>
      by_cases new : p b
      · exact ⟨l.length, b, (lastAt_concat_iff b _ b).mpr (.inl ⟨new, rfl, rfl⟩)⟩
      · rcases List.mem_append.mp among with old | isLast
        · obtain ⟨i, c, last⟩ := ih old
          exact ⟨i, c, (lastAt_concat_iff b i c).mpr (.inr ⟨new, last⟩)⟩
        · obtain rfl := List.mem_singleton.mp isLast
          exact absurd holds new

end

end ShaderBundle
