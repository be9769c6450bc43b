/-
# Proofs.Text.Blank — a text without the white space around it

There is one way to take the white space off a text (`trimmed_iff`): what is left neither
starts nor ends with any, unless nothing is left, and then the text was blank
(`trim_eq_nil_iff`).
-/
import Mathlib.Data.List.TakeWhile
import ShaderBundle.Text.Blank

namespace ShaderBundle.Text

set_option autoImplicit false

/-- A text without the white space around it. -/
structure Trimmed (cs core : List Char) : Prop where
  around : ∃ front back, cs = front ++ core ++ back ∧ ∀ c ∈ front ++ back, isBlank c
  starts : ∀ c, core.head? = some c → ¬ isBlank c
  ends : ∀ c, core.getLast? = some c → ¬ isBlank c

/-- White space in front is dropped up to where the text starts. -/
theorem dropWhile_append_of_starts {front rest : List Char} (blank : ∀ c ∈ front, isBlank c)
    (starts : ∀ c, rest.head? = some c → ¬ isBlank c) : (front ++ rest).dropWhile isBlank = rest := by
  rw [List.dropWhile_append_of_pos blank]
  cases rest with
  | nil => rfl
  | cons c rest => exact List.dropWhile_cons_of_neg (starts c rfl)

theorem trim_of_blank {cs : List Char} (blank : ∀ c ∈ cs, isBlank c) : trim cs = [] := by
  have none : cs.dropWhile isBlank = [] := List.dropWhile_eq_nil_iff.mpr blank
  rw [trim, none]
  rfl

theorem trimmed_trim (cs : List Char) : Trimmed cs (trim cs) := by
  have start := List.takeWhile_append_dropWhile (p := isBlank) (l := cs)
  have finish := List.takeWhile_append_dropWhile (p := isBlank)
    (l := (cs.dropWhile isBlank).reverse)
  have split : cs.dropWhile isBlank =
      trim cs ++ ((cs.dropWhile isBlank).reverse.takeWhile isBlank).reverse := by
    rw [trim, ← List.reverse_append, finish, List.reverse_reverse]
  refine ⟨⟨cs.takeWhile isBlank, ((cs.dropWhile isBlank).reverse.takeWhile isBlank).reverse,
    ?_, ?_⟩, ?_, ?_⟩
  · rw [List.append_assoc, ← split, start]
  · intro c among
    rcases List.mem_append.mp among with inFront | inBack
    · exact List.mem_takeWhile_imp inFront
    · exact List.mem_takeWhile_imp (List.mem_reverse.mp inBack)
  · intro c first
    have head : (cs.dropWhile isBlank).head? = some c := by
      rw [split, List.head?_append, first]
      rfl
    have notBlank := List.head?_dropWhile_not isBlank cs
    rw [head] at notBlank
    simpa using notBlank
  · intro c last
    rw [trim, List.getLast?_reverse] at last
    have notBlank := List.head?_dropWhile_not isBlank (cs.dropWhile isBlank).reverse
    rw [last] at notBlank
    simpa using notBlank

/-- There is one way to take the white space off. -/
theorem trimmed_iff (cs core : List Char) : Trimmed cs core ↔ trim cs = core := by
  constructor
  · rintro ⟨⟨front, back, rfl, blank⟩, starts, ends⟩
    rw [List.forall_mem_append] at blank
    cases core with
    | nil =>
        apply trim_of_blank
        rw [List.append_nil, List.forall_mem_append]
        exact blank
    | cons first rest =>
        have frontDropped : (front ++ (first :: rest) ++ back).dropWhile isBlank =
            (first :: rest) ++ back := by
          rw [List.append_assoc]
          exact dropWhile_append_of_starts blank.1 fun c head => starts c head
        have backDropped : (back.reverse ++ (first :: rest).reverse).dropWhile isBlank =
            (first :: rest).reverse := by
          apply dropWhile_append_of_starts
          · intro c among
            exact blank.2 c (List.mem_reverse.mp among)
          · intro c head
            rw [List.head?_reverse] at head
            exact ends c head
        rw [trim, frontDropped, List.reverse_append, backDropped, List.reverse_reverse]
  · rintro rfl
    exact trimmed_trim cs

theorem trim_eq_nil_iff (cs : List Char) : trim cs = [] ↔ ∀ c ∈ cs, isBlank c := by
  constructor
  · intro empty
    obtain ⟨⟨front, back, rfl, blank⟩, -, -⟩ := (trimmed_iff cs []).mpr empty
    rwa [List.append_nil]
  · exact trim_of_blank

end ShaderBundle.Text
