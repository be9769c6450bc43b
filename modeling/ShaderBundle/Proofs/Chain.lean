/-
# Proofs.Chain — links that end

A table that sends some keys to others makes chains: from each key the link to the next, and
so on.  Where nothing leads back to itself (`NoCycle`), a chain meets no key twice, so it ends
after at most as many links as there are keys (`endsWithin_of_noCycle`).  Whoever follows a
chain with that much fuel therefore gets to its end.

`Leads next a b` says that the chain that starts at `a` ends at `b`; a chain has one end
(`Leads.unique`).
-/
import Mathlib.Data.List.Perm.Subperm
import Mathlib.Logic.Relation

namespace ShaderBundle

set_option autoImplicit false

/-- Nothing leads back to itself. -/
def NoCycle {α : Type} (r : α → α → Prop) : Prop := ∀ a, ¬ Relation.TransGen r a a

/-- Where every step goes down, nothing leads back to itself. -/
theorem noCycle_of_below {α : Type} {r : α → α → Prop} (rank : α → Nat)
    (below : ∀ a b, r a b → rank b < rank a) : NoCycle r := by
  have descends {a b : α} (leads : Relation.TransGen r a b) : rank b < rank a := by
    induction leads with
    | single step => exact below _ _ step
    | tail _ step ih => exact Nat.lt_trans (below _ _ step) ih
  intro a back
  exact Nat.lt_irrefl _ (descends back)

theorem NoCycle.mono {α : Type} {r s : α → α → Prop} (noCycle : NoCycle s)
    (within : ∀ a b, r a b → s a b) : NoCycle r :=
  fun a back => noCycle a (Relation.TransGen.mono within _ _ back)

section

variable {α : Type} {next : α → Option α}

/-- The chain from `a` ends at `b`. -/
inductive Leads (next : α → Option α) : α → α → Prop where
  | done {a : α} : next a = none → Leads next a a
  | link {a b c : α} : next a = some b → Leads next b c → Leads next a c

/-- The chain from `a` ends after at most so many links. -/
inductive EndsWithin (next : α → Option α) : Nat → α → Prop where
  | done {n : Nat} {a : α} : next a = none → EndsWithin next n a
  | link {n : Nat} {a b : α} : next a = some b → EndsWithin next n b → EndsWithin next (n + 1) a

theorem Leads.unique {a b c : α} (leads : Leads next a b) (leads' : Leads next a c) : b = c := by
  induction leads with
  | done ends =>
      cases leads' with
      | done _ => rfl
      | link goes _ => cases ends.symm.trans goes
  | link goes _ ih =>
      cases leads' with
      | done ends => cases goes.symm.trans ends
      | link goes' leads' =>
          cases goes.symm.trans goes'
          exact ih leads'

/-- A chain that has come past `seen` ends before it has met more than all keys. -/
theorem endsWithin_past (noCycle : NoCycle fun a b => next a = some b) {keys : List α}
    (among : ∀ a b, next a = some b → a ∈ keys) (rest : Nat) (seen : List α)
    (distinct : seen.Nodup) (listed : seen ⊆ keys) (enough : keys.length ≤ seen.length + rest)
    {a : α} (past : ∀ s ∈ seen, Relation.TransGen (fun a b => next a = some b) s a) :
    EndsWithin next rest a := by
  induction rest generalizing seen a with
  | zero =>
      cases goes : next a with
      | none => exact .done goes
      | some b =>
          -- all keys were met, so this one was met before
          have full : keys.length ≤ seen.length := enough
          have same := (List.subperm_of_subset distinct listed).perm_of_length_le full
          have again : a ∈ seen := same.mem_iff.mpr (among a b goes)
          exact absurd (past a again) (noCycle a)
  | succ rest ih =>
      cases goes : next a with
      | none => exact .done goes
      | some b =>
          have fresh : a ∉ seen := fun again => noCycle a (past a again)
          refine .link goes (ih (a :: seen) (List.nodup_cons.mpr ⟨fresh, distinct⟩)
            (List.cons_subset.mpr ⟨among a b goes, listed⟩) ?_ ?_)
          · rw [List.length_cons]
            omega
          · rw [List.forall_mem_cons]
            exact ⟨.single goes, fun s before => (past s before).tail goes⟩

/-- **Where nothing leads back to itself, a chain has no more links than there are keys.** -/
theorem endsWithin_of_noCycle (noCycle : NoCycle fun a b => next a = some b) {keys : List α}
    (among : ∀ a b, next a = some b → a ∈ keys) (a : α) : EndsWithin next keys.length a :=
  endsWithin_past noCycle among keys.length [] List.nodup_nil (List.nil_subset keys) (by simp)
    (List.forall_mem_nil _)

end

end ShaderBundle
