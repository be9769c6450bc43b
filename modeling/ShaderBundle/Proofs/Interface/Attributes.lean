/-
# Proofs.Interface.Attributes — which attribute stands in which slot

Slots are seen through `get?`.  Putting an attribute changes its own slot and no other
(`get?_put`), so whatever is put later wins; putting a fresh one at a location succeeds
exactly below the last slot (`insert_of_lt`, `insert_of_le`).

`toList` lists what stands in the slots, and the slots rise along it
(`pairwise_slot_toList`).  Slots are filled by their own list (`ofList_toList`), and how
many are used can be counted by their places (`size_eq_length`).
-/
import Mathlib.Data.List.Nodup
import Mathlib.Tactic.ByContra
import Mathlib.Tactic.SplitIfs
import ShaderBundle.Interface.Attribute

namespace ShaderBundle.AttributeSlots

set_option autoImplicit false

/-! ## Look-ups -/

theorem get?_empty (i : Nat) : empty.get? i = none := by
  simp only [get?, empty, Vector.getElem?_replicate]
  split_ifs <;> rfl

theorem get?_put (s : AttributeSlots) (a : Attribute) (fits : a.slot.toNat < maxAttributes)
    (i : Nat) : (s.put a fits).get? i = if i = a.slot.toNat then some a else s.get? i := by
  by_cases here : i = a.slot.toNat
  · subst here
    simp [get?, put, fits]
  · have apart : a.slot.toNat ≠ i := fun same => here same.symm
    simp [get?, put, here, apart]

/-- The attributes of slots are those that stand in them. -/
theorem get?_eq_some_iff (s : AttributeSlots) (i : Nat) (a : Attribute) :
    s.get? i = some a ↔ a ∈ s.toList ∧ a.slot.toNat = i := by
  constructor
  · intro held
    by_cases inRange : i < maxAttributes
    · rw [get?_of_lt s inRange] at held
      refine ⟨?_, s.own_slot i inRange a held⟩
      simp only [toList, List.mem_filterMap, id_eq, exists_eq_right]
      rw [← held]
      simp
    · simp [get?, inRange] at held
  · rintro ⟨among, rfl⟩
    simp only [toList, List.mem_filterMap, id_eq, exists_eq_right] at among
    obtain ⟨j, inRange, held⟩ := Vector.mem_iff_getElem.mp (Vector.mem_toList_iff.mp among)
    rw [s.own_slot j inRange a held, get?_of_lt s inRange]
    exact held

theorem slot_lt_of_mem {s : AttributeSlots} {a : Attribute} (among : a ∈ s.toList) :
    a.slot.toNat < maxAttributes := by
  have held : s.get? a.slot.toNat = some a := (get?_eq_some_iff s _ a).mpr ⟨among, rfl⟩
  by_contra outside
  simp [get?, outside] at held

theorem get?_isSome_iff (s : AttributeSlots) (i : Nat) :
    (s.get? i).isSome ↔ i ∈ s.toList.map fun a => a.slot.toNat := by
  rw [Option.isSome_iff_exists, List.mem_map]
  exact exists_congr fun a => get?_eq_some_iff s i a

/-! ## Fresh attributes -/

/-- Below the last slot a fresh attribute takes its place. -/
theorem insert_of_lt (s : AttributeSlots) {location : UInt32} (name : String)
    (fits : location.toNat < maxAttributes) :
    ∃ t, s.insert location name = .ok t ∧ ∀ i, t.get? i =
      if i = location.toNat then some (.atSlot (UInt16.ofNat location.toNat) name)
      else s.get? i := by
  have small : location.toNat < UInt16.size := Nat.lt_trans fits (by decide)
  have slot : (Attribute.atSlot (UInt16.ofNat location.toNat) name).slot.toNat =
      location.toNat := UInt16.toNat_ofNat_of_lt' small
  refine ⟨s.put _ (slot.symm ▸ fits), ?_, ?_⟩
  · unfold insert
    rw [dif_pos fits]
  · intro i
    rw [get?_put, slot]

/-- From the last slot on it is refused. -/
theorem insert_of_le (s : AttributeSlots) {location : UInt32} (name : String)
    (outside : maxAttributes ≤ location.toNat) :
    s.insert location name = .error ⟨name, location⟩ := by
  unfold insert
  rw [dif_neg (Nat.not_lt.mpr outside)]

/-! ## The list of attributes -/

/-- The attributes are listed by rising slots. -/
theorem pairwise_slot_toList (s : AttributeSlots) :
    s.toList.Pairwise fun a b => a.slot.toNat < b.slot.toNat := by
  unfold toList
  rw [List.pairwise_filterMap, List.pairwise_iff_getElem]
  intro i j atI atJ before a isA b isB
  simp only [Vector.length_toList] at atI atJ
  simp only [id_eq, Vector.getElem_toList] at isA isB
  rw [s.own_slot i atI a isA, s.own_slot j atJ b isB]
  exact before

/-- As many slots are used as there are places where an attribute stands. -/
theorem size_eq_length (s : AttributeSlots) {places : List Nat} (distinct : places.Nodup)
    (used : ∀ i, i ∈ places ↔ (s.get? i).isSome) : s.size = places.length := by
  have rising : (s.toList.map fun a => a.slot.toNat).Nodup := by
    rw [List.Nodup, List.pairwise_map]
    exact s.pairwise_slot_toList.imp Nat.ne_of_lt
  have same : (s.toList.map fun a => a.slot.toNat).Perm places := by
    rw [List.perm_ext_iff_of_nodup rising distinct]
    intro i
    rw [used, get?_isSome_iff]
  rw [← same.length_eq, List.length_map]
  rfl

/-- Attributes that fit are put into their slots: what stands in a slot then is one of them or
was there before, and a slot that stays empty is the slot of none. -/
theorem putAll_of_fits (as : List Attribute) (s : AttributeSlots)
    (fit : ∀ a ∈ as, a.slot.toNat < maxAttributes) :
    ∃ t, s.putAll as = .ok t ∧ (∀ i a, t.get? i = some a → a ∈ as ∨ s.get? i = some a) ∧
      ∀ i, t.get? i = none → s.get? i = none ∧ ∀ a ∈ as, a.slot.toNat ≠ i := by
  induction as generalizing s with
  | nil => exact ⟨s, rfl, fun _ _ held => .inr held, fun _ free => ⟨free, by simp⟩⟩
  | cons a as ih =>
      obtain ⟨fits, later⟩ := List.forall_mem_cons.mp fit
      obtain ⟨t, run, held, free⟩ := ih (s.put a fits) later
      refine ⟨t, ?_, ?_, ?_⟩
      · rw [putAll, dif_pos fits, run]
      · intro i b there
        rcases held i b there with isLater | put
        · exact .inl (List.mem_cons_of_mem a isLater)
        · rw [get?_put] at put
          split_ifs at put with here
          · obtain rfl := Option.some.inj put
            exact .inl List.mem_cons_self
          · exact .inr put
      · intro i none
        obtain ⟨notPut, others⟩ := free i none
        rw [get?_put] at notPut
        split_ifs at notPut with here
        exact ⟨notPut, List.forall_mem_cons.mpr ⟨fun same => here same.symm, others⟩⟩

/-- Slots are filled by their own attributes. -/
theorem ofList_toList (s : AttributeSlots) : ofList s.toList = .ok s := by
  obtain ⟨t, run, held, free⟩ := putAll_of_fits s.toList empty fun a => slot_lt_of_mem
  rw [ofList, run]
  congr 1
  apply ext_get?
  intro i _
  cases there : t.get? i with
  | some a =>
      have among : a ∈ s.toList := by simpa [get?_empty] using held i a there
      have slot := ((get?_eq_some_iff t i a).mp there).2
      exact ((get?_eq_some_iff s i a).mpr ⟨among, slot⟩).symm
  | none =>
      have unused := (free i there).2
      cases own : s.get? i with
      | none => rfl
      | some a =>
          obtain ⟨among, slot⟩ := (get?_eq_some_iff s i a).mp own
          exact absurd slot (unused a among)

end ShaderBundle.AttributeSlots
