/-
# Proofs.Interface.Edits — slots that are edited over time

Slots start empty.  An edit puts a fresh attribute at a location, or replaces everything by a
list of attributes, which keep what they say.  What does not fit is refused, and whether it
fits depends on the edit alone (`apply_eq_error_iff`).

What stands in the slots is told by what was written since everything was last replaced
(`history`): in every place the last attribute with its slot.  This is the relation `Shows`.
An edit that is accepted adds its attributes to the history or starts it again, one that is
refused writes nothing, and both keep the relation (`Shows.edit`).
-/
import ShaderBundle.Proofs.Interface.Attributes
import ShaderBundle.Proofs.Occurrence

namespace ShaderBundle.AttributeSlots

set_option autoImplicit false

inductive Edit where
  | insert (location : UInt32) (name : String)
  | replace (attributes : List Attribute)
deriving DecidableEq

namespace Edit

/-- The slots after an edit, or why it is refused. -/
def apply (s : AttributeSlots) : Edit → Except SlotOverflow AttributeSlots
  | insert location name => s.insert location name
  | replace attributes => ofList attributes

/-- An edit is refused for its location, or for the first attribute of its list that is past
the last slot. -/
def Fault : Edit → SlotOverflow → Prop
  | insert location name, fault => maxAttributes ≤ location.toNat ∧ fault = ⟨name, location⟩
  | replace attributes, fault =>
    ∃ a, FirstWith (fun a => maxAttributes ≤ a.slot.toNat) attributes a ∧
      fault = ⟨a.name, a.slot.toUInt32⟩

/-- An edit replaces everything: a list of attributes that all fit. -/
def Replaces : Edit → Prop
  | insert _ _ => False
  | replace attributes => ∀ a ∈ attributes, a.slot.toNat < maxAttributes

instance : DecidablePred Replaces
  | insert _ _ => inferInstanceAs (Decidable False)
  | replace attributes =>
    inferInstanceAs (Decidable (∀ a ∈ attributes, a.slot.toNat < maxAttributes))

/-- The attributes that an edit writes, in order. -/
def writes : Edit → List Attribute
  | insert location name =>
    if location.toNat < maxAttributes then [.atSlot (UInt16.ofNat location.toNat) name] else []
  | replace attributes =>
    if ∀ a ∈ attributes, a.slot.toNat < maxAttributes then attributes else []

end Edit

/-- Makes an edit; one that is refused leaves the slots as they are. -/
def edit (s : AttributeSlots) (e : Edit) : AttributeSlots :=
  match e.apply s with
  | .ok t => t
  | .error _ => s

/-- Makes edits one after the other, at first with no slot used. -/
def editAll (edits : List Edit) : AttributeSlots := edits.foldl edit empty

/-- The last edit that replaces everything and all edits behind it; all, if there is none. -/
def recent : List Edit → List Edit
  | [] => []
  | e :: rest => if ∃ later ∈ rest, later.Replaces then recent rest else e :: rest

/-- What was written since everything was last replaced. -/
def history (edits : List Edit) : List Attribute := (recent edits).flatMap Edit.writes

/-- In every place stands the last attribute of a row that has its slot. -/
def Shows (s : AttributeSlots) (row : List Attribute) : Prop :=
  ∀ i a, s.get? i = some a ↔ ∃ n, LastAt (fun a => a.slot.toNat = i) row n a

/-! ## Refusals -/

theorem putAll_eq_error_iff (s : AttributeSlots) (as : List Attribute) (fault : SlotOverflow) :
    s.putAll as = .error fault ↔
      ∃ a, FirstWith (fun a => maxAttributes ≤ a.slot.toNat) as a ∧
        fault = ⟨a.name, a.slot.toUInt32⟩ := by
  simp only [← find?_eq_some_iff_firstWith]
  induction as generalizing s with
  | nil => simp [putAll]
  | cons a rest ih =>
      unfold putAll
      by_cases fits : a.slot.toNat < maxAttributes
      · rw [dif_pos fits, ih]
        simp [Nat.not_le.mpr fits]
      · rw [dif_neg fits]
        simp [Nat.not_lt.mp fits, eq_comm]

/-- A list of attributes fills slots exactly when all of them fit. -/
theorem exists_ofList_iff (as : List Attribute) :
    (∃ s, ofList as = .ok s) ↔ ∀ a ∈ as, a.slot.toNat < maxAttributes := by
  constructor
  · rintro ⟨s, filled⟩ a among
    by_contra outside
    obtain ⟨first, offends⟩ :=
      exists_firstWith (p := fun a => maxAttributes ≤ a.slot.toNat) among (Nat.not_lt.mp outside)
    have refused := (putAll_eq_error_iff empty as _).mpr ⟨first, offends, rfl⟩
    rw [ofList, refused] at filled
    cases filled
  · intro fit
    obtain ⟨s, filled, -⟩ := putAll_of_fits as empty fit
    exact ⟨s, filled⟩

/-- Whether and why an edit is refused does not depend on the slots. -/
theorem apply_eq_error_iff (s : AttributeSlots) (e : Edit) (fault : SlotOverflow) :
    e.apply s = .error fault ↔ e.Fault fault := by
  cases e with
  | insert location name =>
      by_cases fits : location.toNat < maxAttributes
      · obtain ⟨t, inserted, -⟩ := s.insert_of_lt name fits
        simp [Edit.apply, Edit.Fault, inserted, Nat.not_le.mpr fits]
      · have outside := Nat.not_lt.mp fits
        simp [Edit.apply, Edit.Fault, s.insert_of_le name outside, outside, eq_comm]
  | replace attributes => exact putAll_eq_error_iff empty attributes fault

theorem edit_of_fault (s : AttributeSlots) {e : Edit} {fault : SlotOverflow}
    (refused : e.Fault fault) : s.edit e = s := by
  unfold edit
  rw [(apply_eq_error_iff s e fault).mpr refused]

/-- An edit that is refused might as well not have been made. -/
theorem editAll_of_fault (before after : List Edit) {e : Edit} {fault : SlotOverflow}
    (refused : e.Fault fault) : editAll (before ++ e :: after) = editAll (before ++ after) := by
  unfold editAll
  rw [List.foldl_append, List.foldl_append, List.foldl_cons, edit_of_fault _ refused]

/-! ## What slots show -/

theorem shows_empty : Shows empty [] := by
  intro i a
  simp [get?_empty, not_lastAt_nil]

/-- One more write is one more attribute at the end. -/
theorem Shows.put {s : AttributeSlots} {row : List Attribute} (shows : Shows s row)
    {a : Attribute} (fits : a.slot.toNat < maxAttributes) : Shows (s.put a fits) (row ++ [a]) := by
  intro i b
  simp only [lastAt_concat_iff]
  rw [get?_put]
  by_cases here : i = a.slot.toNat
  · subst here
    simp [eq_comm]
  · rw [if_neg here, shows i b]
    simp [Ne.symm here]

theorem Shows.putAll {s t : AttributeSlots} {row as : List Attribute} (shows : Shows s row)
    (put : s.putAll as = .ok t) : Shows t (row ++ as) := by
  induction as generalizing s row with
  | nil =>
      cases put
      rw [List.append_nil]
      exact shows
  | cons a rest ih =>
      unfold AttributeSlots.putAll at put
      split at put
      · rename_i fits
        rw [List.append_cons]
        exact ih (shows.put fits) put
      · cases put

theorem shows_ofList {s : AttributeSlots} {as : List Attribute} (filled : ofList as = .ok s) :
    Shows s as :=
  shows_empty.putAll filled

theorem Shows.insert {s : AttributeSlots} {row : List Attribute} (shows : Shows s row)
    {location : UInt32} (name : String) (fits : location.toNat < maxAttributes) :
    ∃ t, s.insert location name = .ok t ∧
      Shows t (row ++ [.atSlot (UInt16.ofNat location.toNat) name]) := by
  unfold AttributeSlots.insert
  rw [dif_pos fits]
  exact ⟨_, rfl, shows.put _⟩

/-- An edit writes behind the row, or starts a new one. -/
theorem Shows.edit {s : AttributeSlots} {row : List Attribute} (shows : Shows s row) (e : Edit) :
    Shows (s.edit e) (if e.Replaces then e.writes else row ++ e.writes) := by
  cases e with
  | insert location name =>
      have inserts : ¬ (Edit.insert location name).Replaces := not_false
      rw [if_neg inserts]
      simp only [AttributeSlots.edit, Edit.apply, Edit.writes]
      by_cases fits : location.toNat < maxAttributes
      · obtain ⟨t, inserted, now⟩ := shows.insert name fits
        rw [if_pos fits, inserted]
        exact now
      · rw [if_neg fits, s.insert_of_le name (Nat.not_lt.mp fits), List.append_nil]
        exact shows
  | replace attributes =>
      by_cases fit : ∀ a ∈ attributes, a.slot.toNat < maxAttributes
      · have replaces : (Edit.replace attributes).Replaces := fit
        obtain ⟨t, filled⟩ := (exists_ofList_iff attributes).mpr fit
        rw [if_pos replaces, Edit.writes, if_pos fit]
        simp only [AttributeSlots.edit, Edit.apply, filled]
        exact shows_ofList filled
      · have keeps : ¬ (Edit.replace attributes).Replaces := fit
        rw [if_neg keeps, Edit.writes, if_neg fit, List.append_nil]
        simp only [AttributeSlots.edit, Edit.apply]
        cases filled : ofList attributes with
        | ok t => exact absurd ((exists_ofList_iff attributes).mp ⟨t, filled⟩) fit
        | error fault => exact shows

/-! ## All edits -/

theorem recent_concat (edits : List Edit) (e : Edit) :
    recent (edits ++ [e]) = if e.Replaces then [e] else recent edits ++ [e] := by
  induction edits with
  | nil => simp [recent]
  | cons first rest ih =>
      rw [List.cons_append, recent, recent, ih]
      by_cases new : e.Replaces
      · rw [if_pos new, if_pos new, if_pos ⟨e, by simp, new⟩]
      · have same : (∃ later ∈ rest ++ [e], later.Replaces) ↔ ∃ later ∈ rest, later.Replaces := by
          simp [or_and_right, exists_or, new]
        rw [if_neg new, if_neg new]
        simp only [same]
        split <;> rfl

theorem history_concat (edits : List Edit) (e : Edit) :
    history (edits ++ [e]) = if e.Replaces then e.writes else history edits ++ e.writes := by
  unfold history
  rw [recent_concat]
  split <;> simp

theorem shows_editAll (edits : List Edit) : Shows (editAll edits) (history edits) := by
  induction edits using List.reverseRecOn with
  | nil => exact shows_empty
  | append_singleton edits e ih =>
      rw [history_concat, editAll, List.foldl_append]
      exact ih.edit e

theorem Shows.get?_eq_none_iff {s : AttributeSlots} {row : List Attribute} (shows : Shows s row)
    (i : Nat) : s.get? i = none ↔ ∀ a ∈ row, a.slot.toNat ≠ i := by
  constructor
  · intro free a among slot
    obtain ⟨n, b, last⟩ := exists_lastAt (p := fun a => a.slot.toNat = i) among slot
    have held := (shows i b).mpr ⟨n, last⟩
    rw [free] at held
    cases held
  · intro unwritten
    cases held : s.get? i with
    | none => rfl
    | some a =>
        obtain ⟨n, last⟩ := (shows i a).mp held
        exact absurd last.holds (unwritten a (List.mem_of_getElem? last.atPlace))

/-- How slots are after edits, and what can be done next. -/
structure Edited (edits : List Edit) (s : AttributeSlots) : Prop where
  own_slot : ∀ i a, s.get? i = some a → a.slot.toNat = i
  rising : s.toList.Pairwise fun a b => a.slot.toNat < b.slot.toNat
  listed : ∀ a, a ∈ s.toList ↔ s.get? a.slot.toNat = some a
  /-- The size is the number of attributes listed, and that of the slots in use. -/
  counted : s.size = s.toList.length ∧
    s.size = ((List.range maxAttributes).filter fun i => (s.get? i).isSome).length
  last_write : ∀ i a, s.get? i = some a ↔
    ∃ n, LastAt (fun a => a.slot.toNat = i) (history edits) n a
  unwritten : ∀ i, s.get? i = none ↔ ∀ a ∈ history edits, a.slot.toNat ≠ i
  refused : ∀ (e : Edit) fault, e.apply s = .error fault ↔ e.Fault fault
  refilled : ofList s.toList = .ok s

theorem edited_editAll (edits : List Edit) : Edited edits (editAll edits) where
  own_slot i a held := ((get?_eq_some_iff _ i a).mp held).2
  rising := pairwise_slot_toList _
  listed a := by simp [get?_eq_some_iff]
  counted := by
    refine ⟨rfl, size_eq_length _ (List.nodup_range.filter _) ?_⟩
    intro i
    rw [List.mem_filter, List.mem_range, and_iff_right_iff_imp]
    intro used
    obtain ⟨a, held⟩ := Option.isSome_iff_exists.mp used
    obtain ⟨among, rfl⟩ := (get?_eq_some_iff _ i a).mp held
    exact slot_lt_of_mem among
  last_write := shows_editAll edits
  unwritten := (shows_editAll edits).get?_eq_none_iff
  refused := apply_eq_error_iff _
  refilled := ofList_toList _

/-- **Slots after any edits**: every attribute is in its own slot and was the last written there
since everything was last replaced.  A list of attributes is refused for the first that does not
fit, and no refusal leaves a trace. -/
theorem editAll_shows_last_writes :
    (∀ edits : List Edit, Edited edits (editAll edits)) ∧
      (∀ as : List Attribute,
        (∃ s, ofList as = .ok s) ↔ ∀ a ∈ as, a.slot.toNat < maxAttributes) ∧
      (∀ (as : List Attribute) (fault : SlotOverflow),
        ofList as = .error fault ↔ (Edit.replace as).Fault fault) ∧
      ∀ (before after : List Edit) (e : Edit) (fault : SlotOverflow), e.Fault fault →
        editAll (before ++ e :: after) = editAll (before ++ after) :=
  ⟨edited_editAll, exists_ofList_iff, fun as => putAll_eq_error_iff empty as,
    fun before after _ _ => editAll_of_fault before after⟩

/-- Two attributes that keep what they say, and a third for the slot of the first. -/
def givenAttributes : List Attribute :=
  [⟨3, "uv", "TEXCOORD", 9⟩, ⟨0, "pos", "POSITION", 0⟩, ⟨3, "normal", "NORMAL", 0⟩]

/-- An edit that is replaced, one that replaces it, two that are refused, and one more. -/
def someEdits : List Edit :=
  [.insert 1 "color", .replace givenAttributes, .insert 16 "far",
    .replace [⟨2, "size", "PSIZE", 0⟩, ⟨20, "depth", "DEPTH", 0⟩], .insert 0 "position"]

theorem editAll_shows_last_writes_some :
    (history someEdits).length = 4 ∧ Edited someEdits (editAll someEdits) ∧
      (editAll someEdits).toList = [⟨0, "position", "TEXCOORD", 0⟩, ⟨3, "normal", "NORMAL", 0⟩] ∧
      editAll someEdits = editAll (someEdits.eraseIdx 2) := by
  refine ⟨by decide, editAll_shows_last_writes.1 someEdits, by decide, ?_⟩
  exact editAll_shows_last_writes.2.2.2 (someEdits.take 2) (someEdits.drop 3) (.insert 16 "far")
    ⟨"far", 16⟩ ⟨by decide, rfl⟩

end ShaderBundle.AttributeSlots
