/-
# Interface.Attribute — stage attributes by slot

A stage has sixteen attribute slots, one per location.  The same slot in the outputs
of a vertex shader and in the inputs of a fragment shader is the same varying, so
`AttributeSlots` is compared as a whole when shaders are linked.

There are two ways to fill slots.  `insert` puts a fresh attribute at a location and
derives its semantic from the slot.  `ofList` takes attributes as they are, and the
later of two for one slot wins.  Either refuses a slot past the last one and names
the attribute.  That an attribute stands in its own slot is part of the type.
-/
import ShaderBundle.Json.Tree

namespace ShaderBundle

set_option autoImplicit false

/-- The number of attribute slots of a stage. -/
def maxAttributes : Nat := 16

/-- An input or output of a stage. -/
structure Attribute where
  slot : UInt16
  name : String
  semName : String
  semIndex : UInt16
deriving DecidableEq

namespace Attribute

/-- A fresh attribute: every one has the same semantic name, with the slot as index. -/
def atSlot (slot : UInt16) (name : String) : Attribute := ⟨slot, name, "TEXCOORD", slot⟩

def json (a : Attribute) : Json.Value :=
  .record [("slot", .nat a.slot.toNat), ("name", .text a.name), ("sem_name", .text a.semName),
    ("sem_index", .nat a.semIndex.toNat)]

def ofTree? (t : Json.Tree) : Option Attribute :=
  match t.fields? ["slot", "name", "sem_name", "sem_index"] with
  | some [slot, name, semName, semIndex] => do
    return ⟨← Json.Tree.need Json.Tree.word16? slot, ← Json.Tree.need Json.Tree.text? name,
      ← Json.Tree.need Json.Tree.text? semName, ← Json.Tree.need Json.Tree.word16? semIndex⟩
  | _ => none

end Attribute

/-- An attribute was placed past the last slot. -/
structure SlotOverflow where
  name : String
  location : UInt32
deriving DecidableEq

def SlotOverflow.message (o : SlotOverflow) : String :=
  s!"attribute '{o.name}' uses location {o.location}, but only {maxAttributes} locations are supported"

/-- The attributes of a stage, each in its own slot. -/
structure AttributeSlots where
  cells : Vector (Option Attribute) maxAttributes
  own_slot : ∀ (i : Nat) (h : i < maxAttributes) (a : Attribute),
    cells[i] = some a → a.slot.toNat = i
deriving DecidableEq

namespace AttributeSlots

def empty : AttributeSlots where
  cells := Vector.replicate maxAttributes none
  own_slot := by simp

instance : Inhabited AttributeSlots := ⟨empty⟩

def get? (s : AttributeSlots) (i : Nat) : Option Attribute := (s.cells[i]?).join

theorem get?_of_lt (s : AttributeSlots) {i : Nat} (inRange : i < maxAttributes) :
    s.get? i = s.cells[i] := by
  simp [get?, inRange]

/-- Slots with the same attributes are the same as a whole. -/
theorem ext_get? {s t : AttributeSlots} (same : ∀ i < maxAttributes, s.get? i = t.get? i) :
    s = t := by
  obtain ⟨cells, _⟩ := s
  obtain ⟨cells', _⟩ := t
  congr
  apply Vector.ext
  intro i inRange
  have equal := same i inRange
  rwa [get?_of_lt _ inRange, get?_of_lt _ inRange] at equal

/-- Puts an attribute into its slot, in place of what was there. -/
def put (s : AttributeSlots) (a : Attribute) (fits : a.slot.toNat < maxAttributes) :
    AttributeSlots where
  cells := s.cells.set a.slot.toNat (some a) fits
  own_slot := by
    intro i h b hb
    rw [Vector.getElem_set] at hb
    split at hb
    · obtain rfl := Option.some.inj hb
      assumption
    · exact s.own_slot i h b hb

/-- Puts a fresh attribute at a location. -/
def insert (s : AttributeSlots) (location : UInt32) (name : String) :
    Except SlotOverflow AttributeSlots :=
  let a := Attribute.atSlot (UInt16.ofNat location.toNat) name
  if fits : location.toNat < maxAttributes then
    .ok (s.put a (by
      show (UInt16.ofNat location.toNat).toNat < maxAttributes
      have : location.toNat < 16 := fits
      simp only [UInt16.toNat_ofNat', maxAttributes]
      omega))
  else .error ⟨name, location⟩

def toList (s : AttributeSlots) : List Attribute := s.cells.toList.filterMap id

/-- How many slots are used. -/
def size (s : AttributeSlots) : Nat := s.toList.length

/-- Puts attributes into their slots in order. -/
def putAll : AttributeSlots → List Attribute → Except SlotOverflow AttributeSlots
  | s, [] => .ok s
  | s, a :: rest =>
    if fits : a.slot.toNat < maxAttributes then putAll (s.put a fits) rest
    else .error ⟨a.name, a.slot.toUInt32⟩

/-- The slots that a list of attributes fills. -/
def ofList (attributes : List Attribute) : Except SlotOverflow AttributeSlots :=
  putAll empty attributes

/-- Slots in JSON: the attributes in slot order. -/
def json (s : AttributeSlots) : Json.Value := .list (s.toList.map Attribute.json)

def ofTree? (t : Json.Tree) : Option AttributeSlots := do
  match ofList (← t.list? Attribute.ofTree?) with
  | .ok s => some s
  | .error _ => none

end AttributeSlots

end ShaderBundle
