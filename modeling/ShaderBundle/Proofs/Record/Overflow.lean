/-
# Proofs.Record.Overflow — where writing stops

Writing a record stops at the first field that does not fit.  Which one that is, and what has
been written by then, is said here part by part (`Part`): a part has its bytes, it fits or
not, and if not, it stops after some of its bytes with a fault that names the field.  (A number
is named by its role and value, a text by its length; what was written tells which.)  A list
stops at its length, or in the first item that does not fit, after its length and all items
before that one (`ListStops`); a record stops in one of its five parts, after the parts before
it (`RecordStops`).

The layout by fields says the same (`Part.Describes`), so an interface is written exactly as
far as that, behind what the buffer held (`writeAll_stops`).
-/
import Mathlib.Tactic.ByContra
import ShaderBundle.Proofs.Record.Format

namespace ShaderBundle.Record

set_option autoImplicit false

/-! ## Fields -/

namespace Field

theorem fault?_byte_eq_some_iff (role : String) (n : Nat) (fault : Fault) :
    (byte role n).fault? = some fault ↔ 2 ^ 8 ≤ n ∧ fault = .byteOverflow role n := by
  rw [fault?, Option.ite_none_left_eq_some, Nat.not_lt, Option.some.injEq, eq_comm (a := fault)]
  exact Iff.rfl

theorem fault?_word_eq_some_iff (role : String) (n : Nat) (fault : Fault) :
    (word role n).fault? = some fault ↔ 2 ^ 16 ≤ n ∧ fault = .wordOverflow role n := by
  rw [fault?, Option.ite_none_left_eq_some, Nat.not_lt, Option.some.injEq, eq_comm (a := fault)]
  exact Iff.rfl

theorem fault?_text_eq_none_iff (s : String) : (text s).fault? = none ↔ TextFits s := fault?_text s

theorem fault?_text_eq_some_iff (s : String) (fault : Fault) :
    (text s).fault? = some fault ↔
      ¬ TextFits s ∧ fault = .longText (Text.Utf8.bytes s).length := by
  rw [fault?, Option.ite_none_left_eq_some, Option.some.injEq, eq_comm (a := fault)]
  exact Iff.rfl

end Field

/-- Writing fields stops with a fault, after some bytes. -/
def Stops (fs : List Field) (written : List UInt8) (fault : Fault) : Prop :=
  writeFields fs = ⟨written, some fault⟩

section

variable {written : List UInt8} {fault : Fault}

theorem not_stops_nil : ¬ Stops [] written fault := by
  intro stops
  cases stops

theorem stops_cons_iff (f : Field) (fs : List Field) :
    Stops (f :: fs) written fault ↔ f.fault? = some fault ∧ written = [] ∨
      f.fault? = none ∧ ∃ later, Stops fs later fault ∧ written = f.bytes ++ later := by
  unfold Stops
  cases found : f.fault? with
  | some other =>
      simp only [writeFields, found, Written.mk.injEq, Option.some.injEq, reduceCtorEq, false_and,
        or_false]
      rw [and_comm, eq_comm (a := written)]
  | none =>
      simp only [writeFields, found, Written.mk.injEq, reduceCtorEq, false_and, false_or, true_and]
      constructor
      · rintro ⟨rfl, stops⟩
        exact ⟨_, congrArg (Written.mk _) stops, rfl⟩
      · rintro ⟨later, stops, rfl⟩
        rw [stops]
        exact ⟨rfl, rfl⟩

theorem stops_append_iff (fs gs : List Field) :
    Stops (fs ++ gs) written fault ↔ Stops fs written fault ∨
      Fit fs ∧ ∃ later, Stops gs later fault ∧ written = bytesOf fs ++ later := by
  induction fs generalizing written with
  | nil => simp [not_stops_nil]
  | cons f fs ih =>
      rw [List.cons_append, stops_cons_iff, stops_cons_iff, fit_cons]
      simp only [ih, bytesOf_cons]
      constructor
      · rintro (⟨own, rfl⟩ | ⟨fits, later, stops | ⟨fit, last, stops, rfl⟩, rfl⟩)
        · exact .inl (.inl ⟨own, rfl⟩)
        · exact .inl (.inr ⟨fits, later, stops, rfl⟩)
        · exact .inr ⟨⟨fits, fit⟩, last, stops, (List.append_assoc _ _ _).symm⟩
      · rintro ((⟨own, rfl⟩ | ⟨fits, later, stops, rfl⟩) | ⟨⟨fits, fit⟩, last, stops, rfl⟩)
        · exact .inl ⟨own, rfl⟩
        · exact .inr ⟨fits, later, .inl stops, rfl⟩
        · exact .inr ⟨fits, _, .inr ⟨fit, last, stops, rfl⟩, List.append_assoc _ _ _⟩

/-- Items one after the other stop in the first that does not fit. -/
theorem stops_flatMap_iff {α : Type} (layout : α → List Field) (items : List α) :
    Stops (items.flatMap layout) written fault ↔
      ∃ before a after later, items = before ++ a :: after ∧ (∀ b ∈ before, Fit (layout b)) ∧
        Stops (layout a) later fault ∧ written = bytesOf (before.flatMap layout) ++ later := by
  induction items generalizing written with
  | nil => simp [not_stops_nil]
  | cons first rest ih =>
      rw [List.flatMap_cons, stops_append_iff]
      simp only [ih]
      constructor
      · rintro (own | ⟨fit, _, ⟨before, a, after, later, rfl, fits, stops, rfl⟩, rfl⟩)
        · exact ⟨[], first, rest, written, rfl, by simp, own, rfl⟩
        · refine ⟨first :: before, a, after, later, rfl, List.forall_mem_cons.mpr ⟨fit, fits⟩,
            stops, ?_⟩
          simp
      · rintro ⟨before, a, after, later, split, fits, stops, rfl⟩
        cases before with
        | nil =>
            cases split
            exact .inl stops
        | cons b before =>
            cases split
            rw [List.forall_mem_cons] at fits
            exact .inr ⟨fits.1, _, ⟨before, a, after, later, rfl, fits.2, stops, rfl⟩, by simp⟩

end

/-! ## Parts -/

/-- What is written for a value: its bytes, when they all fit, and where writing stops when
they do not. -/
structure Part (α : Type) where
  bytes : α → List UInt8
  Fits : α → Prop
  StopsAt : α → List UInt8 → Fault → Prop

/-- Where a list stops: at its length, or in the first item that does not fit. -/
inductive ListStops {α : Type} (role : String) (p : Part α) :
    List α → List UInt8 → Fault → Prop where
  | length {items : List α} : 2 ^ 16 ≤ items.length →
      ListStops role p items [] (.wordOverflow role items.length)
  | item {before after : List α} {a : α} {written : List UInt8} {fault : Fault} :
      (before ++ a :: after).length < 2 ^ 16 → (∀ b ∈ before, p.Fits b) →
      p.StopsAt a written fault →
      ListStops role p (before ++ a :: after)
        (wordBytes (before ++ a :: after).length ++ before.flatMap p.bytes ++ written) fault

def Part.list {α : Type} (role : String) (p : Part α) : Part (List α) where
  bytes := countedBytes p.bytes
  Fits items := items.length < 2 ^ 16 ∧ ∀ a ∈ items, p.Fits a
  StopsAt := ListStops role p

inductive AttributeStops (a : Attribute) : List UInt8 → Fault → Prop where
  | name : ¬ TextFits a.name → AttributeStops a [] (.longText (Text.Utf8.bytes a.name).length)
  | semName : TextFits a.name → ¬ TextFits a.semName →
      AttributeStops a (textBytes a.name ++ wordBytes a.slot.toNat)
        (.longText (Text.Utf8.bytes a.semName).length)
  | semIndex : TextFits a.name → TextFits a.semName → 2 ^ 8 ≤ a.semIndex.toNat →
      AttributeStops a (textBytes a.name ++ wordBytes a.slot.toNat ++ textBytes a.semName)
        (.byteOverflow "semantic index" a.semIndex.toNat)

/-- Where a member of a block stops. -/
inductive UniformStops (u : Uniform) : List UInt8 → Fault → Prop where
  | name : ¬ TextFits u.name → UniformStops u [] (.longText (Text.Utf8.bytes u.name).length)
  | arrayCount : TextFits u.name → 2 ^ 16 ≤ u.arrayCount.toNat →
      UniformStops u (textBytes u.name ++ [u.type.byte])
        (.wordOverflow "array count" u.arrayCount.toNat)
  | offset : TextFits u.name → u.arrayCount.toNat < 2 ^ 16 → 2 ^ 16 ≤ u.offset.toNat →
      UniformStops u (textBytes u.name ++ [u.type.byte] ++ wordBytes u.arrayCount.toNat)
        (.wordOverflow "uniform offset" u.offset.toNat)

inductive ImageStops (i : RecordImage) : List UInt8 → Fault → Prop where
  | name : ¬ TextFits i.name → ImageStops i [] (.longText (Text.Utf8.bytes i.name).length)
  | slot : TextFits i.name → 2 ^ 16 ≤ i.slot.toNat →
      ImageStops i (textBytes i.name) (.wordOverflow "image slot" i.slot.toNat)

def attributePart : Part Attribute where
  bytes := attributeBytes
  Fits a := TextFits a.name ∧ TextFits a.semName ∧ a.semIndex.toNat < 2 ^ 8
  StopsAt := AttributeStops

def uniformPart : Part Uniform where
  bytes := uniformBytes
  Fits u := TextFits u.name ∧ u.arrayCount.toNat < 2 ^ 16 ∧ u.offset.toNat < 2 ^ 16
  StopsAt := UniformStops

def imagePart : Part RecordImage where
  bytes := imageBytes
  Fits i := TextFits i.name ∧ i.slot.toNat < 2 ^ 16
  StopsAt := ImageStops

def attributesPart : Part (List Attribute) := attributePart.list "attribute count"

def blocksPart : Part (List (List Uniform)) :=
  (uniformPart.list "uniform count").list "uniform block count"

def imagesPart : Part (List RecordImage) := imagePart.list "image count"

/-- What always fits: the mark, the version and the stage. -/
def opening (r : Record) : List UInt8 := [0x53, 0x48, 0x44, 0x43] ++ [1, 0] ++ [r.stage.byte]

/-- Where a record stops: in the first part that does not fit, after all parts before it. -/
inductive RecordStops (r : Record) : List UInt8 → Fault → Prop where
  | entryPoint : ¬ TextFits r.entryPoint →
      RecordStops r (opening r) (.longText (Text.Utf8.bytes r.entryPoint).length)
  | inputs {written : List UInt8} {fault : Fault} : TextFits r.entryPoint →
      attributesPart.StopsAt r.inputs written fault →
      RecordStops r (opening r ++ textBytes r.entryPoint ++ written) fault
  | outputs {written : List UInt8} {fault : Fault} : TextFits r.entryPoint →
      attributesPart.Fits r.inputs → attributesPart.StopsAt r.outputs written fault →
      RecordStops r (opening r ++ textBytes r.entryPoint ++ attributesPart.bytes r.inputs
        ++ written) fault
  | uniformBlocks {written : List UInt8} {fault : Fault} : TextFits r.entryPoint →
      attributesPart.Fits r.inputs → attributesPart.Fits r.outputs →
      blocksPart.StopsAt r.uniformBlocks written fault →
      RecordStops r (opening r ++ textBytes r.entryPoint ++ attributesPart.bytes r.inputs
        ++ attributesPart.bytes r.outputs ++ written) fault
  | images {written : List UInt8} {fault : Fault} : TextFits r.entryPoint →
      attributesPart.Fits r.inputs → attributesPart.Fits r.outputs →
      blocksPart.Fits r.uniformBlocks → imagesPart.StopsAt r.images written fault →
      RecordStops r (opening r ++ textBytes r.entryPoint ++ attributesPart.bytes r.inputs
        ++ attributesPart.bytes r.outputs ++ blocksPart.bytes r.uniformBlocks ++ written) fault

/-! ## Parts by fields -/

/-- A layout writes a part: it has its bytes, fits when it does, and stops where it does. -/
structure Part.Describes {α : Type} (p : Part α) (layout : α → List Field) : Prop where
  bytes : ∀ a, bytesOf (layout a) = p.bytes a
  fits : ∀ a, Fit (layout a) ↔ p.Fits a
  stops : ∀ a written fault, Stops (layout a) written fault ↔ p.StopsAt a written fault

theorem Part.Describes.list {α : Type} {p : Part α} {layout : α → List Field}
    (describes : p.Describes layout) (role : String) :
    (p.list role).Describes (listFields role layout) where
  bytes := bytesOf_listFields role layout p.bytes describes.bytes
  fits items := by
    rw [fit_listFields, fit_flatMap]
    exact and_congr_right fun _ => forall₂_congr fun a _ => describes.fits a
  stops items written fault := by
    have before (done : List α) : bytesOf (done.flatMap layout) = done.flatMap p.bytes := by
      rw [bytesOf, List.flatMap_assoc]
      exact List.flatMap_congr fun a _ => describes.bytes a
    change _ ↔ ListStops role p items written fault
    rw [listFields, stops_cons_iff, Field.fault?_word_eq_some_iff, Field.fault?_word]
    simp only [stops_flatMap_iff, describes.fits, describes.stops, before]
    constructor
    · rintro (⟨⟨long, rfl⟩, rfl⟩ | ⟨short, _, ⟨done, a, after, last, rfl, fits, stops, rfl⟩, rfl⟩)
      · exact .length long
      · rw [← List.append_assoc]
        exact .item short fits stops
    · rintro (long | ⟨short, fits, stops⟩)
      · exact .inl ⟨⟨long, rfl⟩, rfl⟩
      · exact .inr ⟨short, _, ⟨_, _, _, _, rfl, fits, stops, rfl⟩, List.append_assoc _ _ _⟩

theorem attributePart_describes : attributePart.Describes attributeFields where
  bytes a := by simp [attributeFields, attributePart, attributeBytes, Field.bytes]
  fits := fit_attributeFields
  stops a written fault := by
    change _ ↔ AttributeStops a written fault
    simp only [attributeFields, stops_cons_iff, not_stops_nil, Field.fault?_text_eq_some_iff,
      Field.fault?_text_eq_none_iff, Field.fault?_byte_eq_some_iff, Field.fault?_fixed, Field.bytes,
      reduceCtorEq, false_and, false_or, true_and, and_false, exists_false, or_false]
    constructor
    · rintro (⟨⟨long, rfl⟩, rfl⟩ | ⟨name, _, ⟨_, ⟨⟨long, rfl⟩, rfl⟩ |
        ⟨semName, _, ⟨⟨large, rfl⟩, rfl⟩, rfl⟩, rfl⟩, rfl⟩)
      · exact .name long
      · rw [List.append_nil]
        exact .semName name long
      · rw [List.append_nil, ← List.append_assoc]
        exact .semIndex name semName large
    · rintro (long | ⟨name, long⟩ | ⟨name, semName, large⟩)
      · exact .inl ⟨⟨long, rfl⟩, rfl⟩
      · exact .inr ⟨name, _, ⟨_, .inl ⟨⟨long, rfl⟩, rfl⟩, rfl⟩, by simp⟩
      · exact .inr ⟨name, _, ⟨_, .inr ⟨semName, _, ⟨⟨large, rfl⟩, rfl⟩, rfl⟩, rfl⟩, by simp⟩

theorem uniformPart_describes : uniformPart.Describes uniformFields where
  bytes u := by simp [uniformFields, uniformPart, uniformBytes, Field.bytes]
  fits := fit_uniformFields
  stops u written fault := by
    change _ ↔ UniformStops u written fault
    simp only [uniformFields, stops_cons_iff, not_stops_nil, Field.fault?_text_eq_some_iff,
      Field.fault?_text_eq_none_iff, Field.fault?_word_eq_some_iff, Field.fault?_word,
      Field.fault?_fixed, Field.bytes, reduceCtorEq, false_and, false_or, true_and, and_false,
      exists_false, or_false]
    constructor
    · rintro (⟨⟨long, rfl⟩, rfl⟩ | ⟨name, _, ⟨_, ⟨⟨large, rfl⟩, rfl⟩ |
        ⟨count, _, ⟨⟨large, rfl⟩, rfl⟩, rfl⟩, rfl⟩, rfl⟩)
      · exact .name long
      · rw [List.append_nil]
        exact .arrayCount name large
      · rw [List.append_nil, ← List.append_assoc]
        exact .offset name count large
    · rintro (long | ⟨name, large⟩ | ⟨name, count, large⟩)
      · exact .inl ⟨⟨long, rfl⟩, rfl⟩
      · exact .inr ⟨name, _, ⟨_, .inl ⟨⟨large, rfl⟩, rfl⟩, rfl⟩, by simp⟩
      · exact .inr ⟨name, _, ⟨_, .inr ⟨count, _, ⟨⟨large, rfl⟩, rfl⟩, rfl⟩, rfl⟩, by simp⟩

theorem imagePart_describes : imagePart.Describes imageFields where
  bytes i := by simp [imageFields, imagePart, imageBytes, Field.bytes]
  fits := fit_imageFields
  stops i written fault := by
    change _ ↔ ImageStops i written fault
    simp only [imageFields, stops_cons_iff, not_stops_nil, Field.fault?_text_eq_some_iff,
      Field.fault?_text_eq_none_iff, Field.fault?_word_eq_some_iff, Field.fault?_fixed, Field.bytes,
      reduceCtorEq, false_and, and_false, exists_false, or_false]
    constructor
    · rintro (⟨⟨long, rfl⟩, rfl⟩ | ⟨name, _, ⟨⟨large, rfl⟩, rfl⟩, rfl⟩)
      · exact .name long
      · rw [List.append_nil]
        exact .slot name large
    · rintro (long | ⟨name, large⟩)
      · exact .inl ⟨⟨long, rfl⟩, rfl⟩
      · exact .inr ⟨name, _, ⟨⟨large, rfl⟩, rfl⟩, by simp⟩

def openingFields (r : Record) : List Field :=
  [.fixed mark, .fixed (wordBytes version), .fixed [r.stage.byte], .text r.entryPoint]

theorem bytesOf_openingFields (r : Record) :
    bytesOf r.openingFields = opening r ++ textBytes r.entryPoint := by
  simp [openingFields, opening, Field.bytes, mark, version, wordBytes]

theorem fit_openingFields (r : Record) : Fit r.openingFields ↔ TextFits r.entryPoint := by
  simp [openingFields, TextFits]

theorem stops_openingFields_iff (r : Record) (written : List UInt8) (fault : Fault) :
    Stops r.openingFields written fault ↔ ¬ TextFits r.entryPoint ∧ written = opening r ∧
      fault = .longText (Text.Utf8.bytes r.entryPoint).length := by
  simp only [openingFields, stops_cons_iff, not_stops_nil, Field.fault?_text_eq_some_iff,
    Field.fault?_fixed, Field.bytes, reduceCtorEq, false_and, false_or, true_and, and_false,
    exists_false, or_false]
  constructor
  · rintro ⟨_, ⟨_, ⟨_, ⟨⟨long, rfl⟩, rfl⟩, rfl⟩, rfl⟩, rfl⟩
    exact ⟨long, rfl, rfl⟩
  · rintro ⟨long, rfl, rfl⟩
    exact ⟨_, ⟨_, ⟨_, ⟨⟨long, rfl⟩, rfl⟩, rfl⟩, rfl⟩, rfl⟩

/-- Writing a record stops where its parts say. -/
theorem stops_fields_iff (r : Record) (written : List UInt8) (fault : Fault) :
    Stops r.fields written fault ↔ RecordStops r written fault := by
  have attributes : attributesPart.Describes (listFields "attribute count" attributeFields) :=
    attributePart_describes.list _
  have blocks : blocksPart.Describes
      (listFields "uniform block count" (listFields "uniform count" uniformFields)) :=
    (uniformPart_describes.list _).list _
  have images : imagesPart.Describes (listFields "image count" imageFields) :=
    imagePart_describes.list _
  change Stops (r.openingFields ++ _ ++ _ ++ _ ++ _) written fault ↔ _
  simp only [stops_append_iff, stops_openingFields_iff, fit_append, fit_openingFields,
    bytesOf_append, bytesOf_openingFields, attributes.fits, attributes.stops, attributes.bytes,
    blocks.fits, blocks.stops, blocks.bytes, images.stops]
  constructor
  · rintro ((((⟨long, rfl, rfl⟩ | ⟨entry, later, stops, rfl⟩) | ⟨⟨entry, inputs⟩, later, stops, rfl⟩) |
      ⟨⟨⟨entry, inputs⟩, outputs⟩, later, stops, rfl⟩) |
      ⟨⟨⟨⟨entry, inputs⟩, outputs⟩, blocks⟩, later, stops, rfl⟩)
    · exact .entryPoint long
    · exact .inputs entry stops
    · exact .outputs entry inputs stops
    · exact .uniformBlocks entry inputs outputs stops
    · exact .images entry inputs outputs blocks stops
  · rintro (long | ⟨entry, stops⟩ | ⟨entry, inputs, stops⟩ | ⟨entry, inputs, outputs, stops⟩ |
      ⟨entry, inputs, outputs, blocks, stops⟩)
    · exact .inl (.inl (.inl (.inl ⟨long, rfl, rfl⟩)))
    · exact .inl (.inl (.inl (.inr ⟨entry, _, stops, rfl⟩)))
    · exact .inl (.inl (.inr ⟨⟨entry, inputs⟩, _, stops, rfl⟩))
    · exact .inl (.inr ⟨⟨⟨entry, inputs⟩, outputs⟩, _, stops, rfl⟩)
    · exact .inr ⟨⟨⟨⟨entry, inputs⟩, outputs⟩, blocks⟩, _, stops, rfl⟩

/-! ## Interfaces -/

/-- Something of an interface does not fit its width.  Slots of attributes and their number
always fit. -/
inductive Overflows (i : Interface) : Prop where
  | entryPoint : 65535 < (Text.Utf8.bytes i.entryPoint).length → Overflows i
  | attributeName {a : Attribute} : a ∈ i.inputs.toList ++ i.outputs.toList →
      65535 < (Text.Utf8.bytes a.name).length → Overflows i
  | semName {a : Attribute} : a ∈ i.inputs.toList ++ i.outputs.toList →
      65535 < (Text.Utf8.bytes a.semName).length → Overflows i
  | semIndex {a : Attribute} : a ∈ i.inputs.toList ++ i.outputs.toList →
      255 < a.semIndex.toNat → Overflows i
  | blockCount : 65535 < i.uniformBlocks.length → Overflows i
  | uniformCount {b : UniformBlock} : b ∈ i.uniformBlocks → 65535 < b.uniforms.length →
      Overflows i
  | uniformName {b : UniformBlock} {u : Uniform} : b ∈ i.uniformBlocks → u ∈ b.uniforms →
      65535 < (Text.Utf8.bytes u.name).length → Overflows i
  | arrayCount {b : UniformBlock} {u : Uniform} : b ∈ i.uniformBlocks → u ∈ b.uniforms →
      65535 < u.arrayCount.toNat → Overflows i
  | offset {b : UniformBlock} {u : Uniform} : b ∈ i.uniformBlocks → u ∈ b.uniforms →
      65535 < u.offset.toNat → Overflows i
  | imageCount : 65535 < i.images.length → Overflows i
  | imageName {m : Image} : m ∈ i.images → 65535 < (Text.Utf8.bytes m.name).length → Overflows i
  | imageSlot {m : Image} : m ∈ i.images → 65535 < m.slot.toNat → Overflows i

theorem length_toList_le (s : AttributeSlots) : s.toList.length ≤ maxAttributes := by
  have counted := List.length_filterMap_le id s.cells.toList
  rwa [Vector.length_toList] at counted

theorem withinWidths_of_not_overflows {i : Interface} (small : ¬ Overflows i) :
    WithinWidths (ofInterface i) where
  entryPoint := by
    by_contra long
    exact small (.entryPoint (Nat.not_lt.mp long))
  inputs := Nat.lt_of_le_of_lt (length_toList_le i.inputs) (by decide)
  outputs := Nat.lt_of_le_of_lt (length_toList_le i.outputs) (by decide)
  eachAttribute a given := by
    refine ⟨?_, ?_, ?_⟩
    · by_contra long
      exact small (.attributeName given (Nat.not_lt.mp long))
    · by_contra long
      exact small (.semName given (Nat.not_lt.mp long))
    · by_contra large
      exact small (.semIndex given (Nat.not_lt.mp large))
  uniformBlocks := by
    by_contra many
    rw [ofInterface, List.length_map] at many
    exact small (.blockCount (Nat.not_lt.mp many))
  uniforms us given := by
    obtain ⟨b, isBlock, rfl⟩ := List.mem_map.mp given
    by_contra many
    exact small (.uniformCount isBlock (Nat.not_lt.mp many))
  eachUniform us given u among := by
    obtain ⟨b, isBlock, rfl⟩ := List.mem_map.mp given
    refine ⟨?_, ?_, ?_⟩
    · by_contra long
      exact small (.uniformName isBlock among (Nat.not_lt.mp long))
    · by_contra large
      exact small (.arrayCount isBlock among (Nat.not_lt.mp large))
    · by_contra large
      exact small (.offset isBlock among (Nat.not_lt.mp large))
  images := by
    by_contra many
    rw [ofInterface, List.length_map] at many
    exact small (.imageCount (Nat.not_lt.mp many))
  eachImage m given := by
    obtain ⟨m, isImage, rfl⟩ := List.mem_map.mp given
    refine ⟨?_, ?_⟩
    · by_contra long
      exact small (.imageName isImage (Nat.not_lt.mp long))
    · by_contra large
      exact small (.imageSlot isImage (Nat.not_lt.mp large))

theorem not_withinWidths_of_overflows {i : Interface} (overflows : Overflows i) :
    ¬ WithinWidths (ofInterface i) := by
  have block {b : UniformBlock} (isBlock : b ∈ i.uniformBlocks) :
      b.uniforms ∈ (ofInterface i).uniformBlocks := List.mem_map_of_mem isBlock
  have image {m : Image} (isImage : m ∈ i.images) : m.forRecord ∈ (ofInterface i).images :=
    List.mem_map_of_mem isImage
  intro within
  have blocks := within.uniformBlocks
  have images := within.images
  simp only [ofInterface, List.length_map] at blocks images
  cases overflows with
  | entryPoint long => exact Nat.not_lt.mpr long within.entryPoint
  | attributeName given long => exact Nat.not_lt.mpr long (within.eachAttribute _ given).1
  | semName given long => exact Nat.not_lt.mpr long (within.eachAttribute _ given).2.1
  | semIndex given large => exact Nat.not_lt.mpr large (within.eachAttribute _ given).2.2
  | blockCount many => exact Nat.not_lt.mpr many blocks
  | uniformCount isBlock many => exact Nat.not_lt.mpr many (within.uniforms _ (block isBlock))
  | uniformName isBlock among long =>
      exact Nat.not_lt.mpr long (within.eachUniform _ (block isBlock) _ among).1
  | arrayCount isBlock among large =>
      exact Nat.not_lt.mpr large (within.eachUniform _ (block isBlock) _ among).2.1
  | offset isBlock among large =>
      exact Nat.not_lt.mpr large (within.eachUniform _ (block isBlock) _ among).2.2
  | imageCount many => exact Nat.not_lt.mpr many images
  | imageName isImage long => exact Nat.not_lt.mpr long (within.eachImage _ (image isImage)).1
  | imageSlot isImage large => exact Nat.not_lt.mpr large (within.eachImage _ (image isImage)).2

theorem overflows_iff (i : Interface) : Overflows i ↔ ¬ WithinWidths (ofInterface i) := by
  refine ⟨not_withinWidths_of_overflows, ?_⟩
  intro wide
  by_contra small
  exact wide (withinWidths_of_not_overflows small)

theorem writeAll_eq_fault_iff (buffer written : List UInt8) (i : Interface) (fault : Fault) :
    writeAll buffer [i] = ⟨buffer ++ written, some fault⟩ ↔
      RecordStops (ofInterface i) written fault := by
  rw [← stops_fields_iff, writeAll_singleton]
  change _ ↔ (ofInterface i).write = _
  obtain ⟨bytes, found⟩ := (ofInterface i).write
  simp only [Written.mk.injEq, List.append_cancel_left_eq]

theorem writeAll_eq_done_iff (buffer : List UInt8) (i : Interface) :
    writeAll buffer [i] = ⟨buffer ++ format (ofInterface i), none⟩ ↔ ¬ Overflows i := by
  rw [overflows_iff, not_not, ← write_fault_eq_none_iff, writeAll_singleton, Written.mk.injEq]
  constructor
  · exact And.right
  · intro accepted
    exact ⟨by rw [write_bytes accepted], accepted⟩

/-- **Writing an interface stops exactly when something of it does not fit, and then in the
first field that does not, with everything before it written and nothing of what follows.**
Otherwise the whole record is written. -/
theorem writeAll_stops (buffer : List UInt8) (i : Interface) :
    (Overflows i ↔ ∃ written fault, writeAll buffer [i] = ⟨buffer ++ written, some fault⟩) ∧
      (∀ written fault, writeAll buffer [i] = ⟨buffer ++ written, some fault⟩ ↔
        RecordStops (ofInterface i) written fault) ∧
      (¬ Overflows i ↔ writeAll buffer [i] = ⟨buffer ++ format (ofInterface i), none⟩) := by
  refine ⟨?_, fun _ _ => writeAll_eq_fault_iff _ _ _ _, (writeAll_eq_done_iff buffer i).symm⟩
  constructor
  · intro overflows
    have stopped : (ofInterface i).write.fault ≠ none := by
      rw [ne_eq, write_fault_eq_none_iff]
      exact not_withinWidths_of_overflows overflows
    obtain ⟨fault, found⟩ := Option.ne_none_iff_exists'.mp stopped
    exact ⟨_, fault, by rw [writeAll_singleton, found]⟩
  · rintro ⟨written, fault, stopped⟩
    by_contra small
    rw [(writeAll_eq_done_iff buffer i).mpr small] at stopped
    injection stopped with _ same
    cases same

/-- The interface of the stream with two members that do not fit: the first by its offset, and
the second, which is not reached, by its array count. -/
def wideInterface : Interface :=
  { litInterface with
    uniformBlocks := [⟨4, 96, "params",
      [⟨"mvp", .mat4, 0, 70000⟩, ⟨"lights", .float3, 65536, 64⟩], none⟩] }

def wideWritten : List UInt8 :=
  opening (ofInterface wideInterface) ++ textBytes "größe"
    ++ attributesPart.bytes [.atSlot 3 "法線"] ++ attributesPart.bytes []
    ++ (wordBytes 1 ++ (wordBytes 2 ++ (textBytes "mvp" ++ [UniformType.mat4.byte] ++ wordBytes 0)))

theorem writeAll_stops_wide :
    Overflows wideInterface ∧
      writeAll [7] [wideInterface] =
        ⟨[7] ++ wideWritten, some (.wordOverflow "uniform offset" 70000)⟩ ∧
      RecordStops (ofInterface wideInterface) wideWritten (.wordOverflow "uniform offset" 70000) := by
  have stopped : writeAll [7] [wideInterface] =
      ⟨[7] ++ wideWritten, some (.wordOverflow "uniform offset" 70000)⟩ := by decide
  exact ⟨(writeAll_stops [7] wideInterface).1.mpr ⟨_, _, stopped⟩, stopped,
    ((writeAll_stops [7] wideInterface).2.1 _ _).mp stopped⟩

end ShaderBundle.Record
