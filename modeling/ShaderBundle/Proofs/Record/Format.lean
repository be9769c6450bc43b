/-
# Proofs.Record.Format — the bytes of a record, and no others

`format` writes a record down byte by byte, and `WithinWidths` lists what has to fit: the
number of items of every list, the bytes of every text, and the numbers that are stored
narrower than they are kept.  Neither mentions fields or writing.

The layout that is written and read by fields agrees with both (`bytesOf_fields`,
`fit_fields_iff`).  So a record within the widths is read from its format and from nothing
else, whatever its attributes are: their slots may repeat, stand in any order, and pass the
last slot of a stage, although no interface has such attributes.
-/
import Mathlib.Data.List.Forall2
import ShaderBundle.Proofs.Record.Stream

namespace ShaderBundle.Record

set_option autoImplicit false

/-! ## The format -/

/-- A list: its length, then its items. -/
def countedBytes {α : Type} (item : α → List UInt8) (items : List α) : List UInt8 :=
  wordBytes items.length ++ items.flatMap item

/-- An attribute: name, slot, semantic name, and semantic index in one byte. -/
def attributeBytes (a : Attribute) : List UInt8 :=
  textBytes a.name ++ wordBytes a.slot.toNat ++ textBytes a.semName
    ++ [UInt8.ofNat a.semIndex.toNat]

/-- A member of a block: name, type, array count, offset. -/
def uniformBytes (u : Uniform) : List UInt8 :=
  textBytes u.name ++ [u.type.byte] ++ wordBytes u.arrayCount.toNat ++ wordBytes u.offset.toNat

/-- An image: name, slot, type, sample type. -/
def imageBytes (i : RecordImage) : List UInt8 :=
  textBytes i.name ++ wordBytes i.slot.toNat ++ [i.type.byte, i.sampleType.byte]

/-- A record: `SHDC`, version 1, stage, entry point, inputs, outputs, blocks, images. -/
def format (r : Record) : List UInt8 :=
  [0x53, 0x48, 0x44, 0x43] ++ [1, 0] ++ [r.stage.byte] ++ textBytes r.entryPoint
    ++ countedBytes attributeBytes r.inputs ++ countedBytes attributeBytes r.outputs
    ++ countedBytes (countedBytes uniformBytes) r.uniformBlocks
    ++ countedBytes imageBytes r.images

def TextFits (s : String) : Prop := (Text.Utf8.bytes s).length < 2 ^ 16

/-- Everything that a record counts or stores fits the width it has in the format. -/
structure WithinWidths (r : Record) : Prop where
  entryPoint : TextFits r.entryPoint
  inputs : r.inputs.length < 2 ^ 16
  outputs : r.outputs.length < 2 ^ 16
  eachAttribute : ∀ a ∈ r.inputs ++ r.outputs,
    TextFits a.name ∧ TextFits a.semName ∧ a.semIndex.toNat < 2 ^ 8
  uniformBlocks : r.uniformBlocks.length < 2 ^ 16
  uniforms : ∀ us ∈ r.uniformBlocks, us.length < 2 ^ 16
  eachUniform : ∀ us ∈ r.uniformBlocks, ∀ u ∈ us,
    TextFits u.name ∧ u.arrayCount.toNat < 2 ^ 16 ∧ u.offset.toNat < 2 ^ 16
  images : r.images.length < 2 ^ 16
  eachImage : ∀ i ∈ r.images, TextFits i.name ∧ i.slot.toNat < 2 ^ 16

/-! ## The format by fields -/

section

variable {α : Type}

theorem fit_flatMap (layout : α → List Field) (items : List α) :
    Fit (items.flatMap layout) ↔ ∀ a ∈ items, Fit (layout a) := by
  induction items with
  | nil => simp
  | cons a rest ih => rw [List.flatMap_cons, fit_append, ih, List.forall_mem_cons]

theorem bytesOf_listFields (role : String) (layout : α → List Field) (item : α → List UInt8)
    (same : ∀ a, bytesOf (layout a) = item a) (items : List α) :
    bytesOf (listFields role layout items) = countedBytes item items := by
  have inner : bytesOf (items.flatMap layout) = items.flatMap item := by
    induction items with
    | nil => rfl
    | cons a rest ih => rw [List.flatMap_cons, bytesOf_append, same, ih, List.flatMap_cons]
  rw [listFields, bytesOf_cons, inner]
  rfl

end

/-- The fields of a record hold the bytes of its format. -/
theorem bytesOf_fields (r : Record) : bytesOf r.fields = format r := by
  have ofAttribute (a : Attribute) : bytesOf (attributeFields a) = attributeBytes a := by
    simp [attributeFields, attributeBytes, Field.bytes]
  have ofUniform (u : Uniform) : bytesOf (uniformFields u) = uniformBytes u := by
    simp [uniformFields, uniformBytes, Field.bytes]
  have ofImage (i : RecordImage) : bytesOf (imageFields i) = imageBytes i := by
    simp [imageFields, imageBytes, Field.bytes]
  have ofBlock (us : List Uniform) :
      bytesOf (listFields "uniform count" uniformFields us) = countedBytes uniformBytes us :=
    bytesOf_listFields _ _ _ ofUniform us
  have front : bytesOf [.fixed mark, .fixed (wordBytes version), .fixed [r.stage.byte],
      .text r.entryPoint] =
        [0x53, 0x48, 0x44, 0x43] ++ [1, 0] ++ [r.stage.byte] ++ textBytes r.entryPoint := by
    simp [Field.bytes, mark, version, wordBytes]
  simp only [fields, format, bytesOf_append, front, bytesOf_listFields _ _ _ ofAttribute,
    bytesOf_listFields _ _ _ ofBlock, bytesOf_listFields _ _ _ ofImage]

/-- The fields of a record fit exactly when the record is within the widths. -/
theorem fit_fields_iff (r : Record) : Fit r.fields ↔ WithinWidths r := by
  simp only [fit_fields, fit_listFields, fit_flatMap, fit_attributeFields, fit_uniformFields,
    fit_imageFields]
  constructor
  · rintro ⟨entryPoint, ⟨inputs, input⟩, ⟨outputs, output⟩, ⟨uniformBlocks, block⟩, images, image⟩
    refine ⟨entryPoint, inputs, outputs, ?_, uniformBlocks, fun us given => (block us given).1,
      fun us given => (block us given).2, images, image⟩
    intro a given
    rcases List.mem_append.mp given with isInput | isOutput
    · exact input a isInput
    · exact output a isOutput
  · intro within
    refine ⟨within.entryPoint, ⟨within.inputs, ?_⟩, ⟨within.outputs, ?_⟩,
      ⟨within.uniformBlocks, ?_⟩, within.images, within.eachImage⟩
    · intro a isInput
      exact within.eachAttribute a (List.mem_append_left _ isInput)
    · intro a isOutput
      exact within.eachAttribute a (List.mem_append_right _ isOutput)
    · intro us given
      exact ⟨within.uniforms us given, within.eachUniform us given⟩

/-! ## Reading and writing -/

theorem read_eq_ok_iff (bs : List UInt8) (r : Record) (rest : List UInt8) :
    read bs = .ok r rest ↔ WithinWidths r ∧ bs = format r ++ rest := by
  rw [read_reads, fit_fields_iff, bytesOf_fields]

theorem writeAll_singleton (buffer : List UInt8) (i : Interface) :
    writeAll buffer [i] = ⟨buffer ++ (ofInterface i).write.bytes, (ofInterface i).write.fault⟩ := by
  unfold writeAll
  rw [writeInterface_eq]
  cases written : (ofInterface i).write.fault with
  | none => simp only [written, writeAll]
  | some fault => simp only [written]

theorem write_fault_eq_none_iff (r : Record) : r.write.fault = none ↔ WithinWidths r := by
  rw [← fit_fields_iff]
  constructor
  · exact fit_of_fault_eq_none
  · intro fit
    rw [write, writeFields_of_fit fit]

theorem write_bytes {r : Record} (accepted : r.write.fault = none) : r.write.bytes = format r := by
  rw [← bytesOf_fields, write, writeFields_of_fit (fit_of_fault_eq_none accepted)]

/-- Two interfaces that differ at most in the names, slots and sizes of their blocks and in
unique indices. -/
structure DifferInHeads (i j : Interface) : Prop where
  stage : i.stage = j.stage
  entryPoint : i.entryPoint = j.entryPoint
  inputs : i.inputs = j.inputs
  outputs : i.outputs = j.outputs
  uniformBlocks : List.Forall₂ (fun a b => a.uniforms = b.uniforms) i.uniformBlocks j.uniformBlocks
  images : List.Forall₂ (fun a b => a = { b with uniqueIndex := a.uniqueIndex }) i.images j.images

theorem DifferInHeads.ofInterface_eq {i j : Interface} (alike : DifferInHeads i j) :
    ofInterface i = ofInterface j := by
  have blocks : i.uniformBlocks.map UniformBlock.uniforms =
      j.uniformBlocks.map UniformBlock.uniforms := by
    rw [← List.forall₂_eq_eq_eq, List.forall₂_map_left_iff, List.forall₂_map_right_iff]
    exact alike.uniformBlocks
  have images : i.images.map Image.forRecord = j.images.map Image.forRecord := by
    rw [← List.forall₂_eq_eq_eq, List.forall₂_map_left_iff, List.forall₂_map_right_iff]
    refine alike.images.imp ?_
    intro a b same
    rw [same]
    rfl
  unfold ofInterface
  rw [alike.stage, alike.entryPoint, alike.inputs, alike.outputs, blocks, images]

/-- **Records are read from their format and from nothing else, and written in it.**  What is
not part of the format does not show in the bytes. -/
theorem format_exact :
    (∀ bs r rest, read bs = .ok r rest ↔ WithinWidths r ∧ bs = format r ++ rest) ∧
      (∀ buffer i, ((writeAll buffer [i]).fault = none ↔ WithinWidths (ofInterface i)) ∧
        ((writeAll buffer [i]).fault = none →
          (writeAll buffer [i]).bytes = buffer ++ format (ofInterface i))) ∧
      ∀ buffer i j, DifferInHeads i j → writeAll buffer [i] = writeAll buffer [j] := by
  refine ⟨read_eq_ok_iff, ?_, ?_⟩
  · intro buffer i
    rw [writeAll_singleton]
    refine ⟨write_fault_eq_none_iff _, ?_⟩
    intro accepted
    show buffer ++ (ofInterface i).write.bytes = _
    rw [write_bytes accepted]
  · intro buffer i j alike
    rw [writeAll_singleton, writeAll_singleton, alike.ofInterface_eq]

/-- A record that no interface has: its inputs repeat a slot, fall back, and pass slot 15. -/
def scattered : Record where
  stage := .vertex
  entryPoint := "größe"
  inputs := [⟨40, "a", "", 255⟩, ⟨3, "法線", "TEXCOORD", 0⟩, ⟨3, "b", "COLOR", 9⟩]
  outputs := []
  uniformBlocks := [[], [⟨"mvp", .mat4, 0, 65535⟩]]
  images := [⟨"sky🌅", 65535, .cube, .sint⟩]

/-- The interface of the stream with other names, slots, sizes and indices of its parts. -/
def renamedInterface : Interface :=
  { litInterface with
    uniformBlocks := [⟨7, 0, "", [⟨"mvp", .mat4, 0, 0⟩, ⟨"lights", .float3, 65535, 64⟩], some 2⟩]
    images := [⟨2, "sky🌅", .cube, .sint, none⟩] }

theorem format_exact_scattered :
    (WithinWidths scattered ∧ read (format scattered ++ [0x53]) = .ok scattered [0x53]) ∧
      (writeAll [0] [litInterface]).fault = none ∧
        (writeAll [0] [litInterface]).bytes = [0] ++ format (ofInterface litInterface) ∧
      DifferInHeads litInterface renamedInterface ∧
        writeAll [0] [litInterface] = writeAll [0] [renamedInterface] := by
  have within : WithinWidths scattered := (write_fault_eq_none_iff scattered).mp (by decide)
  have accepted : (writeAll [0] [litInterface]).fault = none := by decide
  have alike : DifferInHeads litInterface renamedInterface :=
    ⟨rfl, rfl, rfl, rfl, .cons rfl .nil, .cons rfl .nil⟩
  obtain ⟨reading, writing, blind⟩ := format_exact
  exact ⟨⟨within, (reading _ _ _).mpr ⟨within, rfl⟩⟩, accepted, (writing _ _).2 accepted, alike,
    blind _ _ _ alike⟩

end ShaderBundle.Record
