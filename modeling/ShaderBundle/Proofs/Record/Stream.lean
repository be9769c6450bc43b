/-
# Proofs.Record.Stream — records written one after the other

Records carry no frame around them: what ends one is its last field.  `writeAll` puts
the records of interfaces behind each other into one buffer, and as many reads as there
are records give them back in order and stop where the records end, whatever follows
(`times_read_writeAll`).
-/
import ShaderBundle.Proofs.Record.Layout

namespace ShaderBundle.Record

set_option autoImplicit false

/-! ## Writing -/

theorem writeFields_of_fit {fs : List Field} (fit : Fit fs) :
    writeFields fs = ⟨bytesOf fs, none⟩ := by
  induction fs with
  | nil => rfl
  | cons f fs ih =>
      rw [fit_cons] at fit
      simp [writeFields, fit.1, ih fit.2]

theorem fit_of_fault_eq_none {fs : List Field} (done : (writeFields fs).fault = none) : Fit fs := by
  induction fs with
  | nil => exact fit_nil
  | cons f fs ih =>
      rw [fit_cons]
      cases fault : f.fault? with
      | some e => simp [writeFields, fault] at done
      | none =>
          simp only [writeFields, fault] at done
          exact ⟨rfl, ih done⟩

/-- Writing an interface goes over it in the order of its record. -/
theorem interfaceFields_eq (i : Interface) : interfaceFields i = (ofInterface i).fields := by
  unfold interfaceFields fields ofInterface listFields
  simp only [List.length_map, List.flatMap_map]
  rfl

theorem writeInterface_eq (i : Interface) : writeInterface i = (ofInterface i).write :=
  congrArg writeFields (interfaceFields_eq i)

/-- Writes the records of interfaces behind what a buffer holds, one after the other; the
first fault ends it. -/
def writeAll : List UInt8 → List Interface → Written
  | buffer, [] => ⟨buffer, none⟩
  | buffer, i :: rest =>
    let w := writeInterface i
    match w.fault with
    | some fault => ⟨buffer ++ w.bytes, some fault⟩
    | none => writeAll (buffer ++ w.bytes) rest

theorem writeAll_of_fit (buffer : List UInt8) {interfaces : List Interface}
    (fit : ∀ i ∈ interfaces, Fit (ofInterface i).fields) :
    writeAll buffer interfaces =
      ⟨buffer ++ bytesOf ((interfaces.map ofInterface).flatMap fields), none⟩ := by
  induction interfaces generalizing buffer with
  | nil => simp [writeAll]
  | cons i rest ih =>
      have first : writeInterface i = ⟨bytesOf (ofInterface i).fields, none⟩ :=
        (writeInterface_eq i).trans (writeFields_of_fit (fit i List.mem_cons_self))
      simp only [writeAll, first]
      rw [ih _ fun j member => fit j (List.mem_cons_of_mem i member)]
      simp

/-! ## Reading back -/

/-- **Records that were written one after the other are read back one by one.** -/
theorem times_read_writeAll (interfaces : List Interface) (tail : List UInt8)
    (accepted : ∀ i ∈ interfaces, (writeInterface i).fault = none) :
    (writeAll [] interfaces).fault = none ∧
      times read interfaces.length ((writeAll [] interfaces).bytes ++ tail) =
        .ok (interfaces.map ofInterface) tail := by
  have fit : ∀ i ∈ interfaces, Fit (ofInterface i).fields := by
    intro i member
    rw [← interfaceFields_eq]
    exact fit_of_fault_eq_none (accepted i member)
  rw [writeAll_of_fit [] fit]
  refine ⟨rfl, (times_eq_ok_iff read_reads _ _ _ _).mpr ⟨List.length_map _, ?_, rfl⟩⟩
  intro f member
  obtain ⟨r, written, field⟩ := List.mem_flatMap.mp member
  obtain ⟨i, given, rfl⟩ := List.mem_map.mp written
  exact fit i given f field

/-- An interface with a part of each kind, and names beyond ASCII. -/
def litInterface : Interface where
  stage := .fragment
  entryPoint := "größe"
  inputs := AttributeSlots.empty.put (.atSlot 3 "法線") (by decide)
  outputs := .empty
  uniformBlocks := [⟨4, 96, "params", [⟨"mvp", .mat4, 0, 0⟩, ⟨"lights", .float3, 65535, 64⟩], none⟩]
  images := [⟨2, "sky🌅", .cube, .sint, some 7⟩]

theorem times_read_writeAll_lit :
    (∀ i ∈ [litInterface, default], (writeInterface i).fault = none) ∧
      times read 2 ((writeAll [] [litInterface, default]).bytes ++ [0x53, 0x48]) =
        .ok [ofInterface litInterface, ofInterface default] [0x53, 0x48] :=
  have accepted : ∀ i ∈ [litInterface, default], (writeInterface i).fault = none := by decide
  ⟨accepted, (times_read_writeAll [litInterface, default] [0x53, 0x48] accepted).2⟩

end ShaderBundle.Record
