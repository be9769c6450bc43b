/-
# Proofs.Record.Layout — readers take exactly the fields of a layout

A layout lists the fields of a value; `Reads` says that a reader answers with a value
exactly when the bytes start with the fields of this value and all of them fit, and
then leaves what follows.  That is both directions at once: what was written is read
back before any other bytes, and nothing else is read as the value.

Every reader of a record has its layout: `attributeItem_reads`, `uniformItem_reads`,
`imageItem_reads`, lists of them (`Reads.listOf`), and the record as a whole
(`read_reads`).  A reader in several steps is opened by `bind_eq_ok_iff` and the
equivalence of each step.
-/
import Mathlib.Algebra.Group.Nat.Defs
import ShaderBundle.Proofs.Text.Utf8
import ShaderBundle.Record.Reader

namespace ShaderBundle.Record

set_option autoImplicit false

variable {α β : Type}

/-! ## Layouts -/

/-- Every field fits its width. -/
def Fit (fs : List Field) : Prop := ∀ f ∈ fs, f.fault? = none

/-- The bytes of fields, front to back. -/
def bytesOf (fs : List Field) : List UInt8 := fs.flatMap Field.bytes

/-- A reader takes the fields of a layout: it answers with a value when the bytes start
with the fields of this value and all of them fit, and with no other value. -/
def Reads (r : Reader α) (layout : α → List Field) : Prop :=
  ∀ bs a rest, r bs = .ok a rest ↔ Fit (layout a) ∧ bs = bytesOf (layout a) ++ rest

@[simp] theorem fit_nil : Fit [] := by simp [Fit]

@[simp] theorem fit_cons (f : Field) (fs : List Field) :
    Fit (f :: fs) ↔ f.fault? = none ∧ Fit fs := by
  simp [Fit]

@[simp] theorem fit_append (fs gs : List Field) : Fit (fs ++ gs) ↔ Fit fs ∧ Fit gs := by
  simp [Fit, or_imp, forall_and]

@[simp] theorem bytesOf_nil : bytesOf [] = [] := rfl

@[simp] theorem bytesOf_cons (f : Field) (fs : List Field) :
    bytesOf (f :: fs) = f.bytes ++ bytesOf fs := rfl

@[simp] theorem bytesOf_append (fs gs : List Field) :
    bytesOf (fs ++ gs) = bytesOf fs ++ bytesOf gs := by
  simp [bytesOf]

namespace Field

@[simp] theorem fault?_fixed (bs : List UInt8) : (fixed bs).fault? = none := rfl

@[simp] theorem fault?_byte (role : String) (n : Nat) :
    (byte role n).fault? = none ↔ n < 2 ^ 8 := by
  simp [fault?]

@[simp] theorem fault?_word (role : String) (n : Nat) :
    (word role n).fault? = none ↔ n < 2 ^ 16 := by
  simp [fault?]

@[simp] theorem fault?_text (s : String) :
    (text s).fault? = none ↔ (Text.Utf8.bytes s).length < 2 ^ 16 := by
  simp [fault?]

end Field

/-! ## Steps and fields -/

theorem bind_eq_ok_iff (r : Reader α) (f : α → Reader β) (bs rest : List UInt8) (b : β) :
    (r >>= f) bs = .ok b rest ↔ ∃ a mid, r bs = .ok a mid ∧ f a mid = .ok b rest := by
  show EStateM.bind r f bs = .ok b rest ↔ _
  cases h : r bs with
  | ok a mid =>
      simp only [EStateM.bind, h, EStateM.Result.ok.injEq]
      constructor
      · exact fun next => ⟨a, mid, ⟨rfl, rfl⟩, next⟩
      · rintro ⟨_, _, ⟨rfl, rfl⟩, next⟩
        exact next
  | error e mid => simp [EStateM.bind, h]

theorem pure_eq_ok_iff (a b : α) (bs rest : List UInt8) :
    (pure a : Reader α) bs = .ok b rest ↔ a = b ∧ bs = rest := by
  show EStateM.Result.ok a bs = .ok b rest ↔ _
  simp

theorem throw_ne_ok (e : ReadError) (bs rest : List UInt8) (a : α) :
    (throw e : Reader α) bs ≠ .ok a rest := by
  show EStateM.Result.error e bs ≠ .ok a rest
  simp

theorem throw_bind_ne_ok (e : ReadError) (f : α → Reader β) (bs rest : List UInt8) (b : β) :
    ((throw e : Reader α) >>= f) bs ≠ .ok b rest := by
  rw [ne_eq, bind_eq_ok_iff]
  rintro ⟨_, _, thrown, -⟩
  exact throw_ne_ok _ _ _ _ thrown

theorem take_eq_ok_iff (n : Nat) (bs front rest : List UInt8) :
    take n bs = .ok front rest ↔ front.length = n ∧ bs = front ++ rest := by
  unfold take
  split
  · rename_i short
    simp only [reduceCtorEq, false_iff, not_and]
    rintro rfl rfl
    rw [List.length_append] at short
    omega
  · rename_i long
    simp only [EStateM.Result.ok.injEq]
    constructor
    · rintro ⟨rfl, rfl⟩
      exact ⟨by simp; omega, (List.take_append_drop n bs).symm⟩
    · rintro ⟨rfl, rfl⟩
      exact ⟨List.take_left, List.drop_left⟩

theorem byte_eq_ok_iff (bs rest : List UInt8) (b : UInt8) :
    byte bs = .ok b rest ↔ bs = b :: rest := by
  cases bs <;> simp [byte]

theorem word_eq_ok_iff (bs rest : List UInt8) (n : Nat) :
    word bs = .ok n rest ↔ n < 2 ^ 16 ∧ bs = wordBytes n ++ rest := by
  unfold word
  split
  · rename_i a b r
    have ha := a.toNat_lt
    have hb := b.toNat_lt
    simp only [EStateM.Result.ok.injEq, wordBytes, List.cons_append, List.nil_append, List.cons.injEq]
    constructor
    · rintro ⟨rfl, rfl⟩
      refine ⟨by omega, ?_, ?_, rfl⟩
      · rw [← UInt8.toNat_inj, UInt8.toNat_ofNat']; omega
      · rw [← UInt8.toNat_inj, UInt8.toNat_ofNat']; omega
    · rintro ⟨small, rfl, rfl, rfl⟩
      refine ⟨?_, rfl⟩
      simp only [UInt8.toNat_ofNat']
      omega
  · rename_i short
    simp only [reduceCtorEq, false_iff, not_and]
    rintro - rfl
    exact short _ _ _ rfl

theorem text_eq_ok_iff (bs rest : List UInt8) (s : String) :
    text bs = .ok s rest ↔
      (Text.Utf8.bytes s).length < 2 ^ 16 ∧ bs = textBytes s ++ rest := by
  unfold text
  simp only [bind_eq_ok_iff, word_eq_ok_iff, take_eq_ok_iff]
  constructor
  · rintro ⟨n, _, ⟨small, rfl⟩, front, mid, ⟨rfl, rfl⟩, read⟩
    cases decoded : Text.Utf8.decode front with
    | error fault =>
        rw [decoded] at read
        exact absurd read (throw_ne_ok _ _ _ _)
    | ok cs =>
        rw [decoded] at read
        obtain ⟨rfl, rfl⟩ := (pure_eq_ok_iff _ _ _ _).mp read
        have same : Text.Utf8.bytes (String.ofList cs) = front := by
          rw [(Text.Utf8.decode_eq_ok_iff _ _).mp decoded, Text.Utf8.bytes, String.toList_ofList]
        exact ⟨same ▸ small, by simp [textBytes, same]⟩
  · rintro ⟨small, rfl⟩
    refine ⟨_, _, ⟨small, List.append_assoc _ _ _⟩, _, _, ⟨rfl, rfl⟩, ?_⟩
    have decoded : Text.Utf8.decode (Text.Utf8.bytes s) = .ok s.toList :=
      (Text.Utf8.decode_eq_ok_iff _ _).mpr rfl
    rw [decoded]
    exact (pure_eq_ok_iff _ _ _ _).mpr ⟨String.ofList_toList, rfl⟩

theorem choice_eq_ok_iff (role : String) (ofByte? : UInt8 → Option α) (toByte : α → UInt8)
    (exact : ∀ b a, ofByte? b = some a ↔ b = toByte a) (bs rest : List UInt8) (a : α) :
    choice role ofByte? bs = .ok a rest ↔ bs = toByte a :: rest := by
  unfold choice
  simp only [bind_eq_ok_iff, byte_eq_ok_iff]
  constructor
  · rintro ⟨b, mid, rfl, read⟩
    cases found : ofByte? b with
    | none =>
        rw [found] at read
        exact absurd read (throw_ne_ok _ _ _ _)
    | some c =>
        rw [found] at read
        obtain ⟨rfl, rfl⟩ := (pure_eq_ok_iff _ _ _ _).mp read
        rw [(exact _ _).mp found]
  · rintro rfl
    refine ⟨_, _, rfl, ?_⟩
    rw [(exact _ _).mpr rfl]
    exact (pure_eq_ok_iff _ _ _ _).mpr ⟨rfl, rfl⟩

/-! ## Items -/

theorem fit_attributeFields (a : Attribute) :
    Fit (attributeFields a) ↔ (Text.Utf8.bytes a.name).length < 2 ^ 16 ∧
      (Text.Utf8.bytes a.semName).length < 2 ^ 16 ∧ a.semIndex.toNat < 2 ^ 8 := by
  simp [attributeFields]

theorem bytesOf_attributeFields (a : Attribute) (rest : List UInt8) :
    bytesOf (attributeFields a) ++ rest =
      textBytes a.name ++ (wordBytes a.slot.toNat ++ (textBytes a.semName ++
        UInt8.ofNat a.semIndex.toNat :: rest)) := by
  simp [attributeFields, Field.bytes]

theorem attributeItem_reads : Reads attributeItem attributeFields := by
  intro bs a rest
  rw [fit_attributeFields, bytesOf_attributeFields]
  simp only [attributeItem, bind_eq_ok_iff, text_eq_ok_iff, word_eq_ok_iff, byte_eq_ok_iff,
    pure_eq_ok_iff]
  constructor
  · rintro ⟨name, _, ⟨nameFits, rfl⟩, slot, _, ⟨slotFits, rfl⟩, semName, _, ⟨semFits, rfl⟩,
      index, _, rfl, rfl, rfl⟩
    have slotBack : (UInt16.ofNat slot).toNat = slot := UInt16.toNat_ofNat_of_lt' slotFits
    exact ⟨⟨nameFits, semFits, by simpa using index.toNat_lt⟩, by simp [slotBack]⟩
  · rintro ⟨⟨nameFits, semFits, indexFits⟩, rfl⟩
    refine ⟨a.name, _, ⟨nameFits, rfl⟩, a.slot.toNat, _, ⟨a.slot.toNat_lt, rfl⟩, a.semName, _,
      ⟨semFits, rfl⟩, UInt8.ofNat a.semIndex.toNat, _, rfl, ?_, rfl⟩
    have indexBack : (UInt8.ofNat a.semIndex.toNat).toUInt16 = a.semIndex := by
      rw [← UInt16.toNat_inj, UInt8.toNat_toUInt16, UInt8.toNat_ofNat']
      omega
    rw [UInt16.ofNat_toNat, indexBack]

theorem fit_uniformFields (u : Uniform) :
    Fit (uniformFields u) ↔ (Text.Utf8.bytes u.name).length < 2 ^ 16 ∧
      u.arrayCount.toNat < 2 ^ 16 ∧ u.offset.toNat < 2 ^ 16 := by
  simp [uniformFields]

theorem bytesOf_uniformFields (u : Uniform) (rest : List UInt8) :
    bytesOf (uniformFields u) ++ rest =
      textBytes u.name ++ (u.type.byte :: (wordBytes u.arrayCount.toNat ++
        (wordBytes u.offset.toNat ++ rest))) := by
  simp [uniformFields, Field.bytes]

theorem toNat_ofNat_of_word {n : Nat} (small : n < 2 ^ 16) : (UInt32.ofNat n).toNat = n :=
  UInt32.toNat_ofNat_of_lt' (Nat.lt_trans small (by decide))

theorem uniformItem_reads : Reads uniformItem uniformFields := by
  intro bs u rest
  rw [fit_uniformFields, bytesOf_uniformFields]
  simp only [uniformItem, bind_eq_ok_iff, text_eq_ok_iff, word_eq_ok_iff, pure_eq_ok_iff,
    choice_eq_ok_iff _ _ _ UniformType.ofByte?_eq_some_iff]
  constructor
  · rintro ⟨name, _, ⟨nameFits, rfl⟩, type, _, rfl, count, _, ⟨countFits, rfl⟩, offset, _,
      ⟨offsetFits, rfl⟩, rfl, rfl⟩
    rw [toNat_ofNat_of_word countFits, toNat_ofNat_of_word offsetFits]
    exact ⟨⟨nameFits, countFits, offsetFits⟩, rfl⟩
  · rintro ⟨⟨nameFits, countFits, offsetFits⟩, rfl⟩
    refine ⟨u.name, _, ⟨nameFits, rfl⟩, u.type, _, rfl, u.arrayCount.toNat, _, ⟨countFits, rfl⟩,
      u.offset.toNat, _, ⟨offsetFits, rfl⟩, ?_, rfl⟩
    rw [UInt32.ofNat_toNat, UInt32.ofNat_toNat]

theorem fit_imageFields (i : RecordImage) :
    Fit (imageFields i) ↔
      (Text.Utf8.bytes i.name).length < 2 ^ 16 ∧ i.slot.toNat < 2 ^ 16 := by
  simp [imageFields]

theorem bytesOf_imageFields (i : RecordImage) (rest : List UInt8) :
    bytesOf (imageFields i) ++ rest =
      textBytes i.name ++ (wordBytes i.slot.toNat ++ (i.type.byte :: i.sampleType.byte :: rest)) := by
  simp [imageFields, Field.bytes]

theorem imageItem_reads : Reads imageItem imageFields := by
  intro bs i rest
  rw [fit_imageFields, bytesOf_imageFields]
  simp only [imageItem, bind_eq_ok_iff, text_eq_ok_iff, word_eq_ok_iff, pure_eq_ok_iff,
    choice_eq_ok_iff _ _ _ ImageType.ofByte?_eq_some_iff,
    choice_eq_ok_iff _ _ _ SampleType.ofByte?_eq_some_iff]
  constructor
  · rintro ⟨name, _, ⟨nameFits, rfl⟩, slot, _, ⟨slotFits, rfl⟩, type, _, rfl, sampleType, _, rfl,
      rfl, rfl⟩
    rw [toNat_ofNat_of_word slotFits]
    exact ⟨⟨nameFits, slotFits⟩, rfl⟩
  · rintro ⟨⟨nameFits, slotFits⟩, rfl⟩
    refine ⟨i.name, _, ⟨nameFits, rfl⟩, i.slot.toNat, _, ⟨slotFits, rfl⟩, i.type, _, rfl,
      i.sampleType, _, rfl, ?_, rfl⟩
    rw [UInt32.ofNat_toNat]

/-! ## Lists -/

theorem times_eq_ok_iff {item : Reader α} {layout : α → List Field} (reads : Reads item layout)
    (n : Nat) (bs rest : List UInt8) (items : List α) :
    times item n bs = .ok items rest ↔
      items.length = n ∧ Fit (items.flatMap layout) ∧
        bs = bytesOf (items.flatMap layout) ++ rest := by
  induction n generalizing bs rest items with
  | zero =>
      rw [times, pure_eq_ok_iff, List.length_eq_zero_iff]
      constructor
      · rintro ⟨rfl, rfl⟩
        simp
      · rintro ⟨rfl, -, rfl⟩
        simp
  | succ n ih =>
      simp only [times, bind_eq_ok_iff, pure_eq_ok_iff, reads _ _ _, ih]
      constructor
      · rintro ⟨a, _, ⟨fit, rfl⟩, as, _, ⟨rfl, fits, rfl⟩, rfl, rfl⟩
        exact ⟨rfl, by simp [fit, fits], by simp⟩
      · rintro ⟨length, fits, rfl⟩
        obtain ⟨a, as, rfl⟩ := List.exists_cons_of_length_eq_add_one length
        rw [List.flatMap_cons, fit_append] at fits
        have front : bytesOf ((a :: as).flatMap layout) ++ rest =
            bytesOf (layout a) ++ (bytesOf (as.flatMap layout) ++ rest) := by simp
        exact ⟨a, _, ⟨fits.1, front⟩, as, _, ⟨by simpa using length, fits.2, rfl⟩, rfl, rfl⟩

theorem fit_listFields (role : String) (layout : α → List Field) (items : List α) :
    Fit (listFields role layout items) ↔
      items.length < 2 ^ 16 ∧ Fit (items.flatMap layout) := by
  rw [listFields, fit_cons, Field.fault?_word]

/-- A list after its length is read by its items. -/
theorem Reads.listOf {item : Reader α} {layout : α → List Field} (reads : Reads item layout)
    (role : String) : Reads (listOf item) (listFields role layout) := by
  intro bs items rest
  rw [fit_listFields]
  simp only [Record.listOf, bind_eq_ok_iff, word_eq_ok_iff, times_eq_ok_iff reads]
  constructor
  · rintro ⟨_, _, ⟨small, rfl⟩, rfl, fits, rfl⟩
    exact ⟨⟨small, fits⟩, by simp [listFields, Field.bytes]⟩
  · rintro ⟨⟨small, fits⟩, rfl⟩
    exact ⟨_, _, ⟨small, List.append_assoc _ _ _⟩, rfl, fits, rfl⟩

/-! ## Records -/

theorem front_eq_ok_iff (bs rest : List UInt8) (u : Unit) :
    front bs = .ok u rest ↔ bs = mark ++ (wordBytes version ++ rest) := by
  unfold front
  simp only [bind_eq_ok_iff, take_eq_ok_iff]
  constructor
  · rintro ⟨found, _, ⟨-, rfl⟩, next⟩
    by_cases marked : found = mark
    · rw [if_neg (by simp [marked]), bind_eq_ok_iff] at next
      obtain ⟨n, _, readWord, last⟩ := next
      obtain ⟨-, rfl⟩ := (word_eq_ok_iff _ _ _).mp readWord
      by_cases current : n = version
      · rw [if_neg (by simp [current]), pure_eq_ok_iff] at last
        rw [marked, current, last.2]
      · rw [if_pos current] at last
        exact absurd last (throw_ne_ok _ _ _ _)
    · rw [if_pos marked] at next
      exact absurd next (throw_bind_ne_ok _ _ _ _ _)
  · rintro rfl
    refine ⟨mark, _, ⟨rfl, rfl⟩, ?_⟩
    rw [if_neg (by simp), bind_eq_ok_iff]
    refine ⟨version, rest, (word_eq_ok_iff _ _ _).mpr ⟨by decide, rfl⟩, ?_⟩
    rw [if_neg (by simp), pure_eq_ok_iff]
    exact ⟨rfl, rfl⟩

theorem fit_fields (r : Record) :
    Fit r.fields ↔ (Text.Utf8.bytes r.entryPoint).length < 2 ^ 16 ∧
      Fit (listFields "attribute count" attributeFields r.inputs) ∧
      Fit (listFields "attribute count" attributeFields r.outputs) ∧
      Fit (listFields "uniform block count" (listFields "uniform count" uniformFields)
        r.uniformBlocks) ∧
      Fit (listFields "image count" imageFields r.images) := by
  simp only [fields, fit_append, fit_cons, Field.fault?_fixed, Field.fault?_text, fit_nil,
    and_true, true_and, and_assoc]

/-- Reading takes exactly the layout of a record. -/
theorem read_reads : Reads read fields := by
  intro bs r rest
  rw [fit_fields]
  simp only [read, bind_eq_ok_iff, front_eq_ok_iff, text_eq_ok_iff, pure_eq_ok_iff,
    choice_eq_ok_iff _ _ _ Stage.ofByte?_eq_some_iff,
    (attributeItem_reads.listOf "attribute count") _ _ _,
    ((uniformItem_reads.listOf "uniform count").listOf "uniform block count") _ _ _,
    (imageItem_reads.listOf "image count") _ _ _]
  constructor
  · rintro ⟨⟨⟩, _, rfl, stage, _, rfl, entryPoint, _, ⟨entryFits, rfl⟩, inputs, _,
      ⟨inputsFit, rfl⟩, outputs, _, ⟨outputsFit, rfl⟩, blocks, _, ⟨blocksFit, rfl⟩, images, _,
      ⟨imagesFit, rfl⟩, rfl, rfl⟩
    refine ⟨⟨entryFits, inputsFit, outputsFit, blocksFit, imagesFit⟩, ?_⟩
    simp [fields, Field.bytes]
  · obtain ⟨stage, entryPoint, inputs, outputs, blocks, images⟩ := r
    rintro ⟨⟨entryFits, inputsFit, outputsFit, blocksFit, imagesFit⟩, rfl⟩
    refine ⟨(), _, ?_, stage, _, rfl, entryPoint, _, ⟨entryFits, rfl⟩, inputs, _,
      ⟨inputsFit, rfl⟩, outputs, _, ⟨outputsFit, rfl⟩, blocks, _, ⟨blocksFit, rfl⟩, images, _,
      ⟨imagesFit, rfl⟩, rfl, rfl⟩
    simp [fields, Field.bytes]

end ShaderBundle.Record
