/-
# Proofs.Spirv.Types — what the types of a module are made of

An instruction defines the type of its result from its operands and from the types that these
name.  What counts is the last instruction for an id, and of what it names the types and the
constants that stand in front of it (`Raised`).  So instructions describe the type of every id in
one way only (`Raised.unique`).

The tables have just these descriptions: each instruction that is read goes from those of the
instructions before it to those with it (`raised_addGlobal`), and so does a module
(`raised_of_ofModule`).  A description loses nothing of a scalar: what has float for its base is
made of a float type of 32 bits (`Raised.width_of_float`).
-/
import Mathlib.Data.List.Induction
import ShaderBundle.Proofs.Spirv.Once

namespace ShaderBundle.Spirv

set_option autoImplicit false

/-- The operations whose types are described.  Pointers and functions are not among them. -/
def Opcode.describesType : Opcode → Bool
  | opTypeVoid | opTypeBool | opTypeInt | opTypeFloat | opTypeVector | opTypeMatrix | opTypeImage
  | opTypeSampler | opTypeSampledImage | opTypeArray | opTypeRuntimeArray | opTypeStruct => true
  | _ => false

/-- An instruction describes the type of an id. -/
def Instruction.DescribesType (i : Instruction) (id : Id) : Prop :=
  i.opcode.describesType ∧ i.resultId = some id

/-- Of some instructions, one that stands behind those `before` is the last to describe the type
of an id, and does it by an operation. -/
structure Defines (is before : List Instruction) (op : Opcode) (id : Id) (i : Instruction) :
    Prop where
  place : ∃ after, is = before ++ i :: after ∧ ∀ j ∈ after, ¬ j.DescribesType id
  own : i.DescribesType id
  opcode : i.opcode = op

/-- Instructions describe the type of an id.  An id that none of them describes has the missing
type, and an array whose length is no constant has length 0. -/
inductive Raised : List Instruction → Id → TypeDesc → Prop where
  | undefined {is : List Instruction} {id : Id} :
      (∀ i ∈ is, ¬ i.DescribesType id) → Raised is id .missing
  | void {is before : List Instruction} {i : Instruction} {id : Id} :
      Defines is before .opTypeVoid id i → Raised is id (.ofBase .void)
  | boolean {is before : List Instruction} {i : Instruction} {id : Id} :
      Defines is before .opTypeBool id i → Raised is id (.scalar .boolean 32)
  | int {is before : List Instruction} {i : Instruction} {id : Id} {width sign : UInt32} :
      Defines is before .opTypeInt id i → i.operands[0]? = some (.word width) →
      i.operands[1]? = some (.word sign) →
      Raised is id (.scalar (.integer width (sign ≠ 0)) width)
  | float {is before : List Instruction} {i : Instruction} {id : Id} {width : UInt32} :
      Defines is before .opTypeFloat id i → i.operands[0]? = some (.word width) →
      Raised is id (.scalar (.floating width) width)
  | vector {is before : List Instruction} {i : Instruction} {id component : Id} {count : UInt32}
      {d : TypeDesc} : Defines is before .opTypeVector id i →
      i.operands[0]? = some (.id component) → i.operands[1]? = some (.word count) →
      Raised before component d → Raised is id (d.vector count)
  | matrix {is before : List Instruction} {i : Instruction} {id column : Id} {count : UInt32}
      {d : TypeDesc} : Defines is before .opTypeMatrix id i →
      i.operands[0]? = some (.id column) → i.operands[1]? = some (.word count) →
      Raised before column d → Raised is id (d.matrix count)
  | array {is before : List Instruction} {i : Instruction} {id element length : Id} {d : TypeDesc} :
      Defines is before .opTypeArray id i → i.operands[0]? = some (.id element) →
      i.operands[1]? = some (.id length) → Raised before element d →
      Raised is id (d.arrayOf ((saidLast Instruction.constant? before length).getD 0))
  | runtimeArray {is before : List Instruction} {i : Instruction} {id element : Id} {d : TypeDesc} :
      Defines is before .opTypeRuntimeArray id i → i.operands[0]? = some (.id element) →
      Raised before element d → Raised is id (d.arrayOf 0)
  | struct {is before : List Instruction} {i : Instruction} {id : Id} {members : List Id} :
      Defines is before .opTypeStruct id i → i.operands = members.map .id →
      Raised is id (.structOf members)
  | image {is before : List Instruction} {i : Instruction} {id sampled : Id} {dim : Dim}
      {depth arrayed multisampled : UInt32} : Defines is before .opTypeImage id i →
      i.operands.take 5 =
        [.id sampled, .dim dim, .word depth, .word arrayed, .word multisampled] →
      Raised is id
        (.imageOf .image ⟨sampled, dim, depth = 1, arrayed ≠ 0, multisampled ≠ 0⟩)
  | sampledImage {is before : List Instruction} {i : Instruction} {id image : Id} {d : TypeDesc} :
      Defines is before .opTypeSampledImage id i → i.operands[0]? = some (.id image) →
      Raised before image d → Raised is id { d with base := .sampledImage }
  | sampler {is before : List Instruction} {i : Instruction} {id : Id} :
      Defines is before .opTypeSampler id i → Raised is id (.ofBase .sampler)

/-! ## One description -/

section

variable {is before before' : List Instruction} {op op' : Opcode} {id : Id} {i i' : Instruction}

/-- The last instruction for an id has one place. -/
theorem Defines.unique (defines : Defines is before op id i)
    (defines' : Defines is before' op' id i') : before = before' ∧ i = i' := by
  obtain ⟨after, rfl, last⟩ := defines.place
  obtain ⟨after', same, last'⟩ := defines'.place
  rcases List.append_eq_append_iff.mp same with ⟨between, rfl, tail⟩ | ⟨between, rfl, tail⟩
  · cases between with
    | nil =>
        obtain ⟨rfl, -⟩ := List.cons_eq_cons.mp tail
        exact ⟨(List.append_nil _).symm, rfl⟩
    | cons j between =>
        obtain ⟨rfl, rfl⟩ := List.cons_eq_cons.mp tail
        exact absurd defines'.own (last i' (by simp))
  · cases between with
    | nil =>
        obtain ⟨rfl, -⟩ := List.cons_eq_cons.mp tail
        exact ⟨List.append_nil _, rfl⟩
    | cons j between =>
        obtain ⟨rfl, rfl⟩ := List.cons_eq_cons.mp tail
        exact absurd defines.own (last' i (by simp))

theorem Defines.opcode_unique (defines : Defines is before op id i)
    (defines' : Defines is before' op' id i') : op = op' := by
  obtain ⟨-, rfl⟩ := defines.unique defines'
  exact defines.opcode.symm.trans defines'.opcode

theorem Defines.not_undefined (defines : Defines is before op id i) :
    ¬ ∀ j ∈ is, ¬ j.DescribesType id := by
  obtain ⟨after, rfl, -⟩ := defines.place
  intro none
  exact none i (by simp) defines.own

/-- An instruction for another id changes nothing. -/
theorem Defines.skip (defines : Defines is before op id i) (other : ¬ i'.DescribesType id) :
    Defines (is ++ [i']) before op id i := by
  obtain ⟨after, rfl, last⟩ := defines.place
  refine ⟨⟨after ++ [i'], by simp, fun j among => ?_⟩, defines.own, defines.opcode⟩
  rcases List.mem_append.mp among with own | new
  · exact last j own
  · obtain rfl := List.mem_singleton.mp new
    exact other

/-- An instruction for an id is the last of those up to it. -/
theorem defines_concat (describes : op.describesType) (opcode : i.opcode = op)
    (result : i.resultId = some id) : Defines (before ++ [i]) before op id i :=
  ⟨⟨[], rfl, List.forall_mem_nil _⟩, ⟨opcode ▸ describes, result⟩, opcode⟩

end

/-- **Instructions describe a type in one way only.** -/
theorem Raised.unique {is : List Instruction} {id : Id} {d d' : TypeDesc} (raised : Raised is id d)
    (raised' : Raised is id d') : d = d' := by
  induction raised generalizing d' with
  | undefined none =>
      cases raised' with
      | undefined => rfl
      | _ => exact absurd none (Defines.not_undefined ‹_›)
  | void defines =>
      cases raised' with
      | undefined none => exact absurd none defines.not_undefined
      | void => rfl
      | _ => cases defines.opcode_unique ‹_›
  | boolean defines =>
      cases raised' with
      | undefined none => exact absurd none defines.not_undefined
      | boolean => rfl
      | _ => cases defines.opcode_unique ‹_›
  | int defines width sign =>
      cases raised' with
      | undefined none => exact absurd none defines.not_undefined
      | int defines' width' sign' =>
          obtain ⟨rfl, rfl⟩ := defines.unique defines'
          cases width.symm.trans width'
          cases sign.symm.trans sign'
          rfl
      | _ => cases defines.opcode_unique ‹_›
  | float defines width =>
      cases raised' with
      | undefined none => exact absurd none defines.not_undefined
      | float defines' width' =>
          obtain ⟨rfl, rfl⟩ := defines.unique defines'
          cases width.symm.trans width'
          rfl
      | _ => cases defines.opcode_unique ‹_›
  | vector defines component count raised ih =>
      cases raised' with
      | undefined none => exact absurd none defines.not_undefined
      | vector defines' component' count' raised' =>
          obtain ⟨rfl, rfl⟩ := defines.unique defines'
          cases component.symm.trans component'
          cases count.symm.trans count'
          rw [ih raised']
      | _ => cases defines.opcode_unique ‹_›
  | matrix defines column count raised ih =>
      cases raised' with
      | undefined none => exact absurd none defines.not_undefined
      | matrix defines' column' count' raised' =>
          obtain ⟨rfl, rfl⟩ := defines.unique defines'
          cases column.symm.trans column'
          cases count.symm.trans count'
          rw [ih raised']
      | _ => cases defines.opcode_unique ‹_›
  | array defines element length raised ih =>
      cases raised' with
      | undefined none => exact absurd none defines.not_undefined
      | array defines' element' length' raised' =>
          obtain ⟨rfl, rfl⟩ := defines.unique defines'
          cases element.symm.trans element'
          cases length.symm.trans length'
          rw [ih raised']
      | _ => cases defines.opcode_unique ‹_›
  | runtimeArray defines element raised ih =>
      cases raised' with
      | undefined none => exact absurd none defines.not_undefined
      | runtimeArray defines' element' raised' =>
          obtain ⟨rfl, rfl⟩ := defines.unique defines'
          cases element.symm.trans element'
          rw [ih raised']
      | _ => cases defines.opcode_unique ‹_›
  | struct defines members =>
      cases raised' with
      | undefined none => exact absurd none defines.not_undefined
      | struct defines' members' =>
          obtain ⟨rfl, rfl⟩ := defines.unique defines'
          rw [members, List.map_inj_right fun _ _ => Operand.id.inj] at members'
          rw [members']
      | _ => cases defines.opcode_unique ‹_›
  | image defines shape =>
      cases raised' with
      | undefined none => exact absurd none defines.not_undefined
      | image defines' shape' =>
          obtain ⟨rfl, rfl⟩ := defines.unique defines'
          cases shape.symm.trans shape'
          rfl
      | _ => cases defines.opcode_unique ‹_›
  | sampledImage defines image raised ih =>
      cases raised' with
      | undefined none => exact absurd none defines.not_undefined
      | sampledImage defines' image' raised' =>
          obtain ⟨rfl, rfl⟩ := defines.unique defines'
          cases image.symm.trans image'
          rw [ih raised']
      | _ => cases defines.opcode_unique ‹_›
  | sampler defines =>
      cases raised' with
      | undefined none => exact absurd none defines.not_undefined
      | sampler => rfl
      | _ => cases defines.opcode_unique ‹_›

/-- An instruction for another id changes no type. -/
theorem Raised.skip {is : List Instruction} {id : Id} {d : TypeDesc} {i : Instruction}
    (raised : Raised is id d) (other : ¬ i.DescribesType id) : Raised (is ++ [i]) id d := by
  cases raised with
  | undefined none =>
      refine .undefined fun j among => ?_
      rcases List.mem_append.mp among with own | new
      · exact none j own
      · obtain rfl := List.mem_singleton.mp new
        exact other
  | void defines => exact .void (defines.skip other)
  | boolean defines => exact .boolean (defines.skip other)
  | int defines width sign => exact .int (defines.skip other) width sign
  | float defines width => exact .float (defines.skip other) width
  | vector defines component count raised =>
      exact .vector (defines.skip other) component count raised
  | matrix defines column count raised => exact .matrix (defines.skip other) column count raised
  | array defines element length raised => exact .array (defines.skip other) element length raised
  | runtimeArray defines element raised => exact .runtimeArray (defines.skip other) element raised
  | struct defines members => exact .struct (defines.skip other) members
  | image defines shape => exact .image (defines.skip other) shape
  | sampledImage defines image raised => exact .sampledImage (defines.skip other) image raised
  | sampler defines => exact .sampler (defines.skip other)

/-! ## Floats -/

theorem integer_ne_float (width : UInt32) (signed : Bool) :
    BaseType.integer width signed ≠ .float := by
  unfold BaseType.integer
  split <;> simp

theorem width_of_floating {width : UInt32} (float : BaseType.floating width = .float) :
    width = 32 := by
  unfold BaseType.floating at float
  split at float
  · cases float
  · rename_i bits
    exact UInt32.toNat_inj.mp bits
  · cases float
  · cases float

/-- What is made of floats is made of floats of 32 bits. -/
theorem Raised.width_of_float {is : List Instruction} {id : Id} {d : TypeDesc}
    (raised : Raised is id d) (float : d.base = .float) : d.width = 32 := by
  induction raised with
  | int => exact absurd float (integer_ne_float _ _)
  | float => exact width_of_floating float
  | vector _ _ _ _ ih => exact ih float
  | matrix _ _ _ _ ih => exact ih float
  | array _ _ _ _ ih => exact ih float
  | runtimeArray _ _ _ ih => exact ih float
  | undefined | void | boolean | struct | image | sampledImage | sampler => cases float

/-! ## Reading one instruction -/

namespace Tables

theorem getElem?_of_needDim {i : Instruction} {place : Nat} {dim : Dim}
    (needed : i.needDim place = .ok dim) : i.operands[place]? = some (.dim dim) := by
  unfold Instruction.needDim at needed
  split at needed
  · cases needed
    assumption
  · cases needed

theorem operands_of_mapM_needId {i : Instruction} {members : List Id}
    (read : (List.range i.operands.length).mapM i.needId = .ok members) :
    i.operands = members.map .id := by
  have places (ns : List Nat) (ids : List Id) (named : ns.mapM i.needId = .ok ids) :
      ns.map (i.operands[·]?) = ids.map fun n => some (.id n) := by
    induction ns generalizing ids with
    | nil =>
        cases named
        rfl
    | cons n ns ih =>
        rw [List.mapM_cons] at named
        obtain ⟨first, needed, named⟩ := except_bind_eq_ok_iff.mp named
        obtain ⟨rest, others, same⟩ := except_bind_eq_ok_iff.mp named
        cases same
        rw [List.map_cons, List.map_cons, ih rest others, Instruction.getElem?_of_needId needed]
  have every : (List.range i.operands.length).map (i.operands[·]?) = i.operands.map some := by
    apply List.ext_getElem
    · simp
    · intro n inList _
      rw [List.length_map, List.length_range] at inList
      simp [inList]
  have same : i.operands.map some = (members.map .id).map some := by
    rw [← every, places _ members read, List.map_map]
    rfl
  exact (List.map_inj_right fun _ _ => Option.some.inj).mp same

theorem operands_of_imageDesc {i : Instruction} {desc : ImageDesc}
    (read : imageDesc i = .ok desc) : ∃ sampled dim depth arrayed multisampled,
      i.operands.take 5 =
        [.id sampled, .dim dim, .word depth, .word arrayed, .word multisampled] ∧
      desc = ⟨sampled, dim, depth = 1, arrayed ≠ 0, multisampled ≠ 0⟩ := by
  simp only [imageDesc, except_bind_eq_ok_iff] at read
  obtain ⟨sampled, needSampled, dim, needDim, depth, needDepth, arrayed, needArrayed,
    multisampled, needMultisampled, same⟩ := read
  cases same
  have first := Instruction.getElem?_of_needId needSampled
  have second := getElem?_of_needDim needDim
  have third := Instruction.getElem?_of_needWord needDepth
  have fourth := Instruction.getElem?_of_needWord needArrayed
  have fifth := Instruction.getElem?_of_needWord needMultisampled
  refine ⟨sampled, dim, depth, arrayed, multisampled, ?_, rfl⟩
  apply List.ext_getElem?
  intro n
  rw [List.getElem?_take]
  match n with
  | 0 | 1 | 2 | 3 | 4 => simpa
  | n + 5 => rw [if_neg (by omega), List.getElem?_eq_none (by simp)]

section

variable {before is : List Instruction} {t t' : Tables} {i : Instruction} {d : TypeDesc}

theorem raised_of_addType (types : ∀ id, Raised before id (t.typeOf id))
    (own : ∀ id, i.resultId = some id → Raised (before ++ [i]) id d)
    (read : t.addType i d = .ok t') (id : Id) : Raised (before ++ [i]) id (t'.typeOf id) := by
  obtain ⟨result, needed, same⟩ := except_bind_eq_ok_iff.mp read
  cases same
  have isResult := resultId_of_needResult needed
  show Raised (before ++ [i]) id (((t.types.insert result d).find? id).getD .missing)
  rw [Table.find?_insert]
  by_cases same : id = result
  · rw [if_pos same, same]
    exact own result isResult
  · rw [if_neg same]
    refine (types id).skip ?_
    rintro ⟨-, other⟩
    exact same (Option.some.inj (other.symm.trans isResult))

theorem raised_of_addElement (types : ∀ id, Raised before id (t.typeOf id)) {element : Id}
    (read : t.addElement i element = .ok t') (id : Id) : Raised before id (t'.typeOf id) := by
  obtain ⟨array, -, same⟩ := except_bind_eq_ok_iff.mp read
  cases same
  exact types id

theorem raised_of_silent (types : ∀ id, Raised before id (t.typeOf id))
    (silent : ¬ i.opcode.describesType) (same : t'.types = t.types) (id : Id) :
    Raised (before ++ [i]) id (t'.typeOf id) := by
  rw [typeOf, same]
  exact (types id).skip fun describes => silent describes.1

/-- Reading an instruction goes on from the descriptions before it. -/
theorem raised_addGlobal (types : ∀ id, Raised before id (t.typeOf id))
    (constants : ∀ id, t.constants.find? id = saidLast Instruction.constant? before id)
    (read : t.addGlobal i = .ok t') (id : Id) : Raised (before ++ [i]) id (t'.typeOf id) := by
  unfold Tables.addGlobal at read
  cases opcode : i.opcode with
  | opTypeVoid =>
      simp only [opcode] at read
      exact raised_of_addType types
        (fun _ result => .void (defines_concat rfl opcode result)) read id
  | opTypeBool =>
      simp only [opcode] at read
      exact raised_of_addType types
        (fun _ result => .boolean (defines_concat rfl opcode result)) read id
  | opTypeInt =>
      simp only [opcode, except_bind_eq_ok_iff] at read
      obtain ⟨width, needWidth, sign, needSign, read⟩ := read
      have widthAt := Instruction.getElem?_of_needWord needWidth
      have signAt := Instruction.getElem?_of_needWord needSign
      exact raised_of_addType types
        (fun _ result => .int (defines_concat rfl opcode result) widthAt signAt) read id
  | opTypeFloat =>
      simp only [opcode, except_bind_eq_ok_iff] at read
      obtain ⟨width, needWidth, read⟩ := read
      have widthAt := Instruction.getElem?_of_needWord needWidth
      exact raised_of_addType types
        (fun _ result => .float (defines_concat rfl opcode result) widthAt) read id
  | opTypeVector =>
      simp only [opcode, except_bind_eq_ok_iff] at read
      obtain ⟨component, needComponent, count, needCount, read⟩ := read
      have componentAt := Instruction.getElem?_of_needId needComponent
      have countAt := Instruction.getElem?_of_needWord needCount
      exact raised_of_addType types (fun _ result =>
        .vector (defines_concat rfl opcode result) componentAt countAt (types component)) read id
  | opTypeMatrix =>
      simp only [opcode, except_bind_eq_ok_iff] at read
      obtain ⟨column, needColumn, count, needCount, read⟩ := read
      have columnAt := Instruction.getElem?_of_needId needColumn
      have countAt := Instruction.getElem?_of_needWord needCount
      exact raised_of_addType types (fun _ result =>
        .matrix (defines_concat rfl opcode result) columnAt countAt (types column)) read id
  | opTypeArray =>
      simp only [opcode, except_bind_eq_ok_iff] at read
      obtain ⟨element, needElement, length, needLength, next, added, read⟩ := read
      have elementAt := Instruction.getElem?_of_needId needElement
      have lengthAt := Instruction.getElem?_of_needId needLength
      rw [constants length] at read
      exact raised_of_addType (raised_of_addElement types added) (fun _ result =>
        .array (defines_concat rfl opcode result) elementAt lengthAt (types element)) read id
  | opTypeRuntimeArray =>
      simp only [opcode, except_bind_eq_ok_iff] at read
      obtain ⟨element, needElement, next, added, read⟩ := read
      have elementAt := Instruction.getElem?_of_needId needElement
      exact raised_of_addType (raised_of_addElement types added) (fun _ result =>
        .runtimeArray (defines_concat rfl opcode result) elementAt (types element)) read id
  | opTypeStruct =>
      simp only [opcode, except_bind_eq_ok_iff] at read
      obtain ⟨members, needMembers, read⟩ := read
      have operands := operands_of_mapM_needId needMembers
      exact raised_of_addType types
        (fun _ result => .struct (defines_concat rfl opcode result) operands) read id
  | opTypeImage =>
      simp only [opcode, except_bind_eq_ok_iff] at read
      obtain ⟨desc, described, read⟩ := read
      obtain ⟨sampled, dim, depth, arrayed, multisampled, shape, rfl⟩ :=
        operands_of_imageDesc described
      exact raised_of_addType types
        (fun _ result => .image (defines_concat rfl opcode result) shape) read id
  | opTypeSampledImage =>
      simp only [opcode, except_bind_eq_ok_iff] at read
      obtain ⟨image, needImage, read⟩ := read
      have imageAt := Instruction.getElem?_of_needId needImage
      exact raised_of_addType types (fun _ result =>
        .sampledImage (defines_concat rfl opcode result) imageAt (types image)) read id
  | opTypeSampler =>
      simp only [opcode] at read
      exact raised_of_addType types
        (fun _ result => .sampler (defines_concat rfl opcode result)) read id
  | opTypePointer =>
      simp only [opcode, except_bind_eq_ok_iff] at read
      obtain ⟨storage, -, pointee, -, own, -, same⟩ := read
      cases same
      exact raised_of_silent types (by simp [opcode, Opcode.describesType]) rfl id
  | opConstant =>
      simp only [opcode] at read
      refine raised_of_silent types (by simp [opcode, Opcode.describesType]) ?_ id
      split at read
      · obtain ⟨own, -, same⟩ := except_bind_eq_ok_iff.mp read
        cases same
        rfl
      · cases read
        rfl
  | opVariable =>
      simp only [opcode, except_bind_eq_ok_iff] at read
      obtain ⟨storage, -, own, -, pointer, -, same⟩ := read
      cases same
      exact raised_of_silent types (by simp [opcode, Opcode.describesType]) rfl id
  | _ =>
      simp only [opcode] at read
      cases read
      exact raised_of_silent types (by simp [opcode, Opcode.describesType]) rfl id

/-! ## Reading a module -/

/-- Into tables without types and constants, those of the instructions are read. -/
theorem raised_foldlM (untyped : t.types = .empty) (unknown : t.constants = .empty)
    (ended : is.foldlM addGlobal t = .ok t') (id : Id) : Raised is id (t'.typeOf id) := by
  induction is using List.reverseRecOn generalizing t' id with
  | nil =>
      cases ended
      rw [typeOf, untyped]
      exact .undefined (List.forall_mem_nil _)
  | append_singleton before i ih =>
      rw [List.foldlM_append] at ended
      obtain ⟨u, first, ended⟩ := except_bind_eq_ok_iff.mp ended
      rw [List.foldlM_cons] at ended
      obtain ⟨last, read, same⟩ := except_bind_eq_ok_iff.mp ended
      cases same
      exact raised_addGlobal (ih first) (constants_foldlM unknown first) read id

/-- **The types that are read from a module are those that its instructions describe.** -/
theorem raised_of_ofModule {m : Module} (read : ofModule m = .ok t) (id : Id) :
    Raised m.globals id (t.typeOf id) := by
  obtain ⟨start, u, untyped, unknown, first, rest⟩ :=
    exists_of_split read (List.append_nil m.globals).symm
  cases rest
  exact raised_foldlM untyped unknown first id

end

end Tables

end ShaderBundle.Spirv
