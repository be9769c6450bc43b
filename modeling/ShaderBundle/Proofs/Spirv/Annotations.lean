/-
# Proofs.Spirv.Annotations — what annotations state, and when they are read

A `Key` is an id or a member with a decoration.  An annotation states a value for one key,
or it states nothing (`Instruction.statement?`).  Reading annotations notes what they state
one after the other, so a key has the value that is stated for it last
(`Tables.valueAt_noteAll`).

Nothing else that is read from a module looks at decorations or changes them (`Blind`).  The
annotations might therefore as well be read last, into the tables that the module has
without them (`ofModule_eq_ok_iff`).
-/
import ShaderBundle.Proofs.Shader.Reflect
import ShaderBundle.Spirv.Shader

namespace ShaderBundle.Spirv

set_option autoImplicit false

/-! ## Statements -/

/-- What can have a value: an id or a member, with a decoration. -/
structure Key where
  id : Id
  member : Option UInt32
  decoration : Decoration
deriving DecidableEq

/-- The operation that states a value for a key. -/
def Key.opcode (k : Key) : Opcode := if k.member.isNone then .opDecorate else .opMemberDecorate

def Key.operands (k : Key) : List Operand :=
  .id k.id :: (k.member.map Operand.word).toList ++ [.decoration k.decoration]

namespace Instruction

/-- Whether an instruction puts the decoration of a key in its place. -/
def states (i : Instruction) (k : Key) : Bool :=
  match k.member with
  | none => i.decorates k.id k.decoration
  | some member => i.decoratesMember k.id member k.decoration

/-- The key and the value that an annotation states. -/
def statement? (i : Instruction) : Option (Key × UInt32) :=
  match i.opcode, i.operands with
  | .opDecorate, .id n :: .decoration d :: rest =>
    some (⟨n, none, d⟩, Tables.decorationValue rest.head?)
  | .opMemberDecorate, .id n :: .word member :: .decoration d :: rest =>
    some (⟨n, some member, d⟩, Tables.decorationValue rest.head?)
  | _, _ => none

/-- The value that an annotation states for a key. -/
def valueFor? (i : Instruction) (k : Key) : Option UInt32 :=
  match i.statement? with
  | some (j, value) => if k = j then some value else none
  | none => none

/-- An annotation whose operation makes a statement does make one. -/
def Readable (i : Instruction) : Prop :=
  i.opcode = .opDecorate ∨ i.opcode = .opMemberDecorate → ∃ k value, i.statement? = some (k, value)

theorem statement?_eq_some_iff (i : Instruction) (k : Key) (value : UInt32) :
    i.statement? = some (k, value) ↔ i.opcode = k.opcode ∧
      ∃ rest, i.operands = k.operands ++ rest ∧ Tables.decorationValue rest.head? = value := by
  constructor
  · intro stated
    unfold statement? at stated
    split at stated
    · rename_i rest opcode operands
      cases stated
      exact ⟨opcode, rest, operands, rfl⟩
    · rename_i rest opcode operands
      cases stated
      exact ⟨opcode, rest, operands, rfl⟩
    · cases stated
  · obtain ⟨id, member, d⟩ := k
    rintro ⟨opcode, rest, operands, rfl⟩
    unfold statement?
    cases member <;> rw [opcode, operands] <;> rfl

theorem states_iff (i : Instruction) (k : Key) :
    i.states k ↔ i.opcode = k.opcode ∧ ∃ rest, i.operands = k.operands ++ rest := by
  obtain ⟨id, member, d⟩ := k
  constructor
  · intro states
    cases member with
    | none =>
        change i.decorates id d at states
        unfold decorates at states
        split at states
        · rename_i n e rest opcode operands
          rw [Bool.and_eq_true, decide_eq_true_eq, decide_eq_true_eq] at states
          obtain ⟨rfl, rfl⟩ := states
          exact ⟨opcode, rest, operands⟩
        · cases states
    | some member =>
        change i.decoratesMember id member d at states
        unfold decoratesMember at states
        split at states
        · rename_i n m e rest opcode operands
          rw [Bool.and_eq_true, Bool.and_eq_true, decide_eq_true_eq, decide_eq_true_eq,
            decide_eq_true_eq] at states
          obtain ⟨⟨rfl, rfl⟩, rfl⟩ := states
          exact ⟨opcode, rest, operands⟩
        · cases states
  · rintro ⟨opcode, rest, operands⟩
    cases member with
    | none => simp [states, decorates, opcode, operands, Key.opcode, Key.operands]
    | some member => simp [states, decoratesMember, opcode, operands, Key.opcode, Key.operands]

/-- An annotation has a value for the keys that it states. -/
theorem valueFor?_isSome_iff (i : Instruction) (k : Key) : (i.valueFor? k).isSome ↔ i.states k := by
  have stated : i.states k ↔ ∃ value, i.statement? = some (k, value) := by
    simp only [states_iff, statement?_eq_some_iff, exists_and_left]
    refine and_congr_right fun _ => ?_
    constructor
    · rintro ⟨rest, operands⟩
      exact ⟨_, rest, operands, rfl⟩
    · rintro ⟨-, rest, operands, -⟩
      exact ⟨rest, operands⟩
  rw [stated]
  unfold valueFor?
  cases i.statement? with
  | none => simp
  | some statement => by_cases own : k = statement.1 <;> simp [own, Prod.ext_iff, eq_comm]

/-! ## Operands by place -/

theorem getElem?_of_needId {i : Instruction} {place : Nat} {n : Id}
    (needed : i.needId place = .ok n) : i.operands[place]? = some (.id n) := by
  unfold needId at needed
  split at needed
  · cases needed
    assumption
  · cases needed

theorem getElem?_of_needWord {i : Instruction} {place : Nat} {n : UInt32}
    (needed : i.needWord place = .ok n) : i.operands[place]? = some (.word n) := by
  unfold needWord at needed
  split at needed
  · cases needed
    assumption
  · cases needed

theorem getElem?_of_needDecoration {i : Instruction} {place : Nat} {d : Decoration}
    (needed : i.needDecoration place = .ok d) : i.operands[place]? = some (.decoration d) := by
  unfold needDecoration at needed
  split at needed
  · cases needed
    assumption
  · cases needed

end Instruction

/-- The last of some answers is that of the first element only if no other gives one. -/
theorem getLast?_filterMap_cons {α β : Type} (f : α → Option β) (a : α) (l : List α) :
    ((a :: l).filterMap f).getLast? = (l.filterMap f).getLast?.or (f a) := by
  rw [List.filterMap_cons]
  cases f a with
  | none => simp
  | some b => cases last : (l.filterMap f).getLast? <;> simp [List.getLast?_cons, last]

/-- The values that are stated for a key, in their order. -/
def valuesFor (annotations : List Instruction) (k : Key) : List UInt32 :=
  annotations.filterMap (·.valueFor? k)

namespace Tables

def valueAt (t : Tables) (k : Key) : Option UInt32 :=
  match k.member with
  | none => t.decorations.find? (k.id, k.decoration)
  | some member => t.memberDecorations.find? (k.id, member, k.decoration)

/-- The tables with other decorations. -/
def mapDecorations (t : Tables)
    (ids : Table (Id × Decoration) UInt32 → Table (Id × Decoration) UInt32)
    (members : Table (Id × UInt32 × Decoration) UInt32 → Table (Id × UInt32 × Decoration) UInt32) :
    Tables :=
  { t with decorations := ids t.decorations, memberDecorations := members t.memberDecorations }

def put (t : Tables) (k : Key) (value : UInt32) : Tables :=
  match k.member with
  | none => t.mapDecorations (·.insert (k.id, k.decoration) value) id
  | some member => t.mapDecorations id (·.insert (k.id, member, k.decoration) value)

/-- The tables with what an annotation states. -/
def note (t : Tables) (i : Instruction) : Tables :=
  match i.statement? with
  | some (k, value) => t.put k value
  | none => t

/-- The tables with what annotations state. -/
def noteAll (t : Tables) (annotations : List Instruction) : Tables := annotations.foldl note t

theorem valueAt_put (t : Tables) (j k : Key) (value : UInt32) :
    (t.put j value).valueAt k = if k = j then some value else t.valueAt k := by
  obtain ⟨id, member, d⟩ := k
  obtain ⟨id', member', d'⟩ := j
  cases member <;> cases member' <;> simp [put, valueAt, mapDecorations]

theorem valueAt_note (t : Tables) (i : Instruction) (k : Key) :
    (t.note i).valueAt k = (i.valueFor? k).or (t.valueAt k) := by
  unfold note Instruction.valueFor?
  cases i.statement? with
  | none => rfl
  | some statement =>
      obtain ⟨j, value⟩ := statement
      simp only [valueAt_put]
      split <;> rfl

/-- The value that is stated last counts. -/
theorem valueAt_noteAll (t : Tables) (annotations : List Instruction) (k : Key) :
    (t.noteAll annotations).valueAt k =
      (valuesFor annotations k).getLast?.or (t.valueAt k) := by
  induction annotations generalizing t with
  | nil => rfl
  | cons i rest ih =>
      refine (ih (t.note i)).trans ?_
      rw [valueAt_note, ← Option.or_assoc]
      unfold valuesFor
      rw [getLast?_filterMap_cons]

/-! ## Reading annotations -/

theorem readable_of_addAnnotation {t t' : Tables} {i : Instruction}
    (read : t.addAnnotation i = .ok t') : i.Readable := by
  intro stating
  simp only [Instruction.statement?_eq_some_iff]
  unfold addAnnotation at read
  rcases stating with opcode | opcode
  · simp only [opcode, except_bind_eq_ok_iff] at read
    obtain ⟨n, needId, d, needDecoration, -⟩ := read
    have first := Instruction.getElem?_of_needId needId
    have second := Instruction.getElem?_of_needDecoration needDecoration
    -- what stands at the places is what the operands begin with
    generalize i.operands = operands at first second
    obtain _ | ⟨a, _ | ⟨b, rest⟩⟩ := operands
    · cases first
    · cases second
    · cases first
      cases second
      exact ⟨⟨n, none, d⟩, _, opcode, rest, rfl, rfl⟩
  · simp only [opcode, except_bind_eq_ok_iff] at read
    obtain ⟨n, needId, member, needWord, d, needDecoration, -⟩ := read
    have first := Instruction.getElem?_of_needId needId
    have second := Instruction.getElem?_of_needWord needWord
    have third := Instruction.getElem?_of_needDecoration needDecoration
    generalize i.operands = operands at first second third
    obtain _ | ⟨a, _ | ⟨b, _ | ⟨c, rest⟩⟩⟩ := operands
    · cases first
    · cases second
    · cases third
    · cases first
      cases second
      cases third
      exact ⟨⟨n, some member, d⟩, _, opcode, rest, rfl, rfl⟩

theorem addAnnotation_of_readable (t : Tables) {i : Instruction} (readable : i.Readable) :
    t.addAnnotation i = .ok (t.note i) := by
  unfold note
  cases statement : i.statement? with
  | some stated =>
      obtain ⟨⟨id, member, d⟩, value⟩ := stated
      obtain ⟨opcode, rest, operands, rfl⟩ := (i.statement?_eq_some_iff _ _).mp statement
      unfold addAnnotation
      cases member with
      | none =>
          simp only [opcode, Key.opcode, Instruction.needId, Instruction.needDecoration, operands,
            Key.operands]
          cases rest <;> rfl
      | some member =>
          simp only [opcode, Key.opcode, Instruction.needId, Instruction.needWord,
            Instruction.needDecoration, operands, Key.operands]
          cases rest <;> rfl
  | none =>
      -- it states nothing, so its operation is passed over
      have silent : ¬(i.opcode = .opDecorate ∨ i.opcode = .opMemberDecorate) := by
        intro stating
        obtain ⟨k, value, stated⟩ := readable stating
        rw [statement] at stated
        cases stated
      rw [not_or] at silent
      unfold addAnnotation
      split
      · exact absurd ‹_› silent.1
      · exact absurd ‹_› silent.2
      · rfl

/-- Annotations are read exactly when each of them is readable. -/
theorem foldlM_addAnnotation_eq_ok_iff (t t' : Tables) (annotations : List Instruction) :
    annotations.foldlM addAnnotation t = .ok t' ↔
      (∀ i ∈ annotations, i.Readable) ∧ t.noteAll annotations = t' := by
  induction annotations generalizing t with
  | nil => simp [noteAll, pure, Except.pure]
  | cons i rest ih =>
      rw [List.foldlM_cons, except_bind_eq_ok_iff, List.forall_mem_cons]
      simp only [ih]
      constructor
      · rintro ⟨next, read, readable, rfl⟩
        have own := readable_of_addAnnotation read
        rw [t.addAnnotation_of_readable own] at read
        cases read
        exact ⟨⟨own, readable⟩, rfl⟩
      · rintro ⟨⟨own, readable⟩, rfl⟩
        exact ⟨_, t.addAnnotation_of_readable own, readable, rfl⟩

/-! ## All else -/

/-- A reading that neither looks at decorations nor changes them. -/
def Blind (read : Tables → Instruction → Except ModuleFault Tables) : Prop :=
  ∀ ids members t i, read (t.mapDecorations ids members) i =
    (read t i).map (·.mapDecorations ids members)

theorem addEntryPoint_blind : Blind addEntryPoint := by
  intro ids members t i
  unfold addEntryPoint
  cases i.needModel 0 <;> cases i.needText 2 <;> rfl

theorem addName_blind : Blind addName := by
  intro ids members t i
  unfold addName
  cases i.opcode with
  | opName => cases i.needId 0 <;> cases i.needText 1 <;> rfl
  | opMemberName => cases i.needId 0 <;> cases i.needWord 1 <;> cases i.needText 2 <;> rfl
  | _ => rfl

theorem except_map_bind {ε α β γ : Type} (x : Except ε α) (f : α → Except ε β) (g : β → γ) :
    (x >>= f).map g = x >>= fun a => (f a).map g := by
  cases x <;> rfl

theorem except_bind_map {ε α β γ : Type} (x : Except ε α) (g : α → β) (f : β → Except ε γ) :
    x.map g >>= f = x >>= fun a => f (g a) := by
  cases x <;> rfl

section

variable (ids : Table (Id × Decoration) UInt32 → Table (Id × Decoration) UInt32)
  (members : Table (Id × UInt32 × Decoration) UInt32 → Table (Id × UInt32 × Decoration) UInt32)

theorem addType_mapDecorations (t : Tables) (i : Instruction) (type : TypeDesc) :
    (t.mapDecorations ids members).addType i type =
      (t.addType i type).map (·.mapDecorations ids members) := by
  unfold addType
  cases i.needResult <;> rfl

theorem addElement_mapDecorations (t : Tables) (i : Instruction) (element : Id) :
    (t.mapDecorations ids members).addElement i element =
      (t.addElement i element).map (·.mapDecorations ids members) := by
  unfold addElement
  cases i.needResult <;> rfl

end

theorem addGlobal_blind : Blind addGlobal := by
  intro ids members t i
  unfold addGlobal
  cases i.opcode with
  | opConstant =>
      dsimp only
      split
      · cases i.needResult <;> rfl
      · rfl
  | _ =>
      simp only [except_map_bind, except_bind_map, addType_mapDecorations,
        addElement_mapDecorations] <;> rfl

theorem Blind.foldlM {read : Tables → Instruction → Except ModuleFault Tables} (blind : Blind read)
    (ids : Table (Id × Decoration) UInt32 → Table (Id × Decoration) UInt32)
    (members : Table (Id × UInt32 × Decoration) UInt32 → Table (Id × UInt32 × Decoration) UInt32)
    (t : Tables) (is : List Instruction) :
    is.foldlM read (t.mapDecorations ids members) =
      (is.foldlM read t).map (·.mapDecorations ids members) := by
  induction is generalizing t with
  | nil => rfl
  | cons i rest ih =>
      rw [List.foldlM_cons, List.foldlM_cons, blind, except_bind_map, except_map_bind]
      simp only [ih]

/-- A blind reading keeps the decorations. -/
theorem Blind.kept {read : Tables → Instruction → Except ModuleFault Tables} (blind : Blind read)
    {t t' : Tables} {is : List Instruction} (ended : is.foldlM read t = .ok t') :
    t'.decorations = t.decorations ∧ t'.memberDecorations = t.memberDecorations := by
  -- putting the decorations back that are there anyway changes nothing before the reading,
  -- so it changes nothing after it
  have same := blind.foldlM (fun _ => t.decorations) (fun _ => t.memberDecorations) t is
  have own : t.mapDecorations (fun _ => t.decorations) (fun _ => t.memberDecorations) = t := rfl
  rw [own, ended] at same
  injection same with same
  rw [same]
  exact ⟨rfl, rfl⟩

theorem noteAll_eq_mapDecorations (annotations : List Instruction) :
    ∃ ids members, ∀ t : Tables, t.noteAll annotations = t.mapDecorations ids members := by
  induction annotations with
  | nil => exact ⟨id, id, fun _ => rfl⟩
  | cons i rest ih =>
      obtain ⟨ids, members, later⟩ := ih
      have noted (t : Tables) : t.noteAll (i :: rest) = (t.note i).mapDecorations ids members :=
        later (t.note i)
      simp only [noted, note]
      cases i.statement? with
      | none => exact ⟨ids, members, fun _ => rfl⟩
      | some statement =>
          obtain ⟨⟨n, member, d⟩, value⟩ := statement
          cases member with
          | none => exact ⟨fun ds => ids (ds.insert (n, d) value), members, fun _ => rfl⟩
          | some m => exact ⟨ids, fun ds => members (ds.insert (n, m, d) value), fun _ => rfl⟩

/-- What was noted before a blind reading might as well be noted after it. -/
theorem Blind.noteAll {read : Tables → Instruction → Except ModuleFault Tables}
    (blind : Blind read) (t : Tables) (annotations is : List Instruction) :
    is.foldlM read (t.noteAll annotations) = (is.foldlM read t).map (·.noteAll annotations) := by
  obtain ⟨ids, members, noted⟩ := noteAll_eq_mapDecorations annotations
  simp only [noted]
  exact blind.foldlM ids members t is

/-- A module is read in four sweeps. -/
theorem ofModule_sweeps (m : Module) (t : Tables) :
    ofModule m = .ok t ↔
      ∃ t₁, m.entryPoints.foldlM addEntryPoint empty = .ok t₁ ∧ t₁.entryPoints ≠ [] ∧
        ∃ t₂, m.debugNames.foldlM addName t₁ = .ok t₂ ∧
          ∃ t₃, m.annotations.foldlM addAnnotation t₂ = .ok t₃ ∧
            m.globals.foldlM addGlobal t₃ = .ok t := by
  unfold ofModule
  rw [except_bind_eq_ok_iff]
  refine exists_congr fun t₁ => and_congr_right fun _ => ?_
  by_cases lacking : t₁.entryPoints = []
  · simp [lacking]
  · simp [lacking, except_bind_eq_ok_iff]

/-- The annotations of a module can be read last. -/
theorem ofModule_eq_ok_iff (m : Module) (t : Tables) :
    ofModule m = .ok t ↔ ∃ bare, ofModule { m with annotations := [] } = .ok bare ∧
      (∀ i ∈ m.annotations, i.Readable) ∧ bare.noteAll m.annotations = t := by
  simp only [ofModule_sweeps, foldlM_addAnnotation_eq_ok_iff]
  constructor
  · rintro ⟨t₁, entries, given, t₂, names, _, ⟨readable, rfl⟩, globals⟩
    rw [addGlobal_blind.noteAll] at globals
    cases bare : m.globals.foldlM addGlobal t₂ with
    | error fault =>
        rw [bare] at globals
        cases globals
    | ok final =>
        rw [bare] at globals
        cases globals
        exact ⟨final, ⟨t₁, entries, given, t₂, names, t₂, ⟨List.forall_mem_nil _, rfl⟩, bare⟩, readable, rfl⟩
  · rintro ⟨bare, ⟨t₁, entries, given, t₂, names, _, ⟨-, rfl⟩, globals⟩, readable, rfl⟩
    refine ⟨t₁, entries, given, t₂, names, _, ⟨readable, rfl⟩, ?_⟩
    rw [addGlobal_blind.noteAll, show m.globals.foldlM addGlobal t₂ = .ok bare from globals]
    rfl

/-- Without annotations, no key has a value. -/
theorem valueAt_of_no_annotations {m : Module} {t : Tables}
    (read : ofModule { m with annotations := [] } = .ok t) (k : Key) : t.valueAt k = none := by
  obtain ⟨t₁, entries, -, t₂, names, t₃, annotations, globals⟩ := (ofModule_sweeps _ t).mp read
  cases annotations
  have afterEntries := addEntryPoint_blind.kept entries
  have afterNames := addName_blind.kept names
  have afterGlobals := addGlobal_blind.kept globals
  have ids : t.decorations = .empty :=
    afterGlobals.1.trans (afterNames.1.trans afterEntries.1)
  have members : t.memberDecorations = .empty :=
    afterGlobals.2.trans (afterNames.2.trans afterEntries.2)
  unfold valueAt
  rw [ids, members]
  cases k.member <;> rfl

/-- A key has the value that the annotations of a module state last. -/
theorem valueAt_of_ofModule {m : Module} {t : Tables} (read : ofModule m = .ok t) (k : Key) :
    t.valueAt k = (valuesFor m.annotations k).getLast? := by
  obtain ⟨bare, readBare, -, rfl⟩ := (ofModule_eq_ok_iff m t).mp read
  rw [valueAt_noteAll, valueAt_of_no_annotations readBare, Option.or_none]

end Tables

end ShaderBundle.Spirv
