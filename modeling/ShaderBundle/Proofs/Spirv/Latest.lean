/-
# Proofs.Spirv.Latest — what instructions say last

The tables of a module know of names, pointers, arrays, variables and the interface of the entry
point what its instructions say, and nothing else (`tells_of_ofModule`).  An instruction says at
most one thing of one id or member (`Instruction.name?`, `memberName?`, `pointee?`, `element?`),
and where several speak of one the last of them counts (`saidLast`).  Variables are kept in the
order of their instructions, and the interface is that of the first entry point
(`interface_of_entryPoints`).
-/
import Mathlib.Logic.Basic
import Mathlib.Tactic.SplitIfs
import ShaderBundle.Proofs.Spirv.Sweeps

namespace ShaderBundle.Spirv

set_option autoImplicit false

/-! ## The last of some statements -/

section

variable {κ ν : Type} [DecidableEq κ]

/-- What a statement says of a key. -/
def saidOf (stated : Instruction → Option (κ × ν)) (k : κ) (i : Instruction) : Option ν :=
  (stated i).bind fun statement => if statement.1 = k then some statement.2 else none

/-- What instructions say last of a key. -/
def saidLast (stated : Instruction → Option (κ × ν)) (is : List Instruction) (k : κ) : Option ν :=
  (is.filterMap (saidOf stated k)).getLast?

/-- What is said last is said. -/
theorem exists_of_saidLast {stated : Instruction → Option (κ × ν)} {is : List Instruction} {k : κ}
    {v : ν} (last : saidLast stated is k = some v) : ∃ i ∈ is, stated i = some (k, v) := by
  obtain ⟨i, among, own⟩ := List.mem_filterMap.mp (List.mem_of_getLast? last)
  obtain ⟨statement, said, own⟩ := Option.bind_eq_some_iff.mp own
  split_ifs at own with same
  cases own
  exact ⟨i, among, by rw [said, ← same]⟩

end

/-! ## A module -/

/-- What an id is named last. -/
def Module.name? (m : Module) (id : Id) : Option String :=
  saidLast Instruction.name? m.debugNames id

/-- What a member is named last. -/
def Module.memberName? (m : Module) (id : Id) (member : UInt32) : Option String :=
  saidLast Instruction.memberName? m.debugNames (id, member)

/-- What a pointer type points to. -/
def Module.pointee? (m : Module) (id : Id) : Option Id :=
  saidLast Instruction.pointee? m.globals id

/-- The type of the elements of an array type. -/
def Module.element? (m : Module) (id : Id) : Option Id :=
  saidLast Instruction.element? m.globals id

/-- The ids that the first entry point uses. -/
def Module.interface (m : Module) : List Id :=
  match m.entryPoints with
  | first :: _ => first.usedIds
  | [] => []

/-- The annotations put a decoration in its place. -/
def Module.States (m : Module) (k : Key) : Prop := ∃ i ∈ m.annotations, i.states k

/-- The tables of a module say what its instructions say. -/
structure Tables.Tells (m : Module) (t : Tables) : Prop where
  names : ∀ id, t.names.find? id = m.name? id
  memberNames : ∀ id member, t.memberNames.find? (id, member) = m.memberName? id member
  pointers : ∀ id, t.pointers.find? id = m.pointee? id
  elements : ∀ id, t.elements.find? id = m.element? id
  interface : t.interface = m.interface
  globalVars : t.globalVars = m.globals.filterMap (·.declared?)
  decorations : ∀ k, (t.valueAt k).isSome ↔ m.States k

namespace Tables

variable {m : Module} {t t' : Tables} {is : List Instruction}

/-- Where each step notes what its instruction says, what is said last of a key counts. -/
theorem find?_foldlM {κ ν : Type} [DecidableEq κ]
    {read : Tables → Instruction → Except ModuleFault Tables} (table : Tables → Table κ ν)
    (stated : Instruction → Option (κ × ν))
    (notes : ∀ t t' i, read t i = .ok t' → table t' = noted (table t) (stated i))
    (ended : is.foldlM read t = .ok t') (k : κ) :
    (table t').find? k = (saidLast stated is k).or ((table t).find? k) := by
  induction is generalizing t with
  | nil =>
      cases ended
      rfl
  | cons i rest ih =>
      rw [List.foldlM_cons] at ended
      obtain ⟨next, first, ended⟩ := except_bind_eq_ok_iff.mp ended
      have here : (table next).find? k = (saidOf stated k i).or ((table t).find? k) := by
        rw [notes t next i first]
        unfold saidOf noted
        cases stated i with
        | none => rfl
        | some statement =>
            by_cases own : statement.1 = k
            · simp [own]
            · simp [own, Ne.symm own]
      rw [ih ended, here, ← Option.or_assoc]
      unfold saidLast
      rw [getLast?_filterMap_cons]

/-- Further entry points leave the interface to the first. -/
theorem interface_of_entryPoints (entries : is.foldlM addEntryPoint t = .ok t') :
    t'.interface = if t.entryPoints = [] then (is.head?.map (·.usedIds)).getD t.interface
      else t.interface := by
  induction is generalizing t with
  | nil =>
      cases entries
      simp
  | cons i rest ih =>
      rw [List.foldlM_cons] at entries
      obtain ⟨next, first, entries⟩ := except_bind_eq_ok_iff.mp entries
      obtain ⟨entry, rfl⟩ := addEntryPoint_eq_ok first
      rw [ih entries, if_neg (by simp)]
      rfl

theorem valuesFor_ne_nil_iff (annotations : List Instruction) (k : Key) :
    valuesFor annotations k ≠ [] ↔ ∃ i ∈ annotations, i.states k := by
  rw [valuesFor, ne_eq, List.filterMap_eq_nil_iff]
  simp only [not_forall, ← Instruction.valueFor?_isSome_iff, Option.isSome_iff_ne_none,
    exists_prop, ne_eq]

/-- **The tables of a module say what its instructions say last.** -/
theorem tells_of_ofModule (read : ofModule m = .ok t) : Tells m t := by
  obtain ⟨t₁, entries, -, t₂, names, t₃, annotations, globals⟩ := (ofModule_sweeps m t).mp read
  have fresh {β : Type} (get : Tables → β) := unread_before_globals get entries names annotations
  have named {κ : Type} [DecidableEq κ] (table : Tables → Table κ String)
      (stated : Instruction → Option (κ × String)) (before : table t₁ = .empty)
      (notes : ∀ u u' i, u.addName i = .ok u' → table u' = noted (table u) (stated i))
      (after : table t = table t₂) (k : κ) :
      (table t).find? k = saidLast stated m.debugNames k := by
    rw [after, find?_foldlM table stated notes names k, before]
    exact Option.or_none
  refine ⟨?_, fun id member => ?_, fun id => ?_, fun id => ?_, ?_, ?_, fun k => ?_⟩
  · refine named (·.names) Instruction.name?
      (keeps_entryPoints (·.names) (fun _ _ _ => rfl) entries)
      (fun u u' i read => by rw [addName_eq_ok read]) ?_
    exact (foldlM_keeps (·.names) (fun _ _ _ read => (addGlobal_eq_ok read).names) globals).trans
      (keeps_annotations (·.names) (fun _ _ _ => rfl) annotations)
  · refine named (·.memberNames) Instruction.memberName?
      (keeps_entryPoints (·.memberNames) (fun _ _ _ => rfl) entries)
      (fun u u' i read => by rw [addName_eq_ok read]) ?_ (id, member)
    exact (foldlM_keeps (·.memberNames) (fun _ _ _ read => (addGlobal_eq_ok read).memberNames)
      globals).trans (keeps_annotations (·.memberNames) (fun _ _ _ => rfl) annotations)
  · have before : t₃.pointers = .empty :=
      fresh (·.pointers) (fun _ _ _ => rfl) (fun _ _ _ => rfl) (fun _ _ _ => rfl)
    rw [find?_foldlM (·.pointers) Instruction.pointee?
      (fun _ _ _ read => (addGlobal_eq_ok read).pointers) globals id, before]
    exact Option.or_none
  · have before : t₃.elements = .empty :=
      fresh (·.elements) (fun _ _ _ => rfl) (fun _ _ _ => rfl) (fun _ _ _ => rfl)
    rw [find?_foldlM (·.elements) Instruction.element?
      (fun _ _ _ read => (addGlobal_eq_ok read).elements) globals id, before]
    exact Option.or_none
  · rw [foldlM_keeps (·.interface) (fun _ _ _ read => (addGlobal_eq_ok read).interface) globals,
      keeps_annotations (·.interface) (fun _ _ _ => rfl) annotations,
      keeps_names (·.interface) (fun _ _ _ => rfl) names, interface_of_entryPoints entries]
    unfold Module.interface
    cases m.entryPoints <;> rfl
  · have before : t₃.globalVars = [] :=
      fresh (·.globalVars) (fun _ _ _ => rfl) (fun _ _ _ => rfl) (fun _ _ _ => rfl)
    rw [globalVars_of_globals globals, before, List.nil_append]
  · rw [valueAt_of_ofModule read k, List.getLast?_isSome]
    exact valuesFor_ne_nil_iff m.annotations k

end Tables

end ShaderBundle.Spirv
