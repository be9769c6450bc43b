/-
# Proofs.Spirv.Variables — from the variables of a module to its resources

The tables list the variables of a module in their order, whatever else is read around them
(`globalVars_of_ofModule`).  Each variable gives at most one resource, and the resource has
its id.  So in a module that gives no id to two variables, no two resources that are bound
have one id (`distinctIds_of_ofModule`).
-/
import Mathlib.Data.List.Perm.Subperm
import ShaderBundle.Proofs.Shader.Bindings
import ShaderBundle.Proofs.Spirv.Types

namespace ShaderBundle.Spirv

set_option autoImplicit false

def Instruction.variableId? (i : Instruction) : Option Id :=
  if i.opcode = .opVariable then i.resultId else none

/-- The ids of the variables outside of functions, in their order. -/
def Module.variableIds (m : Module) : List Id := m.globals.filterMap (·.variableId?)

namespace Tables

/-! ## Variables -/

section

variable {t t' : Tables} {i : Instruction} {is : List Instruction}

/-- A variable instruction that is read declares the variable of its result. -/
theorem map_id_declared? (read : t.addGlobal i = .ok t') :
    i.declared?.map Variable.id = i.variableId? := by
  unfold Instruction.declared? Instruction.variableId?
  by_cases own : i.opcode = .opVariable
  · unfold addGlobal at read
    simp only [own, except_bind_eq_ok_iff] at read
    obtain ⟨storage, needed, id, needResult, pointer, needType, -⟩ := read
    simp [own, resultId_of_needResult needResult, Instruction.eq_some_of_require needType,
      Instruction.getElem?_of_needStorage needed]
  · simp [own]

/-- Reading an instruction adds the variable that it declares. -/
theorem map_id_addGlobal (read : t.addGlobal i = .ok t') :
    t'.globalVars.map Variable.id = t.globalVars.map Variable.id ++ i.variableId?.toList := by
  rw [(addGlobal_eq_ok read).globalVars, List.map_append, ← map_id_declared? read]
  cases i.declared? <;> rfl

theorem map_id_foldlM_addGlobal (read : is.foldlM addGlobal t = .ok t') :
    t'.globalVars.map Variable.id =
      t.globalVars.map Variable.id ++ is.filterMap (·.variableId?) := by
  induction is generalizing t with
  | nil =>
      cases read
      exact (List.append_nil _).symm
  | cons i rest ih =>
      rw [List.foldlM_cons] at read
      obtain ⟨next, first, read⟩ := except_bind_eq_ok_iff.mp read
      rw [ih read, map_id_addGlobal first, List.append_assoc]
      congr 1
      rw [List.filterMap_cons]
      cases i.variableId? <;> rfl

/-- The tables list the variables of the module in their order. -/
theorem globalVars_of_ofModule {m : Module} (read : ofModule m = .ok t) :
    t.globalVars.map Variable.id = m.variableIds := by
  obtain ⟨t₁, entries, -, t₂, names, t₃, annotations, globals⟩ := (ofModule_sweeps m t).mp read
  have before : t₃.globalVars = [] := unread_before_globals (·.globalVars) entries names annotations
    (fun _ _ _ => rfl) (fun _ _ _ => rfl) (fun _ _ _ => rfl)
  rw [map_id_foldlM_addGlobal globals, before]
  rfl

end

/-! ## Resources -/

def boundIds (res : Resources) : List Id :=
  (res.uniformBuffers ++ res.sampledImages).map Resource.id

/-- A variable gives at most one resource that is bound, which has its id. -/
theorem boundIds_addVariable (t : Tables) (res : Resources) (v : Variable) :
    (boundIds (t.addVariable res v)).Subperm (boundIds res ++ [v.id]) := by
  have kept : (boundIds res).Subperm (boundIds res ++ [v.id]) :=
    (List.sublist_append_left _ _).subperm
  unfold addVariable
  cases t.pointers.find? v.pointerType with
  | none => exact kept
  | some pointee =>
      cases v.storage with
      | uniform =>
          dsimp only
          split
          · -- blocks stand in front of the images
            refine List.Perm.subperm ?_
            simp only [boundIds, List.map_append, List.map_singleton, List.append_assoc]
            exact List.perm_append_comm.append_left _
          · exact kept
      | uniformConstant =>
          dsimp only
          split
          · refine List.Perm.subperm ?_
            simp only [boundIds, List.map_append, List.map_singleton, List.append_assoc]
            exact List.Perm.refl _
          · exact kept
      | input | output =>
          dsimp only
          split <;> exact kept
      | _ => exact kept

theorem boundIds_foldl_addVariable (t : Tables) (res : Resources) (vars : List Variable) :
    (boundIds (vars.foldl t.addVariable res)).Subperm (boundIds res ++ vars.map Variable.id) := by
  induction vars generalizing res with
  | nil =>
      rw [List.map_nil, List.append_nil]
      exact List.Subperm.refl _
  | cons v rest ih =>
      have first := (List.subperm_append_right (rest.map Variable.id)).mpr
        (t.boundIds_addVariable res v)
      rw [List.append_assoc] at first
      exact (ih (t.addVariable res v)).trans first

end Tables

theorem read_of_ofModule {m : Module} {s : ModuleShader}
    (accepted : ModuleShader.ofModule m = .ok s) :
    s.module = m ∧ Tables.ofModule m = .ok s.tables := by
  obtain ⟨t, read, same⟩ := except_bind_eq_ok_iff.mp accepted
  cases same
  exact ⟨rfl, read⟩

/-- **Where no two variables of a module have one id, no two resources that are bound have.** -/
theorem distinctIds_of_ofModule {m : Module} {s : ModuleShader}
    (accepted : ModuleShader.ofModule m = .ok s) (distinct : m.variableIds.Nodup) :
    DistinctIds s := by
  obtain ⟨-, read⟩ := read_of_ofModule accepted
  rw [← Tables.globalVars_of_ofModule read] at distinct
  obtain ⟨ids, perm, among⟩ := s.tables.boundIds_foldl_addVariable .empty s.tables.globalVars
  exact perm.nodup_iff.mp (among.nodup distinct)

end ShaderBundle.Spirv
