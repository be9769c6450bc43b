/-
# Proofs.Bundle.Layouts — what unified blocks have in common

Blocks that get one unique index agree as they are shown: by name, size and members.  A shown
member stands for one of a structure in a module (`Origin`), and showing it loses something:
its type is one of six classes, and of its arrays only the innermost length is left.

So two unified blocks come from structures whose members have the same names, offsets, classes
and innermost lengths one by one (`SameLayout`): the names that the modules give them last, the
offsets that they state last, and the types that their instructions describe.  Each class but the
invalid one belongs to one shape of vector or matrix of 32-bit floats
(`TypeDesc.shape_of_supported`).  What is not supported may be any type
(`blocks_unify_with_other_types`), and so may the lengths of outer arrays.
-/
import ShaderBundle.Proofs.Bundle.Order
import ShaderBundle.Proofs.Bundle.Targets
import ShaderBundle.Proofs.Spirv.Members
import ShaderBundle.Proofs.Spirv.Resources

namespace ShaderBundle

set_option autoImplicit false

open Spirv (ModuleShader)

/-! ## Classes of types -/

/-- The columns and rows that a class of types stands for. -/
def UniformType.shape? : UniformType → Option (UInt32 × UInt32)
  | .invalid => none
  | .float => some (1, 1)
  | .float2 => some (1, 2)
  | .float3 => some (1, 3)
  | .float4 => some (1, 4)
  | .mat4 => some (4, 4)

/-- A supported type is made of floats, in the shape of its class. -/
theorem TypeDesc.shape_of_supported {d : TypeDesc} (supported : d.uniformType ≠ .invalid) :
    d.base = .float ∧ d.uniformType.shape? = some (d.columns, d.vecsize) := by
  obtain ⟨base, width, vecsize, columns, array, members, image⟩ := d
  have word {n : UInt32} {k : Nat} (same : n.toNat = k) : n = UInt32.ofNat k := by
    rw [← same, UInt32.ofNat_toNat]
  cases base with
  | float =>
      refine ⟨rfl, ?_⟩
      unfold TypeDesc.uniformType at supported ⊢
      dsimp only at supported ⊢
      split at supported
      case h_6 => exact absurd rfl supported
      all_goals
        rename_i columnCount rowCount
        rw [word columnCount, word rowCount]
        rfl
  | _ => exact absurd rfl supported

/-! ## Structures in modules -/

/-- The members at one place of two structures, as far as unification compares them: what their
modules say of them, and their types. -/
structure SameMember (m m' : Spirv.Module) (type type' : Id) (k : Nat) (d d' : TypeDesc) :
    Prop where
  name : (m.memberName? type (UInt32.ofNat k)).getD "" =
    (m'.memberName? type' (UInt32.ofNat k)).getD ""
  offset : (m.memberOffset? type (UInt32.ofNat k)).getD 0 =
    (m'.memberOffset? type' (UInt32.ofNat k)).getD 0
  uniformType : d.uniformType = d'.uniformType
  innermost : d.array.headD 0 = d'.array.headD 0
  supported : d.uniformType ≠ .invalid →
    (d.base = .float ∧ d'.base = .float) ∧ (d.width = 32 ∧ d'.width = 32) ∧
      d.vecsize = d'.vecsize ∧ d.columns = d'.columns

/-- Two structures whose members are the same one by one, as far as they are compared. -/
structure SameLayout (m m' : Spirv.Module) (type type' : Id) (d d' : TypeDesc) : Prop where
  raised : Spirv.Raised m.globals type d
  raised' : Spirv.Raised m'.globals type' d'
  count : d.members.length = d'.members.length
  members : ∀ (k : Nat) (a a' : Id), d.members[k]? = some a → d'.members[k]? = some a' →
    ∃ e e', Spirv.Raised m.globals a e ∧ Spirv.Raised m'.globals a' e' ∧
      SameMember m m' type type' k e e'

/-- The structure that a block is read off: that of a resource of the module of its blob. -/
structure Origin (blobs : List Blob) (k j : Nat) (m : Spirv.Module) (type : Id) : Prop where
  decoded : ∃ blob, blobs[k]? = some blob ∧ Spirv.Module.ofWords? blob.words = some m
  /-- The resource is one by the rule for them, which asks that no array is an element of itself. -/
  resource : ∃ s r, ModuleShader.ofModule m = .ok s ∧
    (Shader.resources s).uniformBuffers[j]? = some r ∧ r.baseType = type ∧
    ((NoCycle fun a b => m.element? a = some b) →
      ∃ i ∈ m.globals, m.IsResource .uniformBuffer i r)
  struct : ∃ d, Spirv.Raised m.globals type d ∧ d.base = .struct
  block : m.States ⟨type, none, .block⟩

theorem origin_of_resource {blobs : List Blob} {k j : Nat} {blob : Blob} {s : ModuleShader}
    {r : Resource} (given : blobs[k]? = some blob)
    (decoded : ModuleShader.ofWords blob.words = .ok s)
    (resource : (Shader.resources s).uniformBuffers[j]? = some r) :
    Origin blobs k j s.module r.baseType := by
  obtain ⟨known, accepted⟩ := Spirv.module_of_ofWords decoded
  obtain ⟨-, read⟩ := Spirv.read_of_ofModule accepted
  have tells := Spirv.Tables.tells_of_ofModule read
  have types := Spirv.Tables.raised_of_ofModule read
  have listed : r ∈ Spirv.resourcesOf s.tables.resources .uniformBuffer :=
    List.mem_of_getElem? resource
  obtain ⟨struct, block⟩ := (tells.admits_iff _ _ _).mp (Spirv.Tables.admits_of_mem listed)
  refine ⟨⟨blob, given, known⟩, ⟨s, r, accepted, resource, rfl, fun acyclic => ?_⟩,
    ⟨_, types r.baseType, struct⟩, block⟩
  rw [tells.resourcesOf_eq] at listed
  obtain ⟨i, among, found⟩ := List.mem_filterMap.mp listed
  exact ⟨i, among, (tells.resource?_eq_some_iff acyclic types _ i r).mp found⟩

/-! ## Members as they are shown -/

section

variable {σ : Type} [Shader σ]

theorem getElem?_reflectUniforms (s : σ) (type : Id) (index : UInt32) (members : List Id) (k : Nat) :
    (reflectUniforms s type index members)[k]? =
      members[k]?.map (reflectUniform s type (index + UInt32.ofNat k)) := by
  induction members generalizing index k with
  | nil => rfl
  | cons m rest ih =>
      unfold reflectUniforms
      cases k with
      | zero => simp
      | succ k => rw [List.getElem?_cons_succ, List.getElem?_cons_succ, ih, add_one_add_ofNat]

theorem length_reflectUniforms (s : σ) (type : Id) (index : UInt32) (members : List Id) :
    (reflectUniforms s type index members).length = members.length := by
  induction members generalizing index with
  | nil => rfl
  | cons m rest ih =>
      unfold reflectUniforms
      rw [List.length_cons, List.length_cons, ih]

end

section

variable {s s' : ModuleShader} (told : s.ToldByModule) (told' : s'.ToldByModule) {type type' : Id}

include told told'

theorem sameMember_of_shown {a a' : Id} {k : Nat}
    (shown : reflectUniform s type (UInt32.ofNat k) a =
      reflectUniform s' type' (UInt32.ofNat k) a') :
    SameMember s.module s'.module type type' k (Shader.typeOf s a) (Shader.typeOf s' a') := by
  obtain ⟨name, uniformType, innermost, offset⟩ := Uniform.mk.inj shown
  rw [told.memberName, told'.memberName] at name
  rw [told.memberOffset, told'.memberOffset] at offset
  refine ⟨name, offset, uniformType, innermost, ?_⟩
  intro supported
  obtain ⟨float, shape⟩ := TypeDesc.shape_of_supported supported
  obtain ⟨float', shape'⟩ := TypeDesc.shape_of_supported (uniformType ▸ supported)
  rw [uniformType, shape'] at shape
  obtain ⟨columns, vecsize⟩ := Prod.mk.inj (Option.some.inj shape)
  exact ⟨⟨float, float'⟩,
    ⟨(told.types a).width_of_float float, (told'.types a').width_of_float float'⟩,
    vecsize.symm, columns.symm⟩

/-- Blocks that show the same members come from structures of one layout. -/
theorem sameLayout_of_shown
    (shown : reflectUniforms s type 0 (Shader.typeOf s type).members =
      reflectUniforms s' type' 0 (Shader.typeOf s' type').members) :
    SameLayout s.module s'.module type type' (Shader.typeOf s type) (Shader.typeOf s' type') := by
  refine ⟨told.types type, told'.types type', ?_, ?_⟩
  · have counts := congrArg List.length shown
    rwa [length_reflectUniforms, length_reflectUniforms] at counts
  · intro k a a' atK atK'
    have atPlace := congrArg (·[k]?) shown
    simp only [getElem?_reflectUniforms, atK, atK', Option.map_some, UInt32.zero_add] at atPlace
    exact ⟨_, _, told.types a, told'.types a',
      sameMember_of_shown told told' (Option.some.inj atPlace)⟩

end

/-- A prepared module shows the members of its structures as they were before. -/
theorem uniforms_of_prepare (scheme : BindingScheme) (target : Target) (stage : Stage)
    (s : ModuleShader) (r : Resource) :
    (reflectBlock scheme (prepare target stage s) r).uniforms =
      reflectUniforms s r.baseType 0 (Shader.typeOf s r.baseType).members := by
  have alike := Spirv.alike_prepare target stage s
  have types : Shader.typeOf (prepare target stage s) = Shader.typeOf s := alike.typeOf_eq
  unfold reflectBlock
  rw [types, reflectUniforms_of_alike alike]

/-! ## Blocks of a compilation -/

section

variable {b : Bundle} {blobs : List Blob} {target : Target} {run : Run ModuleShader}

/-- Taking indices away leaves the members of blocks. -/
theorem uniforms_bare (c : CompiledShader) :
    (bare c).interface.uniformBlocks.map UniformBlock.uniforms =
      c.interface.uniformBlocks.map UniformBlock.uniforms := by
  show (c.interface.uniformBlocks.map LawfulShared.withoutIndex).map UniformBlock.uniforms = _
  rw [List.map_map]
  rfl

/-- A block of a compilation has an origin, and shows the members of this. -/
theorem exists_origin (compiled : compileBundle b blobs target Spirv.backend = .ok run)
    {k j : Nat} {c : CompiledShader} {x : UniformBlock}
    (source : run.compilation.sources[k]? = some c)
    (block : c.interface.uniformBlocks[j]? = some x) :
    ∃ (s : ModuleShader) (type : Id), s.ToldByModule ∧ Origin blobs k j s.module type ∧
      x.uniforms = reflectUniforms s type 0 (Shader.typeOf s type).members := by
  obtain ⟨blob, given⟩ := blob_of_source compiled source
  obtain ⟨own, yields, same⟩ := source_of_blob compiled given source
  obtain ⟨snippet, s, -, decoded, read⟩ := module_of_compiled yields
  obtain ⟨i, reflects, named⟩ := reflectFor_entryPoint read
  have resources : Shader.resources (prepare target snippet.kind.stage s) = Shader.resources s :=
    (Spirv.alike_prepare target snippet.kind.stage s).resources_eq
  have blocks : own.interface.uniformBlocks = (Shader.resources s).uniformBuffers.map
      (reflectBlock (.ofTarget target) (prepare target snippet.kind.stage s)) := by
    rw [named, ← resources]
    exact reflects.uniformBlocks
  -- up to its index the block is that of the blob alone
  have shown : c.interface.uniformBlocks.map UniformBlock.uniforms =
      (Shader.resources s).uniformBuffers.map fun r =>
        reflectUniforms s r.baseType 0 (Shader.typeOf s r.baseType).members := by
    rw [← uniforms_bare, same, uniforms_bare, blocks, List.map_map]
    exact List.map_congr_left fun r _ => uniforms_of_prepare _ _ _ _ _
  have atPlace := congrArg (·[j]?) shown
  simp only [List.getElem?_map, block, Option.map_some] at atPlace
  obtain ⟨r, resource, uniforms⟩ := Option.map_eq_some_iff.mp atPlace.symm
  exact ⟨s, r.baseType, Spirv.toldByModule_of_ofWords decoded,
    origin_of_resource given decoded resource, uniforms.symm⟩

/-- The blocks of an accepted bundle stand for blocks of its table. -/
theorem Accepts.placed (accepts : Accepts b blobs target Spirv.backend run) {c : CompiledShader}
    (source : c ∈ run.compilation.sources) {x : UniformBlock}
    (block : x ∈ c.interface.uniformBlocks) : Unify.Placed run.compilation.uniqueBlocks x := by
  obtain ⟨done, all, clean, -, -⟩ :=
    (compileBundle_error_eq_none_iff accepts.compiled).mp accepts.clean
  obtain ⟨runs, ran, rfl, noError⟩ := compileBlobs_of_all all
  obtain ⟨own, again, ended⟩ := compileBundle_of_runs ran
  cases accepts.compiled.symm.trans again
  rw [noError, unifyAndLink_of_blocks_clean b target clean] at ended
  rw [ended] at source ⊢
  -- the walk over the images left the blocks as they were unified
  have lists := List.mem_map_of_mem (f := Unify.itemsOf (α := UniformBlock)) source
  rw [Unify.gather_map_of_blind _ fun _ => rfl] at lists
  obtain ⟨d, unified, sameBlocks⟩ := List.mem_map.mp lists
  have among : x ∈ Unify.itemsOf (α := UniformBlock) d := by
    rw [sameBlocks]
    exact block
  exact (unified_of_clean runs.sources clean).indexed_and_agreeing d unified x among

/-- **Unified blocks have one layout, as far as it is shown.**  Two blocks of an accepted bundle
with one unique index agree, and come from structures of which their modules say the same: the
names and the offsets of their members, and of the types of these the classes and the innermost
array lengths, one by one; members of a class that is supported are floats of 32 bits in one
number of rows and columns. -/
theorem unified_blocks_same_layout (accepts : Accepts b blobs target Spirv.backend run)
    {k k' j j' : Nat} {c c' : CompiledShader} {x y : UniformBlock}
    (source : run.compilation.sources[k]? = some c)
    (source' : run.compilation.sources[k']? = some c')
    (block : c.interface.uniformBlocks[j]? = some x)
    (block' : c'.interface.uniformBlocks[j']? = some y) (same : x.uniqueIndex = y.uniqueIndex) :
    ∃ m type m' type' d d', Origin blobs k j m type ∧ Origin blobs k' j' m' type' ∧ x.agrees y ∧
      SameLayout m m' type type' d d' := by
  obtain ⟨s, type, told, origin, shown⟩ := exists_origin accepts.compiled source block
  obtain ⟨s', type', told', origin', shown'⟩ := exists_origin accepts.compiled source' block'
  have placed := accepts.placed (List.mem_of_getElem? source) (List.mem_of_getElem? block)
  have placed' := accepts.placed (List.mem_of_getElem? source') (List.mem_of_getElem? block')
  have agrees : x.agrees y := Unify.agrees_of_index_eq placed placed' same
  have shapes : LawfulShared.shape x = LawfulShared.shape y :=
    (LawfulShared.agrees_iff x y).mp agrees
  have uniforms : x.uniforms = y.uniforms := congrArg (fun z => z.uniforms) shapes
  rw [shown, shown'] at uniforms
  exact ⟨s.module, type, s'.module, type', _, _, origin, origin', agrees,
    sameLayout_of_shown told told' uniforms⟩

end

/-! ## Blocks of other types -/

/-- The type of matrices of two columns of three doubles. -/
def doubles : Spirv.Builder.Build Id := do
  let double ← Spirv.Builder.addGlobal .opTypeFloat none [.word 64]
  let column ← Spirv.Builder.addGlobal .opTypeVector none [.id double, .word 3]
  Spirv.Builder.addGlobal .opTypeMatrix none [.id column, .word 2]

/-- A module with a block of a value, an array of arrays of three floats, and a color. -/
def gridModule (model : Spirv.ExecutionModel) (value : Spirv.Builder.Build Id) (outer : UInt32) :
    Spirv.Module :=
  let steps : Spirv.Builder.Build Unit := do
    let bits ← value
    let cell ← Spirv.Builder.float
    let row ← Spirv.Builder.array cell 3 16
    let grid ← Spirv.Builder.array row outer 48
    let color ← Spirv.Builder.vec 4
    let _ ← Spirv.Builder.uniformBlock "params"
      [⟨"bits", bits, 0⟩, ⟨"grid", grid, 64⟩, ⟨"tint", color, 512⟩] 0 0
  (steps.run (.start model)).2.finish "main"

/-- A vertex shader with a number in such a block. -/
def gridVertexModule : Spirv.Module := gridModule .vertex (Spirv.Builder.int true) 2

/-- A fragment shader with a matrix of doubles there. -/
def gridFragmentModule : Spirv.Module := gridModule .fragment doubles 5

def gridBlobs : List Blob :=
  [⟨0, .vertex, gridVertexModule.words⟩, ⟨1, .fragment, gridFragmentModule.words⟩]

def gridBundle : Bundle :=
  .of "grid.shd" [⟨"grid", .vertex, [1], .empty⟩, ⟨"grid", .fragment, [2], .empty⟩] []

def gridVertex : ModuleShader :=
  (ModuleShader.ofWords gridVertexModule.words).toOption.getD ⟨.empty, .empty⟩

def gridFragment : ModuleShader :=
  (ModuleShader.ofWords gridFragmentModule.words).toOption.getD ⟨.empty, .empty⟩

def gridBlock : UniformBlock :=
  ⟨0, 528, "params", [⟨"bits", .invalid, 0, 0⟩, ⟨"grid", .float, 3, 64⟩, ⟨"tint", .float4, 0, 512⟩],
    some 0⟩

/-- The error of a compilation, and the blocks of its shaders. -/
def outcomeOf (result : Except ListingFault (Run ModuleShader)) :
    Option (Option Diagnostic × List (List UniformBlock)) :=
  result.toOption.map fun run =>
    (run.compilation.error, run.compilation.sources.map fun c => c.interface.uniformBlocks)

theorem gridBlobs_outcome :
    outcomeOf (compileBundle gridBundle gridBlobs .hlsl5 Spirv.backend) =
      some (none, [[gridBlock], [gridBlock]]) := by
  decide +kernel

theorem exists_of_outcomeOf {result : Except ListingFault (Run ModuleShader)}
    {error : Option Diagnostic} {blocks : List (List UniformBlock)}
    (found : outcomeOf result = some (error, blocks)) :
    ∃ run, result = .ok run ∧ run.compilation.error = error ∧
      (run.compilation.sources.map fun c => c.interface.uniformBlocks) = blocks := by
  cases result with
  | error fault => cases found
  | ok run =>
      obtain ⟨sameError, sameBlocks⟩ := Prod.mk.inj (Option.some.inj found)
      exact ⟨run, rfl, sameError, sameBlocks⟩

/-- The bundle is accepted, and both shaders show the block under index 0. -/
theorem gridBlobs_accepted :
    ∃ run c c', Accepts gridBundle gridBlobs .hlsl5 Spirv.backend run ∧
      run.compilation.sources[0]? = some c ∧ run.compilation.sources[1]? = some c' ∧
      c.interface.uniformBlocks[0]? = some gridBlock ∧
      c'.interface.uniformBlocks[0]? = some gridBlock := by
  obtain ⟨run, compiled, clean, blocks⟩ := exists_of_outcomeOf gridBlobs_outcome
  obtain ⟨c, rest, sources, first, blocks⟩ := List.map_eq_cons_iff.mp blocks
  obtain ⟨c', others, rfl, second, -⟩ := List.map_eq_cons_iff.mp blocks
  refine ⟨run, c, c', ⟨compiled, clean⟩, ?_, ?_, ?_, ?_⟩
  · rw [sources, List.getElem?_cons_zero]
  · rw [sources, List.getElem?_cons_succ, List.getElem?_cons_zero]
  · rw [first, List.getElem?_cons_zero]
  · rw [second, List.getElem?_cons_zero]

theorem unified_blocks_same_layout_grid :
    ∃ run c c', Accepts gridBundle gridBlobs .hlsl5 Spirv.backend run ∧
      run.compilation.sources[0]? = some c ∧ run.compilation.sources[1]? = some c' ∧
      c.interface.uniformBlocks[0]? = some gridBlock ∧
      c'.interface.uniformBlocks[0]? = some gridBlock ∧
      ∃ m type m' type' d d', Origin gridBlobs 0 0 m type ∧ Origin gridBlobs 1 0 m' type' ∧
        gridBlock.agrees gridBlock ∧ SameLayout m m' type type' d d' := by
  obtain ⟨run, c, c', accepts, source, source', block, block'⟩ := gridBlobs_accepted
  exact ⟨run, c, c', accepts, source, source', block, block',
    unified_blocks_same_layout accepts source source' block block' rfl⟩

/-- The types of the members of a structure, as the instructions of its module describe them. -/
def MemberTypes (m : Spirv.Module) (type : Id) (types : List TypeDesc) : Prop :=
  ∃ d, Spirv.Raised m.globals type d ∧ List.Forall₂ (Spirv.Raised m.globals) d.members types

/-- Types agree one by one in what they say of scalars, in vector sizes, in columns, or in
array lengths. -/
def AgreeInSome (types types' : List TypeDesc) : Prop :=
  types.map TypeDesc.base = types'.map TypeDesc.base ∨
    types.map TypeDesc.width = types'.map TypeDesc.width ∨
    types.map TypeDesc.vecsize = types'.map TypeDesc.vecsize ∨
    types.map TypeDesc.columns = types'.map TypeDesc.columns ∨
    types.map TypeDesc.array = types'.map TypeDesc.array

instance (types types' : List TypeDesc) : Decidable (AgreeInSome types types') :=
  inferInstanceAs (Decidable (_ ∨ _))

theorem memberTypes_of_told {s : ModuleShader} (told : s.ToldByModule) (type : Id) :
    MemberTypes s.module type ((Shader.typeOf s type).members.map (Shader.typeOf s)) := by
  refine ⟨_, told.types type, ?_⟩
  rw [List.forall₂_map_right_iff, List.forall₂_same]
  exact fun member _ => told.types member

theorem gridVertex_decoded : ModuleShader.ofWords gridVertexModule.words = .ok gridVertex := by
  decide +kernel

theorem gridFragment_decoded :
    ModuleShader.ofWords gridFragmentModule.words = .ok gridFragment := by
  decide +kernel

theorem gridVertex_origin : Origin gridBlobs 0 0 gridVertex.module 9 :=
  origin_of_resource (r := ⟨11, 9, 9, "params"⟩) rfl gridVertex_decoded (by decide +kernel)

theorem gridFragment_origin : Origin gridBlobs 1 0 gridFragment.module 11 :=
  origin_of_resource (r := ⟨13, 11, 11, "params"⟩) rfl gridFragment_decoded (by decide +kernel)

/-- Unified blocks need not agree in any part of the types of their members: neither in base
types and widths, nor in vector sizes and columns, nor in all array lengths. -/
theorem blocks_unify_with_other_types :
    ¬ ∀ (b : Bundle) (blobs : List Blob) (target : Target) (run : Run ModuleShader)
      (k k' j j' : Nat) (c c' : CompiledShader) (x y : UniformBlock) (m m' : Spirv.Module)
      (type type' : Id) (types types' : List TypeDesc),
      Accepts b blobs target Spirv.backend run →
      run.compilation.sources[k]? = some c → run.compilation.sources[k']? = some c' →
      c.interface.uniformBlocks[j]? = some x → c'.interface.uniformBlocks[j']? = some y →
      x.uniqueIndex = y.uniqueIndex → Origin blobs k j m type → Origin blobs k' j' m' type' →
      MemberTypes m type types → MemberTypes m' type' types' → AgreeInSome types types' := by
  intro always
  obtain ⟨run, c, c', accepts, source, source', block, block'⟩ := gridBlobs_accepted
  have vertex : (Shader.typeOf gridVertex 9).members.map (Shader.typeOf gridVertex) =
      [.scalar .int 32, ((TypeDesc.floats 1).arrayOf 3).arrayOf 2, .floats 4] := by
    decide +kernel
  have fragment : (Shader.typeOf gridFragment 11).members.map (Shader.typeOf gridFragment) =
      [((TypeDesc.scalar .double 64).vector 3).matrix 2, ((TypeDesc.floats 1).arrayOf 3).arrayOf 5,
        .floats 4] := by
    decide +kernel
  have told := memberTypes_of_told (Spirv.toldByModule_of_ofWords gridVertex_decoded) 9
  have told' := memberTypes_of_told (Spirv.toldByModule_of_ofWords gridFragment_decoded) 11
  rw [vertex] at told
  rw [fragment] at told'
  have agree := always _ _ _ _ _ _ _ _ _ _ _ _ _ _ _ _ _ _ accepts source source' block block'
    rfl gridVertex_origin gridFragment_origin told told'
  exact absurd agree (by decide)

end ShaderBundle
