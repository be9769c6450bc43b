/-
# Proofs.Bundle.Targets — one blob on two targets

What a blob shows of itself is read from a module that was made ready for the target, and
making it ready touches slots and the layout of matrices only.  Two targets therefore see
the same stage, attributes, images, and blocks of the same names and members
(`SeenAlike`); the entry point has the suffix of its own target, and slots are free.

Sizes are the one exception.  Outside the Metal family the float matrices of blocks are laid
out by columns, with the stride they came with.  A block whose end is a matrix of rows that
is not square has another size then (`blocks_match_not_across_targets`), and every other block
matches.
-/
import ShaderBundle.Proofs.Bundle.Blobs
import ShaderBundle.Proofs.Spirv.Sizes
import ShaderBundle.Spirv.Builder

namespace ShaderBundle

set_option autoImplicit false

open Spirv (ModuleShader Tables)

/-! ## What is read off alike modules -/

section

variable {s s' : ModuleShader} (alike : Spirv.Alike s.tables s'.tables)

include alike

theorem reflectAttributes_of_alike (resources : List Resource) :
    reflectAttributes s' resources = reflectAttributes s resources := by
  have location (id : Id) : Shader.decoration s' id .location = Shader.decoration s id .location :=
    alike.decoration_eq id (by decide)
  simp only [reflectAttributes, location]

theorem reflectUniforms_of_alike (type : Id) (index : UInt32) (members : List Id) :
    reflectUniforms s' type index members = reflectUniforms s type index members := by
  have types : Shader.typeOf s' = Shader.typeOf s := alike.typeOf_eq
  have names (index : UInt32) : Shader.memberName s' type index = Shader.memberName s type index := by
    change (s'.tables.memberNames.find? (type, index)).getD "" = _
    rw [alike.memberNames_eq]
    rfl
  have offsets (index : UInt32) :
      Shader.memberOffset s' type index = Shader.memberOffset s type index :=
    alike.memberDecoration_eq type index (by decide)
  induction members generalizing index with
  | nil => rfl
  | cons memberType rest ih =>
      unfold reflectUniforms reflectUniform
      rw [ih, types, names, offsets]

end

def Image.unbound (i : Image) : Image := { i with slot := 0 }

theorem reflectImage_unbound_of_alike {s s' : ModuleShader}
    (alike : Spirv.Alike s.tables s'.tables) (r : Resource) :
    (reflectImage s' r).unbound = (reflectImage s r).unbound := by
  have types : Shader.typeOf s' = Shader.typeOf s := alike.typeOf_eq
  unfold reflectImage
  rw [types]
  split <;> rfl

/-! ## One blob on two targets -/

/-- A block as two targets see it: they agree on all but its slot, and they agree on its size
unless just one of them lays out by columns a matrix at its end, and this changes its size. -/
structure BlockSeenAlike (target target' : Target) (t : Tables) (type : Id)
    (x y : UniformBlock) : Prop where
  name : x.name = y.name
  uniforms : x.uniforms = y.uniforms
  agrees : target.isMetal = target'.isMetal ∨ ¬ t.EndsTurned type → x.agrees y
  sizes : ∀ memberType, t.EndsByRows type memberType →
    x.size = t.sizeOfStrides type (Spirv.strideCount target (t.typeOf memberType)) ∧
      y.size = t.sizeOfStrides type (Spirv.strideCount target' (t.typeOf memberType))

/-- The interface of a module as two targets see it. -/
structure SeenAlike (target target' : Target) (t : Tables) (i i' : Interface) : Prop where
  stage : i.stage = i'.stage
  entryPoint : ∃ name, i.entryPoint = target.entryPoint name ∧
    i'.entryPoint = target'.entryPoint name
  inputs : i.inputs = i'.inputs
  outputs : i.outputs = i'.outputs
  images : i.images.map Image.unbound = i'.images.map Image.unbound
  every_block : i.uniformBlocks.length = t.resources.uniformBuffers.length ∧
    i'.uniformBlocks.length = t.resources.uniformBuffers.length
  blocks : ∀ (j : Nat) (r : Resource) (x y : UniformBlock),
    t.resources.uniformBuffers[j]? = some r → i.uniformBlocks[j]? = some x →
    i'.uniformBlocks[j]? = some y → BlockSeenAlike target target' t r.baseType x y

section

variable {target target' : Target} {stage : Stage} {s : ModuleShader}

theorem reflectBlock_name (scheme : BindingScheme) (s : ModuleShader) (r : Resource) :
    (reflectBlock scheme s r).name = r.name := rfl

theorem reflectBlock_size (scheme : BindingScheme) (s : ModuleShader) (r : Resource) :
    (reflectBlock scheme s r).size = s.tables.structSize r.baseType := rfl

theorem blockSeenAlike_of_prepare {r : Resource} (given : r ∈ s.tables.resources.uniformBuffers) :
    BlockSeenAlike target target' s.tables r.baseType
      (reflectBlock (.ofTarget target) (prepare target stage s) r)
      (reflectBlock (.ofTarget target') (prepare target' stage s) r) := by
  have alike := (Spirv.alike_prepare target' stage s).symm.trans
    (Spirv.alike_prepare target stage s)
  have types : Shader.typeOf (prepare target stage s) = Shader.typeOf (prepare target' stage s) :=
    alike.typeOf_eq
  have uniforms : (reflectBlock (.ofTarget target) (prepare target stage s) r).uniforms =
      (reflectBlock (.ofTarget target') (prepare target' stage s) r).uniforms := by
    unfold reflectBlock
    rw [types, reflectUniforms_of_alike alike]
  refine ⟨by rw [reflectBlock_name, reflectBlock_name], uniforms, ?_, ?_⟩
  · intro same
    have sizes : (reflectBlock (.ofTarget target) (prepare target stage s) r).size =
        (reflectBlock (.ofTarget target') (prepare target' stage s) r).size := by
      rw [reflectBlock_size, reflectBlock_size]
      rcases same with family | straight
      · exact Spirv.structSize_prepare_of_isMetal_eq target stage s family r.baseType
      · exact (Spirv.structSize_prepare_of_not_endsTurned target stage s straight).trans
          (Spirv.structSize_prepare_of_not_endsTurned target' stage s straight).symm
    simp only [UniformBlock.agrees, reflectBlock_name, sizes, uniforms, decide_true, Bool.and_self]
  · intro memberType ends
    rw [reflectBlock_size, reflectBlock_size]
    exact ⟨Spirv.structSize_prepare_of_endsByRows target stage s ⟨r, given, rfl⟩ ends,
      Spirv.structSize_prepare_of_endsByRows target' stage s ⟨r, given, rfl⟩ ends⟩

theorem reflectFor_entryPoint {i : Interface} (read : reflectFor target s = .ok i) :
    ∃ own, Reflects (.ofTarget target) s own ∧
      i = { own with entryPoint := target.entryPoint own.entryPoint } := by
  obtain ⟨own, reflected, same⟩ := except_bind_eq_ok_iff.mp read
  cases same
  exact ⟨own, reflects_of_eq_ok reflected, rfl⟩

/-- What two targets read off a module that was made ready for each of them. -/
theorem seenAlike_of_prepare {i i' : Interface}
    (read : reflectFor target (prepare target stage s) = .ok i)
    (read' : reflectFor target' (prepare target' stage s) = .ok i') :
    SeenAlike target target' s.tables i i' := by
  have alike := (Spirv.alike_prepare target' stage s).symm.trans
    (Spirv.alike_prepare target stage s)
  obtain ⟨own, reads, rfl⟩ := reflectFor_entryPoint read
  obtain ⟨own', reads', rfl⟩ := reflectFor_entryPoint read'
  have resources : Shader.resources (prepare target stage s) = s.tables.resources :=
    (Spirv.alike_prepare target stage s).resources_eq
  have resources' : Shader.resources (prepare target' stage s) = s.tables.resources :=
    (Spirv.alike_prepare target' stage s).resources_eq
  have model : Shader.model (prepare target stage s) = Shader.model (prepare target' stage s) := by
    change ModuleShader.model _ = ModuleShader.model _
    rw [ModuleShader.model, alike.entryPoints_eq]
    rfl
  have entry : reflectEntryPoint (prepare target stage s) =
      reflectEntryPoint (prepare target' stage s) := by
    have entryPoints : Shader.entryPoints (prepare target stage s) =
        Shader.entryPoints (prepare target' stage s) := alike.entryPoints_eq
    rw [reflectEntryPoint, entryPoints, model, reflectEntryPoint]
  have inputs := reads.inputs
  have outputs := reads.outputs
  rw [resources, reflectAttributes_of_alike alike, ← resources', reads'.inputs] at inputs
  rw [resources, reflectAttributes_of_alike alike, ← resources', reads'.outputs] at outputs
  refine ⟨?_, ⟨own.entryPoint, rfl, ?_⟩, ?_, ?_, ?_, ⟨?_, ?_⟩, ?_⟩
  · rw [reads.stage, reads'.stage, model]
  · rw [reads.entryPoint, reads'.entryPoint, entry]
  · exact (Except.ok.inj inputs).symm
  · exact (Except.ok.inj outputs).symm
  · rw [reads.images, reads'.images, resources, resources', List.map_map, List.map_map]
    exact List.map_congr_left fun r _ => reflectImage_unbound_of_alike alike r
  · rw [reads.uniformBlocks, resources, List.length_map]
  · rw [reads'.uniformBlocks, resources', List.length_map]
  · intro j r x y atPlace xAt yAt
    rw [reads.uniformBlocks, resources, List.getElem?_map, atPlace] at xAt
    rw [reads'.uniformBlocks, resources', List.getElem?_map, atPlace] at yAt
    cases xAt
    cases yAt
    exact blockSeenAlike_of_prepare (List.mem_of_getElem? atPlace)

end

/-- A blob that compiles is a module, and its interface is read off the module as it was made
ready. -/
theorem module_of_compiled {b : Bundle} {blob : Blob} {target : Target} {c : CompiledShader}
    (compiled : blobResult b target Spirv.backend blob = .ok (.ok c)) :
    ∃ snippet s, b.snippets[blob.snippetIndex]? = some snippet ∧
      ModuleShader.ofWords blob.words = .ok s ∧
      reflectFor target (prepare target snippet.kind.stage s) = .ok c.interface := by
  have outcome := blobOutcome b target Spirv.backend blob
  rw [compiled] at outcome
  cases outcome with
  | compiled known create generate code read =>
      rename_i snippet made s code i
      have listed : (prepare target snippet.kind.stage made) = s := by
        obtain ⟨text, -, same⟩ := except_bind_eq_ok_iff.mp generate
        cases same
        rfl
      have decoded : ModuleShader.ofWords blob.words = .ok made := by
        simp only [Spirv.backend] at create
        split at create
        · cases create
          assumption
        · cases create
      exact ⟨snippet, made, known, decoded, listed ▸ read⟩

/-- **Two targets see a blob alike.**  Stage, attributes and images are the same up to slots,
and the entry point up to the suffix of its target.  Block by block, names and members are
the same, and the blocks match if both targets or none is of the Metal family, or if the block
does not end in a matrix of rows that is laid out by columns elsewhere and is not square.  A
block that itself ends in such a matrix has room for its rows in the Metal family, and for its
columns on the other targets. -/
theorem seenAlike_of_compiled (b : Bundle) (blob : Blob) (target target' : Target)
    (c c' : CompiledShader) (compiled : blobResult b target Spirv.backend blob = .ok (.ok c))
    (compiled' : blobResult b target' Spirv.backend blob = .ok (.ok c')) :
    ∃ s, ModuleShader.ofWords blob.words = .ok s ∧
      SeenAlike target target' s.tables c.interface c'.interface := by
  obtain ⟨snippet, s, known, decoded, read⟩ := module_of_compiled compiled
  obtain ⟨own, again, knownToo, decodedToo, read'⟩ := module_of_compiled compiled'
  cases known.symm.trans knownToo
  cases decoded.symm.trans decodedToo
  exact ⟨s, decoded, seenAlike_of_prepare read read'⟩

/-! ## A block of another size -/

/-- Types can be ranked so that the members of a structure are below it. -/
def Spirv.Tables.Acyclic (t : Tables) : Prop :=
  ∃ rank : Id → Nat, ∀ id, ∀ member ∈ (t.typeOf id).members, rank member < rank id

theorem acyclic_of_entries {t : Tables}
    (below : t.types.entries.all fun e => e.2.members.all fun m => m.toNat < e.1.toNat) :
    t.Acyclic :=
  ⟨UInt32.toNat, Tables.below_of_entries below⟩

/-- A module of a fragment shader with a matrix of two columns and four rows, laid out by rows,
and a block without a matrix. -/
def turnedModule : Spirv.Module :=
  let steps : Spirv.Builder.Build Unit := do
    let column ← Spirv.Builder.vec 4
    let matrix ← Spirv.Builder.addGlobal .opTypeMatrix none [.id column, .word 2]
    let _ ← Spirv.Builder.uniformBlock "params" [⟨"turn", matrix, 0⟩] 0 0
    Spirv.Builder.decorateMember 4 0 .matrixStride 16
    Spirv.Builder.annotate (.plain .opMemberDecorate [.id 4, .word 0, .decoration .rowMajor])
    let _ ← Spirv.Builder.uniformBlock "light" [⟨"tint", column, 0⟩] 0 1
  (steps.run (.start .fragment)).2.finish "main"

def turnedBlob : Blob := ⟨0, .fragment, turnedModule.words⟩

def turnedBundle : Bundle := .of "turned.shd" [⟨"turned", .fragment, [3], .empty⟩] []

def turnedShader : ModuleShader :=
  (ModuleShader.ofWords turnedBlob.words).toOption.getD ⟨.empty, .empty⟩

/-- Its blocks, with room for so many bytes in the first. -/
def turnedBlocks (size : UInt32) : List UniformBlock :=
  [⟨0, size, "params", [⟨"turn", .invalid, 0, 0⟩], none⟩,
    ⟨1, 16, "light", [⟨"tint", .float4, 0, 0⟩], none⟩]

def blocksOf (result : Except ListingFault (Except Diagnostic CompiledShader)) :
    Option (List UniformBlock) :=
  (result.toOption.bind Except.toOption).map (·.interface.uniformBlocks)

theorem exists_of_blocksOf {result : Except ListingFault (Except Diagnostic CompiledShader)}
    {blocks : List UniformBlock} (found : blocksOf result = some blocks) :
    ∃ c, result = .ok (.ok c) ∧ c.interface.uniformBlocks = blocks := by
  unfold blocksOf at found
  rcases result with _ | _ | c
  · cases found
  · cases found
  · exact ⟨c, rfl, Option.some.inj found⟩

theorem turnedBlob_decodes : ModuleShader.ofWords turnedBlob.words = .ok turnedShader := by
  decide +kernel

theorem turnedBlob_columns :
    blocksOf (blobResult turnedBundle .hlsl5 Spirv.backend turnedBlob) = some (turnedBlocks 32) := by
  decide +kernel

theorem turnedBlob_rows :
    blocksOf (blobResult turnedBundle .metalMacos Spirv.backend turnedBlob) =
      some (turnedBlocks 64) := by
  decide +kernel

theorem seenAlike_of_compiled_turned :
    ∃ c c', blobResult turnedBundle .hlsl5 Spirv.backend turnedBlob = .ok (.ok c) ∧
      blobResult turnedBundle .metalMacos Spirv.backend turnedBlob = .ok (.ok c') ∧
      c.interface.uniformBlocks = turnedBlocks 32 ∧ c'.interface.uniformBlocks = turnedBlocks 64 ∧
      ∃ s, ModuleShader.ofWords turnedBlob.words = .ok s ∧
        SeenAlike .hlsl5 .metalMacos s.tables c.interface c'.interface := by
  obtain ⟨c, compiled, blocks⟩ := exists_of_blocksOf turnedBlob_columns
  obtain ⟨c', compiled', blocks'⟩ := exists_of_blocksOf turnedBlob_rows
  exact ⟨c, c', compiled, compiled', blocks, blocks',
    seenAlike_of_compiled _ _ _ _ c c' compiled compiled'⟩

/-- Blocks need not match across targets, even where no type contains itself. -/
theorem blocks_match_not_across_targets :
    ¬ ∀ (b : Bundle) (blob : Blob) (target target' : Target) (s : ModuleShader)
      (c c' : CompiledShader), ModuleShader.ofWords blob.words = .ok s → s.tables.Acyclic →
      blobResult b target Spirv.backend blob = .ok (.ok c) →
      blobResult b target' Spirv.backend blob = .ok (.ok c') →
      List.Forall₂ (fun x y => x.agrees y) c.interface.uniformBlocks
        c'.interface.uniformBlocks := by
  intro always
  obtain ⟨c, compiled, blocks⟩ := exists_of_blocksOf turnedBlob_columns
  obtain ⟨c', compiled', blocks'⟩ := exists_of_blocksOf turnedBlob_rows
  have acyclic : turnedShader.tables.Acyclic := acyclic_of_entries (by decide +kernel)
  have matched := always _ _ _ _ _ c c' turnedBlob_decodes acyclic compiled compiled'
  rw [blocks, blocks'] at matched
  cases matched with
  | cons first _ => exact absurd first (by decide)

end ShaderBundle
