/-
# Proofs.Spirv.Passes — what passes leave alone

Before code is generated passes go over a shader: slots are fixed, matrices laid out by columns,
blocks made flat.  Each pass asks anew for the resources and their types.  It gets the answer
that the first one got, because a pass only rewrites what is not spared (`Rewrite.Spares`), and
resources are read from the rest (`Alike.resources_eq`).

So a pass makes the rewrites that it would have made before all others
(`runPasses_eq_rewriteAll`), and slots are counted over the same resources in every pass.
Passes may come in any order and any number.  Nothing is asked of the types: the way from an
array down to its elements reads no decoration.
-/
import ShaderBundle.Proofs.Spirv.Prepare
import ShaderBundle.Proofs.Spirv.Stated

namespace ShaderBundle.Spirv

set_option autoImplicit false

inductive Pass where
  | slots (stage : Stage) (scheme : BindingScheme)
  | columns
  | flat
deriving DecidableEq

namespace Pass

def run (s : ModuleShader) : Pass → ModuleShader
  | slots stage scheme => fixBindSlots stage scheme s
  | columns => forceColumnMajor s
  | flat => flattenBlocks s

/-- The rewrites that a pass makes where these are the tables. -/
def rewrites (t : Tables) : Pass → List Rewrite
  | slots stage scheme => t.slotRewrites stage scheme
  | columns => t.columnRewrites
  | flat => []

end Pass

def runPasses (s : ModuleShader) (passes : List Pass) : ModuleShader := passes.foldl Pass.run s

/-! ## One pass -/

theorem Pass.spares_of_mem_rewrites {t : Tables} {p : Pass} {r : Rewrite}
    (given : r ∈ p.rewrites t) : r.Spares := by
  cases p with
  | slots stage scheme => exact spares_of_mem_slotRewrites given
  | columns => exact spares_of_mem_columnRewrites given
  | flat => cases given

/-- Tables that are alike make a pass do the same. -/
theorem Pass.run_eq_rewriteAll {t : Tables} {s : ModuleShader} (alike : Alike t s.tables)
    (p : Pass) : p.run s = s.rewriteAll (p.rewrites t) := by
  cases p with
  | slots stage scheme =>
      have same : s.tables.slotRewrites stage scheme = t.slotRewrites stage scheme := by
        unfold Tables.slotRewrites
        rw [alike.resources_eq]
      change fixBindSlots stage scheme s = _
      rw [fixBindSlots_eq_rewriteAll, same]
      rfl
  | columns => exact forceColumnMajor_eq_rewriteAll alike.bare_eq alike.resources_eq
  | flat => exact flattenBlocks_eq s

/-! ## All passes -/

theorem runPasses_of_alike {t : Tables} {s : ModuleShader} (alike : Alike t s.tables)
    (passes : List Pass) : runPasses s passes = s.rewriteAll (passes.flatMap (·.rewrites t)) := by
  induction passes generalizing s with
  | nil => rfl
  | cons p rest ih =>
      have next : Alike t (s.rewriteAll (p.rewrites t)).tables :=
        alike.trans (alike_rewriteAll fun r given => p.spares_of_mem_rewrites given)
      rw [List.flatMap_cons, rewriteAll_append]
      change runPasses (p.run s) rest = _
      rw [p.run_eq_rewriteAll alike]
      exact ih next

/-- Passes make the rewrites that each of them would have made first. -/
theorem runPasses_eq_rewriteAll (s : ModuleShader) (passes : List Pass) :
    runPasses s passes = s.rewriteAll (passes.flatMap (·.rewrites s.tables)) :=
  runPasses_of_alike ⟨rfl, fun _ _ => rfl⟩ passes

theorem spares_of_mem_passes {t : Tables} {passes : List Pass} {r : Rewrite}
    (given : r ∈ passes.flatMap (·.rewrites t)) : r.Spares := by
  obtain ⟨p, -, own⟩ := List.mem_flatMap.mp given
  exact p.spares_of_mem_rewrites own

/-- The interface of a shader is that of another, and so is whatever passes do not place. -/
structure KeepsInterface (s after : ModuleShader) : Prop where
  resources : Shader.resources after = Shader.resources s
  model : Shader.model after = Shader.model s
  entryPoints : Shader.entryPoints after = Shader.entryPoints s
  typeOf : ∀ id, Shader.typeOf after id = Shader.typeOf s id
  memberName : ∀ id index, Shader.memberName after id index = Shader.memberName s id index
  memberOffset : ∀ id index, Shader.memberOffset after id index = Shader.memberOffset s id index
  location : ∀ id, Shader.decoration after id .location = Shader.decoration s id .location ∧
    after.tables.hasDecoration id .location = s.tables.hasDecoration id .location
  builtIn : ∀ id, Shader.decoration after id .builtIn = Shader.decoration s id .builtIn ∧
    after.tables.hasDecoration id .builtIn = s.tables.hasDecoration id .builtIn
  /-- All decorations of ids and members but for sets, bindings and layouts. -/
  spared : ∀ k : Key, k.decoration.IsSpared → after.tables.valueAt k = s.tables.valueAt k ∧
    stated after.module.annotations k = stated s.module.annotations k
  module_else : after.module = { s.module with annotations := after.module.annotations }

theorem keepsInterface_rewriteAll (s : ModuleShader) {rs : List Rewrite}
    (spares : ∀ r ∈ rs, r.Spares) : KeepsInterface s (s.rewriteAll rs) := by
  have alike : Alike s.tables (s.rewriteAll rs).tables := alike_rewriteAll spares
  refine ⟨alike.resources_eq, ?_, alike.entryPoints_eq, congrFun alike.typeOf_eq, ?_, ?_, ?_, ?_, ?_,
    module_rewriteAll s rs⟩
  · change ModuleShader.model _ = ModuleShader.model _
    unfold ModuleShader.model
    rw [alike.entryPoints_eq]
  · intro id index
    change ((s.rewriteAll rs).tables.memberNames.find? (id, index)).getD "" = _
    rw [alike.memberNames_eq]
    rfl
  · intro id index
    exact alike.memberDecoration_eq id index (by decide)
  · intro id
    exact ⟨alike.decoration_eq id (by decide), alike.hasDecoration_eq id (by decide)⟩
  · intro id
    exact ⟨alike.decoration_eq id (by decide), alike.hasDecoration_eq id (by decide)⟩
  · intro k spared
    refine ⟨alike.valueAt k spared, stated_rewriteAll_of_untouched ?_⟩
    intro r given touches
    exact spares r given k touches spared

/-- **Passes keep the interface.**  After any of them in any order, resources, types, names,
offsets, locations and what is built in are as before, and every pass placed what it would have
placed first. -/
theorem runPasses_keeps_interface (s : ModuleShader) (passes : List Pass) :
    KeepsInterface s (runPasses s passes) ∧
      runPasses s passes = s.rewriteAll (passes.flatMap (·.rewrites s.tables)) := by
  have rewritten := runPasses_eq_rewriteAll s passes
  refine ⟨?_, rewritten⟩
  rw [rewritten]
  exact keepsInterface_rewriteAll s fun r => spares_of_mem_passes

/-- Slots are fixed for the web and then for a target that binds otherwise. -/
def mixedPasses : List Pass :=
  [.columns, .slots .fragment .web, .flat, .columns, .slots .fragment .native]

theorem runPasses_keeps_interface_mixed :
    (boundShader.tables.resources.uniformBuffers.map fun r =>
        ((runPasses boundShader mixedPasses).tables.decoration r.id .descriptorSet,
          (runPasses boundShader mixedPasses).tables.decoration r.id .binding)) = [(0, 0)] ∧
      KeepsInterface boundShader (runPasses boundShader mixedPasses) :=
  ⟨by decide +kernel, (runPasses_keeps_interface boundShader mixedPasses).1⟩

end ShaderBundle.Spirv
