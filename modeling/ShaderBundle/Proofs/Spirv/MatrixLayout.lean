/-
# Proofs.Spirv.MatrixLayout — a matrix member has one layout

A member is laid out by columns or by rows.  Setting one layout removes the other, from the
tables and from every annotation, and nothing else that is set touches either.  So after any
sequence of decorations a member that was given a layout has the one it was given last and
not the other (`laidOut_rewriteAll`), whatever the annotations said of it before and however
often they said it.

Forcing columns is such a sequence (`forceColumnMajor_eq_rewriteAll`), in which every layout
is by columns.  A structure that several blocks share is gone through several times, which
changes nothing further.  Whatever is not the layout of a float matrix in a uniform block
stays (`ColumnsForced`).
-/
import ShaderBundle.Proofs.Occurrence
import ShaderBundle.Proofs.Spirv.Prepare
import ShaderBundle.Proofs.Spirv.Stated

namespace ShaderBundle.Spirv

set_option autoImplicit false

/-- A rewrite that lays a member out, by columns or by rows. -/
def LaysOut (id : Id) (index : UInt32) (r : Rewrite) : Prop :=
  r.key.id = id ∧ r.key.member = some index ∧ r.key.decoration.opposite? ≠ none

instance (id : Id) (index : UInt32) : DecidablePred (LaysOut id index) := fun r =>
  inferInstanceAs (Decidable (r.key.id = id ∧ r.key.member = some index ∧ _ ≠ none))

/-- A member has one layout with a value, and nothing says that it has the other. -/
structure LaidOut (s : ModuleShader) (id : Id) (index : UInt32) (d : Decoration)
    (value : UInt32) : Prop where
  value_eq : s.tables.valueAt ⟨id, some index, d⟩ = some value
  annotated : stated s.module.annotations ⟨id, some index, d⟩ ≠ []
  excluded : ∀ e, d.opposite? = some e → s.tables.valueAt ⟨id, some index, e⟩ = none ∧
    stated s.module.annotations ⟨id, some index, e⟩ = []

section

variable {s : ModuleShader} {r : Rewrite} {id : Id} {index : UInt32} {d : Decoration}
  {value : UInt32}

/-! ## One rewrite -/

theorem opposite?_symm {e : Decoration} (opposite : d.opposite? = some e) :
    e.opposite? = some d := by
  cases d <;> cases opposite <;> rfl

/-- What touches a layout lays the member out. -/
theorem laysOut_of_touches (layout : d.opposite? ≠ none) (touches : r.Touches ⟨id, some index, d⟩) :
    LaysOut id index r := by
  rcases touches with own | opposite
  · rw [LaysOut, own]
    exact ⟨rfl, rfl, layout⟩
  · obtain ⟨⟨id', member, e⟩, value⟩ := r
    cases member with
    | none => cases opposite
    | some member => cases e <;> cases opposite <;> exact ⟨rfl, rfl, Option.some_ne_none _⟩

theorem laidOut_rewrite (s : ModuleShader) (lays : LaysOut id index r) :
    LaidOut (s.rewrite r) id index r.key.decoration r.value := by
  obtain ⟨⟨_, _, d⟩, value⟩ := r
  obtain ⟨rfl, rfl, layout⟩ := lays
  refine ⟨?_, ?_, ?_⟩
  · rw [valueAt_rewrite, if_pos rfl]
  · obtain ⟨first, -, -, restated⟩ := stated_rewrite_self s ⟨⟨_, some index, d⟩, value⟩
    rw [restated]
    exact List.cons_ne_nil _ _
  · intro e opposite
    have excludes : Key.opposite? ⟨_, some index, d⟩ = some ⟨_, some index, e⟩ :=
      congrArg (Option.map _) opposite
    refine ⟨?_, stated_rewrite_opposite excludes⟩
    rw [valueAt_rewrite, if_neg (Key.ne_of_opposite? excludes).symm, if_pos excludes]

/-- Setting anything else leaves a layout as it is. -/
theorem LaidOut.rewrite (laid : LaidOut s id index d value) (layout : d.opposite? ≠ none)
    (other : ¬ LaysOut id index r) : LaidOut (s.rewrite r) id index d value := by
  have untouched {e : Decoration} (isLayout : e.opposite? ≠ none) :
      ∀ q ∈ [r], ¬ q.Touches ⟨id, some index, e⟩ := by
    intro q given touches
    rw [List.mem_singleton.mp given] at touches
    exact other (laysOut_of_touches isLayout touches)
  have values {e : Decoration} (isLayout : e.opposite? ≠ none) :
      (s.rewrite r).tables.valueAt ⟨id, some index, e⟩ = s.tables.valueAt ⟨id, some index, e⟩ :=
    valueAt_rewriteAll_of_untouched (untouched isLayout)
  have annotations {e : Decoration} (isLayout : e.opposite? ≠ none) :
      stated (s.rewrite r).module.annotations ⟨id, some index, e⟩ =
        stated s.module.annotations ⟨id, some index, e⟩ :=
    stated_rewriteAll_of_untouched (untouched isLayout)
  refine ⟨(values layout).trans laid.value_eq, ?_, ?_⟩
  · rw [annotations layout]
    exact laid.annotated
  · intro e opposite
    have isLayout : e.opposite? ≠ none := by simp [opposite?_symm opposite]
    rw [values isLayout, annotations isLayout]
    exact laid.excluded e opposite

/-! ## All rewrites -/

/-- A member that was given a layout has the one that it was given last. -/
theorem laidOut_rewriteAll (s : ModuleShader) {rs : List Rewrite} {n : Nat}
    (last : LastAt (LaysOut id index) rs n r) :
    LaidOut (s.rewriteAll rs) id index r.key.decoration r.value := by
  induction rs using List.reverseRecOn with
  | nil => exact absurd last (not_lastAt_nil n r)
  | append_singleton rs q ih =>
      rw [rewriteAll_append]
      rcases (lastAt_concat_iff q n r).mp last with ⟨lays, -, rfl⟩ | ⟨other, earlier⟩
      · exact laidOut_rewrite (s.rewriteAll rs) lays
      · exact (ih earlier).rewrite earlier.holds.2.2 other

end

/-! ## Forcing columns -/

/-- An array of matrices counts as a matrix. -/
theorem isFloatMatrix_arrayOf (t : TypeDesc) (length : UInt32) :
    (t.arrayOf length).isFloatMatrix = t.isFloatMatrix := rfl

/-- A key says by what a float matrix of a uniform block is laid out. -/
def Tables.IsMatrixLayout (t : Tables) (k : Key) : Prop :=
  ∃ id index d, t.IsBlockMatrix id index ∧ d.opposite? ≠ none ∧ k = ⟨id, some index, d⟩

/-- What forcing columns does: the float matrices of uniform blocks are laid out by columns,
and all else is as it was. -/
structure ColumnsForced (s forced : ModuleShader) : Prop where
  laidOut : ∀ r ∈ s.tables.resources.uniformBuffers, ∀ j memberType,
    (s.tables.typeOf r.baseType).members[j]? = some memberType →
    (s.tables.typeOf memberType).isFloatMatrix →
    LaidOut forced r.baseType (UInt32.ofNat j) .colMajor 1
  value_other : ∀ k, ¬ s.tables.IsMatrixLayout k → forced.tables.valueAt k = s.tables.valueAt k
  /-- The annotations that state no such layout, or any of them, in their order. -/
  annotations_other : ∀ p, (∀ k, s.tables.IsMatrixLayout k → SilentOn p k) →
    forced.module.annotations.filter p = s.module.annotations.filter p
  tables_else : forced.tables.bare = s.tables.bare
  module_else : forced.module = { s.module with annotations := forced.module.annotations }

theorem isMatrixLayout_of_touches {t : Tables} {r : Rewrite} {k : Key}
    (given : r ∈ t.columnRewrites) (touches : r.Touches k) : t.IsMatrixLayout k := by
  obtain ⟨id, index, matrix, rfl⟩ := (mem_columnRewrites_iff t r).mp given
  rcases touches with rfl | opposite
  · exact ⟨id, index, .colMajor, matrix, by decide, rfl⟩
  · cases opposite
    exact ⟨id, index, .rowMajor, matrix, by decide, rfl⟩

theorem columnsForced_forceColumnMajor (s : ModuleShader) : ColumnsForced s (forceColumnMajor s) := by
  rw [forceColumnMajor_eq_rewriteAll rfl rfl]
  refine ⟨?_, ?_, ?_, bare_rewriteAll s _, module_rewriteAll s _⟩
  · intro resource block j memberType place matrix
    have given : (⟨⟨resource.baseType, some (UInt32.ofNat j), .colMajor⟩, 1⟩ : Rewrite) ∈
        s.tables.columnRewrites :=
      (mem_columnRewrites_iff _ _).mpr
        ⟨_, _, ⟨⟨resource, block, rfl⟩, j, memberType, place, matrix, rfl⟩, rfl⟩
    -- whichever of the rewrites comes last for the member, it lays it out by columns
    obtain ⟨n, r, last⟩ := exists_lastAt (p := LaysOut resource.baseType (UInt32.ofNat j)) given
      ⟨rfl, rfl, Option.some_ne_none _⟩
    have laid := laidOut_rewriteAll s last
    obtain ⟨_, _, -, rfl⟩ := (mem_columnRewrites_iff _ r).mp (List.mem_of_getElem? last.atPlace)
    exact laid
  · intro k other
    refine valueAt_rewriteAll_of_untouched ?_
    intro r given touches
    exact other (isMatrixLayout_of_touches given touches)
  · intro p silent
    refine filter_rewriteAll_of_silent ?_
    intro r given k touches
    exact silent k (isMatrixLayout_of_touches given touches)

/-- **A matrix member has one layout.**  After any sequence of decorations, a member that was
given a layout has the one that it was given last and not the other; and forcing columns
gives the float matrices of uniform blocks their columns and changes nothing else. -/
theorem member_has_one_layout (s : ModuleShader) :
    (∀ (rs : List Rewrite) (id : Id) (index : UInt32), (∃ r ∈ rs, LaysOut id index r) →
      ∃ n r, LastAt (LaysOut id index) rs n r ∧
        LaidOut (s.rewriteAll rs) id index r.key.decoration r.value) ∧
      ColumnsForced s (forceColumnMajor s) := by
  refine ⟨?_, columnsForced_forceColumnMajor s⟩
  rintro rs id index ⟨r, given, lays⟩
  obtain ⟨n, q, last⟩ := exists_lastAt given lays
  exact ⟨n, q, last, laidOut_rewriteAll s last⟩

/-- A module with two blocks of one structure: a matrix, said to be laid out both ways and by
rows a second time, and an array of matrices, laid out by rows. -/
def sharedModule : Module :=
  let steps : Builder.Build Unit := do
    let matrix ← Builder.mat4
    let matrices ← Builder.array matrix 3 64
    let _ ← Builder.uniformBlock "params" [⟨"world", matrix, 0⟩, ⟨"bones", matrices, 64⟩] 0 0
    let _ ← Builder.addVariable .uniform 7
    Builder.annotate (.plain .opMemberDecorate [.id 7, .word 0, .decoration .rowMajor])
    Builder.annotate (.plain .opMemberDecorate [.id 7, .word 0, .decoration .colMajor])
    Builder.annotate (.plain .opMemberDecorate [.id 7, .word 0, .decoration .rowMajor])
    Builder.annotate (.plain .opMemberDecorate [.id 7, .word 1, .decoration .rowMajor])
  (steps.run (.start .fragment)).2.finish "main"

def sharedShader : ModuleShader where
  module := sharedModule
  tables := (Tables.ofModule sharedModule).toOption.getD .empty

/-- The matrix is laid out by columns, bound, and laid out by rows. -/
def turns : List Rewrite :=
  [⟨⟨7, some 0, .colMajor⟩, 1⟩, ⟨⟨9, none, .binding⟩, 2⟩, ⟨⟨7, some 0, .rowMajor⟩, 1⟩]

theorem member_has_one_layout_shared :
    ModuleShader.ofModule sharedModule = .ok sharedShader ∧
      sharedShader.tables.resources.uniformBuffers = [⟨9, 7, 7, "params"⟩, ⟨11, 7, 7, "params"⟩] ∧
      ((∃ r ∈ turns, LaysOut 7 0 r) ∧ ∃ n r, LastAt (LaysOut 7 0) turns n r ∧
        LaidOut (sharedShader.rewriteAll turns) 7 0 r.key.decoration r.value) ∧
      LaidOut (forceColumnMajor sharedShader) 7 0 .colMajor 1 ∧
      LaidOut (forceColumnMajor sharedShader) 7 1 .colMajor 1 := by
  have blocks : sharedShader.tables.resources.uniformBuffers =
      [⟨9, 7, 7, "params"⟩, ⟨11, 7, 7, "params"⟩] := by decide +kernel
  have shared : (⟨9, 7, 7, "params"⟩ : Resource) ∈ sharedShader.tables.resources.uniformBuffers := by
    rw [blocks]
    exact List.mem_cons_self
  have given : ∃ r ∈ turns, LaysOut 7 0 r := by decide
  have members : (sharedShader.tables.typeOf 7).members = [3, 6] := by decide +kernel
  have matrix : (sharedShader.tables.typeOf 3).isFloatMatrix := by decide +kernel
  have array : sharedShader.tables.typeOf 6 = (sharedShader.tables.typeOf 3).arrayOf 3 := by
    decide +kernel
  have matrices : (sharedShader.tables.typeOf 6).isFloatMatrix := by
    rw [array, isFloatMatrix_arrayOf]
    exact matrix
  obtain ⟨layouts, forced⟩ := member_has_one_layout sharedShader
  refine ⟨by decide +kernel, blocks, ⟨given, layouts turns 7 0 given⟩, ?_, ?_⟩
  · exact forced.laidOut _ shared 0 3 (by rw [members]; rfl) matrix
  · exact forced.laidOut _ shared 1 6 (by rw [members]; rfl) matrices

end ShaderBundle.Spirv
