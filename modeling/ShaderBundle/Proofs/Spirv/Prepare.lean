/-
# Proofs.Spirv.Prepare — what making a module ready for a target changes

Preparing a module sets decorations and does nothing else (`prepare_eq_rewriteAll`): every
block and image gets a set and a binding, and on every target but those of the Metal family
the float matrices of uniform blocks are laid out by columns.  What an interface shows is
read from the rest, but for slots and for the one place where a size depends on the layout
of a matrix: the last member of a structure.

Two prepared modules therefore give a structure the same size unless its end, found through
last members that are structures themselves, is such a matrix, laid out by rows, with
another number of rows than columns (`EndsTurned`).
-/
import Mathlib.Tactic.ByContra
import ShaderBundle.Bundle.Compilation
import ShaderBundle.Proofs.Spirv.Rewrites

namespace ShaderBundle.Spirv

set_option autoImplicit false

/-! ## Preparing as rewriting -/

/-- The rewrites that bind resources one after the other in a set. -/
def bindRewrites (set : UInt32) : UInt32 → List Resource → List Rewrite
  | _, [] => []
  | slot, r :: rest =>
    ⟨⟨r.id, none, .descriptorSet⟩, set⟩ :: ⟨⟨r.id, none, .binding⟩, slot⟩ ::
      bindRewrites set (slot + 1) rest

namespace Tables

/-- The rewrites that lay the float matrices among members out by columns. -/
def columnsFrom (t : Tables) (type : Id) : UInt32 → List Id → List Rewrite
  | _, [] => []
  | index, memberType :: rest =>
    (if (t.typeOf memberType).isFloatMatrix then [⟨⟨type, some index, .colMajor⟩, 1⟩] else []) ++
      t.columnsFrom type (index + 1) rest

/-- The rewrites that fix the bind slots. -/
def slotRewrites (t : Tables) (stage : Stage) (scheme : BindingScheme) : List Rewrite :=
  bindRewrites 0 (scheme.firstBlock stage) t.resources.uniformBuffers ++
    bindRewrites (scheme.imageSet stage) 0 t.resources.sampledImages

/-- The rewrites that lay the float matrices of uniform blocks out by columns. -/
def columnRewrites (t : Tables) : List Rewrite :=
  t.resources.uniformBuffers.flatMap fun r =>
    t.columnsFrom r.baseType 0 (t.typeOf r.baseType).members

end Tables

/-- The rewrites that make a module ready for a target. -/
def prepareRewrites (target : Target) (stage : Stage) (t : Tables) : List Rewrite :=
  t.slotRewrites stage (.ofTarget target) ++ if target.isMetal then [] else t.columnRewrites

theorem rewriteAll_append (s : ModuleShader) (rs rs' : List Rewrite) :
    s.rewriteAll (rs ++ rs') = (s.rewriteAll rs).rewriteAll rs' :=
  List.foldl_append

theorem bare_rewrite (s : ModuleShader) (r : Rewrite) : (s.rewrite r).tables.bare = s.tables.bare := by
  obtain ⟨⟨id, member, d⟩, value⟩ := r
  cases member with
  | none => rfl
  | some member => cases d <;> rfl

theorem bare_rewriteAll (s : ModuleShader) (rs : List Rewrite) :
    (s.rewriteAll rs).tables.bare = s.tables.bare := by
  induction rs generalizing s with
  | nil => rfl
  | cons r rest ih => exact (ih (s.rewrite r)).trans (bare_rewrite s r)

/-- Tables that are the same but for decorations know the same types. -/
theorem typeOf_of_bare_eq {t u : Tables} (same : u.bare = t.bare) : u.typeOf = t.typeOf := by
  have types : u.types = t.types := by
    change u.bare.types = t.bare.types
    rw [same]
  funext id
  rw [Tables.typeOf, Tables.typeOf, types]

theorem bindFrom_eq_rewriteAll (set slot : UInt32) (resources : List Resource) (s : ModuleShader) :
    bindFrom set slot resources s = s.rewriteAll (bindRewrites set slot resources) := by
  induction resources generalizing slot s with
  | nil => rfl
  | cons r rest ih => exact ih (slot + 1) _

theorem forceColumnsFrom_eq_rewriteAll {t : Tables} {s : ModuleShader} (same : s.tables.bare = t.bare)
    (type : Id) (index : UInt32) (members : List Id) :
    forceColumnsFrom type index members s = s.rewriteAll (t.columnsFrom type index members) := by
  induction members generalizing index s with
  | nil => rfl
  | cons memberType rest ih =>
      have types : Shader.typeOf s memberType = t.typeOf memberType :=
        congrFun (typeOf_of_bare_eq same) memberType
      unfold forceColumnsFrom Tables.columnsFrom
      rw [types, rewriteAll_append]
      by_cases matrix : (t.typeOf memberType).isFloatMatrix
      · rw [if_pos matrix, if_pos matrix]
        exact ih ((bare_rewrite s ⟨⟨type, some index, .colMajor⟩, 1⟩).trans same) (index + 1)
      · rw [if_neg matrix, if_neg matrix]
        exact ih same (index + 1)

theorem fixBindSlots_eq_rewriteAll (stage : Stage) (scheme : BindingScheme) (s : ModuleShader) :
    fixBindSlots stage scheme s = s.rewriteAll (s.tables.slotRewrites stage scheme) := by
  unfold fixBindSlots Tables.slotRewrites
  rw [rewriteAll_append, ← bindFrom_eq_rewriteAll, ← bindFrom_eq_rewriteAll]
  rfl

theorem forceColumnMajor_eq_rewriteAll {t : Tables} {s : ModuleShader}
    (same : s.tables.bare = t.bare) (resources : Shader.resources s = t.resources) :
    forceColumnMajor s = s.rewriteAll t.columnRewrites := by
  unfold forceColumnMajor Tables.columnRewrites
  rw [resources]
  clear resources
  induction t.resources.uniformBuffers generalizing s with
  | nil => rfl
  | cons r rest ih =>
      have types : Shader.typeOf s r.baseType = t.typeOf r.baseType :=
        congrFun (typeOf_of_bare_eq same) r.baseType
      rw [List.foldl_cons, List.flatMap_cons, rewriteAll_append, types,
        forceColumnsFrom_eq_rewriteAll same]
      exact ih ((bare_rewriteAll _ _).trans same)

theorem flattenBlocks_eq (s : ModuleShader) : flattenBlocks s = s := by
  unfold flattenBlocks
  induction (Shader.resources s).uniformBuffers with
  | nil => rfl
  | cons r rest ih => exact ih

/-- Preparing a module sets decorations. -/
theorem prepare_eq_rewriteAll (target : Target) (stage : Stage) (s : ModuleShader) :
    prepare target stage s = s.rewriteAll (prepareRewrites target stage s.tables) := by
  have fixed := fixBindSlots_eq_rewriteAll stage (.ofTarget target) s
  have same := bare_rewriteAll s (s.tables.slotRewrites stage (.ofTarget target))
  have resources := resources_fixBindSlots stage (.ofTarget target) s
  unfold prepare prepareRewrites
  simp only [flattenBlocks_eq, ite_self, rewriteAll_append]
  rw [fixed] at resources ⊢
  split
  · rfl
  · exact forceColumnMajor_eq_rewriteAll same resources

/-! ## What is rewritten -/

theorem key_of_mem_bindRewrites {set slot : UInt32} {resources : List Resource} {r : Rewrite}
    (given : r ∈ bindRewrites set slot resources) :
    r.key.member = none ∧ (r.key.decoration = .descriptorSet ∨ r.key.decoration = .binding) := by
  induction resources generalizing slot with
  | nil => cases given
  | cons resource rest ih =>
      rcases List.mem_cons.mp given with rfl | given
      · exact ⟨rfl, .inl rfl⟩
      rcases List.mem_cons.mp given with rfl | given
      · exact ⟨rfl, .inr rfl⟩
      · exact ih given

theorem mem_columnsFrom_iff (t : Tables) (type : Id) (index : UInt32) (members : List Id)
    (r : Rewrite) : r ∈ t.columnsFrom type index members ↔
      ∃ j memberType, members[j]? = some memberType ∧ (t.typeOf memberType).isFloatMatrix ∧
        r = ⟨⟨type, some (index + UInt32.ofNat j), .colMajor⟩, 1⟩ := by
  induction members generalizing index with
  | nil => simp [Tables.columnsFrom]
  | cons first rest ih =>
      unfold Tables.columnsFrom
      simp only [List.mem_append, ih, add_one_add_ofNat]
      constructor
      · rintro (own | ⟨j, memberType, place, matrix, rfl⟩)
        · split at own
          · rename_i matrix
            rw [List.mem_singleton] at own
            exact ⟨0, first, rfl, matrix, by rw [own]; simp⟩
          · cases own
        · exact ⟨j + 1, memberType, place, matrix, rfl⟩
      · rintro ⟨j, memberType, place, matrix, rfl⟩
        cases j with
        | zero =>
            cases place
            exact .inl (by simp [matrix])
        | succ j => exact .inr ⟨j, memberType, place, matrix, rfl⟩

/-- A member at this index is a float matrix, and its structure is that of a uniform block.
Indices of members have 32 bits. -/
def Tables.IsBlockMatrix (t : Tables) (id : Id) (index : UInt32) : Prop :=
  (∃ r ∈ t.resources.uniformBuffers, r.baseType = id) ∧
    ∃ j memberType, (t.typeOf id).members[j]? = some memberType ∧
      (t.typeOf memberType).isFloatMatrix ∧ UInt32.ofNat j = index

theorem mem_columnRewrites_iff (t : Tables) (r : Rewrite) : r ∈ t.columnRewrites ↔
    ∃ id index, t.IsBlockMatrix id index ∧ r = ⟨⟨id, some index, .colMajor⟩, 1⟩ := by
  unfold Tables.columnRewrites
  simp only [List.mem_flatMap, mem_columnsFrom_iff, UInt32.zero_add]
  constructor
  · rintro ⟨resource, given, j, memberType, place, matrix, rfl⟩
    exact ⟨_, _, ⟨⟨resource, given, rfl⟩, j, memberType, place, matrix, rfl⟩, rfl⟩
  · rintro ⟨_, _, ⟨⟨resource, given, rfl⟩, j, memberType, place, matrix, rfl⟩, rfl⟩
    exact ⟨resource, given, j, memberType, place, matrix, rfl⟩

/-- A decoration that preparing neither sets nor removes. -/
def Decoration.IsSpared (d : Decoration) : Prop :=
  d ≠ .descriptorSet ∧ d ≠ .binding ∧ d ≠ .colMajor ∧ d ≠ .rowMajor

instance (d : Decoration) : Decidable d.IsSpared :=
  inferInstanceAs (Decidable (_ ∧ _ ∧ _ ∧ _))

/-- A rewrite touches no decoration that is spared. -/
def Rewrite.Spares (r : Rewrite) : Prop := ∀ k : Key, r.Touches k → ¬ k.decoration.IsSpared

theorem not_touches_of_mem_slotRewrites {t : Tables} {stage : Stage} {scheme : BindingScheme}
    {r : Rewrite} (given : r ∈ t.slotRewrites stage scheme) {k : Key}
    (notSet : k.decoration ≠ .descriptorSet) (notBinding : k.decoration ≠ .binding) :
    ¬ r.Touches k := by
  have own : r.key.member = none ∧
      (r.key.decoration = .descriptorSet ∨ r.key.decoration = .binding) := by
    rcases List.mem_append.mp given with block | image
    · exact key_of_mem_bindRewrites block
    · exact key_of_mem_bindRewrites image
  rintro (rfl | opposite)
  · exact own.2.elim notSet notBinding
  · rw [Key.opposite?, own.1] at opposite
    cases opposite

theorem spares_of_mem_slotRewrites {t : Tables} {stage : Stage} {scheme : BindingScheme}
    {r : Rewrite} (given : r ∈ t.slotRewrites stage scheme) : r.Spares := by
  rintro k touches ⟨notSet, notBinding, -, -⟩
  exact not_touches_of_mem_slotRewrites given notSet notBinding touches

theorem spares_of_mem_columnRewrites {t : Tables} {r : Rewrite} (given : r ∈ t.columnRewrites) :
    r.Spares := by
  rintro k touches ⟨-, -, notColumns, notRows⟩
  obtain ⟨id, index, -, rfl⟩ := (mem_columnRewrites_iff _ r).mp given
  rcases touches with rfl | opposite
  · exact notColumns rfl
  · cases opposite
    exact notRows rfl

/-- The same tables but for the decorations that preparing may touch. -/
structure Alike (t u : Tables) : Prop where
  bare_eq : u.bare = t.bare
  valueAt : ∀ k : Key, k.decoration.IsSpared → u.valueAt k = t.valueAt k

theorem alike_rewriteAll {s : ModuleShader} {rs : List Rewrite} (spares : ∀ r ∈ rs, r.Spares) :
    Alike s.tables (s.rewriteAll rs).tables where
  bare_eq := bare_rewriteAll s rs
  valueAt k spared :=
    valueAt_rewriteAll_of_untouched fun r given touches => spares r given k touches spared

section

variable (target : Target) (stage : Stage) (s : ModuleShader)

theorem mem_prepareRewrites_iff (r : Rewrite) : r ∈ prepareRewrites target stage s.tables ↔
    r ∈ s.tables.slotRewrites stage (.ofTarget target) ∨
      ¬ target.isMetal ∧ r ∈ s.tables.columnRewrites := by
  unfold prepareRewrites
  by_cases metal : target.isMetal <;> simp [metal]

theorem alike_prepare : Alike s.tables (prepare target stage s).tables := by
  rw [prepare_eq_rewriteAll]
  refine alike_rewriteAll ?_
  intro r given
  rcases (mem_prepareRewrites_iff target stage s r).mp given with slot | ⟨-, column⟩
  · exact spares_of_mem_slotRewrites slot
  · exact spares_of_mem_columnRewrites column

/-- A key that some rewrite removes, and none sets, has no value. -/
theorem valueAt_rewriteAll_of_removed {s : ModuleShader} {rs : List Rewrite} {k : Key}
    (unset : ∀ r ∈ rs, r.key ≠ k) (removed : ∃ r ∈ rs, r.key.opposite? = some k) :
    (s.rewriteAll rs).tables.valueAt k = none := by
  induction rs generalizing s with
  | nil =>
      obtain ⟨r, given, -⟩ := removed
      cases given
  | cons r rest ih =>
      obtain ⟨own, later⟩ := List.forall_mem_cons.mp unset
      by_cases again : ∃ q ∈ rest, q.key.opposite? = some k
      · exact ih later again
      · have untouched : ∀ q ∈ rest, ¬ q.Touches k := by
          rintro q behind (same | opposite)
          · exact later q behind same
          · exact again ⟨q, behind, opposite⟩
        have opposite : r.key.opposite? = some k := by
          obtain ⟨q, given, opposite⟩ := removed
          rcases List.mem_cons.mp given with rfl | behind
          · exact opposite
          · exact absurd ⟨q, behind, opposite⟩ again
        change ((s.rewrite r).rewriteAll rest).tables.valueAt k = none
        rw [valueAt_rewriteAll_of_untouched untouched, valueAt_rewrite, if_neg own.symm,
          if_pos opposite]

/-- Once a module is ready, a member is laid out by rows if it was before and its layout
was not changed. -/
theorem hasRowMajor_prepare_iff (id : Id) (index : UInt32) :
    (prepare target stage s).tables.hasMemberDecoration id index .rowMajor ↔
      s.tables.hasMemberDecoration id index .rowMajor ∧
        (target.isMetal ∨ ¬ s.tables.IsBlockMatrix id index) := by
  have asValue (t : Tables) : t.hasMemberDecoration id index .rowMajor =
      (t.valueAt ⟨id, some index, .rowMajor⟩).isSome := rfl
  rw [asValue, asValue, prepare_eq_rewriteAll]
  by_cases changed : ¬ target.isMetal ∧ s.tables.IsBlockMatrix id index
  · rw [valueAt_rewriteAll_of_removed]
    · simp [changed]
    · intro r given same
      rcases (mem_prepareRewrites_iff target stage s r).mp given with slot | ⟨-, column⟩
      · exact not_touches_of_mem_slotRewrites slot (by simp) (by simp) (.inl same)
      · obtain ⟨_, _, -, rfl⟩ := (mem_columnRewrites_iff _ r).mp column
        cases same
    · refine ⟨⟨⟨id, some index, .colMajor⟩, 1⟩, ?_, rfl⟩
      refine (mem_prepareRewrites_iff target stage s _).mpr (.inr ⟨changed.1, ?_⟩)
      exact (mem_columnRewrites_iff _ _).mpr ⟨id, index, changed.2, rfl⟩
  · rw [valueAt_rewriteAll_of_untouched]
    · have kept : target.isMetal ∨ ¬ s.tables.IsBlockMatrix id index := by
        rcases Decidable.em (target.isMetal = true) with metal | other
        · exact .inl metal
        · exact .inr fun matrix => changed ⟨other, matrix⟩
      exact ⟨fun rows => ⟨rows, kept⟩, And.left⟩
    · intro r given
      rcases (mem_prepareRewrites_iff target stage s r).mp given with slot | ⟨other, column⟩
      · exact not_touches_of_mem_slotRewrites slot (by simp) (by simp)
      · obtain ⟨_, _, matrix, rfl⟩ := (mem_columnRewrites_iff _ r).mp column
        rintro (same | opposite)
        · cases same
        · cases opposite
          exact changed ⟨other, matrix⟩

end

/-! ## What is read -/

namespace Alike

variable {t u : Tables} (alike : Alike t u)

include alike

theorem typeOf_eq : u.typeOf = t.typeOf := typeOf_of_bare_eq alike.bare_eq

theorem memberNames_eq : u.memberNames = t.memberNames := by
  change u.bare.memberNames = t.bare.memberNames
  rw [alike.bare_eq]

theorem entryPoints_eq : u.entryPoints = t.entryPoints := by
  change u.bare.entryPoints = t.bare.entryPoints
  rw [alike.bare_eq]

theorem decoration_eq (id : Id) {d : Decoration} (spared : d.IsSpared) :
    u.decoration id d = t.decoration id d := by
  have same := alike.valueAt ⟨id, none, d⟩ spared
  exact congrArg (Option.getD · 0) same

theorem memberDecoration_eq (id : Id) (member : UInt32) {d : Decoration} (spared : d.IsSpared) :
    u.memberDecoration id member d = t.memberDecoration id member d := by
  have same := alike.valueAt ⟨id, some member, d⟩ spared
  exact congrArg (Option.getD · 0) same

theorem hasDecoration_eq (id : Id) {d : Decoration} (spared : d.IsSpared) :
    u.hasDecoration id d = t.hasDecoration id d :=
  congrArg Option.isSome (alike.valueAt ⟨id, none, d⟩ spared)

theorem hasMemberDecoration_eq (id : Id) (member : UInt32) {d : Decoration}
    (spared : d.IsSpared) : u.hasMemberDecoration id member d = t.hasMemberDecoration id member d :=
  congrArg Option.isSome (alike.valueAt ⟨id, some member, d⟩ spared)

theorem resources_eq : u.resources = t.resources := by
  have part {α : Type} (f : Tables → α) (blind : ∀ v : Tables, f v.bare = f v) : f u = f t := by
    rw [← blind u, alike.bare_eq, blind]
  have contributes : u.addVariable = t.addVariable :=
    Tables.addVariable_congr (part (·.types) fun _ => rfl) (part (·.elements) fun _ => rfl)
      (part (·.pointers) fun _ => rfl) (part (·.names) fun _ => rfl)
      (part (·.interface) fun _ => rfl) (fun id => alike.hasDecoration_eq id (by decide))
      (fun id => alike.hasDecoration_eq id (by decide))
      fun id member => alike.hasMemberDecoration_eq id member (by decide)
  unfold Tables.resources
  rw [contributes, part (·.globalVars) fun _ => rfl]

omit alike in
theorem symm (alike : Alike t u) : Alike u t :=
  ⟨alike.bare_eq.symm, fun k spared => (alike.valueAt k spared).symm⟩

omit alike in
theorem trans {v : Tables} (first : Alike t u) (second : Alike u v) : Alike t v :=
  ⟨second.bare_eq.trans first.bare_eq,
    fun k spared => (second.valueAt k spared).trans (first.valueAt k spared)⟩

end Alike

/-! ## Sizes -/

namespace Tables

/-- The index of the last member of a structure. -/
def lastIndex (t : Tables) (id : Id) : UInt32 := UInt32.ofNat ((t.typeOf id).members.length - 1)

/-- How many strides a matrix takes as a member: rows if it is laid out by rows, else columns. -/
def strides (t : Tables) (id : Id) (index : UInt32) (matrix : TypeDesc) : UInt32 :=
  if t.hasMemberDecoration id index .rowMajor then matrix.vecsize else matrix.columns

/-- The structures at the end of a structure: itself, and if its last member is a structure,
those at the end of that. -/
inductive AtEnd (t : Tables) : Id → Id → Prop where
  | self {id : Id} : AtEnd t id id
  | last {id memberType inner : Id} : (t.typeOf id).members.getLast? = some memberType →
      (t.typeOf memberType).array = [] → (t.typeOf memberType).base = .struct →
      AtEnd t memberType inner → AtEnd t id inner

theorem structSizeUpTo_succ (t : Tables) (fuel : Nat) (id : Id) :
    t.structSizeUpTo (fuel + 1) id =
      match (t.typeOf id).members.getLast? with
      | none => 0
      | some memberType =>
        addCapped (t.memberDecoration id (t.lastIndex id) .offset)
          (match (t.typeOf memberType).array.getLast? with
            | some length => mulCapped (t.decoration memberType .arrayStride) length
            | none =>
              if (t.typeOf memberType).base = .struct then t.structSizeUpTo fuel memberType
              else if (t.typeOf memberType).columns = 1 then
                mulCapped (t.typeOf memberType).vecsize (t.typeOf memberType).width / 8
              else mulCapped (t.memberDecoration id (t.lastIndex id) .matrixStride)
                (t.strides id (t.lastIndex id) (t.typeOf memberType))) := by
  have chosen (stride index : UInt32) (matrix : TypeDesc) :
      mulCapped stride (t.strides id index matrix) =
        if t.hasMemberDecoration id index .rowMajor then mulCapped stride matrix.vecsize
        else mulCapped stride matrix.columns := by
    unfold strides
    split <;> rfl
  simp only [chosen]
  rfl

end Tables

section

variable {t u : Tables}

/-- A size depends on layouts at the end of the structure only. -/
theorem Alike.structSizeUpTo_eq (alike : Alike t u) {id : Id}
    (same : ∀ inner memberType, t.AtEnd id inner →
      (t.typeOf inner).members.getLast? = some memberType → (t.typeOf memberType).array = [] →
      u.strides inner (t.lastIndex inner) (t.typeOf memberType) =
        t.strides inner (t.lastIndex inner) (t.typeOf memberType)) (fuel : Nat) :
    u.structSizeUpTo fuel id = t.structSizeUpTo fuel id := by
  induction fuel generalizing id with
  | zero => rfl
  | succ fuel ih =>
      have lastIndex : u.lastIndex id = t.lastIndex id := by
        rw [Tables.lastIndex, alike.typeOf_eq, Tables.lastIndex]
      rw [Tables.structSizeUpTo_succ, Tables.structSizeUpTo_succ, alike.typeOf_eq, lastIndex,
        alike.memberDecoration_eq id _ (by decide)]
      cases last : (t.typeOf id).members.getLast? with
      | none => rfl
      | some memberType =>
          simp only
          congr 1
          cases array : (t.typeOf memberType).array.getLast? with
          | some length => simp only [alike.decoration_eq memberType (d := .arrayStride) (by decide)]
          | none =>
              have noArray := List.getLast?_eq_none_iff.mp array
              simp only
              split
              · rename_i struct
                exact ih fun inner innermost atEnd =>
                  same inner innermost (.last last noArray struct atEnd)
              · rw [alike.memberDecoration_eq id _ (by decide),
                  same id memberType .self last noArray]

theorem Alike.structSize_eq (alike : Alike t u) {id : Id}
    (same : ∀ inner memberType, t.AtEnd id inner →
      (t.typeOf inner).members.getLast? = some memberType → (t.typeOf memberType).array = [] →
      u.strides inner (t.lastIndex inner) (t.typeOf memberType) =
        t.strides inner (t.lastIndex inner) (t.typeOf memberType)) :
    u.structSize id = t.structSize id := by
  have types : u.types = t.types := by
    change u.bare.types = t.bare.types
    rw [alike.bare_eq]
  rw [Tables.structSize, Tables.structSize, types]
  exact alike.structSizeUpTo_eq same _

end

/-- The last member of a structure is a matrix that is laid out by rows, unless for a target
on which the matrices of uniform blocks are laid out by columns; and this changes its size. -/
def Tables.IsTurned (t : Tables) (id : Id) : Prop :=
  ∃ memberType, (t.typeOf id).members.getLast? = some memberType ∧
    (t.typeOf memberType).array = [] ∧ t.hasMemberDecoration id (t.lastIndex id) .rowMajor ∧
    t.IsBlockMatrix id (t.lastIndex id) ∧
    (t.typeOf memberType).vecsize ≠ (t.typeOf memberType).columns

/-- A structure at the end of a structure ends in such a matrix. -/
def Tables.EndsTurned (t : Tables) (id : Id) : Prop := ∃ inner, t.AtEnd id inner ∧ t.IsTurned inner

section

variable (target : Target) (stage : Stage) (s : ModuleShader)

theorem structSize_prepare_of_not_endsTurned {id : Id} (straight : ¬ s.tables.EndsTurned id) :
    (prepare target stage s).tables.structSize id = s.tables.structSize id := by
  refine (alike_prepare target stage s).structSize_eq ?_
  intro inner memberType atEnd last noArray
  unfold Tables.strides
  by_cases rows : s.tables.hasMemberDecoration inner (s.tables.lastIndex inner) .rowMajor
  · by_cases kept : target.isMetal ∨
        ¬ s.tables.IsBlockMatrix inner (s.tables.lastIndex inner)
    · rw [if_pos ((hasRowMajor_prepare_iff target stage s _ _).mpr ⟨rows, kept⟩), if_pos rows]
    · have turned : ¬ (prepare target stage s).tables.hasMemberDecoration inner
          (s.tables.lastIndex inner) .rowMajor :=
        fun still => kept ((hasRowMajor_prepare_iff target stage s _ _).mp still).2
      rw [if_neg turned, if_pos rows]
      by_contra differ
      have isMatrix := not_not.mp (not_or.mp kept).2
      exact straight ⟨inner, atEnd, memberType, last, noArray, rows, isMatrix, Ne.symm differ⟩
  · have still : ¬ (prepare target stage s).tables.hasMemberDecoration inner
        (s.tables.lastIndex inner) .rowMajor :=
      fun now => rows ((hasRowMajor_prepare_iff target stage s _ _).mp now).1
    rw [if_neg still, if_neg rows]

/-- Targets of one family give every structure the same size. -/
theorem structSize_prepare_of_isMetal_eq {target' : Target}
    (family : target.isMetal = target'.isMetal) (id : Id) :
    (prepare target stage s).tables.structSize id =
      (prepare target' stage s).tables.structSize id := by
  have alike := (alike_prepare target' stage s).symm.trans (alike_prepare target stage s)
  have rows (inner : Id) (index : UInt32) :
      (prepare target stage s).tables.hasMemberDecoration inner index .rowMajor =
        (prepare target' stage s).tables.hasMemberDecoration inner index .rowMajor := by
    rw [Bool.eq_iff_iff, hasRowMajor_prepare_iff, hasRowMajor_prepare_iff, family]
  refine alike.structSize_eq ?_
  intro inner memberType _ _ _
  rw [Tables.strides, Tables.strides, rows]

/-- A structure ends in a float matrix of this type that is laid out by rows. -/
structure Tables.EndsByRows (t : Tables) (id memberType : Id) : Prop where
  last : (t.typeOf id).members.getLast? = some memberType
  noArray : (t.typeOf memberType).array = []
  matrix : (t.typeOf memberType).isFloatMatrix
  rows : t.hasMemberDecoration id (t.lastIndex id) .rowMajor

/-- The size of a structure that ends in a matrix of so many strides. -/
def Tables.sizeOfStrides (t : Tables) (id : Id) (count : UInt32) : UInt32 :=
  addCapped (t.memberDecoration id (t.lastIndex id) .offset)
    (mulCapped (t.memberDecoration id (t.lastIndex id) .matrixStride) count)

/-- How many strides such a matrix takes: the Metal family has room for its rows, and the
other targets for its columns. -/
def strideCount (target : Target) (matrix : TypeDesc) : UInt32 :=
  if target.isMetal then matrix.vecsize else matrix.columns

theorem structSize_prepare_of_endsByRows {id memberType : Id}
    (isBlock : ∃ r ∈ s.tables.resources.uniformBuffers, r.baseType = id)
    (ends : s.tables.EndsByRows id memberType) :
    (prepare target stage s).tables.structSize id =
      s.tables.sizeOfStrides id (strideCount target (s.tables.typeOf memberType)) := by
  obtain ⟨last, noArray, matrix, rows⟩ := ends
  have alike := alike_prepare target stage s
  have isMatrix : s.tables.IsBlockMatrix id (s.tables.lastIndex id) := by
    refine ⟨isBlock, (s.tables.typeOf id).members.length - 1, memberType, ?_, matrix, rfl⟩
    rw [← List.getLast?_eq_getElem?]
    exact last
  have strides : (prepare target stage s).tables.strides id (s.tables.lastIndex id)
      (s.tables.typeOf memberType) = strideCount target (s.tables.typeOf memberType) := by
    unfold Tables.strides strideCount
    simp only [hasRowMajor_prepare_iff, rows, isMatrix, not_true_eq_false, or_false, true_and]
  have lastIndex : (prepare target stage s).tables.lastIndex id = s.tables.lastIndex id := by
    rw [Tables.lastIndex, alike.typeOf_eq, Tables.lastIndex]
  unfold TypeDesc.isFloatMatrix at matrix
  simp only [Bool.and_eq_true, decide_eq_true_eq] at matrix
  obtain ⟨⟨float, -⟩, wide⟩ := matrix
  have notStruct : (s.tables.typeOf memberType).base ≠ .struct := by simp [float]
  have notOne : (s.tables.typeOf memberType).columns ≠ 1 := by
    intro one
    rw [one] at wide
    exact absurd wide (by decide)
  rw [Tables.structSize, Tables.structSizeUpTo_succ, alike.typeOf_eq, last]
  simp only [noArray, List.getLast?_nil, if_neg notStruct, if_neg notOne, lastIndex, strides]
  rw [alike.memberDecoration_eq id _ (by decide), alike.memberDecoration_eq id _ (by decide)]
  rfl

end

end ShaderBundle.Spirv
