/-
# Proofs.Spirv.Resources — which variables are resources

`resources_exact`: where no array type is an element of itself, the four lists of resources are
those variables of a module, in their order, that the rule for their list picks (`IsResource`).
The rule is said over instructions: what the type of a variable points to, what is left of that
below all arrays and what type that is (`Raised`), what the annotations and the entry point say,
and what the names are.  No variable is in two lists, because each list is for one storage class.

A variable adds at most one resource to each list (`ofKind_addVariable`).  Following arrays with
the fuel that `strip` has ends where the chain ends (`leads_strip`).
-/
import ShaderBundle.Proofs.Chain
import ShaderBundle.Proofs.Spirv.Types
import ShaderBundle.Proofs.Spirv.Variables
import ShaderBundle.Spirv.Builder

namespace ShaderBundle.Spirv

set_option autoImplicit false

/-- A list of resources. -/
inductive ResourceKind where
  | uniformBuffer
  | sampledImage
  | stageInput
  | stageOutput
deriving DecidableEq

/-- The storage class of the variables of a list. -/
def ResourceKind.storage : ResourceKind → StorageClass
  | uniformBuffer => .uniform
  | sampledImage => .uniformConstant
  | stageInput => .input
  | stageOutput => .output

theorem ResourceKind.storage_inj {kind kind' : ResourceKind} :
    kind.storage = kind'.storage ↔ kind = kind' := by
  cases kind <;> cases kind' <;> simp [storage]

def resourcesOf (res : Resources) : ResourceKind → List Resource
  | .uniformBuffer => res.uniformBuffers
  | .sampledImage => res.sampledImages
  | .stageInput => res.stageInputs
  | .stageOutput => res.stageOutputs

/-! ## The rule -/

namespace Module

variable (m : Module)

/-- The name of an id, empty if it has none. -/
def nameOf (id : Id) : String := (m.name? id).getD ""

/-- What a resource is called: a uniform block after its type, if that has a name, and all else
after the variable. -/
def resourceName (kind : ResourceKind) (id base : Id) : String :=
  if kind = .uniformBuffer ∧ m.nameOf base ≠ "" then m.nameOf base else m.nameOf id

/-- A variable is used by the entry point, and neither it nor a member of its type is built in.
An entry point without an interface uses everything. -/
structure IsAttribute (type : TypeDesc) (id base : Id) : Prop where
  used : m.interface = [] ∨ id ∈ m.interface
  notBuiltIn : ¬ m.States ⟨id, none, .builtIn⟩
  noBuiltInMember : ∀ n < type.members.length, ¬ m.States ⟨base, some (UInt32.ofNat n), .builtIn⟩

/-- What a list asks of a variable and of its type below all arrays. -/
def Admits (type : TypeDesc) (id base : Id) : ResourceKind → Prop
  | .uniformBuffer => type.base = .struct ∧ m.States ⟨base, none, .block⟩
  | .sampledImage => type.base = .sampledImage
  | .stageInput | .stageOutput => m.IsAttribute type id base

/-- An instruction declares the variable of a resource of a list. -/
structure IsResource (kind : ResourceKind) (i : Instruction) (r : Resource) : Prop where
  /-- The variable has the storage class of the list, and its type is a pointer. -/
  declared : ∃ pointer, i.declared? = some ⟨r.id, pointer, kind.storage⟩ ∧
    m.pointee? pointer = some r.type
  /-- The chain of elements from what it points to ends at the base type. -/
  base : Leads m.element? r.type r.baseType
  /-- The list takes the variable for what instructions describe as the base type. -/
  admits : ∃ type, Raised m.globals r.baseType type ∧ m.Admits type r.id r.baseType kind
  name : r.name = m.resourceName kind r.id r.baseType

end Module

/-! ## Below all arrays -/

theorem leads_stripArrays {t : Tables} {n : Nat} {a : Id}
    (ends : EndsWithin t.elements.find? n a) {fuel : Nat} (enough : n ≤ fuel) :
    Leads t.elements.find? a (t.stripArrays fuel a) := by
  induction ends generalizing fuel with
  | @done n a last =>
      cases fuel with
      | zero => exact .done last
      | succ fuel =>
          rw [Tables.stripArrays, last]
          exact .done last
  | @link n a b goes _ ih =>
      cases fuel with
      | zero => omega
      | succ fuel =>
          rw [Tables.stripArrays, goes]
          exact .link goes (ih (by omega))

/-- Where no array is an element of itself, what is below all arrays is found. -/
theorem leads_strip {t : Tables} (acyclic : NoCycle fun a b => t.elements.find? a = some b)
    (a : Id) : Leads t.elements.find? a (t.strip a) := by
  have ends := endsWithin_of_noCycle acyclic
    (fun a b goes => Table.mem_keys_of_find?_eq_some goes) a
  have keys : t.elements.keys.length = t.elements.entries.length := List.length_map _
  exact leads_stripArrays ends (by omega)

/-! ## One variable -/

namespace Tables

variable (t : Tables)

def admits (id base : Id) : ResourceKind → Bool
  | .uniformBuffer => (t.typeOf base).base = .struct && t.hasDecoration base .block
  | .sampledImage => (t.typeOf base).base = .sampledImage
  | .stageInput | .stageOutput => t.isStageAttribute id base

def resourceName (kind : ResourceKind) (id base : Id) : String :=
  if kind = .uniformBuffer ∧ t.nameOf base ≠ "" then t.nameOf base else t.nameOf id

def resource? (kind : ResourceKind) (v : Variable) : Option Resource :=
  if v.storage = kind.storage then
    match t.pointers.find? v.pointerType with
    | some pointee =>
      if t.admits v.id (t.strip pointee) kind then
        some ⟨v.id, pointee, t.strip pointee, t.resourceName kind v.id (t.strip pointee)⟩
      else none
    | none => none
  else none

/-- A variable adds at most one resource to a list. -/
theorem resourcesOf_addVariable (res : Resources) (v : Variable) (kind : ResourceKind) :
    resourcesOf (t.addVariable res v) kind =
      resourcesOf res kind ++ (t.resource? kind v).toList := by
  unfold addVariable resource?
  cases t.pointers.find? v.pointerType with
  | none => simp
  | some pointee =>
      cases storage : v.storage with
      | uniform =>
          by_cases block : (t.typeOf (t.strip pointee)).base = .struct &&
              t.hasDecoration (t.strip pointee) .block
          · cases kind <;>
              simp [ResourceKind.storage, admits, resourcesOf, resourceName, block]
          · cases kind <;> simp [ResourceKind.storage, admits, resourcesOf, block]
      | uniformConstant =>
          by_cases image : (t.typeOf (t.strip pointee)).base = .sampledImage <;>
            cases kind <;>
              simp [ResourceKind.storage, admits, resourcesOf, resourceName, image]
      | input | output =>
          by_cases stays : t.isStageAttribute v.id (t.strip pointee) <;>
            cases kind <;>
              simp [ResourceKind.storage, admits, resourcesOf, resourceName, stays]
      | _ => cases kind <;> simp [ResourceKind.storage]

/-- A list has what the variables add to it, in their order. -/
theorem resourcesOf_resources (kind : ResourceKind) :
    resourcesOf t.resources kind = t.globalVars.filterMap (t.resource? kind) := by
  have adds (vars : List Variable) (res : Resources) :
      resourcesOf (vars.foldl t.addVariable res) kind =
        resourcesOf res kind ++ vars.filterMap (t.resource? kind) := by
    induction vars generalizing res with
    | nil => simp
    | cons v rest ih =>
        rw [List.foldl_cons, ih, resourcesOf_addVariable, List.append_assoc]
        cases added : t.resource? kind v <;> simp [added]
  have none : resourcesOf .empty kind = [] := by cases kind <;> rfl
  unfold resources
  rw [adds, none, List.nil_append]

end Tables

/-! ## From tables to instructions -/

namespace Tables.Tells

variable {m : Module} {t : Tables} (tells : Tells m t)

include tells

theorem nameOf_eq (id : Id) : t.nameOf id = m.nameOf id := by
  rw [Tables.nameOf, tells.names, Module.nameOf]

theorem hasDecoration_iff (id : Id) (d : Decoration) :
    t.hasDecoration id d ↔ m.States ⟨id, none, d⟩ :=
  tells.decorations ⟨id, none, d⟩

theorem hasMemberDecoration_iff (id : Id) (member : UInt32) (d : Decoration) :
    t.hasMemberDecoration id member d ↔ m.States ⟨id, some member, d⟩ :=
  tells.decorations ⟨id, some member, d⟩

theorem isStageAttribute_iff (id base : Id) :
    t.isStageAttribute id base ↔ m.IsAttribute (t.typeOf base) id base := by
  unfold isStageAttribute
  rw [Bool.and_eq_true, Bool.and_eq_true, Bool.or_eq_true, decide_eq_true_eq, List.contains_iff_mem,
    Bool.not_eq_true', ← Bool.not_eq_true, tells.hasDecoration_iff, tells.interface,
    List.all_eq_true]
  simp only [List.mem_range, Bool.not_eq_true', ← Bool.not_eq_true,
    tells.hasMemberDecoration_iff]
  constructor
  · rintro ⟨⟨used, own⟩, members⟩
    exact ⟨used, own, members⟩
  · rintro ⟨used, own, members⟩
    exact ⟨⟨used, own⟩, members⟩

theorem admits_iff (id base : Id) (kind : ResourceKind) :
    t.admits id base kind ↔ m.Admits (t.typeOf base) id base kind := by
  cases kind with
  | uniformBuffer =>
      show (decide _ && _) = true ↔ _ ∧ _
      rw [Bool.and_eq_true, decide_eq_true_eq, tells.hasDecoration_iff]
  | sampledImage => exact decide_eq_true_iff
  | stageInput | stageOutput => exact tells.isStageAttribute_iff id base

theorem resourceName_eq (kind : ResourceKind) (id base : Id) :
    t.resourceName kind id base = m.resourceName kind id base := by
  unfold Tables.resourceName Module.resourceName
  rw [tells.nameOf_eq, tells.nameOf_eq]

/-- What the tables take for a resource is one. -/
theorem resource?_eq_some_iff (acyclic : NoCycle fun a b => m.element? a = some b)
    (types : ∀ id, Raised m.globals id (t.typeOf id)) (kind : ResourceKind) (i : Instruction)
    (r : Resource) : i.declared?.bind (t.resource? kind) = some r ↔ m.IsResource kind i r := by
  have elements : t.elements.find? = m.element? := funext tells.elements
  have below (a : Id) : Leads m.element? a (t.strip a) := by
    rw [← elements] at acyclic ⊢
    exact leads_strip acyclic a
  constructor
  · intro found
    obtain ⟨v, declared, found⟩ := Option.bind_eq_some_iff.mp found
    unfold resource? at found
    split_ifs at found with storage
    split at found
    · rename_i pointee points
      split_ifs at found with admitted
      cases found
      refine ⟨⟨v.pointerType, ?_, (tells.pointers _).symm.trans points⟩, below pointee,
        ⟨_, types _, (tells.admits_iff _ _ kind).mp admitted⟩, tells.resourceName_eq _ _ _⟩
      rw [declared, ← storage]
    · cases found
  · rintro ⟨⟨pointer, declared, points⟩, base, ⟨desc, raised, admitted⟩, name⟩
    obtain ⟨id, type, baseType, own⟩ := r
    obtain rfl : t.strip type = baseType := (below type).unique base
    obtain rfl : desc = t.typeOf (t.strip type) := raised.unique (types _)
    have points := (tells.pointers pointer).trans points
    have admitted := (tells.admits_iff _ _ kind).mpr admitted
    rw [declared, Option.bind_some, resource?, if_pos rfl, points]
    simp only at admitted name ⊢
    rw [if_pos admitted, tells.resourceName_eq, name]

end Tables.Tells

/-- An instruction declares one resource at most. -/
theorem Module.IsResource.unique {m : Module} {i : Instruction} {kind kind' : ResourceKind}
    {r r' : Resource} (isResource : m.IsResource kind i r)
    (isResource' : m.IsResource kind' i r') : kind = kind' ∧ r = r' := by
  obtain ⟨⟨pointer, declared, points⟩, base, -, name⟩ := isResource
  obtain ⟨⟨pointer', declared', points'⟩, base', -, name'⟩ := isResource'
  obtain ⟨id, type, baseType, own⟩ := r
  obtain ⟨id', type', baseType', own'⟩ := r'
  have same := Option.some.inj (declared.symm.trans declared')
  simp only [Variable.mk.injEq, ResourceKind.storage_inj] at same
  obtain ⟨rfl, rfl, rfl⟩ := same
  cases points.symm.trans points'
  obtain rfl := base.unique base'
  exact ⟨rfl, congrArg (Resource.mk id type _) (name.trans name'.symm)⟩

/-- The lists have what the instructions of a module declare. -/
theorem Tables.Tells.resourcesOf_eq {m : Module} {t : Tables} (tells : Tells m t)
    (kind : ResourceKind) :
    resourcesOf t.resources kind =
      m.globals.filterMap fun i => i.declared?.bind (t.resource? kind) := by
  rw [t.resourcesOf_resources, tells.globalVars, List.filterMap_filterMap]

/-- A listed resource is what its list asks for, even where arrays have a cycle. -/
theorem Tables.admits_of_mem {t : Tables} {kind : ResourceKind} {r : Resource}
    (listed : r ∈ resourcesOf t.resources kind) : t.admits r.id r.baseType kind := by
  rw [t.resourcesOf_resources] at listed
  obtain ⟨v, -, found⟩ := List.mem_filterMap.mp listed
  unfold resource? at found
  split_ifs at found
  split at found
  · split_ifs at found with admitted
    cases found
    exact admitted
  · cases found

/-- **The resources of a module are exactly the variables that the rule picks.**  Each list has
them in the order of their instructions, and no instruction gives more than one resource.  The
types by which the rule goes are what the instructions describe, and nothing else. -/
theorem resources_exact {m : Module} {s : ModuleShader}
    (accepted : ModuleShader.ofModule m = .ok s)
    (acyclic : NoCycle fun a b => m.element? a = some b) :
    (∀ id type, Raised m.globals id type ↔ Shader.typeOf s id = type) ∧
      ∃ resource? : ResourceKind → Instruction → Option Resource,
        (∀ kind, resourcesOf (Shader.resources s) kind = m.globals.filterMap (resource? kind)) ∧
        (∀ kind i r, resource? kind i = some r ↔ m.IsResource kind i r) ∧
        ∀ i kind kind' r r', m.IsResource kind i r → m.IsResource kind' i r' →
          kind = kind' ∧ r = r' := by
  obtain ⟨-, read⟩ := read_of_ofModule accepted
  have tells := Tables.tells_of_ofModule read
  have types := Tables.raised_of_ofModule read
  refine ⟨fun id type => ⟨fun raised => (types id).unique raised, ?_⟩,
    fun kind i => i.declared?.bind (s.tables.resource? kind), fun kind => ?_,
    tells.resource?_eq_some_iff acyclic types,
    fun i kind kind' r r' one other => one.unique other⟩
  · rintro rfl
    exact types id
  · exact tells.resourcesOf_eq kind

/-! ## A vertex shader -/

/-- A module of a vertex shader with three blocks, the second of them a grid of the first and the
third without a name for its type; with an image; with two inputs, of which the entry point uses
the first; and with three outputs, one built in, one with a member that is, and one of its own. -/
def gridModule : Module :=
  let steps : Builder.Build Unit := do
    let float ← Builder.float
    let vec4 ← Builder.vec 4
    let _ ← Builder.uniformBlock "params" [⟨"tint", vec4, 0⟩] 0 0
    let row ← Builder.array 3 2 16
    let grid ← Builder.array row 3 32
    let _ ← Builder.addVariable .uniform grid
    let block ← Builder.addGlobal .opTypeStruct none [.id vec4]
    Builder.decorate block .block []
    let bare ← Builder.addVariable .uniform block
    Builder.nameId bare "bare"
    let _ ← Builder.sampledImage "albedo" float .plane false 0 1
    let _ ← Builder.input "position" vec4 0
    let _ ← Builder.addVariable .input vec4
    let _ ← Builder.builtInOutput "gl_Position" vec4
    let perVertex ← Builder.addGlobal .opTypeStruct none [.id vec4]
    Builder.annotate
      (.plain .opMemberDecorate [.id perVertex, .word 0, .decoration .builtIn, .builtIn .position])
    Builder.addToInterface (← Builder.addVariable .output perVertex)
    let _ ← Builder.output "color" vec4 0
  (steps.run (.start .vertex)).2.finish "main"

def gridShader : ModuleShader where
  module := gridModule
  tables := (Tables.ofModule gridModule).toOption.getD .empty

def gridResources : Resources where
  uniformBuffers := [⟨5, 3, 3, "params"⟩, ⟨12, 10, 3, "params"⟩, ⟨15, 13, 13, "bare"⟩]
  sampledImages := [⟨19, 17, 17, "albedo"⟩]
  stageInputs := [⟨21, 2, 2, "position"⟩]
  stageOutputs := [⟨30, 2, 2, "color"⟩]

theorem gridModule_acyclic : NoCycle fun a b => gridModule.element? a = some b := by
  have below : gridModule.globals.all
      (fun i => i.element?.all fun statement => statement.2 < statement.1) = true := by
    decide +kernel
  apply noCycle_of_below UInt32.toNat
  intro a b element
  obtain ⟨i, among, said⟩ := exists_of_saidLast element
  have own := List.all_eq_true.mp below i among
  rw [said, Option.all_some, decide_eq_true_eq] at own
  exact UInt32.lt_iff_toNat_lt.mp own

theorem resources_exact_grid :
    ModuleShader.ofModule gridModule = .ok gridShader ∧
      (NoCycle fun a b => gridModule.element? a = some b) ∧
      Shader.resources gridShader = gridResources ∧
      (∃ i ∈ gridModule.globals,
        gridModule.IsResource .uniformBuffer i ⟨12, 10, 3, "params"⟩) ∧
      ∀ kind, ∀ i ∈ gridModule.globals, ∀ r, gridModule.IsResource kind i r →
        r ∈ resourcesOf gridResources kind := by
  have accepted : ModuleShader.ofModule gridModule = .ok gridShader := by rfl
  have resources : Shader.resources gridShader = gridResources := by decide +kernel
  obtain ⟨-, resource?, lists, rule, -⟩ := resources_exact accepted gridModule_acyclic
  rw [resources] at lists
  refine ⟨accepted, gridModule_acyclic, resources, ?_, fun kind i among r isResource => ?_⟩
  · have listed : (⟨12, 10, 3, "params"⟩ : Resource) ∈ resourcesOf gridResources .uniformBuffer := by
      decide
    rw [lists] at listed
    obtain ⟨i, among, own⟩ := List.mem_filterMap.mp listed
    exact ⟨i, among, (rule _ i _).mp own⟩
  · rw [lists]
    exact List.mem_filterMap.mpr ⟨i, among, (rule kind i r).mpr isResource⟩

end ShaderBundle.Spirv
