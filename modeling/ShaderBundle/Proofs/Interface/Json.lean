/-
# Proofs.Interface.Json — an interface is read back from its JSON

`Interface.read_json`: the JSON text of an interface is read as this interface, if its unique
indices fit 64 bits.  The text is read as the tree of its value (`Json.Tree.read_pretty`); the
rest goes along the readers.  A record of known fields hands out the values of its fields in
order (`fields?_tree`), a list the items its reader takes (`list?_tree`), and attribute slots
are filled by their own list.
-/
import ShaderBundle.Interface.Basic
import ShaderBundle.Proofs.Interface.Attributes
import ShaderBundle.Proofs.Json.RoundTrip

namespace ShaderBundle

set_option autoImplicit false

/-! ## Lists and records -/

namespace Json

variable {α β γ : Type}

theorem mapM_eq_some {f : α → Option β} {g : α → β} {as : List α}
    (each : ∀ a ∈ as, f a = some (g a)) : as.mapM f = some (as.map g) := by
  induction as with
  | nil => rfl
  | cons a as ih =>
      obtain ⟨first, later⟩ := List.forall_mem_cons.mp each
      simp [first, ih later]

theorem itemTrees_eq_map (vs : List Value) : itemTrees vs = vs.map Value.tree := by
  induction vs with
  | nil => rfl
  | cons v vs ih => rw [itemTrees, ih, List.map_cons]

theorem fieldTrees_eq_map (fs : List (String × Value)) :
    fieldTrees fs = fs.map fun f => (some f.1, f.2.tree) := by
  induction fs with
  | nil => rfl
  | cons f fs ih => rw [fieldTrees, ih, List.map_cons]

/-- A list of values is read if every value is. -/
theorem list?_tree {read : Tree → Option α} {json : α → Value} (as : List α)
    (each : ∀ a ∈ as, read (json a).tree = some a) :
    Tree.list? read (Value.list (as.map json)).tree = some as := by
  rw [Value.tree, itemTrees_eq_map, List.map_map]
  show (as.map (Value.tree ∘ json)).mapM read = some as
  rw [List.mapM_map]
  have all := mapM_eq_some (g := id) each
  rwa [List.map_id] at all

/-- Among fields with distinct names each stands alone with its name. -/
theorem filter_fst_eq_singleton {fs : List (String × Value)} (distinct : (fs.map Prod.fst).Nodup)
    {f : String × Value} (among : f ∈ fs) : fs.filter (fun g => g.1 = f.1) = [f] := by
  induction fs with
  | nil => cases among
  | cons g gs ih =>
      rw [List.map_cons, List.nodup_cons] at distinct
      obtain ⟨fresh, distinct⟩ := distinct
      rcases List.mem_cons.mp among with rfl | later
      · have others : gs.filter (fun g => g.1 = f.1) = [] := by
          rw [List.filter_eq_nil_iff]
          intro g isLater
          have apart : g.1 ≠ f.1 := fun same => fresh (List.mem_map.mpr ⟨g, isLater, same⟩)
          simpa using apart
        rw [List.filter_cons_of_pos (by simp), others]
      · have apart : g.1 ≠ f.1 := fun same => fresh (same ▸ List.mem_map_of_mem later)
        rw [List.filter_cons_of_neg (by simpa using apart), ih distinct later]

/-- A field that is there once is known by its name. -/
theorem known?_fieldTrees {fs : List (String × Value)} (distinct : (fs.map Prod.fst).Nodup)
    {f : String × Value} (among : f ∈ fs) :
    Tree.known? (fieldTrees fs) f.1 = some (some f.2.tree) := by
  have once : (fieldTrees fs).filter (fun g => g.1 = some f.1) = [(some f.1, f.2.tree)] := by
    have named : (fun g : Option String × Tree => decide (g.1 = some f.1)) ∘
        (fun g : String × Value => (some g.1, g.2.tree)) = fun g => decide (g.1 = f.1) := by
      funext g
      simp
    rw [fieldTrees_eq_map, List.filter_map, named, filter_fst_eq_singleton distinct among]
    rfl
  rw [Tree.known?, once]

/-- A record of fields with distinct names hands out their values in order. -/
theorem fields?_tree (fs : List (String × Value)) (distinct : (fs.map Prod.fst).Nodup) :
    (Value.record fs).tree.fields? (fs.map Prod.fst) = some (fs.map fun f => some f.2.tree) := by
  have readable : Tree.keysReadable (fieldTrees fs) = true := by
    simp [Tree.keysReadable, fieldTrees_eq_map]
  rw [Value.tree]
  show (if Tree.keysReadable (fieldTrees fs) = true then
    (fs.map Prod.fst).mapM (Tree.known? (fieldTrees fs)) else none) = _
  rw [if_pos readable, List.mapM_map]
  exact mapM_eq_some fun f among => known?_fieldTrees distinct among

theorem word16?_tree (w : UInt16) : Tree.word16? (Value.nat w.toNat).tree = some w := by
  simp [Value.tree, Tree.word16?, Tree.natBelow?, UInt16.toNat_lt_size]

theorem word32?_tree (w : UInt32) : Tree.word32? (Value.nat w.toNat).tree = some w := by
  simp [Value.tree, Tree.word32?, Tree.natBelow?, UInt32.toNat_lt_size]

end Json

open Json (Value)

/-! ## Choices -/

theorem Stage.ofTree?_json (s : Stage) : Stage.ofTree? s.json.tree = some s := by
  cases s <;> rfl

theorem UniformType.ofTree?_json (t : UniformType) : UniformType.ofTree? t.json.tree = some t := by
  cases t <;> rfl

theorem ImageType.ofTree?_json (t : ImageType) : ImageType.ofTree? t.json.tree = some t := by
  cases t <;> rfl

theorem SampleType.ofTree?_json (t : SampleType) : SampleType.ofTree? t.json.tree = some t := by
  cases t <;> rfl

/-! ## Attributes -/

theorem Attribute.ofTree?_json (a : Attribute) : Attribute.ofTree? a.json.tree = some a := by
  have fields := Json.fields?_tree [("slot", .nat a.slot.toNat), ("name", .text a.name),
    ("sem_name", .text a.semName), ("sem_index", .nat a.semIndex.toNat)] (by simp)
  rw [Attribute.ofTree?, Attribute.json]
  simp only [List.map_cons, List.map_nil] at fields
  simp only [fields, Json.Tree.need, Json.word16?_tree]
  rfl

namespace AttributeSlots

theorem ofTree?_json (s : AttributeSlots) : ofTree? s.json.tree = some s := by
  have items := Json.list?_tree s.toList fun a _ => a.ofTree?_json
  rw [ofTree?, json, items]
  simp [ofList_toList]

end AttributeSlots

/-! ## Blocks and images -/

/-- An index that may be missing fits 64 bits if it is there. -/
def IndexFits (index : Option Nat) : Prop := ∀ n ∈ index, n < UInt64.size

theorem index?_indexJson {index : Option Nat} (fits : IndexFits index) :
    Json.Tree.orNull? Json.Tree.index? (indexJson index).tree = some index := by
  cases index with
  | none => rfl
  | some n =>
      have small : n < UInt64.size := fits n rfl
      show (Json.Tree.index? (Value.nat n).tree).map some = some (some n)
      simp [Value.tree, Json.Tree.index?, Json.Tree.natBelow?, small]

theorem Uniform.ofTree?_json (u : Uniform) : Uniform.ofTree? u.json.tree = some u := by
  have fields := Json.fields?_tree [("name", .text u.name), ("type", u.type.json),
    ("array_count", .nat u.arrayCount.toNat), ("offset", .nat u.offset.toNat)] (by simp)
  rw [Uniform.ofTree?, Uniform.json]
  simp only [List.map_cons, List.map_nil] at fields
  simp only [fields, Json.Tree.need, Json.word32?_tree, UniformType.ofTree?_json]
  rfl

theorem UniformBlock.ofTree?_json {b : UniformBlock} (fits : IndexFits b.uniqueIndex) :
    UniformBlock.ofTree? b.json.tree = some b := by
  have fields := Json.fields?_tree [("slot", .nat b.slot.toNat),
    ("size", .nat b.size.toNat), ("name", .text b.name),
    ("uniforms", .list (b.uniforms.map Uniform.json)),
    ("unique_index", indexJson b.uniqueIndex)] (by simp)
  have uniforms := Json.list?_tree b.uniforms fun u _ => u.ofTree?_json
  rw [UniformBlock.ofTree?, UniformBlock.json]
  simp only [List.map_cons, List.map_nil] at fields
  simp only [fields, Json.Tree.need, Json.Tree.orElse, Json.word32?_tree, uniforms,
    index?_indexJson fits]
  rfl

theorem Image.ofTree?_json {i : Image} (fits : IndexFits i.uniqueIndex) :
    Image.ofTree? i.json.tree = some i := by
  have fields := Json.fields?_tree [("slot", .nat i.slot.toNat), ("name", .text i.name),
    ("type", i.type.json), ("base_type", i.sampleType.json),
    ("unique_index", indexJson i.uniqueIndex)] (by simp)
  rw [Image.ofTree?, Image.json]
  simp only [List.map_cons, List.map_nil] at fields
  simp only [fields, Json.Tree.need, Json.Tree.orElse, Json.word32?_tree,
    ImageType.ofTree?_json, SampleType.ofTree?_json, index?_indexJson fits]
  rfl

/-! ## Interfaces -/

namespace Interface

/-- Every unique index of an interface fits 64 bits. -/
structure IndicesFit (i : Interface) : Prop where
  blocks : ∀ b ∈ i.uniformBlocks, IndexFits b.uniqueIndex
  images : ∀ m ∈ i.images, IndexFits m.uniqueIndex

theorem ofTree?_json {i : Interface} (fit : i.IndicesFit) :
    Interface.ofTree? i.json.tree = some i := by
  have fields := Json.fields?_tree [("stage", i.stage.json),
    ("entry_point", .text i.entryPoint), ("inputs", i.inputs.json), ("outputs", i.outputs.json),
    ("uniform_blocks", .list (i.uniformBlocks.map UniformBlock.json)),
    ("images", .list (i.images.map Image.json))] (by simp)
  have blocks := Json.list?_tree i.uniformBlocks fun b among =>
    UniformBlock.ofTree?_json (fit.blocks b among)
  have images := Json.list?_tree i.images fun m among =>
    Image.ofTree?_json (fit.images m among)
  rw [Interface.ofTree?, Interface.json]
  simp only [List.map_cons, List.map_nil] at fields
  simp only [fields, Json.Tree.need, Stage.ofTree?_json, AttributeSlots.ofTree?_json, blocks,
    images]
  rfl

/-- The interface that a JSON text describes. -/
def readJson (bytes : List UInt8) : Option Interface :=
  (Json.Tree.read bytes).bind Interface.ofTree?

/-- **The JSON text of an interface is read as this interface.** -/
theorem read_json {i : Interface} (fit : i.IndicesFit) :
    readJson (Text.Utf8.bytes i.json.pretty) = some i := by
  rw [readJson, Json.Tree.read_pretty, Option.bind_some, ofTree?_json fit]

end Interface

end ShaderBundle
