/-
# Proofs.Bundle.Json — compiled shaders are read back from their JSON

The JSON text of an interface is read as this interface, and that of a compiled shader as
this shader (`readJson_pretty`): whatever characters the names and the code hold, whatever
numbers stand in the fields, and whichever attribute slots are used.  A list of attributes
only says which slots are used, so the slots are filled anew; every value of
`AttributeSlots` is given back by its own list (`AttributeSlots.ofList_toList`).

Words have their widths by their types.  Indices are natural numbers, and those that do not
fit 64 bits are not read, so that they do is assumed.
-/
import ShaderBundle.Bundle.Unify
import ShaderBundle.Proofs.Interface.Json

namespace ShaderBundle

set_option autoImplicit false

namespace CompiledShader

theorem ofTree?_json {s : CompiledShader} (small : s.snippetIndex < UInt64.size)
    (fit : s.interface.IndicesFit) : CompiledShader.ofTree? s.json.tree = some s := by
  have fields := Json.fields?_tree [("snippet_index", .nat s.snippetIndex),
    ("source_code", .text s.sourceCode), ("refl", s.interface.json)] (by simp)
  have index : Json.Tree.index? (Json.Value.nat s.snippetIndex).tree = some s.snippetIndex := by
    simp [Json.Value.tree, Json.Tree.index?, Json.Tree.natBelow?, small]
  rw [CompiledShader.ofTree?, CompiledShader.json]
  simp only [List.map_cons, List.map_nil] at fields
  simp only [fields, Json.Tree.need, index, Interface.ofTree?_json fit]
  rfl

/-- The compiled shader that a JSON text describes. -/
def readJson (bytes : List UInt8) : Option CompiledShader :=
  (Json.Tree.read bytes).bind CompiledShader.ofTree?

theorem read_json {s : CompiledShader} (small : s.snippetIndex < UInt64.size)
    (fit : s.interface.IndicesFit) : readJson (Text.Utf8.bytes s.json.pretty) = some s := by
  rw [readJson, Json.Tree.read_pretty, Option.bind_some, ofTree?_json small fit]

end CompiledShader

/-- **Interfaces and compiled shaders are read back from their JSON texts.** -/
theorem readJson_pretty :
    (∀ i : Interface, i.IndicesFit →
        Interface.readJson (Text.Utf8.bytes i.json.pretty) = some i) ∧
      ∀ s : CompiledShader, s.snippetIndex < UInt64.size → s.interface.IndicesFit →
        CompiledShader.readJson (Text.Utf8.bytes s.json.pretty) = some s := by
  refine ⟨?_, ?_⟩
  · intro i fit
    exact Interface.read_json fit
  · intro s small fit
    exact CompiledShader.read_json small fit

/-- An interface with names that need escapes, slots with gaps and numbers up to the greatest. -/
def oddInterface : Interface where
  stage := .fragment
  entryPoint := "main\t\x22\\\x01"
  inputs := (AttributeSlots.ofList [.atSlot 15 "größe", ⟨3, "", "COLOR", 65535⟩]).toOption.getD .empty
  outputs := ((AttributeSlots.empty.insert 7 "𝄞").toOption).getD .empty
  uniformBlocks := [⟨4294967295, 0, "", [⟨"m\n", .invalid, 4294967295, 16⟩], some 18446744073709551615⟩]
  images := [⟨0, "Ω", .array, .uint, none⟩]

theorem oddInterface_indicesFit : oddInterface.IndicesFit :=
  ⟨by simp [oddInterface, IndexFits], by simp [oddInterface, IndexFits]⟩

theorem readJson_pretty_odd :
    oddInterface.IndicesFit ∧
      Interface.readJson (Text.Utf8.bytes oddInterface.json.pretty) = some oddInterface ∧
      CompiledShader.readJson (Text.Utf8.bytes (⟨3, "void\r", oddInterface⟩ : CompiledShader).json.pretty) =
        some ⟨3, "void\r", oddInterface⟩ :=
  ⟨oddInterface_indicesFit, readJson_pretty.1 oddInterface oddInterface_indicesFit,
    readJson_pretty.2 ⟨3, "void\r", oddInterface⟩ (by decide) oddInterface_indicesFit⟩

end ShaderBundle
