/-
# Bundle.Unify — one definition per name

Uniform blocks and images are shared between shaders by name.  `gather` walks over
the blocks (or images) of all shaders in order and keeps a table of those with
distinct names: the first of a name enters the table, and every one gets the place of
its name in the table as its unique index.

A later definition has to agree with the first one of its name.  The first that does
not is a conflict and ends the walk; what was done before it stays, and everything
from it on is left as it was.
-/
import ShaderBundle.Bundle.Basic
import ShaderBundle.Interface.Basic

namespace ShaderBundle

set_option autoImplicit false

structure CompiledShader where
  /-- The place of its snippet in the bundle. -/
  snippetIndex : Nat
  sourceCode : String
  interface : Interface
deriving DecidableEq

namespace CompiledShader

def json (s : CompiledShader) : Json.Value :=
  .record [("snippet_index", .nat s.snippetIndex), ("source_code", .text s.sourceCode),
    ("refl", s.interface.json)]

/-- Reads a compiled shader from JSON. -/
def ofTree? (t : Json.Tree) : Option CompiledShader :=
  match t.fields? ["snippet_index", "source_code", "refl"] with
  | some [index, code, interface] => do
    return ⟨← Json.Tree.need Json.Tree.index? index, ← Json.Tree.need Json.Tree.text? code,
      ← Json.Tree.need Interface.ofTree? interface⟩
  | _ => none

end CompiledShader

/-- What is shared between shaders by name. -/
class Shared (α : Type) where
  name : α → String
  /-- Whether two could be one and the same, slots aside. -/
  agrees : α → α → Bool
  withIndex : α → Nat → α
  /-- Those of an interface. -/
  ofInterface : Interface → List α
  /-- An interface with others in their place. -/
  putInto : Interface → List α → Interface

instance : Shared UniformBlock where
  name b := b.name
  agrees := UniformBlock.agrees
  withIndex b index := { b with uniqueIndex := some index }
  ofInterface i := i.uniformBlocks
  putInto i blocks := { i with uniformBlocks := blocks }

instance : Shared Image where
  name i := i.name
  agrees := Image.agrees
  withIndex i index := { i with uniqueIndex := some index }
  ofInterface i := i.images
  putInto i images := { i with images := images }

namespace Unify

variable {α : Type} [Shared α]

/-- Looks a definition up by its name.  Answers with the definition under its unique
index and the table it is then in, or nothing if it is a conflict. -/
def intern (table : List α) (item : α) : Option (α × List α) :=
  match table.findIdx? fun other => Shared.name other = Shared.name item with
  | none =>
    let item := Shared.withIndex item table.length
    some (item, table ++ [item])
  | some index =>
    match table[index]? with
    | some first =>
      if Shared.agrees first item then some (Shared.withIndex item index, table) else none
    | none => none

/-- The definitions of one shader after the walk. -/
structure Interned (α : Type) where
  items : List α
  table : List α
  /-- The name of the conflict that ended the walk. -/
  conflict : Option String

/-- Walks over the definitions of one shader. -/
def internAll : List α → List α → Interned α
  | table, [] => ⟨[], table, none⟩
  | table, item :: rest =>
    match intern table item with
    | none => ⟨item :: rest, table, some (Shared.name item)⟩
    | some (item, table) =>
      let r := internAll table rest
      { r with items := item :: r.items }

def putItems (s : CompiledShader) (items : List α) : CompiledShader :=
  { s with interface := Shared.putInto s.interface items }

def itemsOf (s : CompiledShader) : List α := Shared.ofInterface s.interface

end Unify

/-- The shaders after the walk. -/
structure Gathered (α : Type) where
  sources : List CompiledShader
  table : List α
  /-- The name of the conflict that ended the walk. -/
  conflict : Option String
deriving DecidableEq

/-- Walks over the definitions of all shaders. -/
def gather {α : Type} [Shared α] : List α → List CompiledShader → Gathered α
  | table, [] => ⟨[], table, none⟩
  | table, s :: rest =>
    let r := Unify.internAll table (Unify.itemsOf s)
    let done := Unify.putItems s r.items
    match r.conflict with
    | some name => ⟨done :: rest, r.table, some name⟩
    | none =>
      let g := gather r.table rest
      { g with sources := done :: g.sources }

/-- One name with two definitions. -/
inductive Conflict where
  | uniformBlock (name : String)
  | image (name : String)
deriving DecidableEq

def Conflict.message : Conflict → String
  | uniformBlock name => s!"conflicting uniform block definitions found for '{name}'"
  | image name => s!"conflicting texture definitions found for '{name}'"

end ShaderBundle
