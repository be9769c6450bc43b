/-
# Proofs.Shader.Lawful — what decorating changes

A shader is lawful when a decoration that is set reads back, every other one and those of
members read as before, and the resources stay what they were — unless the decoration is
one of the two that decide what a resource is: `block` makes a uniform block of a structure,
and `builtIn` takes a variable out of the stage attributes.

Sketches and module shaders are lawful.  Proofs about binding use the laws only, so
they hold of both.
-/
import ShaderBundle.Shader.Sketch
import ShaderBundle.Spirv.Shader

namespace ShaderBundle

set_option autoImplicit false

/-- The laws of setting a decoration. -/
class LawfulShader (σ : Type) [Shader σ] : Prop where
  decoration_decorate : ∀ (s : σ) (id other : Id) (d e : Spirv.Decoration) (value : UInt32),
    Shader.decoration (Shader.decorate s id d value) other e =
      if (other, e) = (id, d) then value else Shader.decoration s other e
  memberDecoration_decorate : ∀ (s : σ) (id : Id) (d : Spirv.Decoration) (value : UInt32),
    Shader.memberDecoration (Shader.decorate s id d value) = Shader.memberDecoration s
  resources_decorate : ∀ (s : σ) (id : Id) (d : Spirv.Decoration) (value : UInt32),
    d ≠ .block → d ≠ .builtIn →
      Shader.resources (Shader.decorate s id d value) = Shader.resources s

/-- What is looked up in a table, under a default, after one key was bound. -/
theorem Table.getD_find?_insert {κ ν : Type} [DecidableEq κ] (t : Table κ ν) (k j : κ)
    (v missing : ν) :
    ((t.insert k v).find? j).getD missing = if j = k then v else (t.find? j).getD missing := by
  rw [Table.find?_insert]
  split <;> rfl

instance : LawfulShader Sketch where
  decoration_decorate s id other d e value :=
    s.decorations.getD_find?_insert (id, d) (other, e) value 0
  memberDecoration_decorate _ _ _ _ := rfl
  resources_decorate _ _ _ _ _ _ := rfl

namespace Spirv.Tables

def decorate (t : Tables) (id : Id) (d : Decoration) (value : UInt32) : Tables :=
  { t with decorations := t.decorations.insert (id, d) value }

theorem hasDecoration_decorate_of_ne (t : Tables) (id other : Id) {d e : Decoration}
    (value : UInt32) (differ : e ≠ d) :
    (t.decorate id d value).hasDecoration other e = t.hasDecoration other e := by
  have apart : (other, e) ≠ (id, d) := fun same => differ (congrArg Prod.snd same)
  unfold hasDecoration decorate
  rw [Table.contains_insert, decide_eq_false apart, Bool.false_or]

theorem strip_congr {t u : Tables} (elements : u.elements = t.elements) : u.strip = t.strip := by
  have stripped (fuel : Nat) (type : Id) : u.stripArrays fuel type = t.stripArrays fuel type := by
    induction fuel generalizing type with
    | zero => rfl
    | succ fuel ih => simp only [stripArrays, ih, elements]
  funext type
  rw [strip, strip, elements, stripped]

/-- What a variable contributes depends on no decoration but `block` and `builtIn`. -/
theorem addVariable_congr {t u : Tables} (types : u.types = t.types)
    (elements : u.elements = t.elements) (pointers : u.pointers = t.pointers)
    (names : u.names = t.names) (interface : u.interface = t.interface)
    (block : ∀ id, u.hasDecoration id .block = t.hasDecoration id .block)
    (builtIn : ∀ id, u.hasDecoration id .builtIn = t.hasDecoration id .builtIn)
    (memberBuiltIn : ∀ id member,
      u.hasMemberDecoration id member .builtIn = t.hasMemberDecoration id member .builtIn) :
    u.addVariable = t.addVariable := by
  have typeOf : u.typeOf = t.typeOf := by
    funext id
    rw [Tables.typeOf, Tables.typeOf, types]
  have nameOf : u.nameOf = t.nameOf := by
    funext id
    rw [Tables.nameOf, Tables.nameOf, names]
  have staged : u.isStageAttribute = t.isStageAttribute := by
    funext var baseType
    simp only [isStageAttribute, interface, builtIn, memberBuiltIn, typeOf]
  funext res v
  unfold addVariable
  rw [pointers, strip_congr elements, typeOf, nameOf, staged]
  simp only [block]

end Spirv.Tables

instance : LawfulShader Spirv.ModuleShader where
  decoration_decorate s id other d e value :=
    s.tables.decorations.getD_find?_insert (id, d) (other, e) value 0
  memberDecoration_decorate _ _ _ _ := rfl
  resources_decorate s id d value noBlock notBuiltIn := by
    have block := fun other => s.tables.hasDecoration_decorate_of_ne id other value noBlock.symm
    have builtIn := fun other =>
      s.tables.hasDecoration_decorate_of_ne id other value notBuiltIn.symm
    have contributes : (s.tables.decorate id d value).addVariable = s.tables.addVariable :=
      Spirv.Tables.addVariable_congr rfl rfl rfl rfl rfl block builtIn fun _ _ => rfl
    change s.tables.globalVars.foldl (s.tables.decorate id d value).addVariable .empty = _
    rw [contributes]
    rfl

end ShaderBundle
