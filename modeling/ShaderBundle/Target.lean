/-
# Target — the languages a shader can be compiled to

Eight target languages, their names and their families.  A name is read without
regard to the white space around it and to case, by the lower case of the whole
text; what is left must be one of the names, letter for letter.

`CodeOptions.of` says what each target asks of a code generator.
-/
import ShaderBundle.Json.Tree
import ShaderBundle.Text.LowerCase

namespace ShaderBundle

set_option autoImplicit false

inductive Target where
  | glsl330
  | glsl100
  | glsl300es
  | hlsl5
  | metalMacos
  | metalIos
  | metalSim
  | wgpu
deriving DecidableEq

namespace Target

/-- Every target, in the order of their declaration. -/
def all : List Target :=
  [glsl330, glsl100, glsl300es, hlsl5, metalMacos, metalIos, metalSim, wgpu]

/-- The name of a target, also in JSON. -/
def name : Target → String
  | glsl330 => "glsl330"
  | glsl100 => "glsl100"
  | glsl300es => "glsl300es"
  | hlsl5 => "hlsl5"
  | metalMacos => "metal_macos"
  | metalIos => "metal_ios"
  | metalSim => "metal_sim"
  | wgpu => "wgpu"

def isGlsl : Target → Bool
  | glsl330 | glsl100 | glsl300es => true
  | _ => false

def isMetal : Target → Bool
  | metalMacos | metalIos | metalSim => true
  | _ => false

/-- The target whose two stages share one descriptor set for uniform blocks. -/
def isWeb : Target → Bool
  | wgpu => true
  | _ => false

def ofName? (s : String) : Option Target := all.find? fun t => t.name = s

/-- No target has the name that was read; it is kept trimmed and in lower case. -/
structure Unknown where
  name : String
deriving DecidableEq

def Unknown.message (u : Unknown) : String := s!"unknown target language '{u.name}'"

def parse (s : String) : Except Unknown Target :=
  let key := String.ofList (Text.lower (Text.trim s.toList))
  match ofName? key with
  | some t => .ok t
  | none => .error ⟨key⟩

/-- Cuts a text at every comma. -/
def pieces (cs : List Char) : List (List Char) :=
  match cs with
  | [] => [[]]
  | c :: rest =>
    if c = ',' then [] :: pieces rest
    else
      match pieces rest with
      | [] => [[c]]
      | p :: ps => (c :: p) :: ps

/-- Reads a list of names with commas between them; the first bad name is reported. -/
def parseList (s : String) : Except Unknown (List Target) :=
  (pieces s.toList).mapM fun p => parse (String.ofList p)

def json (t : Target) : Json.Value := .text t.name

def ofTree? (t : Json.Tree) : Option Target := t.choice?.bind ofName?

end Target

/-! ## Code generation -/

/-- Code generation switches of a snippet for one target. -/
structure SnippetOptions where
  fixupClipspace : Bool
  flipVertY : Bool
deriving DecidableEq, Inhabited

namespace SnippetOptions

def none : SnippetOptions := ⟨false, false⟩

def json (o : SnippetOptions) : Json.Value :=
  .record [("fixup_clipspace", .bool o.fixupClipspace), ("flip_vert_y", .bool o.flipVertY)]

/-- Reads switches from JSON; one that is absent is off. -/
def ofTree? (t : Json.Tree) : Option SnippetOptions :=
  match t.fields? ["fixup_clipspace", "flip_vert_y"] with
  | some [fixup, flip] => do
    return ⟨← Json.Tree.orElse false Json.Tree.bool? fixup,
      ← Json.Tree.orElse false Json.Tree.bool? flip⟩
  | _ => Option.none

end SnippetOptions

inductive MetalPlatform where
  | macOs
  | iOs
deriving DecidableEq

/-- What a code generator is asked to write. -/
inductive Dialect where
  | glsl (version : Nat) (es vulkanSemantics enable420pack : Bool)
  | hlsl (shaderModel : Nat) (pointSizeCompat : Bool)
  | msl (platform : MetalPlatform) (decorationBinding : Bool)
deriving DecidableEq

/-- The options of one run of a code generator. -/
structure CodeOptions where
  dialect : Dialect
  emitLineDirectives : Bool
  fixupClipspace : Bool
  flipVertY : Bool
deriving DecidableEq

/-- The dialect of a target.  The web target is generated as Vulkan GLSL, only to get
at the interface. -/
def Target.dialect : Target → Dialect
  | .glsl330 => .glsl 330 false false false
  | .glsl100 => .glsl 100 true false false
  | .glsl300es => .glsl 300 true false false
  | .hlsl5 => .hlsl 50 true
  | .metalMacos => .msl .macOs true
  | .metalIos => .msl .iOs true
  | .metalSim => .msl .iOs true
  | .wgpu => .glsl 450 false true false

/-- The options for a target and the switches of a snippet. -/
def CodeOptions.of (target : Target) (switches : SnippetOptions) : CodeOptions where
  dialect := target.dialect
  emitLineDirectives := !target.isGlsl && !target.isWeb
  fixupClipspace := switches.fixupClipspace
  flipVertY := switches.flipVertY

end ShaderBundle
