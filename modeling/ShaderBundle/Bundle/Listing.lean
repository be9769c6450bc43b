/-
# Bundle.Listing — compilations for people to read

Interfaces and whole compilations as indented text.  A listing is made of pieces, one
for each line; writing it goes through what it lists and may end at any line, because the
sink is full.
-/
import ShaderBundle.Bundle.Compilation
import ShaderBundle.Sink
import ShaderBundle.Text.Line

namespace ShaderBundle

set_option autoImplicit false

def Attribute.line (a : Attribute) : String :=
  s!"  {a.name}: slot={a.slot}, sem_name={a.semName}, sem_index={a.semIndex}"

def Uniform.line (u : Uniform) : String :=
  s!"  member: {u.name}, type: {u.type.name}, array_count: {u.arrayCount}, offset: {u.offset}"

def UniformBlock.lines (b : UniformBlock) : List String :=
  s!"uniform block: {b.name}, slot: {b.slot}, size: {b.size}" :: b.uniforms.map Uniform.line

def Image.line (i : Image) : String :=
  s!"image: {i.name}, slot: {i.slot}, type: {i.type.name}, basetype: {i.sampleType.name}"

def Interface.lines (i : Interface) : List String :=
  [s!"stage: {i.stage.label}", s!"entry: {i.entryPoint}", "inputs:"]
    ++ i.inputs.toList.map Attribute.line
    ++ "outputs:" :: i.outputs.toList.map Attribute.line
    ++ i.uniformBlocks.flatMap UniformBlock.lines
    ++ i.images.map Image.line

/-- The pieces of the listing of an interface; an empty line ends it. -/
def Interface.listing (i : Interface) (indent : String) : List String :=
  i.lines.map (fun line => indent ++ line ++ "\n") ++ ["\n"]

def CompiledShader.listing (s : CompiledShader) : List String :=
  s!"    source for snippet {s.snippetIndex}:\n"
    :: (Text.lines s.sourceCode.toList).map (fun line => "      " ++ String.ofList line ++ "\n")
    ++ s!"    reflection for snippet {s.snippetIndex}:\n"
    :: s.interface.listing "      "

def Compilation.listing (t : Compilation) (format : DiagnosticFormat) : List String :=
  let error :=
    match t.error with
    | some e => e.render format
    | none => "not set"
  s!"cross-compiled ({t.target.name}):\n" :: s!"  error: {error}\n"
    :: t.sources.flatMap CompiledShader.listing ++ ["\n"]

/-! ## Writing -/

open Sink (emit emitLine)

def UniformBlock.writeListing (b : UniformBlock) (indent : String) : Sink.Writing := do
  emitLine indent s!"uniform block: {b.name}, slot: {b.slot}, size: {b.size}"
  b.uniforms.forM fun u => emitLine indent u.line

def Interface.writeListing (i : Interface) (indent : String) : Sink.Writing := do
  emitLine indent s!"stage: {i.stage.label}"
  emitLine indent s!"entry: {i.entryPoint}"
  emitLine indent "inputs:"
  i.inputs.toList.forM fun a => emitLine indent a.line
  emitLine indent "outputs:"
  i.outputs.toList.forM fun a => emitLine indent a.line
  i.uniformBlocks.forM fun b => b.writeListing indent
  i.images.forM fun image => emitLine indent image.line
  emit "\n"

def CompiledShader.writeListing (s : CompiledShader) : Sink.Writing := do
  emit s!"    source for snippet {s.snippetIndex}:\n"
  (Text.lines s.sourceCode.toList).forM fun line => emitLine "      " (String.ofList line)
  emit s!"    reflection for snippet {s.snippetIndex}:\n"
  s.interface.writeListing "      "

def Compilation.writeListing (t : Compilation) (format : DiagnosticFormat) : Sink.Writing := do
  emit s!"cross-compiled ({t.target.name}):\n"
  match t.error with
  | some e => emit s!"  error: {e.render format}\n"
  | none => emit "  error: not set\n"
  t.sources.forM CompiledShader.writeListing
  emit "\n"

end ShaderBundle
