import ShaderBundle.Bundle.Basic
import ShaderBundle.Bundle.Compilation
import ShaderBundle.Bundle.Linking
import ShaderBundle.Bundle.Listing
import ShaderBundle.Bundle.Manifest
import ShaderBundle.Bundle.Output
import ShaderBundle.Bundle.Unify
import ShaderBundle.CommandLine
import ShaderBundle.Decimal.Shortest
import ShaderBundle.Diagnostic
import ShaderBundle.FileTree
import ShaderBundle.Interface.Attribute
import ShaderBundle.Interface.Basic
import ShaderBundle.Interface.Kind
import ShaderBundle.Json.Token
import ShaderBundle.Json.Tree
import ShaderBundle.Json.Value
import ShaderBundle.Main
import ShaderBundle.Path
import ShaderBundle.Place
import ShaderBundle.Record.Basic
import ShaderBundle.Record.Reader
import ShaderBundle.Shader.Binding
import ShaderBundle.Shader.Model
import ShaderBundle.Shader.Reflect
import ShaderBundle.Shader.Sketch
import ShaderBundle.Shader.Type
import ShaderBundle.Sink
import ShaderBundle.Spirv.Builder
import ShaderBundle.Spirv.Decode
import ShaderBundle.Spirv.Encode
import ShaderBundle.Spirv.Enumerant
import ShaderBundle.Spirv.Grammar
import ShaderBundle.Spirv.Instruction
import ShaderBundle.Spirv.Listing
import ShaderBundle.Spirv.Module
import ShaderBundle.Spirv.OpcodeTable
import ShaderBundle.Spirv.Scalar
import ShaderBundle.Spirv.Shader
import ShaderBundle.Spirv.Tables
import ShaderBundle.Spirv.Word
import ShaderBundle.Table
import ShaderBundle.Target
import ShaderBundle.Text.Blank
import ShaderBundle.Text.Line
import ShaderBundle.Text.LowerCase
import ShaderBundle.Text.LowerCaseTable
import ShaderBundle.Text.Quoted
import ShaderBundle.Text.QuotedTable
import ShaderBundle.Text.Utf8
import ShaderBundle.Proofs.Text.Utf8
import ShaderBundle.Proofs.Record.Layout
import ShaderBundle.Proofs.Record.Stream
import ShaderBundle.Proofs.Record.Format
import ShaderBundle.Proofs.Record.Overflow
import ShaderBundle.Proofs.Record.Truncation
import ShaderBundle.Proofs.Bundle.Blobs
import ShaderBundle.Proofs.Bundle.Compilation
import ShaderBundle.Proofs.Bundle.Conflict
import ShaderBundle.Proofs.Bundle.Names
import ShaderBundle.Proofs.Bundle.Order
import ShaderBundle.Proofs.Bundle.Linking
import ShaderBundle.Proofs.Bundle.Manifest
import ShaderBundle.Proofs.Shader.Lawful
import ShaderBundle.Proofs.Shader.Slots
import ShaderBundle.Proofs.Spirv.Annotations
import ShaderBundle.Proofs.Spirv.Prepare
import ShaderBundle.Proofs.Spirv.Rewrites
import ShaderBundle.Proofs.Bundle.Targets
import ShaderBundle.Proofs.Json.RoundTrip
import ShaderBundle.Proofs.Interface.Json
import ShaderBundle.Proofs.Bundle.Output
import ShaderBundle.Proofs.Shader.Attributes
import ShaderBundle.Proofs.Shader.Bindings
import ShaderBundle.Proofs.Spirv.Stated
import ShaderBundle.Proofs.Spirv.MatrixLayout
import ShaderBundle.Proofs.Spirv.Rebinding
import ShaderBundle.Proofs.Spirv.Variables
import ShaderBundle.Proofs.Spirv.SlotAnnotations
import ShaderBundle.Proofs.Bundle.Json
import ShaderBundle.Proofs.Bundle.Layouts
import ShaderBundle.Proofs.Bundle.Interruption
import ShaderBundle.Proofs.Bundle.Repetition
import ShaderBundle.Proofs.Interface.Edits
import ShaderBundle.Proofs.Spirv.Passes
import ShaderBundle.Proofs.Chain
import ShaderBundle.Proofs.Spirv.Sizes
import ShaderBundle.Proofs.Bundle.Delivery
import ShaderBundle.Proofs.Bundle.Listing
import ShaderBundle.Proofs.Spirv.Latest
import ShaderBundle.Proofs.Spirv.Sweeps
import ShaderBundle.Proofs.Spirv.Resources
import ShaderBundle.Proofs.Text.Blank
import ShaderBundle.Proofs.Text.LowerCase
import ShaderBundle.Proofs.Target
import ShaderBundle.Proofs.Spirv.Once
import ShaderBundle.Proofs.Spirv.ArrayChains
