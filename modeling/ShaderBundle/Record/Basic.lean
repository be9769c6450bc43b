/-
# Record.Basic — the binary record of an interface

A record keeps what a runtime needs to bind a shader: stage, entry point,
attributes, the members of each uniform block, and the images.  Names, slots and
sizes of blocks are not part of it, and no unique index is.

`interfaceFields` lays out what is kept of an interface as a list of fields, front to back:

* the mark `SHDC`, the version, the stage, the entry point;
* the inputs, then the outputs, then the uniform blocks, then the images, each list
  after its length.

Words have two bytes, the low one first; a text stands after its length in bytes.
`writeInterface` checks each field before it writes it: the first field that does not
fit ends the writing, with everything before it written.

A `Record` is what of this can be read back.  It has the same layout (`Record.fields`).
-/
import ShaderBundle.Interface.Basic
import ShaderBundle.Text.Utf8

namespace ShaderBundle

set_option autoImplicit false

structure RecordImage where
  name : String
  slot : UInt32
  type : ImageType
  sampleType : SampleType
deriving DecidableEq

/-- What is kept of an interface. -/
structure Record where
  stage : Stage
  entryPoint : String
  inputs : List Attribute
  outputs : List Attribute
  uniformBlocks : List (List Uniform)
  images : List RecordImage
deriving DecidableEq

def Image.forRecord (i : Image) : RecordImage := ⟨i.name, i.slot, i.type, i.sampleType⟩

def Record.ofInterface (i : Interface) : Record where
  stage := i.stage
  entryPoint := i.entryPoint
  inputs := i.inputs.toList
  outputs := i.outputs.toList
  uniformBlocks := i.uniformBlocks.map UniformBlock.uniforms
  images := i.images.map Image.forRecord

namespace Record

/-! ## Fields -/

inductive Field where
  /-- Bytes of a fixed form. -/
  | fixed (bytes : List UInt8)
  /-- A number in one byte. -/
  | byte (role : String) (n : Nat)
  /-- A number in two bytes. -/
  | word (role : String) (n : Nat)
  /-- A text after its length. -/
  | text (s : String)

/-- Why a field cannot be written. -/
inductive Fault where
  | byteOverflow (role : String) (n : Nat)
  | wordOverflow (role : String) (n : Nat)
  | longText (length : Nat)
deriving DecidableEq

def Fault.message : Fault → String
  | byteOverflow role n => s!"{role} {n} doesn't fit into a u8"
  | wordOverflow role n => s!"{role} {n} doesn't fit into a u16"
  | longText n => s!"string of {n} bytes is too long for binary reflection"

/-- The two bytes of a word, the low one first. -/
def wordBytes (n : Nat) : List UInt8 := [UInt8.ofNat n, UInt8.ofNat (n / 256)]

def textBytes (s : String) : List UInt8 :=
  wordBytes (Text.Utf8.bytes s).length ++ Text.Utf8.bytes s

namespace Field

def bytes : Field → List UInt8
  | fixed bs => bs
  | byte _ n => [UInt8.ofNat n]
  | word _ n => wordBytes n
  | text s => textBytes s

/-- What keeps a field from being written. -/
def fault? : Field → Option Fault
  | fixed _ => none
  | byte role n => if n < UInt8.size then none else some (.byteOverflow role n)
  | word role n => if n < UInt16.size then none else some (.wordOverflow role n)
  | text s =>
    let n := (Text.Utf8.bytes s).length
    if n < UInt16.size then none else some (.longText n)

end Field

/-! ## Layout -/

def mark : List UInt8 := [0x53, 0x48, 0x44, 0x43]

def version : Nat := 1

def listFields {α : Type} (role : String) (f : α → List Field) (items : List α) : List Field :=
  .word role items.length :: items.flatMap f

def attributeFields (a : Attribute) : List Field :=
  [.text a.name, .fixed (wordBytes a.slot.toNat), .text a.semName,
    .byte "semantic index" a.semIndex.toNat]

def uniformFields (u : Uniform) : List Field :=
  [.text u.name, .fixed [u.type.byte], .word "array count" u.arrayCount.toNat,
    .word "uniform offset" u.offset.toNat]

def imageFields (i : RecordImage) : List Field :=
  [.text i.name, .word "image slot" i.slot.toNat, .fixed [i.type.byte, i.sampleType.byte]]

/-- The fields of a record, front to back. -/
def fields (r : Record) : List Field :=
  [.fixed mark, .fixed (wordBytes version), .fixed [r.stage.byte], .text r.entryPoint]
    ++ listFields "attribute count" attributeFields r.inputs
    ++ listFields "attribute count" attributeFields r.outputs
    ++ listFields "uniform block count" (listFields "uniform count" uniformFields)
        r.uniformBlocks
    ++ listFields "image count" imageFields r.images

/-- The fields of a uniform block: neither its name nor its slot and size. -/
def blockFields (b : UniformBlock) : List Field :=
  listFields "uniform count" uniformFields b.uniforms

def sampledFields (i : Image) : List Field :=
  [.text i.name, .word "image slot" i.slot.toNat, .fixed [i.type.byte, i.sampleType.byte]]

/-- The fields that are written for an interface, front to back. -/
def interfaceFields (i : Interface) : List Field :=
  [.fixed mark, .fixed (wordBytes version), .fixed [i.stage.byte], .text i.entryPoint]
    ++ listFields "attribute count" attributeFields i.inputs.toList
    ++ listFields "attribute count" attributeFields i.outputs.toList
    ++ listFields "uniform block count" blockFields i.uniformBlocks
    ++ listFields "image count" sampledFields i.images

/-- What was written, and the fault that ended it. -/
structure Written where
  bytes : List UInt8
  fault : Option Fault
deriving DecidableEq

/-- Writes fields until one does not fit. -/
def writeFields : List Field → Written
  | [] => ⟨[], none⟩
  | f :: rest =>
    match f.fault? with
    | some fault => ⟨[], some fault⟩
    | none =>
      let w := writeFields rest
      ⟨f.bytes ++ w.bytes, w.fault⟩

def write (r : Record) : Written := writeFields r.fields

/-- Writes what a record keeps of an interface. -/
def writeInterface (i : Interface) : Written := writeFields (interfaceFields i)

end Record

end ShaderBundle
