/-
# Record.Reader — reading records back

A reader takes bytes from the front and either returns a value or an error; in both
cases it also returns the bytes that are left.  Bytes once taken stay taken, so
after an error the rest starts behind the field that was refused.
-/
import ShaderBundle.Record.Basic

namespace ShaderBundle.Record

set_option autoImplicit false

/-- Why bytes are no record. -/
inductive ReadError where
  | badMark (found : List UInt8)
  | badVersion (found : Nat)
  | ended
  | badByte (role : String) (found : UInt8)
  | badText (fault : Text.Utf8.Fault)
deriving DecidableEq

def ReadError.message : ReadError → String
  | badMark found =>
    let bytes := ", ".intercalate (found.map fun b => toString b.toNat)
    s!"bad magic [{bytes}], not a binary reflection"
  | badVersion n => s!"unsupported binary reflection version {n}"
  | ended => "binary reflection ends unexpectedly"
  | badByte role b => s!"invalid {role} byte {b.toNat}"
  | badText fault => s!"invalid utf-8 in binary reflection string: {fault.message}"

/-- A reader works on the bytes that are left. -/
abbrev Reader (α : Type) : Type := EStateM ReadError (List UInt8) α

/-- The next bytes; if too few are left, none is taken. -/
def take (n : Nat) : Reader (List UInt8) := fun bs =>
  if bs.length < n then .error .ended bs else .ok (bs.take n) (bs.drop n)

def byte : Reader UInt8 := fun
  | [] => .error .ended []
  | b :: bs => .ok b bs

def word : Reader Nat := fun
  | a :: b :: bs => .ok (a.toNat + 256 * b.toNat) bs
  | bs => .error .ended bs

def text : Reader String := do
  let bs ← take (← word)
  match Text.Utf8.decode bs with
  | .ok cs => return String.ofList cs
  | .error fault => throw (.badText fault)

/-- One of a fixed choice, by its byte. -/
def choice {α : Type} (role : String) (ofByte? : UInt8 → Option α) : Reader α := do
  let b ← byte
  match ofByte? b with
  | some a => return a
  | none => throw (.badByte role b)

/-- So many items, one after the other. -/
def times {α : Type} (item : Reader α) : Nat → Reader (List α)
  | 0 => return []
  | n + 1 => do
    let a ← item
    return a :: (← times item n)

def listOf {α : Type} (item : Reader α) : Reader (List α) := do times item (← word)

def attributeItem : Reader Attribute := do
  let name ← text
  let slot ← word
  let semName ← text
  let semIndex ← byte
  return ⟨UInt16.ofNat slot, name, semName, semIndex.toUInt16⟩

def uniformItem : Reader Uniform := do
  let name ← text
  let type ← choice "uniform type" UniformType.ofByte?
  let count ← word
  let offset ← word
  return ⟨name, type, UInt32.ofNat count, UInt32.ofNat offset⟩

def imageItem : Reader RecordImage := do
  let name ← text
  let slot ← word
  let type ← choice "image type" ImageType.ofByte?
  let sampleType ← choice "image base type" SampleType.ofByte?
  return ⟨name, UInt32.ofNat slot, type, sampleType⟩

def front : Reader Unit := do
  let found ← take 4
  if found ≠ mark then throw (.badMark found)
  let found ← word
  if found ≠ version then throw (.badVersion found)

def read : Reader Record := do
  front
  let stage ← choice "stage" Stage.ofByte?
  let entryPoint ← text
  let inputs ← listOf attributeItem
  let outputs ← listOf attributeItem
  let uniformBlocks ← listOf (listOf uniformItem)
  let images ← listOf imageItem
  return ⟨stage, entryPoint, inputs, outputs, uniformBlocks, images⟩

/-- Reads records, at most so many, until the bytes are used up or an error ends it. -/
def readUpTo : Nat → List UInt8 → List (Except ReadError Record × List UInt8)
  | 0, _ => []
  | attempts + 1, bs =>
    match read bs with
    | .ok r rest => (.ok r, rest) :: (if rest = [] then [] else readUpTo attempts rest)
    | .error e rest => [(.error e, rest)]

/-- Reads the records of a stream.  There is at least one attempt, and each comes with
the bytes that were left after it; no record is empty, so there are never more records
than bytes. -/
def readStream (bs : List UInt8) : List (Except ReadError Record × List UInt8) :=
  readUpTo (bs.length + 1) bs

end ShaderBundle.Record
