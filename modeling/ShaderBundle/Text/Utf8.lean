/-
# Text.Utf8 — characters and their bytes

`encode` writes each character in the one to four bytes of its code point, and
`decode` reads such bytes back.  Only shortest forms of code points that are
characters are read: overlong forms, surrogates and code points past the last
plane are refused at their second byte.

When reading fails, the `Fault` says where: `index` is the first byte that starts
no character, and `length` is how many bytes are to blame — one to three, up to
the first byte that cannot continue — or `none` when the bytes end inside a
character that could still be completed.
-/
namespace ShaderBundle.Text.Utf8

set_option autoImplicit false

/-! ## Writing -/

def encodeChar (c : Char) : List UInt8 :=
  let n := c.toNat
  if n < 0x80 then
    [UInt8.ofNat n]
  else if n < 0x800 then
    [UInt8.ofNat (0xC0 + n / 0x40), UInt8.ofNat (0x80 + n % 0x40)]
  else if n < 0x10000 then
    [UInt8.ofNat (0xE0 + n / 0x1000), UInt8.ofNat (0x80 + n / 0x40 % 0x40),
      UInt8.ofNat (0x80 + n % 0x40)]
  else
    [UInt8.ofNat (0xF0 + n / 0x40000), UInt8.ofNat (0x80 + n / 0x1000 % 0x40),
      UInt8.ofNat (0x80 + n / 0x40 % 0x40), UInt8.ofNat (0x80 + n % 0x40)]

def encode (cs : List Char) : List UInt8 := cs.flatMap encodeChar

def bytes (s : String) : List UInt8 := encode s.toList

/-! ## Reading -/

/-- Where and how bytes fail to be text. -/
structure Fault where
  index : Nat
  length : Option Nat
deriving DecidableEq

/-- How many bytes the character takes that this byte starts; 0 if it starts none. -/
def width (a : UInt8) : Nat :=
  if a < 0x80 then 1
  else if a < 0xC2 then 0
  else if a < 0xE0 then 2
  else if a < 0xF0 then 3
  else if a < 0xF5 then 4
  else 0

def isTail (b : UInt8) : Bool := 0x80 ≤ b && b ≤ 0xBF

/-- A second byte `b` after the first byte `a`.  The narrower ranges keep out
overlong forms, surrogates and code points past the last plane. -/
def isSecond (a b : UInt8) : Bool :=
  if a = 0xE0 then 0xA0 ≤ b && b ≤ 0xBF
  else if a = 0xED then 0x80 ≤ b && b ≤ 0x9F
  else if a = 0xF0 then 0x90 ≤ b && b ≤ 0xBF
  else if a = 0xF4 then 0x80 ≤ b && b ≤ 0x8F
  else isTail b

/-- The character of a two-byte form. -/
def char2 (a b : UInt8) : Char :=
  Char.ofNat ((a.toNat - 0xC0) * 0x40 + (b.toNat - 0x80))

/-- The character of a three-byte form. -/
def char3 (a b c : UInt8) : Char :=
  Char.ofNat ((a.toNat - 0xE0) * 0x1000 + (b.toNat - 0x80) * 0x40 + (c.toNat - 0x80))

/-- The character of a four-byte form. -/
def char4 (a b c d : UInt8) : Char :=
  Char.ofNat ((a.toNat - 0xF0) * 0x40000 + (b.toNat - 0x80) * 0x1000
    + (c.toNat - 0x80) * 0x40 + (d.toNat - 0x80))

/-- Reads bytes that start at `index` of a longer text. -/
def decodeAt (index : Nat) : List UInt8 → Except Fault (List Char)
  | [] => .ok []
  | a :: r₁ =>
    match width a with
    | 0 => .error ⟨index, some 1⟩
    | 1 => (decodeAt (index + 1) r₁).map (Char.ofNat a.toNat :: ·)
    | 2 =>
      match r₁ with
      | [] => .error ⟨index, none⟩
      | b :: r₂ =>
        if isSecond a b then (decodeAt (index + 2) r₂).map (char2 a b :: ·)
        else .error ⟨index, some 1⟩
    | 3 =>
      match r₁ with
      | [] => .error ⟨index, none⟩
      | b :: r₂ =>
        if isSecond a b then
          match r₂ with
          | [] => .error ⟨index, none⟩
          | c :: r₃ =>
            if isTail c then (decodeAt (index + 3) r₃).map (char3 a b c :: ·)
            else .error ⟨index, some 2⟩
        else .error ⟨index, some 1⟩
    | _ =>
      match r₁ with
      | [] => .error ⟨index, none⟩
      | b :: r₂ =>
        if isSecond a b then
          match r₂ with
          | [] => .error ⟨index, none⟩
          | c :: r₃ =>
            if isTail c then
              match r₃ with
              | [] => .error ⟨index, none⟩
              | d :: r₄ =>
                if isTail d then (decodeAt (index + 4) r₄).map (char4 a b c d :: ·)
                else .error ⟨index, some 3⟩
            else .error ⟨index, some 2⟩
        else .error ⟨index, some 1⟩

def decode (bs : List UInt8) : Except Fault (List Char) := decodeAt 0 bs

def text? (bs : List UInt8) : Option String :=
  match decode bs with
  | .ok cs => some (String.ofList cs)
  | .error _ => none

def Fault.message : Fault → String
  | ⟨index, some n⟩ => s!"invalid utf-8 sequence of {n} bytes from index {index}"
  | ⟨index, none⟩ => s!"incomplete utf-8 byte sequence from index {index}"

/-! ## Small facts -/

@[simp] theorem encode_nil : encode [] = [] := rfl

@[simp] theorem encode_cons (c : Char) (cs : List Char) :
    encode (c :: cs) = encodeChar c ++ encode cs := rfl

@[simp] theorem encode_append (cs ds : List Char) :
    encode (cs ++ ds) = encode cs ++ encode ds := by
  simp [encode]

end ShaderBundle.Text.Utf8
