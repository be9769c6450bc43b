/-
# Text.LowerCase — the lower case of a text

Every character is mapped on its own, by ASCII rules below code point 128 and by
`lowerRuns` above, with two exceptions: capital I with a dot becomes an i and a
combining dot, and capital sigma becomes the final form of the small letter when
it ends a word.  A sigma ends a word when, passing over ignorable characters, a
letter with case stands before it and none stands after it.
-/
import ShaderBundle.Text.Blank
import ShaderBundle.Text.LowerCaseTable

namespace ShaderBundle.Text

set_option autoImplicit false

/-- The image of a code point under the runs of a mapping; itself outside them. -/
def mapRuns : List (Nat × Nat × Nat × Nat) → Nat → Nat
  | [], n => n
  | (first, last, step, image) :: rest, n =>
    if first ≤ n && n ≤ last && (n - first) % step = 0 then image + (n - first)
    else mapRuns rest n

/-- The lower case of one character, taken by itself. -/
def lowerChar (c : Char) : List Char :=
  let n := c.toNat
  if n < 0x80 then
    if 0x41 ≤ n && n ≤ 0x5A then [Char.ofNat (n + 0x20)] else [c]
  else if n = 0x130 then ['i', Char.ofNat 0x307]
  else [Char.ofNat (mapRuns lowerRuns n)]

/-- Passing over ignorable characters, whether the next one is a letter with case. -/
def metByCased (cs : List Char) : Bool :=
  match cs.dropWhile fun c => inRanges ignorableRanges c.toNat with
  | [] => false
  | c :: _ => inRanges casedRanges c.toNat

/-- The lower case of a text of which `before`, nearest first, was already passed. -/
def lowerFrom (before : List Char) : List Char → List Char
  | [] => []
  | c :: cs =>
    let image :=
      if c.toNat = 0x3A3 then
        if metByCased before && !metByCased cs then [Char.ofNat 0x3C2] else [Char.ofNat 0x3C3]
      else lowerChar c
    image ++ lowerFrom (c :: before) cs

def lower (cs : List Char) : List Char := lowerFrom [] cs

end ShaderBundle.Text
