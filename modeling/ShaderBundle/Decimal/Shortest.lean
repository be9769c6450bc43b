/-
# Decimal.Shortest — the fewest digits that read back

A finite binary number is `mantissa · 2^exponent`.  The reals that round to it form
an interval around it, with its ends included when the mantissa is even; below a
power of two the lower neighbour is only half as far.  `shortest` finds the
coarsest decimal grid `10^k` with a point in that interval and takes the point of
it nearest to the number, the upper one if two are equally near.  All comparisons
are between natural numbers.

`FloatFormat.text` writes a bit pattern in plain positional decimals, never with an
exponent, and names what is not a number.
-/
namespace ShaderBundle.Decimal

set_option autoImplicit false

/-! ## The grid -/

/-- A positive number `mantissa · 2^exponent`; `closeBelow` tells that its lower
neighbour is half as far as its upper one. -/
structure Binary where
  mantissa : Nat
  exponent : Int
  closeBelow : Bool
deriving DecidableEq

/-- The factor on `d` in the comparison of `d · 10^k` with `x · 2^e`. -/
def gridFactor (k e : Int) : Nat := Nat.pow 10 k.toNat * Nat.pow 2 (-e).toNat

/-- The factor on `x` in the comparison of `d · 10^k` with `x · 2^e`. -/
def valueFactor (k e : Int) : Nat := Nat.pow 10 (-k).toNat * Nat.pow 2 e.toNat

/-- Four times the mantissa, less the distance to the lower end of the interval. -/
def Binary.low (b : Binary) : Nat := 4 * b.mantissa - if b.closeBelow then 1 else 2

/-- Four times the mantissa, plus the distance to the upper end of the interval. -/
def Binary.high (b : Binary) : Nat := 4 * b.mantissa + 2

/-- Whether `d · 10^k` reads back as the number. -/
def Binary.holds (b : Binary) (d : Nat) (k : Int) : Bool :=
  let e := b.exponent - 2
  let point := d * gridFactor k e
  let low := b.low * valueFactor k e
  let high := b.high * valueFactor k e
  if b.mantissa % 2 = 0 then low ≤ point && point ≤ high else low < point && point < high

/-- The point of the grid `10^k` that stands for the number, if the grid has one. -/
def Binary.onGrid (b : Binary) (k : Int) : Option Nat :=
  let e := b.exponent - 2
  let value := 4 * b.mantissa * valueFactor k e
  let down := value / gridFactor k e
  let up := down + 1
  match b.holds down k, b.holds up k with
  | false, false => none
  | true, false => some down
  | false, true => some up
  | true, true =>
    if value - down * gridFactor k e < up * gridFactor k e - value then some down else some up

/-- Looks for the coarsest grid from `10^k` down. -/
def Binary.search (b : Binary) : Nat → Int → Nat × Int
  | 0, k => (0, k)
  | fuel + 1, k =>
    match b.onGrid k with
    | some d => (d, k)
    | none => b.search fuel (k - 1)

/-- The shortest decimal `d · 10^k` of a number.  No double reaches `10^310`, and
every double has a point on the grid `10^(-345)`. -/
def Binary.shortest (b : Binary) : Nat × Int := b.search 656 310

/-! ## Positional text -/

def digits (n : Nat) : List Char := Nat.toDigits 10 n

/-- `d · 10^k` without exponent. -/
def positional (d : Nat) (k : Int) : List Char :=
  let ds := digits d
  if 0 ≤ k then ds ++ List.replicate k.toNat '0'
  else
    let places := (-k).toNat
    let padded := List.replicate (places + 1 - ds.length) '0' ++ ds
    padded.take (padded.length - places) ++ '.' :: padded.drop (padded.length - places)

/-! ## Bit patterns -/

/-- A binary interchange format. -/
structure FloatFormat where
  fractionBits : Nat
  exponentBits : Nat

/-- The format of 32 bits. -/
def single : FloatFormat := ⟨23, 8⟩

/-- The format of 64 bits. -/
def double : FloatFormat := ⟨52, 11⟩

namespace FloatFormat

variable (f : FloatFormat)

def fraction (bits : Nat) : Nat := bits % Nat.pow 2 f.fractionBits

def exponentField (bits : Nat) : Nat := bits / Nat.pow 2 f.fractionBits % Nat.pow 2 f.exponentBits

def negative (bits : Nat) : Bool := bits / Nat.pow 2 (f.fractionBits + f.exponentBits) % 2 = 1

/-- The size of the number of a bit pattern whose exponent field is not full. -/
def magnitude (bits : Nat) : Binary :=
  let bias : Int := Nat.pow 2 (f.exponentBits - 1) - 1
  let e := f.exponentField bits
  if e = 0 then ⟨f.fraction bits, 1 - bias - f.fractionBits, false⟩
  else ⟨Nat.pow 2 f.fractionBits + f.fraction bits, e - bias - f.fractionBits,
    f.fraction bits = 0 && 1 < e⟩

def text (bits : Nat) : String :=
  if f.exponentField bits = Nat.pow 2 f.exponentBits - 1 then
    if f.fraction bits ≠ 0 then "NaN"
    else if f.negative bits then "-inf" else "inf"
  else
    let m := f.magnitude bits
    let size := if m.mantissa = 0 then ['0'] else positional m.shortest.1 m.shortest.2
    String.ofList (if f.negative bits then '-' :: size else size)

end FloatFormat

end ShaderBundle.Decimal
