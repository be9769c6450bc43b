/-
# Json.Token — the lexemes of JSON text

`Token.scan` cuts bytes into lexemes and drops the white space between them.

* A number keeps what later readers ask for: a plain natural number as it is, any
  other spelling — a sign, a fraction, an exponent — as digits and a scale.
* A text that cannot be read is kept as `none`: one with an escape for half of a
  surrogate pair, or with bytes that are not UTF-8.  To read such a text is an
  error; to pass over it is not.  Malformed escapes and raw control characters are
  errors either way.
-/
import ShaderBundle.Text.Utf8

namespace ShaderBundle.Json

set_option autoImplicit false

inductive Numeral where
  /-- Digits only. -/
  | nat (n : Nat)
  /-- Anything else, `digits · 10^scale` up to its sign. -/
  | decimal (digits : Nat) (scale : Int)
deriving DecidableEq

inductive Token where
  | openList
  | closeList
  | openRecord
  | closeRecord
  | comma
  | colon
  | null
  | bool (b : Bool)
  | number (n : Numeral)
  | text (s : Option String)
deriving DecidableEq

/-! ## Text -/

/-- What a short escape stands for. -/
def shortEscape (e : UInt8) : Option UInt8 :=
  if e = 0x22 || e = 0x5C || e = 0x2F then some e
  else if e = 0x62 then some 0x08
  else if e = 0x66 then some 0x0C
  else if e = 0x6E then some 0x0A
  else if e = 0x72 then some 0x0D
  else if e = 0x74 then some 0x09
  else none

def hexValue (b : UInt8) : Option Nat :=
  if 0x30 ≤ b && b ≤ 0x39 then some (b.toNat - 0x30)
  else if 0x41 ≤ b && b ≤ 0x46 then some (b.toNat - 0x37)
  else if 0x61 ≤ b && b ≤ 0x66 then some (b.toNat - 0x57)
  else none

/-- The value of four hexadecimal digits. -/
def hexUnit (a b c d : UInt8) : Option Nat := do
  return (((← hexValue a) * 16 + (← hexValue b)) * 16 + (← hexValue c)) * 16 + (← hexValue d)

/-- The contents of a text that was cut, with more bytes in front. -/
def pushBytes (bs : List UInt8) :
    Option (Option (List UInt8) × List UInt8) → Option (Option (List UInt8) × List UInt8) :=
  Option.map fun r => (r.1.map (bs ++ ·), r.2)

/-- The contents of a text that was cut, marked as unreadable. -/
def spoil :
    Option (Option (List UInt8) × List UInt8) → Option (Option (List UInt8) × List UInt8) :=
  Option.map fun r => (none, r.2)

/-- The first half of a surrogate pair must not stand alone. -/
def spoilAfter (lead : Option Nat)
    (r : Option (Option (List UInt8) × List UInt8)) : Option (Option (List UInt8) × List UInt8) :=
  if lead.isSome then spoil r else r

/-- The character of a surrogate pair. -/
def pairChar (lead trail : Nat) : Char :=
  Char.ofNat (0x10000 + (lead - 0xD800) * 0x400 + (trail - 0xDC00))

/-- Cuts a text after its opening quote: its bytes with escapes replaced, `none` for
them if an escape names no character, and the rest after the closing quote.  `lead`
is the first half of a surrogate pair if the escape just before was one. -/
def cutText (lead : Option Nat) : List UInt8 → Option (Option (List UInt8) × List UInt8)
  | [] => none
  | x :: r₁ =>
    if x = 0x22 then spoilAfter lead (some (some [], r₁))
    else if x = 0x5C then
      match r₁ with
      | [] => none
      | e :: r₂ =>
        if e = 0x75 then
          match r₂ with
          | a :: b :: c :: d :: r₃ =>
            match hexUnit a b c d with
            | none => none
            | some n =>
              if 0xD800 ≤ n && n < 0xDC00 then spoilAfter lead (cutText (some n) r₃)
              else if 0xDC00 ≤ n && n < 0xE000 then
                match lead with
                | some hi => pushBytes (Text.Utf8.encodeChar (pairChar hi n)) (cutText none r₃)
                | none => spoil (cutText none r₃)
              else
                spoilAfter lead
                  (pushBytes (Text.Utf8.encodeChar (Char.ofNat n)) (cutText none r₃))
          | _ => none
        else
          match shortEscape e with
          | none => none
          | some y => spoilAfter lead (pushBytes [y] (cutText none r₂))
    else if x < 0x20 then none
    else spoilAfter lead (pushBytes [x] (cutText none r₁))

/-! ## Numbers -/

def isDigit (b : UInt8) : Bool := 0x30 ≤ b && b ≤ 0x39

def ofDigits (ds : List UInt8) : Nat := ds.foldl (fun n d => n * 10 + (d.toNat - 0x30)) 0

/-- The whole part of a number: one zero, or digits that do not start with one. -/
def cutWhole (bs : List UInt8) : Option (List UInt8 × List UInt8) :=
  let ds := bs.takeWhile isDigit
  match ds with
  | [] => none
  | [_] => some (ds, bs.dropWhile isDigit)
  | d :: _ => if d = 0x30 then none else some (ds, bs.dropWhile isDigit)

def cutFraction : List UInt8 → Option (Option (List UInt8) × List UInt8)
  | 0x2E :: bs =>
    match bs.takeWhile isDigit with
    | [] => none
    | ds => some (some ds, bs.dropWhile isDigit)
  | bs => some (none, bs)

/-- The digits of an exponent after its sign. -/
def cutPower (negative : Bool) (bs : List UInt8) : Option (Option Int × List UInt8) :=
  match bs.takeWhile isDigit with
  | [] => none
  | ds =>
    let n : Int := ofDigits ds
    some (some (if negative then -n else n), bs.dropWhile isDigit)

def cutExponent : List UInt8 → Option (Option Int × List UInt8)
  | b :: bs =>
    if b = 0x65 || b = 0x45 then
      match bs with
      | 0x2B :: bs => cutPower false bs
      | 0x2D :: bs => cutPower true bs
      | bs => cutPower false bs
    else some (none, b :: bs)
  | [] => some (none, [])

def cutNumber (bs : List UInt8) : Option (Numeral × List UInt8) := do
  let (negative, bs) := match bs with
    | 0x2D :: bs => (true, bs)
    | bs => (false, bs)
  let (whole, bs) ← cutWhole bs
  let (fraction, bs) ← cutFraction bs
  let (power, bs) ← cutExponent bs
  match negative, fraction, power with
  | false, none, none => return (.nat (ofDigits whole), bs)
  | _, _, _ =>
    let ds := fraction.getD []
    return (.decimal (ofDigits (whole ++ ds)) (power.getD 0 - ds.length), bs)

/-! ## Lexemes -/

def isSpace (b : UInt8) : Bool := b = 0x20 || b = 0x0A || b = 0x0D || b = 0x09

/-- The lexeme at the front of bytes that start with no white space. -/
def Token.cut : List UInt8 → Option (Token × List UInt8)
  | 0x5B :: bs => some (.openList, bs)
  | 0x5D :: bs => some (.closeList, bs)
  | 0x7B :: bs => some (.openRecord, bs)
  | 0x7D :: bs => some (.closeRecord, bs)
  | 0x2C :: bs => some (.comma, bs)
  | 0x3A :: bs => some (.colon, bs)
  | 0x22 :: bs => (cutText none bs).map fun r => (.text (r.1.bind Text.Utf8.text?), r.2)
  | 0x6E :: 0x75 :: 0x6C :: 0x6C :: bs => some (.null, bs)
  | 0x74 :: 0x72 :: 0x75 :: 0x65 :: bs => some (.bool true, bs)
  | 0x66 :: 0x61 :: 0x6C :: 0x73 :: 0x65 :: bs => some (.bool false, bs)
  | bs => (cutNumber bs).map fun r => (.number r.1, r.2)

/-- The lexemes of bytes; every lexeme and every white space uses up fuel. -/
def Token.scanFrom : Nat → List UInt8 → Option (List Token)
  | _, [] => some []
  | 0, _ => none
  | fuel + 1, b :: bs =>
    if isSpace b then Token.scanFrom fuel bs
    else
      match Token.cut (b :: bs) with
      | none => none
      | some (t, rest) => (Token.scanFrom fuel rest).map (t :: ·)

def Token.scan (bs : List UInt8) : Option (List Token) := Token.scanFrom bs.length bs

end ShaderBundle.Json
