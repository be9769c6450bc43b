/-
# Json.Tree — JSON text as a tree, and how values are read from it

`Tree.read` builds the tree of a text that follows the grammar of JSON.  A tree is
not yet a value: readers of fields, words and texts ask it for what they need, and
a field nobody asks for is only held to the grammar.

* A record of known fields is read from an object, where unknown fields are passed
  over and a known field given twice is an error, or from a list that holds the
  fields in order and may stop early.
* `storable` is the stricter rule for parts that are kept before it is known who
  asks for them: every text and key in them must be readable, every number must
  round to a finite double, and lists and records must not nest too deep.
-/
import ShaderBundle.Json.Token
import ShaderBundle.Json.Value

namespace ShaderBundle.Json

set_option autoImplicit false

/-- JSON text by its grammar. -/
inductive Tree where
  | null
  | bool (b : Bool)
  | number (n : Numeral)
  | text (s : Option String)
  | list (items : List Tree)
  | record (fields : List (Option String × Tree))
deriving Inhabited

/-! ## Grammar -/

mutual

/-- The tree at the front of lexemes; fuel bounds the depth of the search. -/
def Tree.ofTokens : Nat → List Token → Option (Tree × List Token)
  | 0, _ => none
  | fuel + 1, ts =>
    match ts with
    | .null :: r => some (.null, r)
    | .bool b :: r => some (.bool b, r)
    | .number n :: r => some (.number n, r)
    | .text s :: r => some (.text s, r)
    | .openList :: .closeList :: r => some (.list [], r)
    | .openList :: r => (itemsOfTokens fuel r).map fun p => (.list p.1, p.2)
    | .openRecord :: .closeRecord :: r => some (.record [], r)
    | .openRecord :: r => (fieldsOfTokens fuel r).map fun p => (.record p.1, p.2)
    | _ => none

def itemsOfTokens : Nat → List Token → Option (List Tree × List Token)
  | 0, _ => none
  | fuel + 1, ts =>
    match Tree.ofTokens fuel ts with
    | some (t, .comma :: r) => (itemsOfTokens fuel r).map fun p => (t :: p.1, p.2)
    | some (t, .closeList :: r) => some ([t], r)
    | _ => none

def fieldsOfTokens : Nat → List Token → Option (List (Option String × Tree) × List Token)
  | 0, _ => none
  | fuel + 1, ts =>
    match ts with
    | .text k :: .colon :: r =>
      match Tree.ofTokens fuel r with
      | some (t, .comma :: r) => (fieldsOfTokens fuel r).map fun p => ((k, t) :: p.1, p.2)
      | some (t, .closeRecord :: r) => some ([(k, t)], r)
      | _ => none
    | _ => none

end

/-- The tree of a text: nothing but white space may stand around it. -/
def Tree.read (bs : List UInt8) : Option Tree := do
  let ts ← Token.scan bs
  match Tree.ofTokens (2 * ts.length + 1) ts with
  | some (t, []) => some t
  | _ => none

/-! ## Readers -/

namespace Tree

def text? : Tree → Option String
  | .text s => s
  | _ => none

/-- A natural number below a bound. -/
def natBelow? (bound : Nat) : Tree → Option Nat
  | .number (.nat n) => if n < bound then some n else none
  | _ => none

def index? : Tree → Option Nat := natBelow? UInt64.size

def word16? (t : Tree) : Option UInt16 := (t.natBelow? UInt16.size).map UInt16.ofNat

def word32? (t : Tree) : Option UInt32 := (t.natBelow? UInt32.size).map UInt32.ofNat

def bool? : Tree → Option Bool
  | .bool b => some b
  | _ => none

def list? {α : Type} (f : Tree → Option α) : Tree → Option (List α)
  | .list ts => ts.mapM f
  | _ => none

/-- `null`, or what `f` reads. -/
def orNull? {α : Type} (f : Tree → Option α) : Tree → Option (Option α)
  | .null => some none
  | t => (f t).map some

/-- A name out of a fixed choice: a text, or a record with that one key and `null`. -/
def choice? : Tree → Option String
  | .text s => s
  | .record [(k, .null)] => k
  | _ => none

/-- Like `choice?`; an empty record may stand for the `null`. -/
def storedChoice? : Tree → Option String
  | .record [(k, .record [])] => k
  | t => t.choice?

/-- Whether every key of some fields can be read. -/
def keysReadable (fields : List (Option String × Tree)) : Bool :=
  fields.all fun f => f.1.isSome

/-- The value of one known field: at most one field may have its name. -/
def known? (fields : List (Option String × Tree)) (name : String) : Option (Option Tree) :=
  match fields.filter fun f => f.1 = some name with
  | [] => some none
  | [f] => some (some f.2)
  | _ => none

/-- The known fields of an object, in the order of their names. -/
def objectFields? (names : List String) : Tree → Option (List (Option Tree))
  | .record fields => if keysReadable fields then names.mapM (known? fields) else none
  | _ => none

/-- The known fields of an object or of a list of them. -/
def fields? (names : List String) : Tree → Option (List (Option Tree))
  | .list ts =>
    if ts.length ≤ names.length then
      some (ts.map some ++ List.replicate (names.length - ts.length) none)
    else none
  | t => t.objectFields? names

def need {α : Type} (f : Tree → Option α) : Option Tree → Option α
  | some t => f t
  | none => none

/-- A field that has a value also when it is absent. -/
def orElse {α : Type} (absent : α) (f : Tree → Option α) : Option Tree → Option α
  | some t => f t
  | none => some absent

end Tree

/-! ## Parts kept for later -/

/-- A natural number rounded to 53 significant bits, a tie to the even neighbour. -/
def toDouble (n : Nat) : Nat :=
  if n < Nat.pow 2 53 then n
  else
    let unit := Nat.pow 2 (n.log2 - 52)
    let down := n / unit
    let excess := 2 * (n % unit)
    if excess < unit || (excess = unit && down % 2 = 0) then down * unit else (down + 1) * unit

/-- Half a unit above the greatest double: what reaches it rounds to infinity. -/
def doubleLimit : Nat := Nat.pow 2 1024 - Nat.pow 2 970

/-- Drops digits from the end of a number until it fits 64 bits; also tells how many. -/
def leading : Nat → Nat → Nat × Nat
  | 0, n => (n, 0)
  | fuel + 1, n =>
    if n < UInt64.size then (n, 0)
    else
      let r := leading fuel (n / 10)
      (r.1, r.2 + 1)

/-- Whether `digits · 10^scale` is a finite double.  It is taken as a product of two
doubles: its leading digits, as many as fit 64 bits, and the power of ten. -/
def roundsFinite (digits : Nat) (scale : Int) : Bool :=
  let (head, dropped) := leading (digits.log2 + 1) digits
  let power := scale + dropped
  if head = 0 || power < 0 then true
  else if 308 < power then false
  else toDouble head * toDouble (Nat.pow 10 power.toNat) < doubleLimit

/-- Whether a number rounds to a finite double. -/
def Numeral.finite : Numeral → Bool
  | .nat n => roundsFinite n 0
  | .decimal digits scale => roundsFinite digits scale

mutual

/-- Whether a part may be kept for later, with `room` more levels of nesting. -/
def Tree.storable (room : Nat) : Tree → Bool
  | .null => true
  | .bool _ => true
  | .number n => n.finite
  | .text s => s.isSome
  | .list ts =>
    match room with
    | 0 => false
    | room + 1 => itemsStorable room ts
  | .record fs =>
    match room with
    | 0 => false
    | room + 1 => fieldsStorable room fs

/-- Whether all items may be kept for later. -/
def itemsStorable (room : Nat) : List Tree → Bool
  | [] => true
  | t :: ts => t.storable room && itemsStorable room ts

/-- Whether all fields may be kept for later. -/
def fieldsStorable (room : Nat) : List (Option String × Tree) → Bool
  | [] => true
  | (k, t) :: fs => k.isSome && t.storable room && fieldsStorable room fs

end

/-! ## Values as trees -/

mutual

def Value.tree : Value → Tree
  | .null => .null
  | .bool b => .bool b
  | .nat n => .number (.nat n)
  | .text s => .text (some s)
  | .list vs => .list (itemTrees vs)
  | .record fs => .record (fieldTrees fs)

def itemTrees : List Value → List Tree
  | [] => []
  | v :: vs => v.tree :: itemTrees vs

def fieldTrees : List (String × Value) → List (Option String × Tree)
  | [] => []
  | (k, v) :: fs => (some k, v.tree) :: fieldTrees fs

end

end ShaderBundle.Json
