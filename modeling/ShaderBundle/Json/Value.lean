/-
# Json.Value — JSON values and their text

The values this library writes: numbers are natural numbers, and a record keeps its
fields in order.  `pretty` puts every element and every field on a line of its own,
two spaces deeper than what holds it, and leaves empty lists and records on one
line; `compact` writes no white space at all.

Inside quotes only the quote, the backslash and the control characters below code
point 32 are escaped, by their short escapes where there are any.
-/
import ShaderBundle.Text.Quoted

namespace ShaderBundle.Json

set_option autoImplicit false

inductive Value where
  | null
  | bool (b : Bool)
  | nat (n : Nat)
  | text (s : String)
  | list (items : List Value)
  | record (fields : List (String × Value))
deriving Inhabited

/-! ## Text in quotes -/

/-- A character as it stands inside quotes. -/
def escapeChar (c : Char) : List Char :=
  if c = '"' then ['\\', '"']
  else if c = '\\' then ['\\', '\\']
  else if c = '\x08' then ['\\', 'b']
  else if c = '\x0c' then ['\\', 'f']
  else if c = '\n' then ['\\', 'n']
  else if c = '\r' then ['\\', 'r']
  else if c = '\t' then ['\\', 't']
  else if c.toNat < 0x20 then
    ['\\', 'u', '0', '0', Text.hexDigit (c.toNat / 16), Text.hexDigit (c.toNat % 16)]
  else [c]

def quote (s : String) : List Char := '"' :: (s.toList.flatMap escapeChar ++ ['"'])

/-! ## Layout -/

def newLine (depth : Nat) : List Char := '\n' :: List.replicate (2 * depth) ' '

mutual

/-- The text of a value that stands at a depth of nesting. -/
def Value.prettyAt (depth : Nat) : Value → List Char
  | .null => ['n', 'u', 'l', 'l']
  | .bool true => ['t', 'r', 'u', 'e']
  | .bool false => ['f', 'a', 'l', 's', 'e']
  | .nat n => Nat.toDigits 10 n
  | .text s => quote s
  | .list [] => ['[', ']']
  | .list (v :: vs) =>
    '[' :: newLine (depth + 1) ++ v.prettyAt (depth + 1)
      ++ prettyItems (depth + 1) vs ++ newLine depth ++ [']']
  | .record [] => ['\x7b', '\x7d']
  | .record ((k, v) :: fs) =>
    '\x7b' :: newLine (depth + 1) ++ quote k ++ [':', ' '] ++ v.prettyAt (depth + 1)
      ++ prettyFields (depth + 1) fs ++ newLine depth ++ ['\x7d']

def prettyItems (depth : Nat) : List Value → List Char
  | [] => []
  | v :: vs => ',' :: newLine depth ++ v.prettyAt depth ++ prettyItems depth vs

/-- The fields of a record after its first. -/
def prettyFields (depth : Nat) : List (String × Value) → List Char
  | [] => []
  | (k, v) :: fs =>
    ',' :: newLine depth ++ quote k ++ [':', ' '] ++ v.prettyAt depth ++ prettyFields depth fs

end

/-- The text of a value over several lines. -/
def Value.pretty (v : Value) : String := String.ofList (v.prettyAt 0)

mutual

def Value.compactChars : Value → List Char
  | .null => ['n', 'u', 'l', 'l']
  | .bool true => ['t', 'r', 'u', 'e']
  | .bool false => ['f', 'a', 'l', 's', 'e']
  | .nat n => Nat.toDigits 10 n
  | .text s => quote s
  | .list [] => ['[', ']']
  | .list (v :: vs) => '[' :: v.compactChars ++ compactItems vs ++ [']']
  | .record [] => ['\x7b', '\x7d']
  | .record ((k, v) :: fs) =>
    '\x7b' :: quote k ++ ':' :: v.compactChars ++ compactFields fs ++ ['\x7d']

def compactItems : List Value → List Char
  | [] => []
  | v :: vs => ',' :: v.compactChars ++ compactItems vs

/-- The fields of a record after its first. -/
def compactFields : List (String × Value) → List Char
  | [] => []
  | (k, v) :: fs => ',' :: quote k ++ ':' :: v.compactChars ++ compactFields fs

end

def Value.compact (v : Value) : String := String.ofList v.compactChars

def ofOption {α : Type} (f : α → Value) : Option α → Value
  | some a => f a
  | none => .null

end ShaderBundle.Json
