/-
# Text.Quoted — text in double quotes

A quoted text shows every character that has a shape of its own.  The quote, the
backslash, NUL, tab, line feed and carriage return are written as a backslash and
one sign; all else that is hidden is written `\\u{…}` with its code point in
hexadecimal.
-/
import ShaderBundle.Text.Blank
import ShaderBundle.Text.QuotedTable

namespace ShaderBundle.Text

set_option autoImplicit false

/-- The hexadecimal digit of a number below sixteen. -/
def hexDigit (n : Nat) : Char :=
  if n < 10 then Char.ofNat (0x30 + n) else Char.ofNat (0x61 + (n - 10))

/-- A number in hexadecimal, without leading zeros. -/
def hexDigits (n : Nat) : List Char := Nat.toDigits 16 n

/-- One character as it stands between quotes. -/
def quoteChar (c : Char) : List Char :=
  if c = '\x00' then ['\\', '0']
  else if c = '\t' then ['\\', 't']
  else if c = '\n' then ['\\', 'n']
  else if c = '\r' then ['\\', 'r']
  else if c = '"' then ['\\', '"']
  else if c = '\\' then ['\\', '\\']
  else if inRanges hiddenRanges c.toNat then
    ['\\', 'u', '\x7b'] ++ hexDigits c.toNat ++ ['\x7d']
  else [c]

def quoted (s : String) : String :=
  String.ofList ('"' :: s.toList.flatMap quoteChar ++ ['"'])

end ShaderBundle.Text
