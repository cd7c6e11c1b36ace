import HotSchema.Text.Escaped
/-!
# Quoted text

A quoted text stands between double quotes and can be read on one line whatever it holds: a quote or a
backslash has a backslash before it, the common controls have a letter, and every other character that
would not show, or would merge with its neighbour, is written by its number in base sixteen.
-/

namespace HotSchema.Text

def hexDigits (n : Nat) : List Char := Nat.toDigits 16 n

def escape (c : Char) : List Char :=
  if c = '"' || c = '\\' then ['\\', c]
  else if c = '\x00' then ['\\', '0']
  else if c = '\t' then ['\\', 't']
  else if c = '\n' then ['\\', 'n']
  else if c = '\r' then ['\\', 'r']
  else if escaped.has c then ['\\', 'u', '{'] ++ hexDigits c.toNat ++ ['}']
  else [c]

def quoted (s : String) : String := String.ofList ('"' :: (s.toList.flatMap escape ++ ['"']))

end HotSchema.Text
