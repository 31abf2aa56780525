import ReefCards.Text.Basic
import ReefCards.Text.Quoted.Table

/-!
# Quoted texts

A text between double quotes, with what would not show by itself spelled out: the usual short
escapes, and `\u{…}` with the hexadecimal number for every other character that is unprintable or
clings to its neighbour.
-/

namespace ReefCards.Text

/-- The hexadecimal digits of a number, in small letters. -/
def hexDigits (n : Nat) : Text := Nat.toDigits 16 n

/-- The form of one character within quotes. -/
def escapeChar (c : Char) : Text :=
  if c = '\x00' then ['\\', '0']
  else if c = '\t' then ['\\', 't']
  else if c = '\n' then ['\\', 'n']
  else if c = '\r' then ['\\', 'r']
  else if c = '\\' then ['\\', '\\']
  else if c = '"' then ['\\', '"']
  else if graphemeExtenders.contains c || unprintables.contains c then
    ['\\', 'u', '{'] ++ hexDigits c.toNat ++ ['}']
  else [c]

/-- The text between double quotes, with every character in its escaped form. -/
def quoted (text : Text) : Text := '"' :: text.flatMap escapeChar ++ ['"']

end ReefCards.Text
