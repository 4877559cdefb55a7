import SelfCheck.Text.Combining
import SelfCheck.Text.Invisible

/-!
# Quoted text

An error message shows the text that it complains about between double quotes. Quotes,
backslashes and the usual controls are escaped with a backslash, and every other character that
would not be seen is written by its code point.

## Main definitions

* `Text.Quoted.char` — one character as it stands inside the quotes
* `Text.Quoted.render` — a text between its quotes
-/

namespace SelfCheck.Text.Quoted

/-- A number in lower-case hexadecimal, without leading zeros. -/
def hex (n : Nat) : List Char := Nat.toDigits 16 n

/-- A character written by its code point. -/
def codePoint (c : Char) : List Char := ['\\', 'u', '{'] ++ hex c.toNat ++ ['}']

/-- One character as it stands inside the quotes. -/
def char (c : Char) : List Char :=
  if c = '\x00' then ['\\', '0']
  else if c = '\t' then ['\\', 't']
  else if c = '\r' then ['\\', 'r']
  else if c = '\n' then ['\\', 'n']
  else if c = '\\' then ['\\', '\\']
  else if c = '"' then ['\\', '"']
  else if combining.contains c || invisible.contains c then codePoint c
  else [c]

/-- A text between its quotes. -/
def render (s : String) : String := String.ofList ('"' :: s.toList.flatMap char ++ ['"'])

end SelfCheck.Text.Quoted
