import SelfCheck.Json.Basic

/-!
# Writing JSON

Messages are written without blanks. A string escapes quotes, backslashes and control characters,
the usual ones by a letter, and nothing else.

## Main definitions

* `Json.Printer.escape` — one character inside a string literal
* `Json.Printer.quote` — a text as a string literal
* `Json.Printer.object` — written members between braces
-/

namespace SelfCheck.Json.Printer

/-- A hexadecimal digit in lower case. -/
def hexDigit (n : Nat) : Char := Nat.digitChar n

/-- One character inside a string literal. -/
def escape (c : Char) : List Char :=
  if c = '"' then ['\\', '"']
  else if c = '\\' then ['\\', '\\']
  else if c = '\x08' then ['\\', 'b']
  else if c = '\x0c' then ['\\', 'f']
  else if c = '\n' then ['\\', 'n']
  else if c = '\r' then ['\\', 'r']
  else if c = '\t' then ['\\', 't']
  else if c.toNat < 0x20 then
    ['\\', 'u', '0', '0', hexDigit (c.toNat / 16), hexDigit (c.toNat % 16)]
  else [c]

/-- A text as a string literal. -/
def quote (s : String) : List Char := '"' :: s.toList.flatMap escape ++ ['"']

/-- A truth value. -/
def bool (b : Bool) : List Char := if b then "true".toList else "false".toList

/-- Written members, after the first, each behind a comma. -/
def members : List (String × List Char) → List Char
  | [] => []
  | (name, value) :: rest => ',' :: quote name ++ ':' :: value ++ members rest

/-- An object of written members. -/
def object : List (String × List Char) → List Char
  | [] => ['{', '}']
  | (name, value) :: rest => '{' :: quote name ++ ':' :: value ++ members rest ++ ['}']

end SelfCheck.Json.Printer
