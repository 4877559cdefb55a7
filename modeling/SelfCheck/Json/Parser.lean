import SelfCheck.Json.Basic

/-!
# Reading JSON

The syntax of JSON over bytes. Blanks may stand around every value and mark; a string literal holds
no raw control character; nesting has no limit.

## Main definitions

* `Json.Piece`, `Json.literal?` — a string literal, cut into plain bytes and escaped code units
* `Json.assemble?` — the bytes that the pieces of a literal spell
* `Json.number?` — the bytes after a number
* `Json.value?` — a value and the bytes after it
* `Json.parse?` — the value of a whole text
-/

namespace SelfCheck.Json

/-- A blank of JSON: space, tab, line feed or carriage return. -/
def isSpace (b : UInt8) : Bool := b = 0x20 || b = 0x09 || b = 0x0A || b = 0x0D

/-- The bytes from the first that is not a blank. -/
def skipSpace (bs : Bytes) : Bytes := bs.dropWhile isSpace

/-- A decimal digit. -/
def isDigit (b : UInt8) : Bool := 0x30 ≤ b && b ≤ 0x39

/-! ### String literals -/

/-- A piece of a string literal: a byte that stands for itself, or a code unit of UTF-16 that was
written by its number. -/
inductive Piece where
  | plain (b : UInt8)
  | unit (u : Nat)
deriving DecidableEq, Repr

/-- The value of a hexadecimal digit. -/
def hexDigit? (b : UInt8) : Option Nat :=
  if isDigit b then some (b.toNat - 0x30)
  else if 0x61 ≤ b && b ≤ 0x66 then some (b.toNat - 0x61 + 10)
  else if 0x41 ≤ b && b ≤ 0x46 then some (b.toNat - 0x41 + 10)
  else none

/-- The code unit written with four hexadecimal digits. -/
def unit? (a b c d : UInt8) : Option Nat := do
  let a ← hexDigit? a
  let b ← hexDigit? b
  let c ← hexDigit? c
  let d ← hexDigit? d
  return ((a * 16 + b) * 16 + c) * 16 + d

/-- The byte that a one-letter escape stands for. -/
def escaped? (b : UInt8) : Option UInt8 :=
  if b = '"'.toUInt8 || b = '\\'.toUInt8 || b = '/'.toUInt8 then some b
  else if b = 'b'.toUInt8 then some 0x08
  else if b = 'f'.toUInt8 then some 0x0C
  else if b = 'n'.toUInt8 then some 0x0A
  else if b = 'r'.toUInt8 then some 0x0D
  else if b = 't'.toUInt8 then some 0x09
  else none

/-- The pieces of a string literal after its opening quote, behind those already `seen` (last
first), and the bytes after its closing quote. -/
def literal? (seen : List Piece) : Bytes → Option (List Piece × Bytes)
  | [] => none
  | b :: bs =>
    if b = '"'.toUInt8 then some (seen.reverse, bs)
    else if b = '\\'.toUInt8 then
      match bs with
      | [] => none
      | e :: bs =>
        if e = 'u'.toUInt8 then
          match bs with
          | h₁ :: h₂ :: h₃ :: h₄ :: bs =>
            match unit? h₁ h₂ h₃ h₄ with
            | some u => literal? (.unit u :: seen) bs
            | none => none
          | _ => none
        else match escaped? e with
          | some p => literal? (.plain p :: seen) bs
          | none => none
    else if b < 0x20 then none
    else literal? (.plain b :: seen) bs

/-- A code unit that opens a surrogate pair. -/
def opensPair (u : Nat) : Bool := 0xD800 ≤ u && u ≤ 0xDBFF

/-- A code unit that closes a surrogate pair. -/
def closesPair (u : Nat) : Bool := 0xDC00 ≤ u && u ≤ 0xDFFF

/-- The bytes that the pieces of a literal spell, behind those already `seen` (last first). Only a
paired surrogate spells anything. -/
def assemble? (seen : Bytes) : List Piece → Option Bytes
  | [] => some seen.reverse
  | .plain b :: ps => assemble? (b :: seen) ps
  | .unit u :: .unit v :: ps =>
    if opensPair u then
      if closesPair v then
        assemble? ((String.utf8EncodeChar
          (Char.ofNat (0x10000 + (u - 0xD800) * 0x400 + (v - 0xDC00)))).reverse ++ seen) ps
      else none
    else if closesPair u then none
    else assemble? ((String.utf8EncodeChar (Char.ofNat u)).reverse ++ seen) (.unit v :: ps)
  | .unit u :: ps =>
    if opensPair u || closesPair u then none
    else assemble? ((String.utf8EncodeChar (Char.ofNat u)).reverse ++ seen) ps

/-- The text of a string literal after its opening quote (`none` when its content is no Unicode
text), and the bytes after its closing quote. -/
def string? (bs : Bytes) : Option (Option String × Bytes) :=
  (literal? [] bs).map fun (pieces, rest) => ((assemble? [] pieces).bind Bytes.text?, rest)

/-! ### Numbers -/

/-- The bytes after a run of digits, which has at least one. -/
def digits? : Bytes → Option Bytes
  | [] => none
  | b :: bs => if isDigit b then some (bs.dropWhile isDigit) else none

/-- The bytes after a decimal fraction, if one begins here. -/
def fraction? : Bytes → Option Bytes
  | [] => some []
  | b :: bs => if b = '.'.toUInt8 then digits? bs else some (b :: bs)

/-- The bytes after a sign, if one begins here. -/
def skipSign : Bytes → Bytes
  | [] => []
  | b :: bs => if b = '+'.toUInt8 || b = '-'.toUInt8 then bs else b :: bs

/-- The bytes after an exponent, if one begins here. -/
def exponent? : Bytes → Option Bytes
  | [] => some []
  | b :: bs => if b = 'e'.toUInt8 || b = 'E'.toUInt8 then digits? (skipSign bs) else some (b :: bs)

/-- The bytes after a number whose sign has been read: no zero leads other digits. -/
def magnitude? : Bytes → Option Bytes
  | [] => none
  | b :: bs =>
    if b = '0'.toUInt8 then fraction? bs >>= exponent?
    else if isDigit b then fraction? (bs.dropWhile isDigit) >>= exponent?
    else none

/-- The bytes after a number. -/
def number? : Bytes → Option Bytes
  | [] => none
  | b :: bs => if b = '-'.toUInt8 then magnitude? bs else magnitude? (b :: bs)

/-! ### Values -/

/-- The bytes after a given word. -/
def word? (word : String) (bs : Bytes) : Option Bytes :=
  let w := Bytes.ofText word
  if w.isPrefixOf bs then some (bs.drop w.length) else none

mutual

/-- A value and the bytes after it, nested no deeper than `fuel` allows. -/
def value? : Nat → Bytes → Option (Json × Bytes)
  | 0, _ => none
  | fuel + 1, bs =>
    match skipSpace bs with
    | [] => none
    | b :: rest =>
      if b = '"'.toUInt8 then (string? rest).map fun (text, rest) => (string text, rest)
      else if b = '['.toUInt8 then
        match skipSpace rest with
        | [] => none
        | c :: rest' =>
          if c = ']'.toUInt8 then some (array [], rest')
          else (elements? fuel (c :: rest')).map fun (elements, rest) => (array elements, rest)
      else if b = '{'.toUInt8 then
        match skipSpace rest with
        | [] => none
        | c :: rest' =>
          if c = '}'.toUInt8 then some (object [], rest')
          else (members? fuel (c :: rest')).map fun (members, rest) => (object members, rest)
      else if b = 'n'.toUInt8 then (word? "null" (b :: rest)).map fun rest => (null, rest)
      else if b = 't'.toUInt8 then (word? "true" (b :: rest)).map fun rest => (bool true, rest)
      else if b = 'f'.toUInt8 then (word? "false" (b :: rest)).map fun rest => (bool false, rest)
      else (number? (b :: rest)).map fun rest => (number, rest)

/-- The elements of an array that is not empty, to its closing bracket, and the bytes after it. -/
def elements? : Nat → Bytes → Option (List Json × Bytes)
  | 0, _ => none
  | fuel + 1, bs =>
    match value? fuel bs with
    | none => none
    | some (element, rest) =>
      match skipSpace rest with
      | [] => none
      | c :: rest =>
        if c = ']'.toUInt8 then some ([element], rest)
        else if c = ','.toUInt8 then
          (elements? fuel rest).map fun (elements, rest) => (element :: elements, rest)
        else none

/-- The members of an object that is not empty, to its closing brace, and the bytes after it. -/
def members? : Nat → Bytes → Option (List (Option String × Json) × Bytes)
  | 0, _ => none
  | fuel + 1, bs =>
    match skipSpace bs with
    | [] => none
    | b :: rest =>
      if b = '"'.toUInt8 then
        match string? rest with
        | none => none
        | some (name, rest) =>
          match skipSpace rest with
          | [] => none
          | c :: rest =>
            if c = ':'.toUInt8 then
              match value? fuel rest with
              | none => none
              | some (value, rest) =>
                match skipSpace rest with
                | [] => none
                | d :: rest =>
                  if d = '}'.toUInt8 then some ([(name, value)], rest)
                  else if d = ','.toUInt8 then
                    (members? fuel rest).map fun (members, rest) =>
                      ((name, value) :: members, rest)
                  else none
            else none
      else none

end

/-- The value of a whole text, blanks around it allowed. Every value, element and member takes at
least one byte, so twice the length is fuel enough. -/
def parse? (bs : Bytes) : Option Json :=
  match value? (2 * bs.length + 2) bs with
  | some (j, rest) => if (skipSpace rest).isEmpty then some j else none
  | none => none

end SelfCheck.Json
