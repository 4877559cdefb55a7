/-!
# TOML strings

A string is written in one of four forms: between double quotes with escapes or between single
quotes as it is, and each on one line or, behind three quotes, on several. The writer takes the
first form that shows the text without escapes, and escapes it only if none does.

## Main definitions

* `Toml.basic?`, `Toml.literal?` — the one-line forms, after their opening quote
* `Toml.multiBasic?`, `Toml.multiLiteral?` — the forms of several lines
* `Toml.string?` — a string in any form
* `Toml.Printer.string` — a string in the form chosen for it
-/

namespace SelfCheck.Toml

/-- A blank within a line. -/
def isSpace (c : Char) : Bool := c = ' ' || c = '\t'

/-- The characters after the blanks within a line. -/
def skipSpace (cs : List Char) : List Char := cs.dropWhile isSpace

/-- A character that may stand in a comment: a tab, or anything but a control character. -/
def isPlain (c : Char) : Bool :=
  c = '\t' || (0x20 ≤ c.toNat && c.toNat ≤ 0x7E) || 0x80 ≤ c.toNat

/-- A character that stands for itself between double quotes. -/
def isBasic (c : Char) : Bool := isPlain c && c ≠ '"' && c ≠ '\\'

/-- A character that stands for itself between single quotes. -/
def isLiteral (c : Char) : Bool := isPlain c && c ≠ '\''

/-! ### Escapes -/

/-- The character that a one-letter escape stands for. -/
def escaped? : Char → Option Char
  | 'b' => some '\x08'
  | 'f' => some '\x0c'
  | 'n' => some '\n'
  | 'r' => some '\r'
  | 't' => some '\t'
  | '\\' => some '\\'
  | '"' => some '"'
  | _ => none

/-- The value of a digit in a base of at most 16. -/
def digit? (base : Nat) (c : Char) : Option Nat :=
  let value :=
    if '0' ≤ c && c ≤ '9' then some (c.toNat - '0'.toNat)
    else if 'a' ≤ c && c ≤ 'f' then some (c.toNat - 'a'.toNat + 10)
    else if 'A' ≤ c && c ≤ 'F' then some (c.toNat - 'A'.toNat + 10)
    else none
  value.filter (· < base)

/-- The number that digits in a base write. -/
def numeral? (base : Nat) (digits : List Char) : Option Nat :=
  digits.foldlM (fun n c => (digit? base c).map (n * base + ·)) 0

/-- The character whose code point hexadecimal digits write. -/
def codePoint? (digits : List Char) : Option Char :=
  match numeral? 16 digits with
  | some n => if n.isValidChar then some (Char.ofNat n) else none
  | none => none

/-! ### One-line strings -/

/-- The content of a string between double quotes, and what follows it. -/
def basic? : List Char → Option (List Char × List Char)
  | [] => none
  | '"' :: rest => some ([], rest)
  | '\\' :: 'u' :: a :: b :: c :: d :: rest =>
    match codePoint? [a, b, c, d] with
    | some x => (basic? rest).map fun (text, rest) => (x :: text, rest)
    | none => none
  | '\\' :: 'U' :: a :: b :: c :: d :: e :: f :: g :: h :: rest =>
    match codePoint? [a, b, c, d, e, f, g, h] with
    | some x => (basic? rest).map fun (text, rest) => (x :: text, rest)
    | none => none
  | '\\' :: e :: rest =>
    match escaped? e with
    | some x => (basic? rest).map fun (text, rest) => (x :: text, rest)
    | none => none
  | c :: rest =>
    if isBasic c then (basic? rest).map fun (text, rest) => (c :: text, rest) else none

/-- The content of a string between single quotes, and what follows it. -/
def literal? : List Char → Option (List Char × List Char)
  | [] => none
  | c :: rest =>
    if c = '\'' then some ([], rest)
    else if isLiteral c then (literal? rest).map fun (text, rest) => (c :: text, rest)
    else none

/-! ### Strings of several lines -/

/-- The end of a string of several lines, after the third quote: up to two further quotes still
belong to it. -/
def close (quote : Char) : List Char → List Char × List Char
  | [] => ([], [])
  | [c] => if c = quote then ([quote], []) else ([], [c])
  | c :: d :: rest =>
    if c = quote then if d = quote then ([quote, quote], rest) else ([quote], d :: rest)
    else ([], c :: d :: rest)

/-- Nothing but blanks comes before the end of the line. -/
def atLineEnd (cs : List Char) : Bool :=
  match skipSpace cs with
  | '\n' :: _ => true
  | '\r' :: '\n' :: _ => true
  | _ => false

/-- The content of a string between three double quotes, and what follows it. While `skipping`,
after a backslash at the end of a line, blanks and line ends are passed over. -/
def multiBasic? (skipping : Bool) : List Char → Option (List Char × List Char)
  | [] => none
  | '"' :: '"' :: '"' :: rest => some (close '"' rest)
  | '\r' :: '\n' :: rest =>
    if skipping then multiBasic? true rest
    else (multiBasic? false rest).map fun (text, rest) => ('\n' :: text, rest)
  | '\\' :: 'u' :: a :: b :: c :: d :: rest =>
    match codePoint? [a, b, c, d] with
    | some x => (multiBasic? false rest).map fun (text, rest) => (x :: text, rest)
    | none => none
  | '\\' :: 'U' :: a :: b :: c :: d :: e :: f :: g :: h :: rest =>
    match codePoint? [a, b, c, d, e, f, g, h] with
    | some x => (multiBasic? false rest).map fun (text, rest) => (x :: text, rest)
    | none => none
  | '\\' :: e :: rest =>
    match escaped? e with
    | some x => (multiBasic? false rest).map fun (text, rest) => (x :: text, rest)
    | none => if atLineEnd (e :: rest) then multiBasic? true (e :: rest) else none
  | c :: rest =>
    if skipping && (isSpace c || c = '\n') then multiBasic? true rest
    else if isBasic c || c = '"' || c = '\n' then
      (multiBasic? false rest).map fun (text, rest) => (c :: text, rest)
    else none

/-- The content of a string between three single quotes, and what follows it. -/
def multiLiteral? : List Char → Option (List Char × List Char)
  | [] => none
  | '\'' :: '\'' :: '\'' :: rest => some (close '\'' rest)
  | '\r' :: '\n' :: rest =>
    (multiLiteral? rest).map fun (text, rest) => ('\n' :: text, rest)
  | c :: rest =>
    if isPlain c || c = '\n' then (multiLiteral? rest).map fun (text, rest) => (c :: text, rest)
    else none

/-- What follows a line end directly after an opening of three quotes. -/
def skipFirstLineEnd : List Char → List Char
  | '\n' :: rest => rest
  | '\r' :: '\n' :: rest => rest
  | rest => rest

/-- A string in any of the four forms, and what follows it. -/
def string? : List Char → Option (List Char × List Char)
  | '"' :: '"' :: '"' :: rest => multiBasic? false (skipFirstLineEnd rest)
  | '"' :: rest => basic? rest
  | '\'' :: '\'' :: '\'' :: rest => multiLiteral? (skipFirstLineEnd rest)
  | '\'' :: rest => literal? rest
  | _ => none

/-! ### Writing -/

namespace Printer

/-- The length of the longest run of a character. -/
def longestRun (c : Char) (cs : List Char) : Nat :=
  (cs.foldl (fun (longest, run) d =>
    if d = c then (max longest (run + 1), run + 1) else (longest, 0)) (0, 0)).1

/-- A character that no form shows as it is: a control character other than tab and line feed. -/
def needsCode (c : Char) : Bool := (c.toNat < 0x20 && c ≠ '\t' && c ≠ '\n') || c.toNat = 0x7F

/-- One character between double quotes, escaped if need be. -/
def escape (c : Char) : List Char :=
  if c = '\x08' then ['\\', 'b']
  else if c = '\t' then ['\\', 't']
  else if c = '\n' then ['\\', 'n']
  else if c = '\x0c' then ['\\', 'f']
  else if c = '\r' then ['\\', 'r']
  else if c = '"' then ['\\', '"']
  else if c = '\\' then ['\\', '\\']
  else if needsCode c then
    ['\\', 'u', '0', '0', Nat.digitChar (c.toNat / 16), (Nat.digitChar (c.toNat % 16)).toUpper]
  else [c]

/-- The content of a string of several lines between double quotes. Line feeds stand as they are,
and so do quotes, except the third of a run; an escape ends a run. -/
def lines (run : Nat) : List Char → List Char
  | [] => []
  | c :: cs =>
    if c = '\n' then '\n' :: lines 0 cs
    else if c = '"' then
      if run < 2 then '"' :: lines (run + 1) cs else escape '"' ++ lines 0 cs
    else escape c ++ lines 0 cs

/-- The forms of a string. -/
inductive Form where
  | basic
  | literal
  | multiBasic
  | multiLiteral
deriving DecidableEq, Repr

/-- The form chosen for a text: the first of basic, literal, basic of several lines and literal of
several lines that shows it as it is, and otherwise a basic one. -/
def form (cs : List Char) : Form :=
  let double := longestRun '"' cs
  let single := longestRun '\'' cs
  let coded := cs.any needsCode
  let backslash := cs.contains '\\'
  let broken := cs.contains '\n'
  if !coded && !backslash && double = 0 && !broken then .basic
  else if !coded && single = 0 && !broken then .literal
  else if !coded && !backslash && double ≤ 2 then .multiBasic
  else if !coded && single ≤ 2 then .multiLiteral
  else if broken then .multiBasic
  else .basic

/-- A text of several lines begins on a line of its own. -/
def opening (cs : List Char) : List Char := if cs.contains '\n' then ['\n'] else []

/-- A string in the form chosen for it. -/
def string (text : String) : List Char :=
  let cs := text.toList
  match form cs with
  | .basic => '"' :: cs.flatMap escape ++ ['"']
  | .literal => '\'' :: cs ++ ['\'']
  | .multiBasic => ['"', '"', '"'] ++ opening cs ++ lines 0 cs ++ ['"', '"', '"']
  | .multiLiteral => ['\'', '\'', '\''] ++ opening cs ++ cs ++ ['\'', '\'', '\'']

end Printer

end SelfCheck.Toml
