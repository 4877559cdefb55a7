import SelfCheck.Toml.Text
import SelfCheck.Toml.Value

/-!
# TOML numbers

A whole number is decimal with an optional sign, or hexadecimal, octal or binary without one, and
has to fit in 64 bits. A number with a fraction or an exponent must not be beyond the largest
double; of those, only that they are well formed matters here.

## Main definitions

* `Toml.digits?` — a run of digits with underscores between them
* `Toml.isBounded` — a decimal number does not round to infinity
* `Toml.number?` — a number, and what follows it
-/

namespace SelfCheck.Toml

/-- The digits of a run after its first, and what follows; a single underscore may stand between
two digits. -/
def moreDigits (base : Nat) : List Char → List Char × List Char
  | [] => ([], [])
  | [c] => if (digit? base c).isSome then ([c], []) else ([], [c])
  | c :: d :: rest =>
    if (digit? base c).isSome then
      let (digits, rest) := moreDigits base (d :: rest)
      (c :: digits, rest)
    else if c = '_' && (digit? base d).isSome then
      let (digits, rest) := moreDigits base rest
      (d :: digits, rest)
    else ([], c :: d :: rest)

/-- A run of at least one digit, and what follows it. -/
def digits? (base : Nat) : List Char → Option (List Char × List Char)
  | [] => none
  | c :: rest =>
    if (digit? base c).isSome then
      let (digits, rest) := moreDigits base rest
      some (c :: digits, rest)
    else none

/-- The whole part of a decimal number, which has no zero in front. -/
def whole? : List Char → Option (List Char × List Char)
  | '0' :: rest => some (['0'], rest)
  | cs => digits? 10 cs

/-- A sign, whether it is a minus, and what follows; it may be missing. -/
def sign : List Char → Bool × List Char
  | '-' :: rest => (true, rest)
  | '+' :: rest => (false, rest)
  | cs => (false, cs)

/-- The digits after a decimal point, and what follows them, if there is such a point. -/
def fraction? : List Char → Option (List Char × List Char)
  | '.' :: rest => digits? 10 rest
  | _ => none

/-- An exponent, and what follows it, if there is one. -/
def exponent? : List Char → Option (Int × List Char)
  | e :: rest =>
    if e = 'e' || e = 'E' then do
      let (negative, rest) := sign rest
      let (digits, rest) ← digits? 10 rest
      let size ← numeral? 10 digits
      some (if negative then -(size : Int) else size, rest)
    else none
  | [] => none

/-- The least number that rounds to infinity: half a unit beyond the largest double. -/
def infinityBound : Nat := Nat.pow 2 1024 - Nat.pow 2 970

/-- The number `digits × 10 ^ exponent` does not round to infinity. Numbers far from the bound on
either side are told by their count of digits. -/
def isBounded (digits : Nat) (exponent : Int) : Bool :=
  let size : Int := (Nat.toDigits 10 digits).length + exponent
  digits = 0 || size < 308 ||
    (size ≤ 310 &&
      if 0 ≤ exponent then digits * Nat.pow 10 exponent.toNat < infinityBound
      else digits < infinityBound * Nat.pow 10 (-exponent).toNat)

/-- A whole number that fits in 64 bits. -/
def integer? (negative : Bool) (size : Nat) : Option Toml :=
  if negative then if size ≤ Nat.pow 2 63 then some (.integer (-(size : Int))) else none
  else if size < Nat.pow 2 63 then some (.integer size) else none

/-- A whole number in one of the bases that have no sign, after its mark. -/
def based? (base : Nat) (cs : List Char) : Option (Toml × List Char) := do
  let (digits, rest) ← digits? base cs
  let size ← numeral? base digits
  some (← integer? false size, rest)

/-- A number with a fraction or an exponent, of the value `digits × 10 ^ exponent`. -/
def scaled? (negative : Bool) (digits : List Char) (exponent : Int) : Option Toml := do
  let size ← numeral? 10 digits
  if negative || isBounded size exponent then some .float else none

/-- A decimal number after its sign, and what follows it. -/
def decimal? (negative : Bool) (cs : List Char) : Option (Toml × List Char) := do
  let (whole, rest) ← whole? cs
  match fraction? rest with
  | some (places, rest) =>
    let (exponent, rest) := (exponent? rest).getD (0, rest)
    some (← scaled? negative (whole ++ places) (exponent - places.length), rest)
  | none =>
    match exponent? rest with
    | some (exponent, rest) => some (← scaled? negative whole exponent, rest)
    | none => some (← integer? negative (← numeral? 10 whole), rest)

/-- A number, and what follows it. -/
def number? : List Char → Option (Toml × List Char)
  | '0' :: 'x' :: rest => based? 16 rest
  | '0' :: 'o' :: rest => based? 8 rest
  | '0' :: 'b' :: rest => based? 2 rest
  | cs =>
    let (negative, rest) := sign cs
    match rest with
    | 'i' :: 'n' :: 'f' :: rest => some (.float, rest)
    | 'n' :: 'a' :: 'n' :: rest => some (.float, rest)
    | rest => decimal? negative rest

end SelfCheck.Toml
