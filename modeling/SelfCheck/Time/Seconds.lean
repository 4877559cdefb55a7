/-!
# Seconds as text

A timeout is shown in seconds, as the shortest decimal that reads back as the same binary number of
53 digits. All arithmetic here is exact, on natural numbers.

## Main definitions

* `Time.Binary` — a number with a mantissa of at most 53 binary digits
* `Time.Binary.ofRatio` — the nearest such number to a fraction, an even mantissa winning ties
* `Time.Binary.shortest` — the fewest decimal digits that still round to the number
* `Time.Seconds.ofMillis` — a number of milliseconds, as text in seconds
-/

namespace SelfCheck.Time

/-- The number `mantissa * 2 ^ exponent`. -/
structure Binary where
  mantissa : Nat
  exponent : Int
deriving DecidableEq, Repr

namespace Binary

/-- The numerator and denominator of `n * 2 ^ e`. -/
def scale (n : Nat) (e : Int) : Nat × Nat := (n * Nat.pow 2 e.toNat, Nat.pow 2 (-e).toNat)

/-- The quotient rounded to the nearest whole number, an even one winning ties. -/
def roundedQuotient (num den : Nat) : Nat :=
  let q := num / den
  let r := 2 * (num % den)
  if r > den || (r = den && q % 2 = 1) then q + 1 else q

/-- The quotient of `num / den` by `2 ^ e`, as a fraction. -/
def unscale (num den : Nat) (e : Int) : Nat × Nat :=
  (num * Nat.pow 2 (-e).toNat, den * Nat.pow 2 e.toNat)

/-- The number of 53 binary digits nearest to `num / den`. -/
def ofRatio (num den : Nat) : Binary :=
  if num = 0 then ⟨0, 0⟩
  else
    let low : Int := (num.log2 : Int) - den.log2 - 53
    let (n, d) := unscale num den low
    let e := if n / d < Nat.pow 2 53 then low else low + 1
    let (n, d) := unscale num den e
    let m := roundedQuotient n d
    if m = Nat.pow 2 53 then ⟨Nat.pow 2 52, e + 1⟩ else ⟨m, e⟩

/-- The sum of two numbers, rounded. -/
def add (x y : Binary) : Binary :=
  let e := min x.exponent y.exponent
  let inUnits (z : Binary) : Nat := z.mantissa * Nat.pow 2 (z.exponent - e).toNat
  let total := inUnits x + inUnits y
  let (n, d) := scale total e
  ofRatio n d

/-- A decimal `digits * 10 ^ exponent`. -/
structure Decimal where
  digits : Nat
  exponent : Int
deriving DecidableEq, Repr

/-- The exponent of the leading decimal digit of `num / den`. -/
def magnitude (num den : Nat) : Int :=
  if den ≤ num then ((Nat.toDigits 10 (num / den)).length : Int) - 1
  else -(((List.range 400).find? fun j => den ≤ num * Nat.pow 10 j).getD 0 : Nat)

/-- The decimal of `count` digits nearest to the number, among those that round to it. Halfway
between two it is the greater one. -/
def withDigits? (x : Binary) (count : Nat) : Option Decimal :=
  let quarter := x.exponent - 2
  let (n, d) := scale (4 * x.mantissa) quarter
  let (high, _) := scale (4 * x.mantissa + 2) quarter
  let (low, _) := scale (4 * x.mantissa - (if x.mantissa = Nat.pow 2 52 then 1 else 2)) quarter
  let k : Int := magnitude n d - count + 1
  -- everything below is in units of `10 ^ k / d`
  let unit := d * Nat.pow 10 k.toNat
  let up := Nat.pow 10 (-k).toNat
  let inside (c : Nat) : Bool :=
    if x.mantissa % 2 = 0 then low * up ≤ c * unit && c * unit ≤ high * up
    else low * up < c * unit && c * unit < high * up
  let below := n * up / unit
  let above := below + 1
  let nearBelow := 2 * (n * up - below * unit) < unit
  let candidates := if nearBelow then [below, above] else [above, below]
  (candidates.find? inside).map fun c => ⟨c, k⟩

/-- The fewest decimal digits that still round to the number; 17 are always enough. -/
def shortest (x : Binary) : Decimal :=
  ((List.range 17).findSome? fun count => x.withDigits? (count + 1)).getD ⟨0, 0⟩

end Binary

open Binary in
/-- A decimal written without an exponent, a point only before a fraction. -/
def Binary.Decimal.text (x : Decimal) : String :=
  let digits := Nat.toDigits 10 x.digits
  if 0 ≤ x.exponent then String.ofList (digits ++ List.replicate x.exponent.toNat '0')
  else
    let places := (-x.exponent).toNat
    let padded := List.replicate (places + 1 - digits.length) '0' ++ digits
    let whole := padded.take (padded.length - places)
    let fraction := padded.drop (padded.length - places)
    let kept := (fraction.reverse.dropWhile (· = '0')).reverse
    String.ofList (if kept.isEmpty then whole else whole ++ '.' :: kept)

/-- A number of milliseconds, as text in seconds: whole seconds and the fraction are each rounded
to a binary number, and so is their sum. -/
def Seconds.ofMillis (millis : Nat) : String :=
  let whole := Binary.ofRatio (millis / 1000) 1
  let fraction := Binary.ofRatio (millis % 1000 * 1000000) 1000000000
  if millis = 0 then "0" else (whole.add fraction).shortest.text

end SelfCheck.Time
