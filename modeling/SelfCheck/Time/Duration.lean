/-!
# Durations

A duration is a count of seconds, kept in 64 bits, and nanoseconds beyond them.

## Main definitions

* `Time.Duration` — a duration
* `Time.Duration.times?`, `Time.Duration.dividedBy` — multiples and parts

## Main results

* `Time.Duration.nanoseconds_lt` — the nanoseconds of a part are less than a second
-/

namespace SelfCheck.Time

/-- The number of nanoseconds in a second. -/
def nanosPerSecond : Nat := Nat.pow 10 9

/-- A duration. -/
structure Duration where
  seconds : Nat
  nanoseconds : Nat
deriving DecidableEq, Repr

namespace Duration

/-- A whole number of seconds. -/
def ofSeconds (seconds : Nat) : Duration := ⟨seconds, 0⟩

/-- All of a duration in nanoseconds. -/
def total (d : Duration) : Nat := d.seconds * nanosPerSecond + d.nanoseconds

/-- The duration of so many nanoseconds. -/
def ofTotal (n : Nat) : Duration := ⟨n / nanosPerSecond, n % nanosPerSecond⟩

/-- A multiple, unless its seconds do not fit in 64 bits. -/
def times? (d : Duration) (n : Nat) : Option Duration :=
  let product := ofTotal (d.total * n)
  if product.seconds < Nat.pow 2 64 then some product else none

/-- A part, rounded down to a nanosecond. -/
def dividedBy (d : Duration) (n : Nat) : Duration := ofTotal (d.total / n)

/-- The nanoseconds beyond the seconds are less than a second. -/
theorem nanoseconds_lt (n : Nat) : (ofTotal n).nanoseconds < nanosPerSecond :=
  Nat.mod_lt _ (by decide)

@[simp] theorem total_ofTotal (n : Nat) : (ofTotal n).total = n := by
  simp only [total, ofTotal]
  rw [Nat.mul_comm]
  exact Nat.div_add_mod n nanosPerSecond

end Duration

end SelfCheck.Time
