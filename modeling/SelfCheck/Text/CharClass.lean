/-!
# Classes of characters

A class of characters is a table of ranges of code points. The tables of this folder are those of
the Unicode Character Database, version 17.

## Main definitions

* `Text.CharClass` — a table of ranges, ends included
* `Text.CharClass.contains` — a character lies in one of the ranges

## Main results

* `Text.CharClass.contains_iff` — membership, said of the ranges
-/

namespace SelfCheck.Text

/-- A class of characters, given by ranges of code points with both ends included. -/
structure CharClass where
  ranges : List (Nat × Nat)

namespace CharClass

/-- The character lies in one of the ranges. -/
def contains (cls : CharClass) (c : Char) : Bool :=
  cls.ranges.any fun r => r.1 ≤ c.toNat && c.toNat ≤ r.2

theorem contains_iff {cls : CharClass} {c : Char} :
    cls.contains c = true ↔ ∃ r ∈ cls.ranges, r.1 ≤ c.toNat ∧ c.toNat ≤ r.2 := by
  simp [contains]

end CharClass

end SelfCheck.Text
