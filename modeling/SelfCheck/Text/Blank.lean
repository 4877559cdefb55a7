import SelfCheck.Text.CharClass

/-!
# Blank characters

The characters that trimming removes: those with the Unicode property `White_Space`.

## Main definitions

* `Text.blank` — the class
* `Text.isBlank` — the test

## Main results

* `Text.isBlank_of_isWhitespace` — every ASCII blank that core knows is one
-/

namespace SelfCheck.Text

/-- Characters with the property `White_Space`. -/
def blank : CharClass where
  ranges := [(0x9, 0xd), (0x20, 0x20), (0x85, 0x85), (0xa0, 0xa0), (0x1680, 0x1680),
    (0x2000, 0x200a), (0x2028, 0x2029), (0x202f, 0x202f), (0x205f, 0x205f), (0x3000, 0x3000)]

/-- The character is blank. -/
def isBlank (c : Char) : Bool := blank.contains c

theorem isBlank_of_isWhitespace {c : Char} (h : c.isWhitespace = true) : isBlank c = true := by
  simp only [Char.isWhitespace, Bool.or_eq_true, decide_eq_true_eq] at h
  rcases h with ((rfl | rfl) | rfl) | rfl <;> decide

end SelfCheck.Text
