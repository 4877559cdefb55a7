import SelfCheck.Text.Split
import SelfCheck.Text.Bytes
import Mathlib.Tactic.Common

/-!
# Where characters begin

An offset counts bytes, and a text can be cut only where a character begins or the text ends. Which
offsets these are can be told from the byte there: UTF-8 writes a character as a byte that begins
one and bytes that only ever continue one.

## Main definitions

* `Text.isBoundary` — a character begins at a byte, or the text ends there

## Main results

* `Bytes.utf8EncodeChar_eq_cons` — only the first byte of a character begins one
* `Text.isBoundary_iff` — a text can be cut just at its boundaries
-/

namespace SelfCheck

namespace Bytes

theorem length_ofChars (cs : List Char) : (ofChars cs).length = Text.byteLength cs := by
  induction cs with
  | nil => rfl
  | cons c cs ih =>
    rw [ofChars_cons, List.length_append, String.length_utf8EncodeChar, ih, Text.byteLength]

theorem isTail_ofNat {n : Nat} (small : n < 256) :
    isTail (UInt8.ofNat n) = decide (128 ≤ n ∧ n ≤ 191) := by
  have value : (UInt8.ofNat n).toNat = n := UInt8.toNat_ofNat_of_lt' small
  rw [Bool.eq_iff_iff, isTail, Bool.and_eq_true, decide_eq_true_eq, decide_eq_true_eq,
    decide_eq_true_eq, UInt8.le_iff_toNat_le, UInt8.le_iff_toNat_le, value]
  rfl

/-- A digit in base 64 continues a character. -/
theorem isTail_digit (n : Nat) : isTail (UInt8.ofNat (n % 64 + 128)) = true := by
  rw [isTail_ofNat (by omega), decide_eq_true_eq]
  omega

/-- A byte below 128 or from 192 on continues none. -/
theorem isTail_first {n : Nat} (small : n < 256) (first : n < 128 ∨ 192 ≤ n) :
    isTail (UInt8.ofNat n) = false := by
  rw [isTail_ofNat small, decide_eq_false_iff_not]
  omega

/-- Only the first byte of a character begins one. -/
theorem utf8EncodeChar_eq_cons (c : Char) :
    ∃ b bs, String.utf8EncodeChar c = b :: bs ∧ isTail b = false ∧ ∀ t ∈ bs, isTail t = true := by
  have bound : c.val.toNat < 0x110000 := c.valid.elim (by omega) (·.2)
  unfold String.utf8EncodeChar
  dsimp only
  -- The first byte of several has the number of bytes in front of its digit, 192 at the least.
  split_ifs
  · exact ⟨_, _, rfl, isTail_first (by omega) (.inl (by omega)), nofun⟩
  all_goals
    refine ⟨_, _, rfl, isTail_first (by omega) (.inr (by omega)), ?_⟩
    simp only [List.forall_mem_cons, isTail_digit, true_and]
    exact nofun

end Bytes

namespace Text

/-- A character begins at byte `n`, or the text ends there. -/
def isBoundary (n : Nat) (cs : List Char) : Bool :=
  match (Bytes.ofChars cs)[n]? with
  | some b => !Bytes.isTail b
  | none => n = byteLength cs

/-- Past the first character, the boundaries are those of the text behind it. -/
theorem isBoundary_cons_of_le {c : Char} {cs : List Char} {n : Nat} (past : c.utf8Size ≤ n) :
    isBoundary n (c :: cs) = isBoundary (n - c.utf8Size) cs := by
  unfold isBoundary
  rw [Bytes.ofChars_cons, List.getElem?_append_right (by rwa [String.length_utf8EncodeChar]),
    String.length_utf8EncodeChar, byteLength]
  cases (Bytes.ofChars cs)[n - c.utf8Size]? with
  | some b => rfl
  | none =>
    rw [decide_eq_decide]
    omega

/-- No boundary is inside a character. -/
theorem isBoundary_cons_of_lt {c : Char} {cs : List Char} {n : Nat} (inside : n + 1 < c.utf8Size) :
    isBoundary (n + 1) (c :: cs) = false := by
  obtain ⟨b, bs, written, -, later⟩ := Bytes.utf8EncodeChar_eq_cons c
  have size : bs.length + 1 = c.utf8Size := by
    rw [← String.length_utf8EncodeChar, written, List.length_cons]
  -- The byte there is not the first of the character.
  have here : n < bs.length := by omega
  unfold isBoundary
  rw [Bytes.ofChars_cons, written, List.cons_append, List.getElem?_cons_succ,
    List.getElem?_append_left here, List.getElem?_eq_getElem here]
  dsimp only
  rw [later _ (List.getElem_mem here)]
  rfl

/-- A text can be cut just at its boundaries. -/
theorem isBoundary_iff {n : Nat} {cs : List Char} :
    isBoundary n cs = true ↔ (cutAt? n cs).isSome = true := by
  induction cs generalizing n with
  | nil => cases n <;> simp [isBoundary, cutAt?, byteLength]
  | cons c cs ih =>
    cases n with
    | zero =>
      obtain ⟨b, bs, written, first, -⟩ := Bytes.utf8EncodeChar_eq_cons c
      simp [isBoundary, cutAt?, written, first]
    | succ n =>
      unfold cutAt?
      split_ifs with past
      · rw [isBoundary_cons_of_le past, ih, Option.isSome_map]
      · rw [isBoundary_cons_of_lt (Nat.lt_of_not_le past)]
        simp

/-- A text has as many bytes before a boundary as its offset says. -/
theorem le_byteLength_of_isBoundary {n : Nat} {cs : List Char} (h : isBoundary n cs = true) :
    n ≤ byteLength cs := by
  obtain ⟨⟨before, after⟩, cut⟩ := Option.isSome_iff_exists.mp (isBoundary_iff.mp h)
  obtain ⟨rfl, rfl⟩ := cutAt?_eq_some_iff.mp cut
  rw [byteLength_append]
  omega

end Text

end SelfCheck
