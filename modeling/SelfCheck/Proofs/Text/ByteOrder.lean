import SelfCheck.Proofs.Text.Boundaries
import Mathlib.Data.String.Basic
import Mathlib.Tactic.Common

/-!
# The order of texts is that of their bytes

UTF-8 writes a character as a first byte that tells how many there are, the more the greater, and
digits in base 64 behind it. So the first character in which two texts differ decides on the order
of their bytes too, and two texts stand in the order in which their bytes do.

## Main results

* `Bytes.utf8EncodeChar_append_lt` — the first character in which two texts differ decides
* `Bytes.ofText_lt_ofText` — a lesser text has lesser bytes
-/

namespace SelfCheck.Bytes

/-- The first character in which two texts differ decides on the order of their bytes. -/
theorem utf8EncodeChar_append_lt {c d : Char} (h : c < d) (bs cs : Bytes) :
    String.utf8EncodeChar c ++ bs < String.utf8EncodeChar d ++ cs := by
  have less : c.val.toNat < d.val.toNat := h
  have bound : d.val.toNat < 0x110000 := d.valid.elim (by omega) (·.2)
  unfold String.utf8EncodeChar
  dsimp only
  split_ifs <;>
    simp only [List.cons_append, List.nil_append, List.cons_lt_cons_iff, UInt8.lt_iff_toNat_lt,
      ← UInt8.toNat_inj, UInt8.toNat_ofNat']
  -- A character of more bytes has a greater first one.
  all_goals try exact .inl (by omega)
  -- Of two with the same number of bytes, the first digit in which they differ decides.
  · rcases Nat.lt_or_ge (c.val.toNat / 64) (d.val.toNat / 64) with first | first
    · exact .inl (by omega)
    · exact .inr ⟨by omega, .inl (by omega)⟩
  · rcases Nat.lt_or_ge (c.val.toNat / 4096) (d.val.toNat / 4096) with first | first
    · exact .inl (by omega)
    rcases Nat.lt_or_ge (c.val.toNat / 64) (d.val.toNat / 64) with second | second
    · exact .inr ⟨by omega, .inl (by omega)⟩
    · exact .inr ⟨by omega, .inr ⟨by omega, .inl (by omega)⟩⟩
  · rcases Nat.lt_or_ge (c.val.toNat / 262144) (d.val.toNat / 262144) with first | first
    · exact .inl (by omega)
    rcases Nat.lt_or_ge (c.val.toNat / 4096) (d.val.toNat / 4096) with second | second
    · exact .inr ⟨by omega, .inl (by omega)⟩
    rcases Nat.lt_or_ge (c.val.toNat / 64) (d.val.toNat / 64) with third | third
    · exact .inr ⟨by omega, .inr ⟨by omega, .inl (by omega)⟩⟩
    · exact .inr ⟨by omega, .inr ⟨by omega, .inr ⟨by omega, .inl (by omega)⟩⟩⟩

/-- A lesser list of characters has lesser bytes. -/
theorem ofChars_lt_ofChars {cs ds : List Char} (h : cs < ds) : ofChars cs < ofChars ds := by
  induction h with
  | @nil d ds =>
    obtain ⟨b, bs, eq, -⟩ := utf8EncodeChar_eq_cons d
    rw [ofChars_nil, ofChars_cons, eq]
    exact .nil
  | rel less => exact utf8EncodeChar_append_lt less _ _
  | cons _ ih => exact List.append_left_lt ih

/-- Texts stand in the order of their bytes. -/
theorem ofText_lt_ofText {s t : String} (h : s < t) : ofText s < ofText t :=
  ofChars_lt_ofChars (String.lt_iff_toList_lt.1 h)

end SelfCheck.Bytes
