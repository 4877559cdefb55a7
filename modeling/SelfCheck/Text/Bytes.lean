/-!
# Bytes and the text they spell

Sockets and files carry bytes; the rest of the library speaks of text. This module holds the
passage between the two: UTF-8 in one direction, and in the other a strict reading, which refuses
what is not UTF-8, and a lenient one, which marks the damage and goes on.

## Main definitions

* `Bytes` — a finite sequence of bytes
* `Bytes.ofText` — the UTF-8 bytes of a text
* `Bytes.text?` — the text that some bytes spell, if they are UTF-8
* `Bytes.lossyText` — the text with `U+FFFD` for each damaged stretch

## Main results

* `Bytes.text?_eq_some_iff` — the strict reading accepts exactly the bytes of a text
* `Bytes.ofText_append` — the bytes of a concatenation
* `Bytes.toNat_eq_of_mem_utf8EncodeChar` — which characters are written with a byte below 128
* `Bytes.lossyText_ofText` — the lenient reading of undamaged bytes is the text itself
-/

namespace SelfCheck

/-- A finite sequence of bytes. -/
abbrev Bytes := List UInt8

namespace Bytes

/-- The UTF-8 bytes of a list of characters. -/
def ofChars (cs : List Char) : Bytes := cs.flatMap String.utf8EncodeChar

/-- The UTF-8 bytes of a text. -/
def ofText (s : String) : Bytes := ofChars s.toList

/-- The text that some bytes spell; bytes that are not UTF-8 spell none. -/
def text? (bs : Bytes) : Option String := String.fromUTF8? bs.toByteArray

@[simp] theorem ofChars_nil : ofChars [] = [] := rfl

@[simp] theorem ofChars_cons (c : Char) (cs : List Char) :
    ofChars (c :: cs) = String.utf8EncodeChar c ++ ofChars cs := rfl

@[simp] theorem ofChars_append (cs ds : List Char) :
    ofChars (cs ++ ds) = ofChars cs ++ ofChars ds := by
  simp [ofChars]

@[simp] theorem ofText_append (s t : String) : ofText (s ++ t) = ofText s ++ ofText t := by
  simp [ofText]

/-- A character of one byte, repeated, is that byte repeated. -/
theorem ofChars_replicate {c : Char} {b : UInt8} (single : String.utf8EncodeChar c = [b]) (n : Nat) :
    ofChars (List.replicate n c) = List.replicate n b := by
  rw [ofChars, List.flatMap_replicate, single, List.flatten_replicate_singleton]

private theorem toByteArray_inj {bs cs : Bytes} (h : bs.toByteArray = cs.toByteArray) : bs = cs := by
  have := congrArg (fun b : ByteArray => b.data.toList) h
  simpa using this

private theorem toByteArray_ofText (s : String) : (ofText s).toByteArray = s.toByteArray :=
  String.utf8Encode_toList

/-- The strict reading accepts exactly the bytes of a text. -/
theorem text?_eq_some_iff {bs : Bytes} {s : String} : text? bs = some s ↔ bs = ofText s := by
  unfold text? String.fromUTF8?
  constructor
  · intro h
    split at h
    · refine toByteArray_inj ?_
      rw [toByteArray_ofText, ← Option.some.inj h]
      rfl
    · cases h
  · rintro rfl
    have hv : (ofText s).toByteArray.IsValidUTF8 := toByteArray_ofText s ▸ s.isValidUTF8
    rw [dif_pos hv]
    exact congrArg some (String.toByteArray_inj.1 (toByteArray_ofText s))

@[simp] theorem text?_ofText (s : String) : text? (ofText s) = some s :=
  text?_eq_some_iff.2 rfl

theorem ofText_injective {s t : String} (h : ofText s = ofText t) : s = t := by
  have := text?_ofText s
  rw [h, text?_ofText] at this
  exact (Option.some.inj this).symm

/-- A byte below 128 is written only for the character of its own number. -/
theorem toNat_eq_of_mem_utf8EncodeChar {b : UInt8} {c : Char} (ascii : b.toNat < 128)
    (h : b ∈ String.utf8EncodeChar c) : c.toNat = b.toNat := by
  have ne_ofNat {n : Nat} (high : 128 ≤ n) (small : n < 256) : b ≠ UInt8.ofNat n := by
    rintro rfl
    rw [UInt8.toNat_ofNat_of_lt' small] at ascii
    omega
  unfold String.utf8EncodeChar at h
  dsimp only at h
  split at h
  · next one =>
    have small : c.val.toNat < UInt8.size := Nat.lt_of_le_of_lt one (by decide)
    rw [List.mem_singleton.mp h, UInt8.toNat_ofNat_of_lt' small]
    rfl
  -- Each byte of a longer character is 128 or more.
  split at h
  · simp only [List.mem_cons, List.not_mem_nil, or_false] at h
    rcases h with h | h <;> exact absurd h (ne_ofNat (by omega) (by omega))
  split at h
  · simp only [List.mem_cons, List.not_mem_nil, or_false] at h
    rcases h with h | h | h <;> exact absurd h (ne_ofNat (by omega) (by omega))
  · simp only [List.mem_cons, List.not_mem_nil, or_false] at h
    rcases h with h | h | h | h <;> exact absurd h (ne_ofNat (by omega) (by omega))

/-! ### The lenient reading -/

/-- A byte that may continue a character of several bytes. -/
def isTail (b : UInt8) : Bool := 0x80 ≤ b && b ≤ 0xBF

/-- What a first byte of several announces: its own bits, the range that the second byte must lie
in, and how many bytes follow the second. -/
def announced? (b : UInt8) : Option (Nat × UInt8 × UInt8 × Nat) :=
  if 0xC2 ≤ b && b ≤ 0xDF then some (b.toNat - 0xC0, 0x80, 0xBF, 0)
  else if b = 0xE0 then some (0, 0xA0, 0xBF, 1)
  else if b = 0xED then some (0xD, 0x80, 0x9F, 1)
  else if 0xE1 ≤ b && b ≤ 0xEF then some (b.toNat - 0xE0, 0x80, 0xBF, 1)
  else if b = 0xF0 then some (0, 0x90, 0xBF, 2)
  else if 0xF1 ≤ b && b ≤ 0xF3 then some (b.toNat - 0xF0, 0x80, 0xBF, 2)
  else if b = 0xF4 then some (4, 0x80, 0x8F, 2)
  else none

/-- Reads `n` further bytes of a character whose bits so far are `bits`. A byte that cannot stand
there ends the character early and is left for the next one. -/
def continued (bits : Nat) : Nat → Bytes → Option Char × Bytes
  | 0, bs => (some (Char.ofNat bits), bs)
  | _ + 1, [] => (none, [])
  | n + 1, b :: bs =>
    if isTail b then continued (bits * 64 + (b.toNat - 0x80)) n bs else (none, b :: bs)

/-- Reads one character after its first byte `b`: the character, or `none` for a damaged stretch,
and the bytes that follow it. -/
def character (b : UInt8) (bs : Bytes) : Option Char × Bytes :=
  if b < 0x80 then (some (Char.ofNat b.toNat), bs)
  else match announced? b with
    | none => (none, bs)
    | some (bits, low, high, more) =>
      match bs with
      | [] => (none, [])
      | c :: rest =>
        if low ≤ c && c ≤ high then continued (bits * 64 + (c.toNat - 0x80)) more rest
        else (none, c :: rest)

private theorem length_continued_le (bits n : Nat) (bs : Bytes) :
    (continued bits n bs).2.length ≤ bs.length := by
  induction n generalizing bits bs with
  | zero => simp [continued]
  | succ n ih =>
    cases bs with
    | nil => simp [continued]
    | cons b bs =>
      unfold continued
      split
      · exact Nat.le_succ_of_le (ih _ _)
      · simp

theorem length_character_le (b : UInt8) (bs : Bytes) : (character b bs).2.length ≤ bs.length := by
  unfold character
  split
  · simp
  · split
    · simp
    · split
      · simp
      · split
        · exact Nat.le_succ_of_le (length_continued_le _ _ _)
        · simp

/-- The characters of some bytes, `U+FFFD` standing for each longest stretch that begins no
character or breaks one off. -/
def repaired : Bytes → List Char
  | [] => []
  | b :: bs => ((character b bs).1.getD '\uFFFD') :: repaired (character b bs).2
termination_by bs => bs.length
decreasing_by
  have := length_character_le b bs
  simp only [List.length_cons]
  omega

/-- The text of some bytes, damage marked by `U+FFFD`. -/
def lossyText (bs : Bytes) : String := (text? bs).getD (String.ofList (repaired bs))

/-- Undamaged bytes are read as the text they spell. -/
@[simp] theorem lossyText_ofText (s : String) : lossyText (ofText s) = s := by
  simp [lossyText]

end Bytes

end SelfCheck
