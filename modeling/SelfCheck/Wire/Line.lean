import SelfCheck.Text.Bytes

/-!
# Lines of a byte stream

The tag reader and the circulation server both end what they send with a carriage return, and the
hub bounds how many bytes it accepts before one.

## Main definitions

* `Wire.terminator` — the carriage return
* `Wire.Cut`, `Wire.cut` — what the beginning of a stream holds: a line, the beginning of one, or
  too many bytes without a terminator
* `Wire.lines` — the lines of a stream without regard to their length

## Main results

* `Wire.cut_eq_line_iff` — a line ends at the first terminator, within the limit
* `Wire.cut_eq_tooLong_iff`, `Wire.cut_eq_short_iff` — when there is no line
* `Wire.lines_append_terminator` — what was written is read line by line
-/

namespace SelfCheck.Wire

/-- The carriage return, which ends every line. -/
def terminator : UInt8 := 0x0D

/-- What the beginning of a stream holds. -/
inductive Cut where
  /-- A line, its terminator included, and the bytes after it. -/
  | line (line rest : Bytes)
  /-- As many bytes as allowed, and no terminator among them. -/
  | tooLong
  /-- Fewer bytes than allowed, and no terminator among them. -/
  | short
deriving DecidableEq, Repr

/-- Cuts a line of at most `limit` bytes, terminator included, off a stream. -/
def cut : Nat → Bytes → Cut
  | 0, _ => .tooLong
  | _ + 1, [] => .short
  | limit + 1, b :: bs =>
    if b = terminator then .line [b] bs
    else match cut limit bs with
      | .line line rest => .line (b :: line) rest
      | other => other

/-- A line ends at the first terminator, within the limit. -/
theorem cut_eq_line_iff {limit : Nat} {bs line rest : Bytes} :
    cut limit bs = .line line rest ↔
      ∃ body, line = body ++ [terminator] ∧ terminator ∉ body ∧ body.length < limit ∧
        bs = line ++ rest := by
  induction bs generalizing limit line with
  | nil => cases limit <;> simp [cut]; rintro _ rfl; simp
  | cons b bs ih =>
    cases limit with
    | zero => simp [cut]
    | succ limit =>
      unfold cut
      split
      · next hb =>
        subst hb
        constructor
        · intro h
          injection h with h₁ h₂
          subst h₁ h₂
          exact ⟨[], by simp⟩
        · rintro ⟨body, rfl, hmem, -, hbs⟩
          cases body with
          | nil => simp at hbs; simp [hbs]
          | cons c body => simp at hbs; exact absurd hbs.1 (by simp at hmem; exact hmem.1)
      · next hb =>
        constructor
        · intro h
          split at h
          · next l r hcut =>
            injection h with h₁ h₂
            subst h₁ h₂
            obtain ⟨body, rfl, hmem, hlen, hbs⟩ := ih.1 hcut
            refine ⟨b :: body, by simp, ?_, by simpa using hlen, by simp [hbs]⟩
            simp [hmem, Ne.symm hb]
          · next hcut => exact absurd h (hcut _ _)
        · rintro ⟨body, rfl, hmem, hlen, hbs⟩
          cases body with
          | nil => simp at hbs; exact absurd hbs.1 hb
          | cons c body =>
            simp only [List.cons_append, List.cons.injEq, List.append_assoc] at hbs
            obtain ⟨rfl, hbs⟩ := hbs
            have : cut limit bs = .line (body ++ [terminator]) rest :=
              ih.2 ⟨body, rfl, by simp at hmem; exact hmem.2, by simpa using hlen, by simp [hbs]⟩
            simp [this]

/-- A stream is too long when its first `limit` bytes hold no terminator. -/
theorem cut_eq_tooLong_iff {limit : Nat} {bs : Bytes} :
    cut limit bs = .tooLong ↔ limit ≤ bs.length ∧ terminator ∉ bs.take limit := by
  induction bs generalizing limit with
  | nil => cases limit <;> simp [cut]
  | cons b bs ih =>
    cases limit with
    | zero => simp [cut]
    | succ limit =>
      unfold cut
      split
      · next hb => simp [hb]
      · next hb =>
        rw [List.take_succ_cons, List.mem_cons, not_or]
        constructor
        · intro h
          split at h
          · cases h
          · next hcut => have := ih.1 h; exact ⟨by simpa using this.1, Ne.symm hb, this.2⟩
        · rintro ⟨h₁, -, h₃⟩
          rw [ih.2 ⟨by simpa using h₁, h₃⟩]

/-- A stream is short when it ends, before the limit, without a terminator. -/
theorem cut_eq_short_iff {limit : Nat} {bs : Bytes} :
    cut limit bs = .short ↔ bs.length < limit ∧ terminator ∉ bs := by
  induction bs generalizing limit with
  | nil => cases limit <;> simp [cut]
  | cons b bs ih =>
    cases limit with
    | zero => simp [cut]
    | succ limit =>
      unfold cut
      split
      · next hb => simp [hb]
      · next hb =>
        constructor
        · intro h
          split at h
          · cases h
          · next hcut => have := ih.1 h; simp [this, Ne.symm hb]
        · rintro ⟨h₁, h₂⟩
          rw [List.mem_cons, not_or] at h₂
          rw [ih.2 ⟨by simpa using h₁, h₂.2⟩]

/-- What is left after a line is shorter than the stream. -/
theorem length_rest_lt {limit : Nat} {bs line rest : Bytes} (h : cut limit bs = .line line rest) :
    rest.length < bs.length := by
  obtain ⟨body, rfl, -, -, rfl⟩ := cut_eq_line_iff.1 h
  simp only [List.length_append, List.length_singleton]
  omega

/-! ### Streams without a limit -/

/-- The lines of a stream, without their terminators, and the beginning of one more. -/
def lines : Bytes → List Bytes × Bytes
  | [] => ([], [])
  | b :: bs =>
    if b = terminator then ([] :: (lines bs).1, (lines bs).2)
    else match lines bs with
      | ([], rest) => ([], b :: rest)
      | (line :: more, rest) => ((b :: line) :: more, rest)

/-- A line without a terminator inside is read as it was written. -/
theorem lines_append_terminator {line : Bytes} (h : terminator ∉ line) (rest : Bytes) :
    lines (line ++ terminator :: rest) = (line :: (lines rest).1, (lines rest).2) := by
  induction line with
  | nil => simp [lines]
  | cons b line ih =>
    rw [List.mem_cons, not_or] at h
    simp [lines, Ne.symm h.1, ih h.2]

end SelfCheck.Wire
