import SelfCheck.Toml.Parser
import SelfCheck.Proofs.Toml.Strings
import Mathlib.Data.Nat.Digits.Defs
import Mathlib.Tactic.Common

/-!
# Written numbers are read back

The digits of a whole number at the end of a line are neither a date nor a time of day, and no
number in another base.

## Main results

* `Toml.numeral?_toDigits` — the digits of a number are read as the number
* `Toml.scalar?_toDigits` — a written number is read as the number, if it has 64 bits with a sign
-/

namespace SelfCheck.Toml

/-! ### Digits -/

theorem ne_of_isDigit {c d : Char} (h : c.isDigit = true) (other : d.isDigit = false) : c ≠ d := by
  rintro rfl
  cases h.symm.trans other

theorem digit?_of_isDigit {c : Char} (h : c.isDigit = true) :
    digit? 10 c = some (c.toNat - '0'.toNat) := by
  have bounds : 48 ≤ c.toNat ∧ c.toNat ≤ 57 := by
    simp only [Char.isDigit, Bool.and_eq_true, decide_eq_true_eq] at h
    exact ⟨h.1, h.2⟩
  have range : ('0' ≤ c && c ≤ '9') = true := h
  rw [digit?, if_pos range, Option.filter_some, if_pos]
  simp only [decide_eq_true_eq]
  have : '0'.toNat = 48 := rfl
  omega

theorem foldlM_digit?_of_isDigit {ds : List Char} (digits : ∀ d ∈ ds, d.isDigit = true)
    (seen : Nat) :
    ds.foldlM (fun n c => (digit? 10 c).map (n * 10 + ·)) seen =
      some (Nat.ofDigitChars 10 ds seen) := by
  induction ds generalizing seen with
  | nil => rfl
  | cons d ds ih =>
    obtain ⟨digit, digits⟩ := List.forall_mem_cons.1 digits
    rw [List.foldlM_cons, digit?_of_isDigit digit]
    rw [Nat.ofDigitChars, List.foldl_cons, Nat.mul_comm]
    exact ih digits _

theorem isDigit_toDigits (n : Nat) : ∀ d ∈ Nat.toDigits 10 n, d.isDigit = true := fun _ h =>
  Nat.isDigit_of_mem_toDigits (by decide) (by decide) h

/-- The digits of a number are read as the number. -/
theorem numeral?_toDigits (n : Nat) : numeral? 10 (Nat.toDigits 10 n) = some n := by
  rw [numeral?, foldlM_digit?_of_isDigit (isDigit_toDigits n),
    Nat.ofDigitChars_toDigits (by decide) (by decide)]

/-- Only zero is written with a zero in front. -/
theorem eq_zero_of_toDigits {n : Nat} {ds : List Char} (h : Nat.toDigits 10 n = '0' :: ds) :
    n = 0 := by
  induction n using Nat.strongRecOn generalizing ds with
  | ind n ih =>
    rw [Nat.toDigits_eq_if (by decide)] at h
    split_ifs at h with small
    · have digits : ∀ m < 10, Nat.digitChar m = '0' → m = 0 := by decide
      exact digits n small (List.cons.inj h).1
    · cases tens : Nat.toDigits 10 (n / 10) with
      | nil => exact absurd tens Nat.toDigits_ne_nil
      | cons d ds =>
        rw [tens] at h
        obtain ⟨rfl, -⟩ := List.cons.inj h
        have := ih (n / 10) (by omega) tens
        omega

section

variable {ds more : List Char}

/-- A run of digits ends at the end of the line. -/
theorem moreDigits_append (digits : ∀ d ∈ ds, d.isDigit = true) :
    moreDigits 10 (ds ++ '\n' :: more) = (ds, '\n' :: more) := by
  induction ds with
  | nil => cases more <;> rfl
  | cons d ds ih =>
    obtain ⟨digit, digits⟩ := List.forall_mem_cons.1 digits
    have first : (digit? 10 d).isSome = true := by rw [digit?_of_isDigit digit]; rfl
    have next := ih digits
    cases ds with
    | nil =>
      rw [List.singleton_append, moreDigits, if_pos first]
      rw [List.nil_append] at next
      rw [next]
    | cons e ds =>
      rw [List.cons_append, List.cons_append, moreDigits, if_pos first]
      rw [List.cons_append] at next
      rw [next]

theorem foldlM_digit?_of_mem {cs : List Char} (h : '\n' ∈ cs) (seen : Nat) :
    cs.foldlM (fun n c => (digit? 10 c).map (n * 10 + ·)) seen = none := by
  induction cs generalizing seen with
  | nil => cases h
  | cons c cs ih =>
    rw [List.foldlM_cons]
    cases first : (digit? 10 c).map (seen * 10 + ·) with
    | none => rfl
    | some n =>
      rcases List.mem_cons.1 h with rfl | h
      · cases first
      · exact ih h n

/-- A number of fixed width does not reach beyond the digits. -/
theorem fixedWidth?_append {width n : Nat} {rest : List Char}
    (h : fixedWidth? width (ds ++ '\n' :: more) = some (n, rest)) :
    rest = ds.drop width ++ '\n' :: more := by
  rw [fixedWidth?] at h
  split_ifs at h with wide
  obtain ⟨m, read, whole⟩ := Option.map_eq_some_iff.1 h
  -- Were it wider than the digits, the line feed behind them would be one of them.
  have within : width ≤ ds.length := by
    by_contra short
    have feed : '\n' ∈ (ds ++ '\n' :: more).take width := by
      obtain ⟨extra, rfl⟩ : ∃ extra, width = ds.length + (extra + 1) :=
        ⟨width - ds.length - 1, by omega⟩
      rw [List.take_length_add_append, List.take_succ_cons]
      simp
    rw [numeral?, foldlM_digit?_of_mem feed] at read
    cases read
  rw [← (Prod.mk.inj whole).2, List.drop_append_of_le_length within]

theorem after?_append {c : Char} (digits : ∀ d ∈ ds, d.isDigit = true) (other : c.isDigit = false)
    (feed : c ≠ '\n') : after? c (ds ++ '\n' :: more) = none := by
  cases ds with
  | nil => exact if_neg feed.symm
  | cons d ds => exact if_neg (ne_of_isDigit (digits d List.mem_cons_self) other)

/-- Digits alone are neither a date nor a time of day. -/
theorem moment?_append (digits : ∀ d ∈ ds, d.isDigit = true) :
    moment? (ds ++ '\n' :: more) = none := by
  -- Whatever the width, digits or the end of the line come next, and neither mark.
  have noMark {c : Char} (other : c.isDigit = false) (feed : c ≠ '\n') {width n : Nat}
      {rest : List Char} (h : fixedWidth? width (ds ++ '\n' :: more) = some (n, rest)) :
      after? c rest = none := by
    rw [fixedWidth?_append h]
    exact after?_append (fun d h => digits d (List.mem_of_mem_drop h)) other feed
  have date : date? (ds ++ '\n' :: more) = none := by
    rw [date?]
    cases year : fixedWidth? 4 (ds ++ '\n' :: more) with
    | none => rfl
    | some found =>
      dsimp only [bind, Option.bind]
      rw [noMark (by decide) (by decide) year]
  have time : time? (ds ++ '\n' :: more) = none := by
    rw [time?]
    cases hour : fixedWidth? 2 (ds ++ '\n' :: more) with
    | none => rfl
    | some found =>
      dsimp only [bind, Option.bind]
      rw [noMark (by decide) (by decide) hour]
  rw [moment?, date]
  exact time

end

/-- The digits of a number begin with a zero only if there are no others. -/
theorem exists_toDigits (n : Nat) : ∃ d ds, Nat.toDigits 10 n = d :: ds ∧
    (∀ e ∈ d :: ds, e.isDigit = true) ∧ (d = '0' → ds = []) := by
  have digits := isDigit_toDigits n
  cases written : Nat.toDigits 10 n with
  | nil => exact absurd written Nat.toDigits_ne_nil
  | cons d ds =>
    refine ⟨d, ds, rfl, written ▸ digits, fun zero => ?_⟩
    subst d
    rw [eq_zero_of_toDigits written] at written
    exact (List.cons.inj written).2.symm

section

variable {n : Nat} (more : List Char)

theorem whole?_toDigits :
    whole? (Nat.toDigits 10 n ++ '\n' :: more) = some (Nat.toDigits 10 n, '\n' :: more) := by
  obtain ⟨d, ds, written, digits, alone⟩ := exists_toDigits n
  rw [written]
  by_cases zero : d = '0'
  · rw [alone zero, zero]
    rfl
  · obtain ⟨first, digits⟩ := List.forall_mem_cons.1 digits
    rw [List.cons_append, whole?, digits?, digit?_of_isDigit first, moreDigits_append digits]
    · rfl
    · exact fun _ h => zero (List.cons.inj h).1

/-- A whole number has no fraction and no exponent. -/
theorem decimal?_toDigits (fits : n < Nat.pow 2 63) :
    decimal? false (Nat.toDigits 10 n ++ '\n' :: more) = some (.integer n, '\n' :: more) := by
  have noFraction : fraction? ('\n' :: more) = none := rfl
  have noExponent : exponent? ('\n' :: more) = none := rfl
  have plain : integer? false n = some (.integer n) := if_pos fits
  rw [decimal?, whole?_toDigits]
  simp only [Option.bind_eq_bind, Option.bind_some, noFraction, noExponent, numeral?_toDigits,
    plain]

/-- The digits of a number are not taken for a number in another base. -/
theorem number?_toDigits (fits : n < Nat.pow 2 63) :
    number? (Nat.toDigits 10 n ++ '\n' :: more) = some (.integer n, '\n' :: more) := by
  have read := decimal?_toDigits more fits
  obtain ⟨d, ds, written, digits, alone⟩ := exists_toDigits n
  rw [written] at read ⊢
  by_cases zero : d = '0'
  · rw [alone zero, zero] at read ⊢
    exact read
  · have other {e : Char} (h : e.isDigit = false) : d ≠ e :=
      ne_of_isDigit (digits d List.mem_cons_self) h
    rw [List.cons_append, number?]
    · have unsigned : sign (d :: (ds ++ '\n' :: more)) = (false, d :: (ds ++ '\n' :: more)) := by
        rw [sign]
        · exact fun _ h => other (by decide) (List.cons.inj h).1
        · exact fun _ h => other (by decide) (List.cons.inj h).1
      rw [unsigned]
      dsimp only
      split
      · next h => exact absurd (List.cons.inj h).1 (other (by decide))
      · next h => exact absurd (List.cons.inj h).1 (other (by decide))
      · exact read
    all_goals exact fun _ h => zero (List.cons.inj h).1

/-- A written number is read as the number, and the reader stops at the end of the line. -/
theorem scalar?_toDigits (fits : n < Nat.pow 2 63) :
    scalar? (Nat.toDigits 10 n ++ '\n' :: more) = some (.integer n, '\n' :: more) := by
  have read := number?_toDigits more fits
  obtain ⟨d, ds, written, digits, -⟩ := exists_toDigits n
  have noMoment := @moment?_append _ more digits
  have other {e : Char} (h : e.isDigit = false) : d ≠ e :=
    ne_of_isDigit (digits d List.mem_cons_self) h
  rw [written] at read ⊢
  rw [List.cons_append] at read noMoment ⊢
  have noString : string? (d :: (ds ++ '\n' :: more)) = none := by
    rw [string?]
    all_goals exact fun _ h => other (by decide) (List.cons.inj h).1
  rw [scalar?, noString, noMoment, read]
  all_goals exact fun _ h => other (by decide) (List.cons.inj h).1

end

end SelfCheck.Toml
