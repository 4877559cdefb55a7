import SelfCheck.Proofs.Json.RoundTrip
import Mathlib.Data.List.TakeWhile

/-!
# The parts of a JSON text

A text is made of marks, words, string literals and numbers, with blanks between them. A character
of a string may be written as it is or in an escape, and a number in many ways that mean the same.
Here the parts are told by what their writer has chosen; whatever is chosen is read to its end, and
nothing else is read.

## Main definitions

* `Json.Blanks`, `Json.Literal`, `Json.Numeral` — blanks, a string literal and a number
* `Json.Ends` — what may follow a number

## Main results

* `Json.Literal.string?_append`, `Json.exists_string` — what is read as a string
* `Json.Numeral.number?_append`, `Json.exists_numeral` — what is read as a number
-/

namespace SelfCheck.Json

/-! ### Blanks -/

/-- Blanks, which may stand around every value and mark. -/
abbrev Blanks := { bs : Bytes // ∀ b ∈ bs, isSpace b = true }

/-- No blanks. -/
def Blanks.none : Blanks := ⟨[], fun _ h => absurd h List.not_mem_nil⟩

/-- Blanks followed by more of them. -/
def Blanks.append (bl cl : Blanks) : Blanks :=
  ⟨bl.1 ++ cl.1, fun b h => (List.mem_append.mp h).elim (bl.2 b) (cl.2 b)⟩

/-- Blanks are skipped. -/
theorem Blanks.skipSpace_append (bl : Blanks) (bs : Bytes) :
    skipSpace (bl.1 ++ bs) = skipSpace bs :=
  List.dropWhile_append_of_pos bl.2

/-- Blanks are skipped up to a byte that is none. -/
theorem Blanks.skipSpace_cons (bl : Blanks) {b : UInt8} (solid : isSpace b = false) (bs : Bytes) :
    skipSpace (bl.1 ++ b :: bs) = b :: bs := by
  rw [bl.skipSpace_append, Json.skipSpace_cons solid]

/-- What is skipped are blanks. -/
theorem exists_blanks (bs : Bytes) : ∃ bl : Blanks, bs = bl.1 ++ skipSpace bs :=
  ⟨⟨bs.takeWhile isSpace, fun _ h => List.mem_takeWhile_imp h⟩,
    List.takeWhile_append_dropWhile.symm⟩

/-! ### String literals -/

/-- A mark in a string literal: a byte that stands for itself, an escape by a letter, or one by the
number of a code unit. -/
inductive Mark where
  | plain (b : UInt8) (stands : IsPlain b)
  | letter (e p : UInt8) (meant : escaped? e = some p)
  | unit (a b c d : UInt8) (u : Nat) (meant : unit? a b c d = some u)

namespace Mark

/-- The bytes of a mark. -/
def bytes : Mark → Bytes
  | plain b _ => [b]
  | letter e _ _ => ['\\'.toUInt8, e]
  | unit a b c d _ _ => ['\\'.toUInt8, 'u'.toUInt8, a, b, c, d]

/-- The piece that a mark stands for. -/
def piece : Mark → Piece
  | plain b _ => .plain b
  | letter _ p _ => .plain p
  | unit _ _ _ _ u _ => .unit u

end Mark

/-- The marks of a string literal. -/
abbrev Literal := List Mark

namespace Literal

/-- The bytes of a literal behind its opening quote. -/
def bytes (l : Literal) : Bytes := l.flatMap Mark.bytes ++ ['"'.toUInt8]

/-- The text of a literal; `none` when its content is no Unicode text. -/
def text? (l : Literal) : Option String := (assemble? [] (l.map Mark.piece)).bind Bytes.text?

/-- A literal is read mark by mark, to its closing quote. -/
theorem literal?_append (l : Literal) (seen : List Piece) (rest : Bytes) :
    literal? seen (l.bytes ++ rest) = some (seen.reverse ++ l.map Mark.piece, rest) := by
  induction l generalizing seen with
  | nil =>
    rw [List.map_nil, List.append_nil]
    change literal? seen ('"'.toUInt8 :: rest) = _
    rw [literal?.eq_def]
    simp
  | cons m l ih =>
    have first : literal? seen (m.bytes ++ (bytes l ++ rest)) =
        literal? (m.piece :: seen) (bytes l ++ rest) := by
      cases m with
      | plain b stands => exact literal?_plain stands seen _
      | letter e p meant =>
        refine literal?_escaped ?_ meant seen _
        rintro rfl
        cases meant
      | unit a b c d u meant => exact literal?_unit meant seen _
    have text : bytes (m :: l) ++ rest = m.bytes ++ (bytes l ++ rest) := by
      simp [bytes]
    rw [text, first, ih]
    simp

theorem string?_append (l : Literal) (rest : Bytes) :
    string? (l.bytes ++ rest) = some (l.text?, rest) := by
  rw [string?, literal?_append, Option.map_some]
  rfl

instance (b : UInt8) : Decidable (IsPlain b) := inferInstanceAs (Decidable (_ ∧ _ ∧ _))

/-- The literal in which every byte of a text stands for itself. -/
def ofText (s : String) (plain : (Bytes.ofText s).all (IsPlain ·) = true) : Literal :=
  (Bytes.ofText s).attach.map fun b => .plain b.1 (by simpa using List.all_eq_true.mp plain b.1 b.2)

@[simp] theorem text?_ofText (s : String) (plain : (Bytes.ofText s).all (IsPlain ·) = true) :
    (ofText s plain).text? = some s := by
  have stands : ∀ b ∈ Bytes.ofText s, IsPlain b := by simpa using plain
  have pieces : (ofText s plain).map Mark.piece = (Bytes.ofText s).map .plain := by
    rw [ofText, List.map_map]
    exact List.attach_map_val
  have spelled := (renders_plain stands).spelled [] []
  rw [List.append_nil, List.append_nil, assemble?, List.reverse_reverse] at spelled
  rw [text?, pieces, spelled, Option.bind_some, Bytes.text?_ofText]

end Literal

/-- A mark in front of a literal. -/
theorem exists_literal_cons {seen ps : List Piece} {bs rest : Bytes} (m : Mark)
    (h : ∃ l : Literal, bs = l.bytes ++ rest ∧
      ps = (m.piece :: seen).reverse ++ l.map Mark.piece) :
    ∃ l : Literal, m.bytes ++ bs = l.bytes ++ rest ∧ ps = seen.reverse ++ l.map Mark.piece := by
  obtain ⟨l, rfl, rfl⟩ := h
  exact ⟨m :: l, by simp [Literal.bytes], by simp⟩

/-- What is read as pieces is a literal. -/
theorem exists_literal {seen ps : List Piece} {bs rest : Bytes}
    (h : literal? seen bs = some (ps, rest)) :
    ∃ l : Literal, bs = l.bytes ++ rest ∧ ps = seen.reverse ++ l.map Mark.piece := by
  -- By the cases of the reader: the end, the three kinds of mark, and those in which it fails.
  fun_induction literal? seen bs with
  | case2 seen bs =>
    cases h
    exact ⟨[], rfl, by simp⟩
  | case4 seen a b c d bs u meant _ ih => exact exists_literal_cons (.unit a b c d u meant) (ih h)
  | case7 seen e bs _ p meant _ ih => exact exists_literal_cons (.letter e p meant) (ih h)
  | case10 seen b bs quote backslash control ih =>
    exact exists_literal_cons (.plain b ⟨quote, backslash, control⟩) (ih h)
  | case1 | case3 | case5 | case6 | case8 | case9 => cases h

theorem exists_string {text : Option String} {bs rest : Bytes}
    (h : string? bs = some (text, rest)) :
    ∃ l : Literal, bs = l.bytes ++ rest ∧ l.text? = text := by
  obtain ⟨⟨ps, rest'⟩, read, same⟩ := Option.map_eq_some_iff.mp h
  obtain ⟨l, rfl, rfl⟩ := exists_literal read
  cases same
  exact ⟨l, rfl, rfl⟩

/-! ### Numbers -/

/-- Digits, at least one. -/
abbrev Digits := { ds : Bytes // ds ≠ [] ∧ ∀ b ∈ ds, isDigit b = true }

theorem Digits.exists_eq_cons (ds : Digits) : ∃ d more, ds.1 = d :: more ∧ isDigit d = true ∧
    ∀ b ∈ more, isDigit b = true := by
  obtain ⟨ds, some, digits⟩ := ds
  obtain ⟨d, more, rfl⟩ := List.exists_cons_of_ne_nil some
  exact ⟨d, more, rfl, List.forall_mem_cons.mp digits⟩

/-- The exponent of a number. -/
structure Exponent where
  mark : UInt8
  isMark : mark = 'e'.toUInt8 ∨ mark = 'E'.toUInt8
  sign : Bytes
  isSign : sign = [] ∨ sign = ['+'.toUInt8] ∨ sign = ['-'.toUInt8]
  digits : Digits

/-- A number with all that its writer has chosen. -/
structure Numeral where
  negative : Bool
  whole : Digits
  /-- No zero leads other digits. -/
  single_of_zero : ∀ ds, whole.1 = '0'.toUInt8 :: ds → ds = []
  fraction : Option Digits
  exponent : Option Exponent

namespace Numeral

/-- The bytes of a sign. -/
def signBytes (negative : Bool) : Bytes := if negative then ['-'.toUInt8] else []

/-- The bytes of a fraction. -/
def fractionBytes : Option Digits → Bytes
  | none => []
  | some ds => '.'.toUInt8 :: ds.1

/-- The bytes of an exponent. -/
def exponentBytes : Option Exponent → Bytes
  | none => []
  | some e => e.mark :: (e.sign ++ e.digits.1)

/-- The bytes of a number. -/
def bytes (n : Numeral) : Bytes :=
  signBytes n.negative ++ (n.whole.1 ++ (fractionBytes n.fraction ++ exponentBytes n.exponent))

end Numeral

/-- Some bytes do not go on with a number. -/
def Ends (rest : Bytes) : Prop :=
  ∀ b ∈ rest.head?, isDigit b = false ∧ b ≠ '.'.toUInt8 ∧ b ≠ 'e'.toUInt8 ∧ b ≠ 'E'.toUInt8

section

variable {rest bs : Bytes}

theorem dropWhile_digits {ds : Bytes} (digits : ∀ b ∈ ds, isDigit b = true)
    (other : ∀ b ∈ rest.head?, isDigit b = false) : (ds ++ rest).dropWhile isDigit = rest := by
  rw [List.dropWhile_append_of_pos digits]
  cases rest with
  | nil => rfl
  | cons b rest =>
    rw [List.dropWhile_cons, other b rfl]
    rfl

theorem digits?_append (ds : Digits) (other : ∀ b ∈ rest.head?, isDigit b = false) :
    digits? (ds.1 ++ rest) = some rest := by
  obtain ⟨d, more, spelled, digit, digits⟩ := ds.exists_eq_cons
  rw [spelled, List.cons_append, digits?, if_pos digit, dropWhile_digits digits other]

theorem exponent?_append (e : Option Exponent) (ends : Ends rest) :
    exponent? (Numeral.exponentBytes e ++ rest) = some rest := by
  cases e with
  | none =>
    rw [Numeral.exponentBytes, List.nil_append]
    cases rest with
    | nil => rfl
    | cons b rest =>
      obtain ⟨-, -, lower, upper⟩ := ends b rfl
      simp [exponent?, lower, upper]
  | some e =>
    have skipped : skipSign (e.sign ++ (e.digits.1 ++ rest)) = e.digits.1 ++ rest := by
      rcases e.isSign with sign | sign | sign
      · -- A digit is no sign.
        obtain ⟨d, more, spelled, digit, -⟩ := e.digits.exists_eq_cons
        have plus : d ≠ '+'.toUInt8 := fun h => absurd digit (by rw [h]; decide)
        have minus : d ≠ '-'.toUInt8 := fun h => absurd digit (by rw [h]; decide)
        rw [sign, spelled]
        simp [skipSign, plus, minus]
      · rw [sign]
        rfl
      · rw [sign]
        rfl
    have marked : (e.mark = 'e'.toUInt8 || e.mark = 'E'.toUInt8) = true := by
      simpa using e.isMark
    rw [Numeral.exponentBytes, List.cons_append, List.append_assoc, exponent?, if_pos marked,
      skipped]
    exact digits?_append e.digits fun b h => (ends b h).1

/-- What follows the digits of a number is no digit. -/
theorem not_isDigit_of_exponent (e : Option Exponent) (ends : Ends rest) :
    ∀ b ∈ (Numeral.exponentBytes e ++ rest).head?, isDigit b = false ∧ b ≠ '.'.toUInt8 := by
  cases e with
  | none => exact fun b h => ⟨(ends b h).1, (ends b h).2.1⟩
  | some e =>
    rintro b ⟨⟩
    rcases e.isMark with h | h <;> rw [h] <;> decide

theorem fraction?_append (f : Option Digits) (e : Option Exponent) (ends : Ends rest) :
    fraction? (Numeral.fractionBytes f ++ (Numeral.exponentBytes e ++ rest)) =
      some (Numeral.exponentBytes e ++ rest) := by
  have next := not_isDigit_of_exponent e ends
  cases f with
  | none =>
    rw [Numeral.fractionBytes, List.nil_append]
    cases h : Numeral.exponentBytes e ++ rest with
    | nil => rfl
    | cons b more =>
      rw [h] at next
      rw [fraction?, if_neg (next b rfl).2]
  | some ds =>
    rw [Numeral.fractionBytes, List.cons_append, fraction?, if_pos rfl]
    exact digits?_append ds fun b h => (next b h).1

/-- What follows the digits in front of a number is none. -/
theorem not_isDigit_of_fraction (f : Option Digits) (e : Option Exponent) (ends : Ends rest) :
    ∀ b ∈ (Numeral.fractionBytes f ++ (Numeral.exponentBytes e ++ rest)).head?,
      isDigit b = false := by
  cases f with
  | none => exact fun b h => (not_isDigit_of_exponent e ends b h).1
  | some ds =>
    rintro b ⟨⟩
    decide

namespace Numeral

theorem magnitude?_append (n : Numeral) (ends : Ends rest) :
    magnitude? (n.whole.1 ++ (fractionBytes n.fraction ++ (exponentBytes n.exponent ++ rest))) =
      some rest := by
  have behind : fraction? (fractionBytes n.fraction ++ (exponentBytes n.exponent ++ rest)) >>=
      exponent? = some rest := by
    rw [fraction?_append _ _ ends]
    exact exponent?_append _ ends
  obtain ⟨d, more, spelled, digit, digits⟩ := n.whole.exists_eq_cons
  rw [spelled, List.cons_append, magnitude?]
  by_cases zero : d = '0'.toUInt8
  · obtain rfl : more = [] := n.single_of_zero more (zero ▸ spelled)
    rw [if_pos zero]
    exact behind
  · have later := dropWhile_digits digits (not_isDigit_of_fraction n.fraction n.exponent ends)
    rw [if_neg zero, if_pos digit, later]
    exact behind

/-- A number begins with its sign or a digit. -/
theorem exists_bytes_eq_cons (n : Numeral) :
    ∃ b bs, n.bytes = b :: bs ∧ (b = '-'.toUInt8 ∨ isDigit b = true) := by
  unfold bytes
  cases n.negative with
  | true => exact ⟨_, _, rfl, .inl rfl⟩
  | false =>
    obtain ⟨d, more, spelled, digit, -⟩ := n.whole.exists_eq_cons
    rw [spelled]
    exact ⟨d, _, rfl, .inr digit⟩

/-- A number is read to its end. -/
theorem number?_append (n : Numeral) (ends : Ends rest) :
    number? (n.bytes ++ rest) = some rest := by
  have read := n.magnitude?_append ends
  rw [bytes, List.append_assoc, List.append_assoc, List.append_assoc]
  cases n.negative with
  | true =>
    rw [show signBytes true = ['-'.toUInt8] from rfl, List.singleton_append, number?, if_pos rfl,
      read]
  | false =>
    obtain ⟨d, more, spelled, digit, -⟩ := n.whole.exists_eq_cons
    have unsigned : d ≠ '-'.toUInt8 := fun h => absurd digit (by rw [h]; decide)
    rw [spelled, List.cons_append] at read ⊢
    rw [show signBytes false = [] from rfl, List.nil_append, number?, if_neg unsigned, read]

end Numeral

theorem exists_digits (h : digits? bs = some rest) : ∃ ds : Digits, bs = ds.1 ++ rest := by
  unfold digits? at h
  split at h
  · cases h
  · next b bs =>
    split_ifs at h with first
    cases h
    refine ⟨⟨b :: bs.takeWhile isDigit, List.cons_ne_nil _ _, ?_⟩, ?_⟩
    · exact List.forall_mem_cons.mpr ⟨first, fun _ h => List.mem_takeWhile_imp h⟩
    · rw [List.cons_append, List.takeWhile_append_dropWhile]

theorem exists_fraction (h : fraction? bs = some rest) :
    ∃ f, bs = Numeral.fractionBytes f ++ rest := by
  unfold fraction? at h
  split at h
  · cases h
    exact ⟨none, rfl⟩
  · next b bs =>
    split_ifs at h with point
    · obtain ⟨ds, rfl⟩ := exists_digits h
      exact ⟨some ds, point ▸ rfl⟩
    · cases h
      exact ⟨none, rfl⟩

theorem exists_sign (bs : Bytes) :
    ∃ sign, (sign = [] ∨ sign = ['+'.toUInt8] ∨ sign = ['-'.toUInt8]) ∧
      bs = sign ++ skipSign bs := by
  unfold skipSign
  split
  · exact ⟨[], .inl rfl, rfl⟩
  · next b bs =>
    split_ifs with signed
    · rcases (Bool.or_eq_true _ _).mp signed with plus | minus
      · exact ⟨_, .inr (.inl rfl), by rw [of_decide_eq_true plus]; rfl⟩
      · exact ⟨_, .inr (.inr rfl), by rw [of_decide_eq_true minus]; rfl⟩
    · exact ⟨[], .inl rfl, rfl⟩

theorem exists_exponent (h : exponent? bs = some rest) :
    ∃ e, bs = Numeral.exponentBytes e ++ rest := by
  unfold exponent? at h
  split at h
  · cases h
    exact ⟨none, rfl⟩
  · next b bs =>
    split_ifs at h with marked
    · obtain ⟨sign, isSign, split⟩ := exists_sign bs
      obtain ⟨ds, digits⟩ := exists_digits h
      rw [digits, ← List.append_assoc] at split
      exact ⟨some ⟨b, by simpa using marked, sign, isSign, ds⟩, congrArg (b :: ·) split⟩
    · cases h
      exact ⟨none, rfl⟩

theorem exists_magnitude (h : magnitude? bs = some rest) :
    ∃ (ds : Digits) (f : Option Digits) (e : Option Exponent),
      (∀ more, ds.1 = '0'.toUInt8 :: more → more = []) ∧
        bs = ds.1 ++ (Numeral.fractionBytes f ++ (Numeral.exponentBytes e ++ rest)) := by
  unfold magnitude? at h
  split at h
  · cases h
  · next b bs =>
    split_ifs at h with zero digit
    · obtain ⟨behind, point, mark⟩ := Option.bind_eq_some_iff.mp h
      obtain ⟨f, rfl⟩ := exists_fraction point
      obtain ⟨e, rfl⟩ := exists_exponent mark
      refine ⟨⟨[b], List.cons_ne_nil _ _, ?_⟩, f, e, ?_, rfl⟩
      · exact List.forall_mem_singleton.mpr (zero ▸ by decide)
      · exact fun more same => (List.cons.inj same).2.symm
    · obtain ⟨behind, point, mark⟩ := Option.bind_eq_some_iff.mp h
      obtain ⟨f, split⟩ := exists_fraction point
      obtain ⟨e, rfl⟩ := exists_exponent mark
      refine ⟨⟨b :: bs.takeWhile isDigit, List.cons_ne_nil _ _, ?_⟩, f, e, ?_, ?_⟩
      · exact List.forall_mem_cons.mpr ⟨digit, fun _ h => List.mem_takeWhile_imp h⟩
      · exact fun more same => absurd (List.cons.inj same).1 zero
      · rw [← split, List.cons_append, List.takeWhile_append_dropWhile]

/-- What is read as a number is one. -/
theorem exists_numeral (h : number? bs = some rest) : ∃ n : Numeral, bs = n.bytes ++ rest := by
  unfold number? at h
  split at h
  · cases h
  · next b bs =>
    split_ifs at h with minus
    · obtain ⟨ds, f, e, single, rfl⟩ := exists_magnitude h
      exact ⟨⟨true, ds, single, f, e⟩, by simp [Numeral.bytes, Numeral.signBytes, minus]⟩
    · obtain ⟨ds, f, e, single, split⟩ := exists_magnitude h
      exact ⟨⟨false, ds, single, f, e⟩, by simp [Numeral.bytes, Numeral.signBytes, split]⟩

end

end SelfCheck.Json
