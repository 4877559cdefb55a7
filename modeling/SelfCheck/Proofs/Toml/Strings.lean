import SelfCheck.Toml.Text
import Mathlib.Data.List.Basic
import Mathlib.Data.List.Infix
import Mathlib.Tactic.Common

/-!
# Written strings are read back

Whatever a text holds, the form that is chosen for it shows all of it. Where characters are escaped,
each is read back by itself. Quotes between three quotes are the hard part: never more than two of
them stand together, and if these come last, the reader finds five quotes in a row and gives the
first two to the text.

## Main results

* `Toml.Printer.le_longestRun` — no run is longer than the longest
* `Toml.multiBasic?_lines`, `Toml.multiLiteral?_append` — the forms of several lines are read back
* `Toml.string?_string` — a written string is read as the text
-/

namespace SelfCheck.Toml

open Printer

/-! ### Characters between double quotes -/

/-- Ways to show a character between double quotes. -/
inductive Shows (c : Char) : List Char → Prop where
  | itself (basic : isBasic c = true) : Shows c [c]
  | letter (e : Char) (means : escaped? e = some c) : Shows c ['\\', e]
  | code (x y z w : Char) (means : codePoint? [x, y, z, w] = some c) :
    Shows c ['\\', 'u', x, y, z, w]

/-- The two digits of a control character. -/
theorem codePoint?_digits : ∀ n < 0x80, codePoint?
    ['0', '0', Nat.digitChar (n / 16), (Nat.digitChar (n % 16)).toUpper] = some (Char.ofNat n) := by
  decide

/-- A character that needs no escape stands for itself, on its line or between lines. -/
theorem isPlain_of_needsCode {c : Char} (h : needsCode c = false) :
    isPlain c = true ∨ c = '\n' := by
  by_cases tab : c = '\t'
  · exact .inl (by simp [isPlain, tab])
  by_cases feed : c = '\n'
  · exact .inr feed
  · simp only [needsCode, Bool.or_eq_false_iff, Bool.and_eq_false_iff, decide_eq_false_iff_not,
      not_not, tab, feed, or_false] at h
    simp only [isPlain, Bool.or_eq_true, Bool.and_eq_true, decide_eq_true_eq]
    omega

theorem shows_escape (c : Char) : Shows c (escape c) := by
  unfold escape
  split_ifs with b t n f r quote backslash code
  iterate 7
    · subst c
      exact .letter _ rfl
  · have small : c.toNat < 0x80 := by
      simp only [needsCode, Bool.or_eq_true, Bool.and_eq_true, decide_eq_true_eq] at code
      omega
    refine .code _ _ _ _ ?_
    rw [codePoint?_digits _ small, Char.ofNat_toNat]
  · have plain := (isPlain_of_needsCode (Bool.eq_false_iff.2 code)).resolve_right n
    exact .itself (by simp [isBasic, plain, quote, backslash])

/-- What a reader has found, with one more character in front. -/
def with? (c : Char) : Option (List Char × List Char) → Option (List Char × List Char) :=
  Option.map fun (text, rest) => (c :: text, rest)

theorem ne_of_isBasic {c : Char} (h : isBasic c = true) : c ≠ '"' ∧ c ≠ '\\' ∧ c ≠ '\r' := by
  refine ⟨?_, ?_, ?_⟩ <;> rintro rfl <;> cases h

theorem Shows.basic? {c : Char} {shown : List Char} (h : Shows c shown) (more : List Char) :
    basic? (shown ++ more) = with? c (basic? more) := by
  cases h with
  | itself basic =>
    obtain ⟨quote, backslash, -⟩ := ne_of_isBasic basic
    rw [List.singleton_append, Toml.basic?, if_pos basic, with?]
    all_goals simp_all
  | letter e means =>
    have plain : e ≠ 'u' ∧ e ≠ 'U' := by constructor <;> rintro rfl <;> cases means
    rw [List.cons_append, List.singleton_append, Toml.basic?, means]
    · rfl
    all_goals simp [plain]
  | code x y z w means =>
    change Toml.basic? ('\\' :: 'u' :: x :: y :: z :: w :: more) = _
    rw [Toml.basic?, means]
    rfl

theorem Shows.multiBasic? {c : Char} {shown : List Char} (h : Shows c shown) (more : List Char) :
    multiBasic? false (shown ++ more) = with? c (multiBasic? false more) := by
  cases h with
  | itself basic =>
    obtain ⟨quote, backslash, ret⟩ := ne_of_isBasic basic
    rw [List.singleton_append, Toml.multiBasic?]
    all_goals simp_all [with?]
  | letter e means =>
    have plain : e ≠ 'u' ∧ e ≠ 'U' := by constructor <;> rintro rfl <;> cases means
    rw [List.cons_append, List.singleton_append, Toml.multiBasic?, means]
    · rfl
    all_goals simp [plain]
  | code x y z w means =>
    change Toml.multiBasic? false ('\\' :: 'u' :: x :: y :: z :: w :: more) = _
    rw [Toml.multiBasic?, means]
    rfl

/-- A text whose characters are escaped is read back. -/
theorem basic?_escape (cs rest : List Char) :
    basic? (cs.flatMap escape ++ '"' :: rest) = some (cs, rest) := by
  induction cs with
  | nil => rfl
  | cons c cs ih =>
    rw [List.flatMap_cons, List.append_assoc, (shows_escape c).basic?, ih]
    rfl

/-! ### Quotes between three quotes -/

/-- What comes next, if anything, is some other character. -/
def Avoids (c : Char) (cs : List Char) : Prop := cs.head? ≠ some c

/-- What ends a text between three quotes. -/
def closing (quote : Char) (rest : List Char) : List Char := quote :: quote :: quote :: rest

section

variable {quote : Char} {rest more : List Char} {count : Nat}

/-- Up to two quotes more than three belong to the text. -/
theorem close_replicate (few : count ≤ 2) (after : Avoids quote rest) :
    close quote (List.replicate count quote ++ rest) = (List.replicate count quote, rest) := by
  have other : ∀ c cs, rest = c :: cs → c ≠ quote := by
    rintro c cs rfl rfl
    exact after rfl
  match count with
  | 0 => cases rest with
    | nil => rfl
    | cons c cs =>
      have := other c cs rfl
      cases cs <;> simp [close, this]
  | 1 => cases rest with
    | nil => simp [close]
    | cons c cs => simp [close, other c cs rfl]
  | 2 => simp [close, List.replicate]

theorem replicate_append_closing :
    List.replicate count quote ++ closing quote rest =
      closing quote (List.replicate count quote ++ rest) := by
  have three : ∀ cs, closing quote cs = List.replicate 3 quote ++ cs := fun _ => rfl
  rw [three, three, ← List.append_assoc, ← List.append_assoc, List.replicate_append_replicate,
    List.replicate_append_replicate, Nat.add_comm]

/-- Text that ends in quotes is told from the three that end it. -/
theorem multiBasic?_closing (few : count ≤ 2) (after : Avoids '"' rest) :
    multiBasic? false (List.replicate count '"' ++ closing '"' rest) =
      some (List.replicate count '"', rest) := by
  rw [replicate_append_closing, closing, multiBasic?, close_replicate few after]

theorem multiLiteral?_closing (few : count ≤ 2) (after : Avoids '\'' rest) :
    multiLiteral? (List.replicate count '\'' ++ closing '\'' rest) =
      some (List.replicate count '\'', rest) := by
  rw [replicate_append_closing, closing, multiLiteral?, close_replicate few after]

/-- A quote stands for itself unless two more come. -/
theorem multiBasic?_quote (alone : ∀ cs, more ≠ '"' :: '"' :: cs) :
    multiBasic? false ('"' :: more) = with? '"' (multiBasic? false more) := by
  rw [multiBasic?]
  · simp [with?]
  all_goals simp [alone]

theorem multiBasic?_feed (more : List Char) :
    multiBasic? false ('\n' :: more) = with? '\n' (multiBasic? false more) := by
  rw [multiBasic?]
  · simp [with?]
  all_goals simp

theorem multiLiteral?_quote (alone : ∀ cs, more ≠ '\'' :: '\'' :: cs) :
    multiLiteral? ('\'' :: more) = with? '\'' (multiLiteral? more) := by
  rw [multiLiteral?]
  · simp [with?, isPlain]
  all_goals simp [alone]

theorem multiLiteral?_cons {c : Char} (other : c ≠ '\'') (stays : isPlain c = true ∨ c = '\n') :
    multiLiteral? (c :: more) = with? c (multiLiteral? more) := by
  have noReturn : c ≠ '\r' := by
    rintro rfl
    simp [isPlain] at stays
  rw [multiLiteral?]
  · simp [with?, stays]
  all_goals simp [other, noReturn]

theorem Avoids.ne_pair (h : Avoids quote more) (cs : List Char) : more ≠ quote :: quote :: cs := by
  rintro rfl
  exact h rfl

theorem Avoids.cons_ne_pair (h : Avoids quote more) (cs : List Char) :
    quote :: more ≠ quote :: quote :: cs := by
  rintro h'
  cases h'
  exact h rfl

end

/-! ### Strings of several lines -/

/-- What shows a character begins with one that may stand between double quotes. -/
theorem Shows.avoids {c d : Char} {shown : List Char} (h : Shows c shown)
    (special : isBasic d = false ∧ d ≠ '\\') (more : List Char) : Avoids d (shown ++ more) := by
  cases h with
  | itself basic =>
    rintro ⟨⟩
    cases basic.symm.trans special.1
  | letter e means => exact fun h => special.2 (Option.some.inj h).symm
  | code x y z w means => exact fun h => special.2 (Option.some.inj h).symm

/-- No quote comes after two. -/
theorem avoids_lines {run : Nat} {c : Char} (h : c ≠ '"' ∨ 2 ≤ run) (cs more : List Char) :
    Avoids '"' (lines run (c :: cs) ++ more) := by
  rw [lines]
  split_ifs with feed quote few
  · exact fun h => nomatch h
  · grind
  · rw [List.append_assoc]
    exact (shows_escape '"').avoids (by decide) _
  · rw [List.append_assoc]
    exact (shows_escape c).avoids (by decide) _

theorem lines_replicate {run count : Nat} (few : run + count ≤ 2) :
    lines run (List.replicate count '"') = List.replicate count '"' := by
  induction count generalizing run with
  | zero => rfl
  | succ count ih =>
    rw [List.replicate_succ, lines, if_neg (by decide), if_pos rfl, if_pos (by omega),
      ih (by omega)]

/-- Behind a quote that is not escaped there is no pair of them, unless the text ends in it. -/
theorem pair_lines {run : Nat} (room : run < 2) (cs : List Char) :
    (∃ count, run + 1 + count ≤ 2 ∧ cs = List.replicate count '"') ∨
      ∀ more pair, lines (run + 1) cs ++ more ≠ '"' :: '"' :: pair := by
  match cs with
  | [] => exact .inl ⟨0, by omega, rfl⟩
  | c :: cs =>
    by_cases second : c = '"' ∧ run = 0
    · obtain ⟨rfl, rfl⟩ := second
      match cs with
      | [] => exact .inl ⟨1, by omega, rfl⟩
      | d :: cs => exact .inr fun more => (avoids_lines (.inr (by decide)) cs more).cons_ne_pair
    · have other : c ≠ '"' ∨ 2 ≤ run + 1 := by grind
      exact .inr fun more => (avoids_lines other cs more).ne_pair

/-- A text is read back from its lines, whether or not a few quotes have been read before. -/
theorem multiBasic?_lines (cs : List Char) {run : Nat} {rest : List Char}
    (after : Avoids '"' rest) :
    multiBasic? false (lines run cs ++ closing '"' rest) = some (cs, rest) := by
  -- The run is what the writer keeps in mind; the reader knows nothing of it.
  induction cs generalizing run with
  | nil => exact @multiBasic?_closing rest 0 (by decide) after
  | cons c cs ih =>
    rw [lines]
    split_ifs with feed quote room
    · rw [List.cons_append, multiBasic?_feed, ih, feed]
      rfl
    · subst c
      rcases pair_lines room cs with ⟨count, few, rfl⟩ | alone
      · rw [lines_replicate few]
        exact @multiBasic?_closing rest (count + 1) (by omega) after
      · rw [List.cons_append, multiBasic?_quote (alone _), ih]
        rfl
    · rw [List.append_assoc, (shows_escape '"').multiBasic?, ih, quote]
      rfl
    · rw [List.append_assoc, (shows_escape c).multiBasic?, ih]
      rfl

/-- Behind a quote there is no pair of them in a text without three in a row, unless it ends in
them. -/
theorem pair_append {quote : Char} {cs : List Char}
    (few : ¬ List.replicate 3 quote <:+: quote :: cs) :
    (∃ count, count ≤ 1 ∧ cs = List.replicate count quote) ∨
      ∀ more pair, cs ++ more ≠ quote :: quote :: pair := by
  match cs, few with
  | [], _ => exact .inl ⟨0, by omega, rfl⟩
  | c :: cs, few =>
    by_cases second : c = quote
    · subst c
      match cs, few with
      | [], _ => exact .inl ⟨1, by omega, rfl⟩
      | d :: cs, few =>
        refine .inr fun more pair h => few ⟨[], cs, ?_⟩
        cases h
        rfl
    · exact .inr fun more pair h => second (List.cons.inj h).1

/-- A text with at most two quotes in a row is read back. -/
theorem multiLiteral?_append (cs : List Char) {rest : List Char}
    (plain : ∀ c ∈ cs, isPlain c = true ∨ c = '\n')
    (few : ¬ List.replicate 3 '\'' <:+: cs) (after : Avoids '\'' rest) :
    multiLiteral? (cs ++ closing '\'' rest) = some (cs, rest) := by
  induction cs with
  | nil => exact @multiLiteral?_closing rest 0 (by decide) after
  | cons c cs ih =>
    have ih := ih (fun d h => plain d (List.mem_cons_of_mem c h))
      fun run => few (List.infix_cons run)
    by_cases quote : c = '\''
    · -- Either the text ends in this quote and perhaps one more, or it stands for itself.
      subst c
      rcases pair_append few with ⟨count, one, rfl⟩ | alone
      · exact @multiLiteral?_closing rest (count + 1) (by omega) after
      · rw [List.cons_append, multiLiteral?_quote (alone _), ih]
        rfl
    · have stays := plain c List.mem_cons_self
      rw [List.cons_append, multiLiteral?_cons quote stays, ih]
      rfl

theorem ne_of_isLiteral {c : Char} (h : isLiteral c = true) : c ≠ '\'' := by
  rintro rfl
  cases h

theorem literal?_append (cs : List Char) (rest : List Char)
    (plain : ∀ c ∈ cs, isLiteral c = true) :
    literal? (cs ++ '\'' :: rest) = some (cs, rest) := by
  induction cs with
  | nil => rfl
  | cons c cs ih =>
    obtain ⟨stays, plain⟩ := List.forall_mem_cons.1 plain
    rw [List.cons_append, literal?, if_neg (ne_of_isLiteral stays), if_pos stays, ih plain]
    rfl

/-! ### The forms -/

namespace Printer

variable {c : Char} {cs : List Char}

/-- The longest run and the last, after some more characters. -/
def runs (c : Char) (seen : Nat × Nat) (cs : List Char) : Nat × Nat :=
  cs.foldl (fun (longest, run) d =>
    if d = c then (max longest (run + 1), run + 1) else (longest, 0)) seen

theorem le_runs (seen : Nat × Nat) : seen.1 ≤ (runs c seen cs).1 := by
  induction cs generalizing seen with
  | nil => exact Nat.le_refl _
  | cons d cs ih =>
    refine Nat.le_trans ?_ (ih _)
    dsimp only
    split_ifs
    · exact Nat.le_max_left _ _
    · exact Nat.le_refl _

theorem le_runs_replicate (seen : Nat × Nat) (count : Nat) :
    seen.2 + count ≤ max seen.2 (runs c seen (List.replicate count c)).1 := by
  -- The longest run so far may be behind the last one only before the first step.
  induction count generalizing seen with
  | zero => exact Nat.le_max_left _ _
  | succ count ih =>
    obtain ⟨longest, run⟩ := seen
    have first : runs c (longest, run) (List.replicate (count + 1) c) =
        runs c (max longest (run + 1), run + 1) (List.replicate count c) := by
      rw [List.replicate_succ, runs, List.foldl_cons]
      dsimp only
      rw [if_pos rfl]
      rfl
    have next := ih (max longest (run + 1), run + 1)
    have grown := @le_runs c (List.replicate count c) (max longest (run + 1), run + 1)
    rw [first]
    dsimp only at next grown ⊢
    omega

/-- No run is longer than the longest. -/
theorem le_longestRun {count : Nat} (h : List.replicate count c <:+: cs) :
    count ≤ longestRun c cs := by
  obtain ⟨before, after, rfl⟩ := h
  -- The text is gone through in three parts, and the longest run never gets shorter.
  have split : longestRun c (before ++ List.replicate count c ++ after) =
      (runs c (runs c (runs c (0, 0) before) (List.replicate count c)) after).1 := by
    rw [runs, runs, runs, ← List.foldl_append, ← List.foldl_append, ← List.append_assoc]
    rfl
  have reached := @le_runs_replicate c (runs c (0, 0) before) count
  have kept := @le_runs c after (runs c (runs c (0, 0) before) (List.replicate count c))
  omega

end Printer

section

variable {cs rest : List Char}

/-- The literal form is chosen for a text that may stand between single quotes. -/
theorem isLiteral_of_form (chosen : form cs = .literal) : ∀ c ∈ cs, isLiteral c = true := by
  have shape : cs.any needsCode = false ∧ longestRun '\'' cs = 0 ∧ '\n' ∉ cs := by
    unfold form at chosen
    dsimp only at chosen
    split_ifs at chosen with basic literal
    simpa [and_assoc] using literal
  obtain ⟨plain, noQuote, noFeed⟩ := shape
  intro c h
  have other : c ≠ '\'' := by
    rintro rfl
    have one := @le_longestRun '\'' cs 1 ((List.singleton_infix_iff _ _).2 h)
    omega
  rcases isPlain_of_needsCode (Bool.eq_false_iff.2 fun coded => List.any_eq_false.1 plain c h coded)
    with stays | rfl
  · simp [isLiteral, stays, other]
  · exact absurd h noFeed

/-- The literal form of several lines is chosen for a text that may stand between three single
quotes. -/
theorem stays_of_form (chosen : form cs = .multiLiteral) :
    (∀ c ∈ cs, isPlain c = true ∨ c = '\n') ∧ ¬ List.replicate 3 '\'' <:+: cs := by
  have shape : cs.any needsCode = false ∧ longestRun '\'' cs ≤ 2 := by
    unfold form at chosen
    dsimp only at chosen
    split_ifs at chosen with basic literal multiBasic multiLiteral
    simpa using multiLiteral
  obtain ⟨plain, few⟩ := shape
  refine ⟨fun c h => isPlain_of_needsCode
    (Bool.eq_false_iff.2 fun coded => List.any_eq_false.1 plain c h coded), fun run => ?_⟩
  have three := le_longestRun run
  omega

/-- The line feed of an opening is passed over. -/
theorem skipFirstLineEnd_opening {body : List Char}
    (h : '\n' ∉ cs → Avoids '\n' body ∧ Avoids '\r' body) :
    skipFirstLineEnd (opening cs ++ body) = body := by
  rw [opening]
  split_ifs with broken
  · rfl
  · obtain ⟨feed, ret⟩ := h (by simpa using broken)
    rw [List.nil_append]
    unfold skipFirstLineEnd
    split
    · exact absurd rfl feed
    · exact absurd rfl ret
    · rfl

theorem string?_basic (cs : List Char) (after : Avoids '"' rest) :
    string? ('"' :: (cs.flatMap escape ++ '"' :: rest)) = some (cs, rest) := by
  -- With two more quotes it would be a text of several lines.
  have alone : ∀ pair, cs.flatMap escape ++ '"' :: rest ≠ '"' :: '"' :: pair := by
    cases cs with
    | nil => exact after.cons_ne_pair
    | cons c cs =>
      rw [List.flatMap_cons, List.append_assoc]
      exact ((shows_escape c).avoids (by decide) _).ne_pair
  rw [string?]
  · exact basic?_escape cs rest
  · exact alone

theorem string?_literal (plain : ∀ c ∈ cs, isLiteral c = true) (after : Avoids '\'' rest) :
    string? ('\'' :: (cs ++ '\'' :: rest)) = some (cs, rest) := by
  have alone : ∀ pair, cs ++ '\'' :: rest ≠ '\'' :: '\'' :: pair := by
    cases cs with
    | nil => exact after.cons_ne_pair
    | cons c cs =>
      exact fun pair h => ne_of_isLiteral (plain c List.mem_cons_self) (List.cons.inj h).1
  rw [string?]
  · exact literal?_append cs rest plain
  · exact alone

theorem string?_multiBasic (cs : List Char) (after : Avoids '"' rest) :
    string? (closing '"' (opening cs ++ (lines 0 cs ++ closing '"' rest))) = some (cs, rest) := by
  rw [closing, string?, skipFirstLineEnd_opening, multiBasic?_lines cs after]
  intro unbroken
  cases cs with
  | nil => exact ⟨nofun, nofun⟩
  | cons c cs =>
    have other : c ≠ '\n' := fun feed => unbroken (feed ▸ List.mem_cons_self)
    rw [lines, if_neg other]
    split_ifs with quote
    · exact ⟨nofun, nofun⟩
    · exact ⟨nofun, nofun⟩
    · rw [List.append_assoc]
      exact ⟨(shows_escape c).avoids (by decide) _, (shows_escape c).avoids (by decide) _⟩

theorem string?_multiLiteral (plain : ∀ c ∈ cs, isPlain c = true ∨ c = '\n')
    (few : ¬ List.replicate 3 '\'' <:+: cs) (after : Avoids '\'' rest) :
    string? (closing '\'' (opening cs ++ (cs ++ closing '\'' rest))) = some (cs, rest) := by
  rw [closing, string?, skipFirstLineEnd_opening, multiLiteral?_append cs plain few after]
  intro unbroken
  cases cs with
  | nil => exact ⟨nofun, nofun⟩
  | cons c cs =>
    refine ⟨?_, ?_⟩
    · rintro ⟨⟩
      exact unbroken List.mem_cons_self
    · rintro ⟨⟩
      simpa [isPlain] using plain '\r' List.mem_cons_self

end

/-- A written string is read as the text, and the reader stops behind it. -/
theorem string?_string (text : String) {rest : List Char} (double : Avoids '"' rest)
    (single : Avoids '\'' rest) :
    string? (Printer.string text ++ rest) = some (text.toList, rest) := by
  rw [Printer.string]
  generalize text.toList = cs
  cases chosen : form cs with
  | basic =>
    simp only [List.cons_append, List.append_assoc]
    exact string?_basic cs double
  | literal =>
    simp only [List.cons_append, List.append_assoc]
    exact string?_literal (isLiteral_of_form chosen) single
  | multiBasic =>
    simp only [List.cons_append, List.append_assoc]
    exact string?_multiBasic cs double
  | multiLiteral =>
    simp only [List.cons_append, List.append_assoc]
    obtain ⟨plain, few⟩ := stays_of_form chosen
    exact string?_multiLiteral plain few single

end SelfCheck.Toml
