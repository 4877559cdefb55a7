import SelfCheck.Reader.Link
import Mathlib.Data.List.Basic
import Mathlib.Tactic.Common

/-!
# Frames on the wire

A command is written as its text and a carriage return, and nothing in the text is escaped. What
the reader finds on its line is therefore the text cut at every carriage return in it, and one
frame only if there is none. What comes back is cut by the same rule before it is looked at, so no
field of a response can hold a carriage return.

## Main definitions

* `Reader.Command.argument` — the text that a command carries beyond its word
* `Reader.Command.pieces` — the lines that a reader finds in the frame of a command
* `Reader.Command.canonical` — a command with an empty tag left out

## Main results

* `Bytes.terminator_mem_ofChars_iff` — only a carriage return is written with the byte of one
* `Reader.lines_frames` — what a reader finds in the frames of several commands
* `Reader.Command.frame_eq_iff` — the frame determines the command, up to an empty tag
* `Reader.plain_tag_of_read` — the tag of a response holds no carriage return
-/

namespace SelfCheck

/-! ### The terminator in a text -/

namespace Bytes

theorem terminator_mem_utf8EncodeChar_iff {c : Char} :
    Wire.terminator ∈ String.utf8EncodeChar c ↔ c = '\r' := by
  constructor
  · intro h
    exact Char.toNat_inj.1 (toNat_eq_of_mem_utf8EncodeChar (by decide) h)
  · rintro rfl
    decide

/-- Only a carriage return is written with the byte of one. -/
theorem terminator_mem_ofChars_iff {cs : List Char} : Wire.terminator ∈ ofChars cs ↔ '\r' ∈ cs := by
  rw [ofChars, List.mem_flatMap]
  constructor
  · rintro ⟨c, hc, h⟩
    rwa [← terminator_mem_utf8EncodeChar_iff.mp h]
  · exact fun h => ⟨'\r', h, terminator_mem_utf8EncodeChar_iff.mpr rfl⟩

end Bytes

namespace Wire

/-- Bytes without a terminator stand in front of what is read first. -/
theorem lines_append_of_notMem {bs : Bytes} (h : terminator ∉ bs) (stream : Bytes) :
    lines (bs ++ stream) =
      match lines stream with
      | ([], rest) => ([], bs ++ rest)
      | (line :: more, rest) => ((bs ++ line) :: more, rest) := by
  induction bs with
  | nil =>
    rw [List.nil_append]
    rcases lines stream with ⟨_ | _, _⟩ <;> rfl
  | cons b bs ih =>
    rw [List.mem_cons, not_or] at h
    rw [List.cons_append, lines, if_neg (Ne.symm h.1), ih h.2]
    rcases lines stream with ⟨_ | _, _⟩ <;> rfl

/-- A text that is ended by a terminator is read as the pieces between its carriage returns. -/
theorem lines_ofChars (cs : List Char) (stream : Bytes) :
    lines (Bytes.ofChars cs ++ terminator :: stream) =
      ((Text.splitOn '\r' cs).map Bytes.ofChars ++ (lines stream).1, (lines stream).2) := by
  induction cs with
  | nil => simp [lines, Text.splitOn]
  | cons c cs ih =>
    rw [Bytes.ofChars_cons, List.append_assoc]
    by_cases hc : c = '\r'
    · have code : String.utf8EncodeChar c = [terminator] := by rw [hc]; decide
      rw [code, List.singleton_append, lines, if_pos rfl, ih, Text.splitOn, if_pos hc]
      rfl
    · have plain : terminator ∉ String.utf8EncodeChar c :=
        mt Bytes.terminator_mem_utf8EncodeChar_iff.mp hc
      rw [lines_append_of_notMem plain, ih, Text.splitOn, if_neg hc]
      cases pieces : Text.splitOn '\r' cs with
      | nil => exact absurd pieces (Text.splitOn_ne_nil '\r' cs)
      | cons piece more => rfl

/-- The lines of a stream hold no terminator. -/
theorem terminator_notMem_of_mem_lines {bs line : Bytes} (h : line ∈ (lines bs).1) :
    terminator ∉ line := by
  induction bs generalizing line with
  | nil => cases h
  | cons b bs ih =>
    by_cases hb : b = terminator
    · rw [lines, if_pos hb] at h
      rcases List.mem_cons.mp h with rfl | h
      · exact List.not_mem_nil
      · exact ih h
    · rw [lines, if_neg hb] at h
      rcases read : lines bs with ⟨_ | ⟨first, more⟩, rest⟩
      · rw [read] at h
        cases h
      · rw [read] at h ih
        rcases List.mem_cons.mp h with rfl | h
        · rw [List.mem_cons, not_or]
          exact ⟨Ne.symm hb, ih List.mem_cons_self⟩
        · exact ih (List.mem_cons_of_mem first h)

end Wire

namespace Reader

/-! ### The frames of commands -/

namespace Command

/-- The word that a command begins with. -/
def Kind.word : Kind → List Char
  | announce => ['V', 'E', 'R']
  | beginScan => ['B', 'E', 'G']
  | endScan => ['E', 'N', 'D']
  | alarmOn => ['A', 'C', 'T']
  | alarmOff => ['D', 'A', 'C']
  | write => ['W', 'R', 'T']

/-- The text that a command carries beyond its word: the handle of a tag, or a barcode. -/
def argument : Command → String
  | alarmOn tag | alarmOff tag => tag.getD ""
  | write barcode => barcode
  | announce | beginScan | endScan => ""

/-- The command with an empty tag left out. -/
def canonical : Command → Command
  | alarmOn tag => alarmOn (tag.filter (· ≠ ""))
  | alarmOff tag => alarmOff (tag.filter (· ≠ ""))
  | c => c

/-- The lines that a reader finds in the frame of a command. -/
def pieces (c : Command) : List Bytes := (Text.splitOn '\r' c.text.toList).map Bytes.ofChars

variable {c d : Command}

theorem Kind.word_injective {k l : Kind} (h : k.word = l.word) : k = l := by
  cases k <;> cases l <;> first | rfl | exact absurd h (by decide)

/-- An alarm command names its tag behind its word, unless the tag is empty. -/
theorem toList_withTag (word : String) (tag : Option String) :
    (withTag word tag).toList =
      word.toList ++ (tag.filter (· ≠ "")).elim [] fun tag => '|' :: tag.toList := by
  cases tag with
  | none => simp [withTag]
  | some tag => by_cases unnamed : tag = "" <;> simp [withTag, unnamed, Option.filter_some]

theorem take_text (c : Command) : c.text.toList.take 3 = c.kind.word := by
  cases c with
  | announce | beginScan | endScan => decide
  | alarmOn tag | alarmOff tag =>
    rw [text, toList_withTag]
    rfl
  | write barcode =>
    rw [text, String.toList_append]
    rfl

theorem text_ne_empty (c : Command) : c.text ≠ "" := by
  intro none_left
  have word := c.take_text
  rw [none_left] at word
  cases c <;> cases word

/-- Nothing but its argument brings a carriage return into the text of a command. -/
theorem return_mem_text_iff : '\r' ∈ c.text.toList ↔ '\r' ∈ c.argument.toList := by
  cases c with
  | announce | beginScan | endScan => decide
  | alarmOn tag | alarmOff tag =>
    rw [text, toList_withTag]
    cases tag with
    | none => simp [argument]
    | some tag => by_cases unnamed : tag = "" <;> simp [argument, unnamed, Option.filter_some]
  | write barcode => simp [text, argument]

theorem text_canonical (c : Command) : c.canonical.text = c.text := by
  cases c with
  | alarmOn tag | alarmOff tag =>
    refine String.toList_inj.mp ?_
    simp only [canonical, text, toList_withTag, Option.filter_filter, Bool.and_self]
  | announce | beginScan | endScan | write => rfl

theorem filter_eq_of_withTag {word : String} {tag other : Option String}
    (h : withTag word tag = withTag word other) :
    tag.filter (· ≠ "") = other.filter (· ≠ "") := by
  have same := congrArg String.toList h
  rw [toList_withTag, toList_withTag, List.append_cancel_left_eq] at same
  generalize tag.filter (· ≠ "") = named, other.filter (· ≠ "") = named' at same
  cases named <;> cases named' <;> simp_all [String.toList_inj]

theorem text_eq_iff : c.text = d.text ↔ c.canonical = d.canonical := by
  constructor
  · intro h
    -- The first three letters tell the kinds of commands apart.
    have same : c.kind = d.kind := by
      refine Kind.word_injective ?_
      rw [← take_text, ← take_text, h]
    cases c with
    | announce | beginScan | endScan => cases d <;> first | rfl | cases same
    | alarmOn tag =>
      cases d with
      | alarmOn other => exact congrArg alarmOn (filter_eq_of_withTag h)
      | _ => cases same
    | alarmOff tag =>
      cases d with
      | alarmOff other => exact congrArg alarmOff (filter_eq_of_withTag h)
      | _ => cases same
    | write barcode =>
      cases d with
      | write other => exact congrArg write (String.append_right_inj "WRT|" |>.mp h)
      | _ => cases same
  · intro h
    rw [← text_canonical, h, text_canonical]

/-- The frame determines the command, up to an empty tag. -/
theorem frame_eq_iff : c.frame = d.frame ↔ c.canonical = d.canonical := by
  rw [← text_eq_iff, frame, frame, List.append_left_inj]
  exact ⟨Bytes.ofText_injective, congrArg Bytes.ofText⟩

/-- The frame of a command is one line just if its text holds no carriage return. -/
theorem pieces_of_plain (plain : '\r' ∉ c.text.toList) : c.pieces = [Bytes.ofText c.text] := by
  have whole : Text.splitOn '\r' (Text.joinWith '\r' [c.text.toList]) = [c.text.toList] :=
    Text.splitOn_joinWith (by simp) (by simpa using plain)
  exact congrArg (List.map Bytes.ofChars) whole

end Command

/-- What a reader finds in the frames of several commands. -/
theorem lines_frames (cs : List Command) :
    Wire.lines (cs.flatMap (·.frame)) = (cs.flatMap (·.pieces), []) := by
  induction cs with
  | nil => rfl
  | cons c cs ih =>
    rw [List.flatMap_cons, Command.frame, List.append_assoc, List.singleton_append, Bytes.ofText,
      Wire.lines_ofChars, ih, List.flatMap_cons, Command.pieces]

/-- The frames of several commands are one line each just if none of the texts holds a carriage
return. -/
theorem lines_frames_eq_iff {cs : List Command} :
    Wire.lines (cs.flatMap (·.frame)) = (cs.map fun c => Bytes.ofText c.text, []) ↔
      ∀ c ∈ cs, '\r' ∉ c.argument.toList := by
  constructor
  · -- A text with a carriage return inside is none of the lines, which hold no terminator.
    intro single c hc inside
    have line : Bytes.ofText c.text ∈ (Wire.lines (cs.flatMap (·.frame))).1 := by
      rw [single]
      exact List.mem_map_of_mem hc
    have plain := mt Bytes.terminator_mem_ofChars_iff.mpr (Wire.terminator_notMem_of_mem_lines line)
    exact plain (Command.return_mem_text_iff.mpr inside)
  · intro plain
    have single : ∀ c ∈ cs, c.pieces = [Bytes.ofText c.text] := fun c hc =>
      c.pieces_of_plain (mt Command.return_mem_text_iff.mp (plain c hc))
    rw [lines_frames, List.flatMap_congr single]
    exact congrArg (·, []) (List.flatMap_pure_eq_map _ cs)

/-! ### The responses that are read -/

namespace Response

variable {fields : List (List Char)} {r : Response} {tag : String}

/-- The tag of a response is one of the fields that spell it. -/
theorem tag_mem_of_ofFields (h : ofFields fields = .ok r) (named : r.tag = some tag) :
    tag.toList ∈ fields := by
  unfold ofFields at h
  cases fields with
  | nil => cases h
  | cons status rest =>
    dsimp only at h
    split_ifs at h
    cases hs : status? status with
    | none =>
      rw [hs] at h
      cases h
    | some ok =>
      rw [hs] at h
      obtain rfl := Except.ok.inj h
      obtain ⟨field, at_two, spelled⟩ := Option.bind_eq_some_iff.mp named
      unfold field? at spelled
      split_ifs at spelled
      obtain rfl := Option.some.inj spelled
      rw [String.toList_ofList]
      exact List.mem_cons_of_mem status (List.mem_of_getElem? at_two)

/-- The tag of a response is part of the text before its terminator. -/
theorem tag_of_decode {body : Bytes} (h : decode (body ++ [Wire.terminator]) = .ok r)
    (named : r.tag = some tag) :
    ∃ text, body = Bytes.ofText text ∧ ∀ c ∈ tag.toList, c ∈ text.toList := by
  unfold decode at h
  split_ifs at h
  have front : body? (body ++ [Wire.terminator]) = some body := by
    simp [body?]
  rw [front] at h
  dsimp only at h
  cases spelled : Bytes.text? body with
  | none =>
    rw [spelled] at h
    cases h
  | some text =>
    rw [spelled] at h
    refine ⟨text, Bytes.text?_eq_some_iff.mp spelled, fun c hc => ?_⟩
    have field := tag_mem_of_ofFields h named
    exact (List.dropWhile_sublist _).subset (Text.mem_of_mem_splitOn field hc)

end Response

/-- The tag of a response that is read holds no carriage return, since the first one ended it. -/
theorem plain_tag_of_read {ended : Bool} {arrived rest : Bytes} {r : Response} {tag : String}
    (h : read ended arrived = .response r rest) (named : r.tag = some tag) :
    '\r' ∉ tag.toList := by
  unfold read at h
  split at h
  · cases h
  · split_ifs at h
  · next line after cut =>
    obtain ⟨body, rfl, plain, -, -⟩ := Wire.cut_eq_line_iff.mp cut
    cases decoded : Response.decode (body ++ [Wire.terminator]) with
    | error e =>
      rw [decoded] at h
      cases h
    | ok r' =>
      rw [decoded] at h
      cases h
      obtain ⟨text, rfl, part⟩ := Response.tag_of_decode decoded named
      exact fun inside => plain (Bytes.terminator_mem_ofChars_iff.mpr (part _ inside))

end Reader

end SelfCheck
