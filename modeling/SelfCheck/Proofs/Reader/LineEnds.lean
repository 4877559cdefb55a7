import SelfCheck.Proofs.Reader.Stream
import SelfCheck.Proofs.Text.Boundaries
import Mathlib.Data.List.Chain

/-!
# Line ends

A reader may end its lines with a carriage return, or with a carriage return and a line feed, and it
may do so line by line as it likes. The hub cuts at the carriage return. A line feed behind it stays
where it is, in front of the next frame, and is passed over when that frame is decoded.

Before it is passed over it is counted. A frame of the greatest length accepted has no room for one
byte more, so behind a pair it is refused as too long, though behind a carriage return alone it is
read. This is the only way in which the line ends show: the line feed behind the last frame of a
stream is no beginning of another one.

## Main definitions

* `Reader.Line`, `Reader.sent` — a frame with its line end, and the bytes of several
* `Reader.Line.Crowds` — a line feed is left in front of a frame of the greatest length

## Main results

* `Reader.Response.decode_lineFeed_cons` — a line feed in front of a frame is passed over
* `Reader.events_sent_append` — what is heard of lines of which none crowds the next
* `Reader.events_of_crowds` — a line that is crowded is refused
* `Reader.line_ends_alike_iff` — when the line ends make no difference
-/

namespace SelfCheck

/-- The line feed, which may follow the terminator. -/
def Wire.lineFeed : UInt8 := 0x0A

open Wire (lineFeed terminator)

/-! ### The line feed in front -/

namespace Bytes

theorem ofText_lineFeed_append (s : String) : ofText ("\n" ++ s) = lineFeed :: ofText s := by
  rw [ofText_append]
  rfl

/-- A line feed in front of a text is a character of it. -/
theorem text?_lineFeed_cons (bs : Bytes) :
    text? (lineFeed :: bs) = (text? bs).map ("\n" ++ ·) := by
  refine Option.ext fun t => ?_
  rw [text?_eq_some_iff, Option.map_eq_some_iff]
  constructor
  · intro h
    cases cs : t.toList with
    | nil => simp [ofText, cs] at h
    | cons c cs' =>
      -- The first character is written with the byte of a line feed, so it is one.
      have first : lineFeed ∈ String.utf8EncodeChar c := by
        obtain ⟨b, more, written, -⟩ := utf8EncodeChar_eq_cons c
        rw [ofText, cs, ofChars_cons, written, List.cons_append] at h
        rw [written, (List.cons.inj h).1]
        exact List.mem_cons_self
      obtain rfl : c = '\n' :=
        Char.toNat_inj.1 (toNat_eq_of_mem_utf8EncodeChar (by decide) first)
      have spelled : t = "\n" ++ String.ofList cs' := by
        rw [← String.toList_inj, cs, String.toList_append, String.toList_ofList]
        simp
      rw [spelled, ofText_lineFeed_append] at h
      exact ⟨_, text?_eq_some_iff.mpr (List.cons.inj h).2, spelled.symm⟩
  · rintro ⟨s, spelled, rfl⟩
    rw [text?_eq_some_iff.mp spelled, ofText_lineFeed_append]

end Bytes

namespace Reader

namespace Response

theorem body?_lineFeed_cons (frame : Bytes) :
    body? (lineFeed :: frame) = (body? frame).map (lineFeed :: ·) := by
  cases frame with
  | nil => decide
  | cons b bs =>
    unfold body?
    rw [List.getLast?_cons_cons, List.dropLast_cons_cons]
    split <;> rfl

/-- A line feed in front of a frame is passed over, if there is room for it. -/
theorem decode_lineFeed_cons {frame : Bytes} (room : frame.length < maxFrameLength) :
    decode (lineFeed :: frame) = decode frame := by
  have fits : ¬ (lineFeed :: frame).length > maxFrameLength := by
    rw [List.length_cons]
    omega
  have fits' : ¬ frame.length > maxFrameLength := by omega
  -- Neither is too long, and the line feed is among those that are dropped from the text.
  unfold decode
  rw [if_neg fits, if_neg fits', body?_lineFeed_cons]
  cases body? frame with
  | none => rfl
  | some body =>
    simp only [Option.map_some, Bytes.text?_lineFeed_cons]
    cases Bytes.text? body with
    | none => rfl
    | some text => simp

/-- A text with a terminator behind it is read by its fields, if there is room for both. -/
theorem decode_ofChars {cs : List Char} (room : (Bytes.ofChars cs).length < maxFrameLength) :
    decode (Bytes.ofChars cs ++ [terminator]) =
      ofFields (Text.splitOn '|' (cs.dropWhile (· = '\n'))) := by
  have fits : ¬ (Bytes.ofChars cs ++ [terminator]).length > maxFrameLength := by
    rw [List.length_append, List.length_singleton]
    omega
  have body : body? (Bytes.ofChars cs ++ [terminator]) = some (Bytes.ofChars cs) := by
    simp [body?]
  have spelled : Bytes.text? (Bytes.ofChars cs) = some (String.ofList cs) := by
    rw [Bytes.text?_eq_some_iff, Bytes.ofText, String.toList_ofList]
  unfold decode
  rw [if_neg fits, body]
  simp only [spelled, String.toList_ofList]

/-- What is decoded is no longer than a frame may be. -/
theorem length_le_of_decode {frame : Bytes} {r : Response} (h : decode frame = .ok r) :
    frame.length ≤ maxFrameLength := by
  unfold decode at h
  split_ifs at h with long
  exact Nat.le_of_not_gt long

end Response

/-! ### Lines -/

/-- A frame with its line end. -/
structure Line where
  frame : Bytes
  /-- A line feed follows the carriage return. -/
  paired : Bool := false
deriving DecidableEq, Repr

namespace Line

/-- The bytes behind the carriage return. -/
def feed (l : Line) : Bytes := if l.paired then [lineFeed] else []

/-- The bytes of a line. -/
def bytes (l : Line) : Bytes := l.frame ++ l.feed

/-- The line with a carriage return alone. -/
def plain (l : Line) : Line := { l with paired := false }

/-- A line feed is left in front of a frame that has no room for it. -/
def Crowds (l l' : Line) : Prop := l.paired = true ∧ l'.frame.length = maxFrameLength

/-- No line crowds the next. -/
def Roomy (ls : List Line) : Prop := ls.IsChain fun l l' => ¬ l.Crowds l'

/-- A line is read as the response. -/
def Spells (l : Line) (r : Response) : Prop := IsFrame l.frame ∧ Response.decode l.frame = .ok r

end Line

/-- The bytes of several lines. -/
def sent (ls : List Line) : Bytes := ls.flatMap Line.bytes

variable {l₀ l l' : Line} {ls before after : List Line} {r : Response} {responses : List Response}

theorem isFrame_lineFeed_cons {frame : Bytes} (whole : IsFrame frame) :
    IsFrame (lineFeed :: frame) := by
  obtain ⟨body, plain, rfl⟩ := whole
  refine ⟨lineFeed :: body, ?_, rfl⟩
  rw [List.mem_cons, not_or]
  exact ⟨by decide, plain⟩

/-- A line is heard behind another one that does not crowd it. -/
theorem events_of_spells (spells : l.Spells r) (roomy : ¬ l₀.Crowds l) (rest : Bytes) :
    events (l₀.feed ++ (l.frame ++ rest)) = .response r :: events rest := by
  obtain ⟨whole, spelled⟩ := spells
  have fits := Response.length_le_of_decode spelled
  -- The frame that is read is that of the line, or has the line feed of the line before in front.
  unfold Line.feed
  split_ifs with paired
  · have room : l.frame.length < maxFrameLength :=
      Nat.lt_of_le_of_ne fits fun full => roomy ⟨paired, full⟩
    have first : read true (lineFeed :: l.frame ++ rest) = .response r rest := by
      rw [read_frame (isFrame_lineFeed_cons whole), Response.decode_lineFeed_cons room, spelled]
    exact events_of_response first
  · have first : read true (l.frame ++ rest) = .response r rest := by
      rw [read_frame whole, spelled]
    exact events_of_response first

/-- A line that is crowded is refused, and nothing behind it is heard. -/
theorem events_of_crowds (whole : IsFrame l'.frame) (crowds : l.Crowds l') (rest : Bytes) :
    events (l.feed ++ (l'.frame ++ rest)) = [.failed (.malformed .tooLong)] := by
  obtain ⟨paired, full⟩ := crowds
  obtain ⟨body, plain, eq⟩ := whole
  have size : body.length + 1 = maxFrameLength := by
    rw [← full, eq, List.length_append, List.length_singleton]
  -- The line feed and the body are as many bytes as a frame may have.
  have stream : l.feed ++ (l'.frame ++ rest) = (lineFeed :: body) ++ terminator :: rest := by
    rw [Line.feed, if_pos paired, eq]
    simp
  have greatest : (lineFeed :: body).length = maxFrameLength := size
  refine events_of_fault (read_eq_fault_iff.mpr ?_)
  rw [stream]
  refine .tooLong ?_ ?_
  · rw [List.length_append, greatest]
    omega
  · rw [List.take_append_of_le_length (Nat.le_of_eq greatest.symm),
      List.take_of_length_le (Nat.le_of_eq greatest),
      List.mem_cons, not_or]
    exact ⟨by decide, plain⟩

/-- Lines of which none crowds the next are heard, and a line feed of the last is left. -/
theorem events_sent_append (spelled : List.Forall₂ Line.Spells ls responses)
    (roomy : Line.Roomy (l₀ :: ls)) (rest : Bytes) :
    events (l₀.feed ++ (sent ls ++ rest)) =
      responses.map .response ++ events ((ls.getLastD l₀).feed ++ rest) := by
  -- The line before is remembered, since its line feed is read with the frame of this one.
  induction spelled generalizing l₀ with
  | nil => rfl
  | @cons l r ls responses spells _ ih =>
    obtain ⟨here, later⟩ := List.isChain_cons_cons.mp roomy
    have first : l₀.feed ++ (sent (l :: ls) ++ rest) =
        l₀.feed ++ (l.frame ++ (l.feed ++ (sent ls ++ rest))) := by
      simp [sent, Line.bytes]
    rw [first, events_of_spells spells here, ih later, List.getLastD_cons]
    rfl

/-- Behind the last line nothing is heard but that the link is closed. -/
theorem events_feed (l : Line) : events l.feed = [.failed .closed] := by
  refine events_of_fault (read_eq_fault_iff.mpr ?_)
  unfold Line.feed
  split_ifs
  · exact .closed (by decide) (by decide)
  · exact .closed (by decide) (by decide)

/-- If some line crowds the next, there is a first one that does. -/
theorem Line.exists_first_crowding (tight : ¬ Roomy ls) :
    ∃ before l l' after, ls = before ++ l :: l' :: after ∧ Roomy (before ++ [l]) ∧ l.Crowds l' := by
  induction ls with
  | nil => exact absurd .nil tight
  | cons a ls ih =>
    cases ls with
    | nil => exact absurd (.singleton a) tight
    | cons b ls =>
      by_cases here : a.Crowds b
      · exact ⟨[], a, b, ls, rfl, .singleton a, here⟩
      · have later : ¬ Roomy (b :: ls) := fun roomy => tight (roomy.cons_cons here)
        obtain ⟨before, l, l', after, eq, roomy, crowds⟩ := ih later
        refine ⟨a :: before, l, l', after, congrArg (a :: ·) eq, ?_, crowds⟩
        refine List.IsChain.cons roomy fun c first => ?_
        -- The lines from the second on begin with the second.
        cases before with
        | nil =>
          obtain rfl : b = l := (List.cons.inj eq).1
          exact Option.some.inj first ▸ here
        | cons d before =>
          obtain rfl : b = d := (List.cons.inj eq).1
          exact Option.some.inj first ▸ here

/-- The line that nothing is left over from. -/
def Line.empty : Line := { frame := [] }

theorem Line.Roomy.cons_empty (roomy : Line.Roomy ls) : Line.Roomy (.empty :: ls) :=
  List.IsChain.cons roomy fun _ _ crowds => Bool.false_ne_true crowds.1

theorem Line.roomy_map_plain (ls : List Line) : Line.Roomy (ls.map Line.plain) :=
  (List.isChain_map Line.plain).mpr <| by
    induction ls with
    | nil => exact .nil
    | cons l ls ih => exact ih.cons fun _ _ crowds => Bool.false_ne_true crowds.1

/-- Lines of which none crowds the next are heard to their end, where the link is closed. -/
theorem events_sent_of_roomy (spelled : List.Forall₂ Line.Spells ls responses)
    (roomy : Line.Roomy ls) : events (sent ls) = responses.map .response ++ [.failed .closed] := by
  have all := events_sent_append spelled roomy.cons_empty []
  rw [List.append_nil, List.append_nil, events_feed] at all
  exact all

theorem Line.isFrame_of_mem (spelled : List.Forall₂ Line.Spells ls responses) (h : l ∈ ls) :
    IsFrame l.frame := by
  induction spelled with
  | nil => cases h
  | cons spells _ ih =>
    rcases List.mem_cons.mp h with rfl | later
    · exact spells.1
    · exact ih later

/-- Lines are heard up to the first that is crowded. -/
theorem events_sent_of_crowds (before : List Line)
    (spelled : List.Forall₂ Line.Spells (before ++ l :: l' :: after) responses)
    (roomy : Line.Roomy (before ++ [l])) (crowds : l.Crowds l') :
    events (sent (before ++ l :: l' :: after)) =
      (responses.take (before.length + 1)).map .response ++ [.failed (.malformed .tooLong)] := by
  -- The lines before are heard as if they were all, and leave a line feed.
  have cut : (before ++ l :: l' :: after).take (before.length + 1) = before ++ [l] := by
    rw [List.take_length_add_append]
    rfl
  have spelled_before := List.forall₂_take (before.length + 1) spelled
  rw [cut] at spelled_before
  have whole : IsFrame l'.frame := Line.isFrame_of_mem spelled (by simp)
  have stream : sent (before ++ l :: l' :: after) =
      sent (before ++ [l]) ++ (l'.frame ++ (l'.feed ++ sent after)) := by
    simp [sent, Line.bytes]
  have all := events_sent_append spelled_before roomy.cons_empty
    (l'.frame ++ (l'.feed ++ sent after))
  rw [List.getLastD_concat, events_of_crowds whole crowds] at all
  rw [stream]
  exact all

/-- The line ends make no difference just if no line ends in a pair before a frame of the greatest
length. With carriage returns alone every line is heard, and then that the link is closed. Behind
the first pair that does make a difference nothing is heard any more: the frame, which would be
accepted behind a carriage return, is refused as too long. -/
theorem line_ends_alike_iff (spelled : List.Forall₂ Line.Spells ls responses) :
    events (sent (ls.map Line.plain)) = responses.map .response ++ [.failed .closed] ∧
    (events (sent ls) = events (sent (ls.map Line.plain)) ↔ Line.Roomy ls) ∧
    ∀ before l l' after, ls = before ++ l :: l' :: after → Line.Roomy (before ++ [l]) →
      l.Crowds l' → events (sent ls) =
        (responses.take (before.length + 1)).map .response ++ [.failed (.malformed .tooLong)] := by
  have plain : events (sent (ls.map Line.plain)) = responses.map .response ++ [.failed .closed] :=
    events_sent_of_roomy (List.forall₂_map_left_iff.mpr spelled) (Line.roomy_map_plain ls)
  refine ⟨plain, ⟨fun same => ?_, fun roomy => ?_⟩, ?_⟩
  · by_contra tight
    obtain ⟨before, l, l', after, rfl, roomy, crowds⟩ := Line.exists_first_crowding tight
    rw [plain, events_sent_of_crowds before spelled roomy crowds] at same
    -- The two end in different faults.
    have last := (List.append_inj' same rfl).2
    exact absurd last (by decide)
  · rw [plain, events_sent_of_roomy spelled roomy]
  · rintro before l l' after rfl roomy crowds
    exact events_sent_of_crowds before spelled roomy crowds

/-- A barcode that leaves no room in a frame. -/
def fullBarcode : List Char := List.replicate 508 'A'

/-- A frame of the greatest length. -/
def fullFrame : Bytes := Bytes.ofChars ('O' :: 'K' :: '|' :: fullBarcode) ++ [terminator]

/-- The response that it spells. -/
def fullResponse : Response := { ok := true, barcode := some (String.ofList fullBarcode) }

theorem length_fullFrame : fullFrame.length = maxFrameLength := by decide +kernel

theorem spells_fullFrame (paired : Bool) : Line.Spells ⟨fullFrame, paired⟩ fullResponse := by
  refine ⟨⟨_, by decide +kernel, rfl⟩, ?_⟩
  have fields : Text.splitOn '|' ('O' :: 'K' :: '|' :: fullBarcode) = [['O', 'K'], fullBarcode] :=
    @Text.splitOn_joinWith '|' [['O', 'K'], fullBarcode] (by simp) (by decide +kernel)
  refine (Response.decode_ofChars (by decide +kernel)).trans ?_
  rw [List.dropWhile_cons_of_neg (by decide), fields]
  rfl

theorem spells_ok (paired : Bool) :
    Line.Spells ⟨Bytes.ofText "OK\r", paired⟩ { ok := true } := by
  refine ⟨⟨Bytes.ofText "OK", by decide, rfl⟩, ?_⟩
  exact @Response.decode_ofChars ['O', 'K'] (by decide)

/-- A pair before a short frame makes no difference, and one before a full frame does. -/
theorem line_ends_alike_iff_fullFrame :
    let ls : List Line :=
      [⟨Bytes.ofText "OK\r", true⟩, ⟨Bytes.ofText "OK\r", true⟩, ⟨fullFrame, true⟩]
    List.Forall₂ Line.Spells ls [{ ok := true }, { ok := true }, fullResponse] ∧
    events (sent (ls.map Line.plain)) = [.response { ok := true }, .response { ok := true },
      .response fullResponse, .failed .closed] ∧
    events (sent ls) = [.response { ok := true }, .response { ok := true },
      .failed (.malformed .tooLong)] := by
  intro ls
  have spelled : List.Forall₂ Line.Spells ls [{ ok := true }, { ok := true }, fullResponse] :=
    .cons (spells_ok true) (.cons (spells_ok true) (.cons (spells_fullFrame true) .nil))
  obtain ⟨plain, -, crowded⟩ := line_ends_alike_iff spelled
  have short : ¬ Line.Crowds ⟨Bytes.ofText "OK\r", true⟩ ⟨Bytes.ofText "OK\r", true⟩ :=
    fun crowds => absurd crowds.2 (by decide)
  exact ⟨spelled, plain, crowded [⟨Bytes.ofText "OK\r", true⟩] _ _ [] rfl
    (.cons_cons short (.singleton _)) ⟨rfl, length_fullFrame⟩⟩

/-- Two lines that are heard behind carriage returns alone are not both heard behind a pair. -/
theorem not_alike_behind_pair :
    let ls : List Line := [⟨Bytes.ofText "OK\r", true⟩, ⟨fullFrame, false⟩]
    List.Forall₂ Line.Spells ls [{ ok := true }, fullResponse] ∧
    events (sent (ls.map Line.plain)) =
      [.response { ok := true }, .response fullResponse, .failed .closed] ∧
    events (sent ls) = [.response { ok := true }, .failed (.malformed .tooLong)] := by
  intro ls
  have spelled : List.Forall₂ Line.Spells ls [{ ok := true }, fullResponse] :=
    .cons (spells_ok true) (.cons (spells_fullFrame false) .nil)
  refine ⟨spelled, ?_, ?_⟩
  · have spelled_plain :
        List.Forall₂ Line.Spells (ls.map Line.plain) [{ ok := true }, fullResponse] :=
      List.forall₂_map_left_iff.mpr spelled
    exact events_sent_of_roomy spelled_plain (Line.roomy_map_plain ls)
  · exact events_sent_of_crowds [] spelled (.singleton _) ⟨rfl, length_fullFrame⟩

end Reader

end SelfCheck
