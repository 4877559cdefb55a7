import SelfCheck.Proofs.Reader.LineEnds
import Mathlib.Data.List.TakeWhile

/-!
# How a response may be written

A response is written as a status and at most two fields, each behind a bar. Line feeds may stand in
front, and a carriage return ends it. Whatever is written so, and is no longer than a frame may be,
is read as the response, and nothing else is read as one. The line feeds and the fields can be told
from the frame, so it is written in one way only; but an empty field says no more than one that is
left out, so a response may be written in several ways, of which one is the shortest.

A frame that is not written so has faults, perhaps several, and the first of them is reported.

## Main definitions

* `Reader.Spelling` — a response as it may be written
* `Reader.FrameError.FoundIn`, `Reader.FrameError.IsFirst` — what a fault says of a frame, and which
  of several is reported
* `Reader.Response.indexed?` — the reading with a look-up of the status that may fail
* `Reader.Response.shortFrame` — a response in its shortest form

## Main results

* `Reader.Response.decode_eq_ok_iff` — what is read as a response
* `Reader.Spelling.bytes_injective` — a frame is written in one way only
* `Reader.Response.decode_eq_error_iff` — which fault is reported
* `Reader.Response.decode_follows_spelling` — all of this for every frame
-/

namespace SelfCheck

open Wire (terminator)

theorem Bytes.ofChars_injective {cs ds : List Char} (h : ofChars cs = ofChars ds) : cs = ds := by
  have same : String.ofList cs = String.ofList ds := ofText_injective (by simpa [ofText] using h)
  exact String.ofList_inj.mp same

namespace Text

/-- The first field ends at the first separator. -/
theorem head?_splitOn (sep : Char) (cs : List Char) :
    (splitOn sep cs).head? = some (cs.takeWhile (· ≠ sep)) := by
  induction cs with
  | nil => rfl
  | cons c cs ih =>
    unfold splitOn
    split_ifs with separates
    · simp [separates]
    · cases fields : splitOn sep cs with
      | nil => exact absurd fields (splitOn_ne_nil sep cs)
      | cons field more =>
        rw [fields] at ih
        rw [List.takeWhile_cons_of_pos (by simpa using separates)]
        exact congrArg (Option.map (c :: ·)) ih

/-- Every field but the first stands behind a separator. -/
theorem joinWith_cons (sep : Char) (field : List Char) (fields : List (List Char)) :
    joinWith sep (field :: fields) = field ++ fields.flatMap (sep :: ·) := by
  induction fields generalizing field with
  | nil => simp [joinWith]
  | cons next fields ih => exact congrArg (field ++ sep :: ·) (ih next)

end Text

namespace Reader

variable {frame : Bytes} {r : Response} {e e' : FrameError}

/-! ### What is read as a response -/

/-- The word of a status. -/
def statusWord : Bool → List Char
  | true => ['O', 'K']
  | false => ['N', 'O', 'K']

theorem Response.status?_eq_some_iff {field : List Char} {ok : Bool} :
    status? field = some ok ↔ field = statusWord ok := by
  unfold status?
  split_ifs with yes no
  · cases ok <;> simp [statusWord, yes]
  · cases ok <;> simp [statusWord, no]
  · cases ok <;> simp [statusWord, yes, no]

/-- A response as it may be written. -/
@[ext]
structure Spelling where
  /-- How many line feeds stand in front. -/
  feeds : Nat := 0
  ok : Bool
  /-- The barcode and the tag, as far as they are written. -/
  fields : List String
  few : fields.length ≤ 2
  plain : ∀ field ∈ fields, '|' ∉ field.toList

namespace Spelling

/-- The status and the fields behind it. -/
def line (s : Spelling) : List Char :=
  statusWord s.ok ++ s.fields.flatMap fun field => '|' :: field.toList

/-- The text in front of the terminator. -/
def chars (s : Spelling) : List Char := List.replicate s.feeds '\n' ++ s.line

/-- The bytes that are written. -/
def bytes (s : Spelling) : Bytes := Bytes.ofChars s.chars ++ [terminator]

/-- The response that is meant. An empty field is an absent one. -/
def response (s : Spelling) : Response where
  ok := s.ok
  barcode := s.fields[0]?.filter (· ≠ "")
  tag := s.fields[1]?.filter (· ≠ "")

theorem splitOn_line (s : Spelling) :
    Text.splitOn '|' s.line = statusWord s.ok :: s.fields.map String.toList := by
  have joined : s.line = Text.joinWith '|' (statusWord s.ok :: s.fields.map String.toList) := by
    rw [Text.joinWith_cons, List.flatMap_map, line]
  rw [joined]
  refine Text.splitOn_joinWith (List.cons_ne_nil _ _) (List.forall_mem_cons.mpr ⟨?_, ?_⟩)
  · cases s.ok <;> decide
  · rw [List.forall_mem_map]
    exact s.plain

/-- The line feeds end where the status begins. -/
theorem dropWhile_chars (s : Spelling) : s.chars.dropWhile (· = '\n') = s.line := by
  rw [chars, List.dropWhile_append_of_pos fun c hc => by simp [List.eq_of_mem_replicate hc], line]
  cases s.ok <;> rfl

theorem count_chars (s : Spelling) : s.chars.count '|' = s.fields.length := by
  have fields := Text.length_splitOn '|' s.line
  rw [splitOn_line, List.length_cons, List.length_map] at fields
  rw [chars, List.count_append, List.count_replicate, if_neg (by decide)]
  omega

/-- A frame is written in one way only. -/
theorem bytes_injective {s t : Spelling} (h : s.bytes = t.bytes) : s = t := by
  -- A status begins with no line feed, so the line is known; the number of line feeds is the rest.
  have chars : s.chars = t.chars := Bytes.ofChars_injective (List.append_inj_left' h rfl)
  have line : s.line = t.line := by rw [← dropWhile_chars, chars, dropWhile_chars]
  have feeds : s.feeds = t.feeds := by
    have lengths := congrArg List.length chars
    simp only [Spelling.chars, List.length_append, List.length_replicate, line] at lengths
    omega
  have pieces : statusWord s.ok :: s.fields.map String.toList =
      statusWord t.ok :: t.fields.map String.toList := by
    rw [← splitOn_line, line, splitOn_line]
  obtain ⟨word, fields⟩ := List.cons.inj pieces
  have ok : s.ok = t.ok := by
    rw [← Option.some_inj, ← Response.status?_eq_some_iff.mpr rfl, word,
      Response.status?_eq_some_iff.mpr rfl]
  exact Spelling.ext feeds ok (List.map_injective_iff.mpr (fun _ _ => String.toList_inj.mp) fields)

end Spelling

namespace Response

theorem field?_toList (field : String) :
    field? field.toList = (some field).filter (· ≠ "") := by
  unfold field?
  by_cases none : field = "" <;> simp [none, Option.filter_some]

theorem ofFields_line (s : Spelling) : ofFields (Text.splitOn '|' s.line) = .ok s.response := by
  have few : ¬ (s.fields.map String.toList).length > 2 := by
    rw [List.length_map]
    exact Nat.not_lt.mpr s.few
  have field (i : Nat) : ((s.fields.map String.toList)[i]?).bind field? =
      s.fields[i]?.filter (· ≠ "") := by
    rw [List.getElem?_map]
    cases s.fields[i]? with
    | none => rfl
    | some field => exact field?_toList field
  rw [s.splitOn_line, ofFields]
  simp only [if_neg few, status?_eq_some_iff.mpr rfl, field]
  rfl

/-- What is written as a response is read as it. -/
theorem decode_bytes (s : Spelling) (fits : s.bytes.length ≤ maxFrameLength) :
    decode s.bytes = .ok s.response := by
  have room : (Bytes.ofChars s.chars).length < maxFrameLength := by
    rw [Spelling.bytes, List.length_append, List.length_singleton] at fits
    omega
  rw [Spelling.bytes, decode_ofChars room, s.dropWhile_chars, ofFields_line]

end Response

/-! ### Which fault is found first -/

/-- How many fields a text has. -/
def fieldCount (text : String) : Nat := text.toList.count '|' + 1

/-- The first field of a text, behind the line feeds in front. -/
def firstField (text : String) : List Char :=
  (text.toList.dropWhile (· = '\n')).takeWhile (· ≠ '|')

namespace FrameError

/-- What a fault says of a frame. The last three speak of what stands before the last byte. -/
def FoundIn (frame : Bytes) : FrameError → Prop
  | tooLong => maxFrameLength < frame.length
  | unterminated => frame.getLast? ≠ some terminator
  | notText => ∀ text, frame.dropLast ≠ Bytes.ofText text
  | tooManyFields count => ∃ text, frame.dropLast = Bytes.ofText text ∧
      fieldCount text = count ∧ 3 < count
  | unknownStatus status => ∃ text, frame.dropLast = Bytes.ofText text ∧
      firstField text = status.toList ∧ ∀ ok, status.toList ≠ statusWord ok

/-- The place of a fault among several. -/
def rank : FrameError → Nat
  | tooLong => 0
  | unterminated => 1
  | notText => 2
  | tooManyFields _ => 3
  | unknownStatus _ => 4

/-- A fault is the first that is found. -/
def IsFirst (frame : Bytes) (e : FrameError) : Prop :=
  e.FoundIn frame ∧ ∀ e' : FrameError, e'.FoundIn frame → e.rank ≤ e'.rank

/-- Only one fault of a rank is found. -/
theorem FoundIn.eq_of_rank_eq (found : e.FoundIn frame) (found' : e'.FoundIn frame)
    (same : e.rank = e'.rank) : e = e' := by
  cases e <;> cases e' <;> cases same
  case tooManyFields =>
    obtain ⟨text, body, rfl, -⟩ := found
    obtain ⟨text', body', rfl, -⟩ := found'
    obtain rfl := Bytes.ofText_injective (body.symm.trans body')
    rfl
  case unknownStatus =>
    obtain ⟨text, body, first, -⟩ := found
    obtain ⟨text', body', first', -⟩ := found'
    obtain rfl := Bytes.ofText_injective (body.symm.trans body')
    rw [String.toList_inj.mp (first.symm.trans first')]
  all_goals rfl

theorem IsFirst.unique (first : e.IsFirst frame) (first' : e'.IsFirst frame) : e = e' :=
  first.1.eq_of_rank_eq first'.1 (Nat.le_antisymm (first.2 e' first'.1) (first'.2 e first.1))

/-! What is found in a frame that has none of the first faults. -/

theorem FoundIn.one_le_rank (found : e.FoundIn frame) (fits : frame.length ≤ maxFrameLength) :
    1 ≤ e.rank := by
  cases e with
  | tooLong => exact absurd fits (Nat.not_le.mpr found)
  | _ => simp [rank]

theorem FoundIn.two_le_rank (found : e.FoundIn frame) (fits : frame.length ≤ maxFrameLength)
    (last : frame.getLast? = some terminator) : 2 ≤ e.rank := by
  have one := found.one_le_rank fits
  cases e with
  | tooLong => exact absurd one (by simp [rank])
  | unterminated => exact absurd last found
  | _ => simp [rank]

variable {text : String}

theorem FoundIn.three_le_rank (found : e.FoundIn (Bytes.ofText text ++ [terminator]))
    (fits : (Bytes.ofText text ++ [terminator]).length ≤ maxFrameLength) : 3 ≤ e.rank := by
  have two := found.two_le_rank fits List.getLast?_concat
  cases e with
  | tooLong | unterminated => exact absurd two (by simp [rank])
  | notText => exact absurd List.dropLast_concat (found text)
  | _ => simp [rank]

theorem FoundIn.four_le_rank (found : e.FoundIn (Bytes.ofText text ++ [terminator]))
    (fits : (Bytes.ofText text ++ [terminator]).length ≤ maxFrameLength)
    (few : fieldCount text ≤ 3) : 4 ≤ e.rank := by
  have three := found.three_le_rank fits
  cases e with
  | tooLong | unterminated | notText => exact absurd three (by simp [rank])
  | tooManyFields count =>
    obtain ⟨text', body, rfl, many⟩ := found
    obtain rfl := Bytes.ofText_injective (List.dropLast_concat.symm.trans body)
    exact absurd few (Nat.not_le.mpr many)
  | unknownStatus => simp [rank]

/-- No fault is found in what is written as a response. -/
theorem not_foundIn_bytes (s : Spelling) (fits : s.bytes.length ≤ maxFrameLength) :
    ¬ e.FoundIn s.bytes := by
  intro found
  have text : s.bytes = Bytes.ofText (String.ofList s.chars) ++ [terminator] := by
    rw [Spelling.bytes, Bytes.ofText, String.toList_ofList]
  rw [text] at found fits
  have few : fieldCount (String.ofList s.chars) ≤ 3 := by
    rw [fieldCount, String.toList_ofList, s.count_chars]
    exact Nat.succ_le_succ s.few
  have four := found.four_le_rank fits few
  cases e with
  | tooLong | unterminated | notText | tooManyFields => exact absurd four (by simp [rank])
  | unknownStatus status =>
    obtain ⟨text', body, first, unknown⟩ := found
    obtain rfl := Bytes.ofText_injective (List.dropLast_concat.symm.trans body)
    refine unknown s.ok (first.symm.trans ?_)
    rw [firstField, String.toList_ofList, s.dropWhile_chars]
    have head := Text.head?_splitOn '|' s.line
    rw [s.splitOn_line] at head
    exact (Option.some.inj head).symm

end FrameError

namespace Response

variable {text : String}

theorem decode_of_tooLong (long : maxFrameLength < frame.length) :
    decode frame = .error .tooLong := if_pos long

theorem decode_of_unterminated (fits : frame.length ≤ maxFrameLength)
    (open_ : frame.getLast? ≠ some terminator) : decode frame = .error .unterminated := by
  rw [decode, if_neg (Nat.not_lt.mpr fits), body?, if_neg open_]

theorem decode_of_notText (fits : frame.length ≤ maxFrameLength)
    (last : frame.getLast? = some terminator)
    (foreign : ∀ text, frame.dropLast ≠ Bytes.ofText text) : decode frame = .error .notText := by
  have spelled : Bytes.text? frame.dropLast = none :=
    Option.eq_none_iff_forall_ne_some.mpr fun text h => foreign text (Bytes.text?_eq_some_iff.mp h)
  rw [decode, if_neg (Nat.not_lt.mpr fits), body?, if_pos last]
  simp only [spelled]

theorem decode_ofText (fits : (Bytes.ofText text ++ [terminator]).length ≤ maxFrameLength) :
    decode (Bytes.ofText text ++ [terminator]) =
      ofFields (Text.splitOn '|' (text.toList.dropWhile (· = '\n'))) := by
  refine decode_ofChars ?_
  rw [List.length_append, List.length_singleton] at fits
  exact fits

/-- The line feeds in front of a text, and what stands behind them. -/
theorem exists_feeds (cs : List Char) :
    ∃ feeds, List.replicate feeds '\n' ++ cs.dropWhile (· = '\n') = cs := by
  have run : cs.takeWhile (· = '\n') =
      List.replicate (cs.takeWhile (· = '\n')).length '\n' :=
    List.eq_replicate_of_mem fun c hc => by simpa using List.mem_takeWhile_imp hc
  refine ⟨(cs.takeWhile (· = '\n')).length, ?_⟩
  rw [← run, List.takeWhile_append_dropWhile]

theorem length_fields (text : String) :
    (Text.splitOn '|' (text.toList.dropWhile (· = '\n'))).length = fieldCount text := by
  obtain ⟨feeds, split⟩ := exists_feeds text.toList
  have bars : text.toList.count '|' = (text.toList.dropWhile (· = '\n')).count '|' := by
    conv_lhs => rw [← split]
    rw [List.count_append, List.count_replicate, if_neg (by decide), Nat.zero_add]
  rw [Text.length_splitOn, fieldCount, bars]

/-- A text whose first field is a status, with at most two behind it, is written as a response. -/
theorem exists_spelling {ok : Bool} (status : firstField text = statusWord ok)
    (few : fieldCount text ≤ 3) : ∃ s : Spelling, s.chars = text.toList := by
  obtain ⟨feeds, split⟩ := exists_feeds text.toList
  have count := length_fields text
  have head := Text.head?_splitOn '|' (text.toList.dropWhile (· = '\n'))
  have joined := Text.joinWith_splitOn '|' (text.toList.dropWhile (· = '\n'))
  have plain := @Text.not_mem_of_mem_splitOn '|' (text.toList.dropWhile (· = '\n'))
  change _ = some (firstField text) at head
  generalize Text.splitOn '|' (text.toList.dropWhile (· = '\n')) = fields at count head joined plain
  cases fields with
  | nil => cases head
  | cons first rest =>
    obtain rfl : first = statusWord ok := (Option.some.inj head).trans status
    refine ⟨⟨feeds, ok, rest.map String.ofList, ?_, ?_⟩, ?_⟩
    · rw [List.length_map]
      rw [List.length_cons] at count
      omega
    · rw [List.forall_mem_map]
      intro field hfield
      rw [String.toList_ofList]
      exact plain (List.mem_cons_of_mem _ hfield)
    · rw [Text.joinWith_cons] at joined
      simpa [Spelling.chars, Spelling.line, List.flatMap_map, joined] using split

theorem decode_of_tooMany (fits : (Bytes.ofText text ++ [terminator]).length ≤ maxFrameLength)
    (many : 3 < fieldCount text) :
    decode (Bytes.ofText text ++ [terminator]) = .error (.tooManyFields (fieldCount text)) := by
  rw [decode_ofText fits]
  have count := length_fields text
  cases fields : Text.splitOn '|' (text.toList.dropWhile (· = '\n')) with
  | nil => exact absurd fields (Text.splitOn_ne_nil _ _)
  | cons first rest =>
    rw [fields, List.length_cons] at count
    rw [ofFields, if_pos (by omega), List.length_cons, count]

theorem decode_of_unknown (fits : (Bytes.ofText text ++ [terminator]).length ≤ maxFrameLength)
    (few : fieldCount text ≤ 3) (unknown : ∀ ok, firstField text ≠ statusWord ok) :
    decode (Bytes.ofText text ++ [terminator]) =
      .error (.unknownStatus (String.ofList (firstField text))) := by
  rw [decode_ofText fits]
  have count := length_fields text
  have head := Text.head?_splitOn '|' (text.toList.dropWhile (· = '\n'))
  cases fields : Text.splitOn '|' (text.toList.dropWhile (· = '\n')) with
  | nil => exact absurd fields (Text.splitOn_ne_nil _ _)
  | cons first rest =>
    rw [fields, List.length_cons] at count
    rw [fields] at head
    obtain rfl : first = firstField text := Option.some.inj head
    have none_ : status? (firstField text) = none :=
      Option.eq_none_iff_forall_ne_some.mpr fun ok h => unknown ok (status?_eq_some_iff.mp h)
    rw [ofFields, if_neg (by omega)]
    simp only [none_]

/-- Every frame is written as a response or has a fault, and is read so. -/
theorem decode_cases (frame : Bytes) :
    (frame.length ≤ maxFrameLength ∧
      ∃ s : Spelling, s.bytes = frame ∧ decode frame = .ok s.response) ∨
    ∃ e : FrameError, e.IsFirst frame ∧ decode frame = .error e := by
  -- In the order in which the faults are looked for; a frame that has none is spelled.
  rcases Nat.lt_or_ge maxFrameLength frame.length with long | fits
  · exact .inr ⟨.tooLong, ⟨long, fun e' _ => Nat.zero_le _⟩, decode_of_tooLong long⟩
  by_cases last : frame.getLast? = some terminator
  case neg =>
    exact .inr ⟨.unterminated, ⟨last, fun e' found => found.one_le_rank fits⟩,
      decode_of_unterminated fits last⟩
  by_cases foreign : ∀ text, frame.dropLast ≠ Bytes.ofText text
  · exact .inr ⟨.notText, ⟨foreign, fun e' found => found.two_le_rank fits last⟩,
      decode_of_notText fits last foreign⟩
  push Not at foreign
  obtain ⟨text, body⟩ := foreign
  obtain rfl : frame = Bytes.ofText text ++ [terminator] := by
    rw [← body, List.dropLast_append_getLast? _ last]
  rcases Nat.lt_or_ge 3 (fieldCount text) with many | few
  · exact .inr ⟨.tooManyFields _, ⟨⟨text, body, rfl, many⟩,
      fun e' found => found.three_le_rank fits⟩, decode_of_tooMany fits many⟩
  by_cases unknown : ∀ ok, firstField text ≠ statusWord ok
  · refine .inr ⟨.unknownStatus _, ⟨⟨text, body, ?_, ?_⟩,
      fun e' found => found.four_le_rank fits few⟩, decode_of_unknown fits few unknown⟩
    · rw [String.toList_ofList]
    · rwa [String.toList_ofList]
  · push Not at unknown
    obtain ⟨ok, status⟩ := unknown
    obtain ⟨s, chars⟩ := exists_spelling status few
    have bytes : s.bytes = Bytes.ofText text ++ [terminator] := by
      rw [Spelling.bytes, chars, Bytes.ofText]
    refine .inl ⟨fits, s, bytes, ?_⟩
    rw [← bytes] at fits ⊢
    exact decode_bytes s fits

/-- What is read as a response is written as one, and is not too long. -/
theorem decode_eq_ok_iff :
    decode frame = .ok r ↔
      frame.length ≤ maxFrameLength ∧ ∃ s : Spelling, s.bytes = frame ∧ s.response = r := by
  constructor
  · intro h
    rcases decode_cases frame with ⟨fits, s, bytes, read⟩ | ⟨e, -, read⟩
    · exact ⟨fits, s, bytes, Except.ok.inj (read.symm.trans h)⟩
    · cases read.symm.trans h
  · rintro ⟨fits, s, rfl, rfl⟩
    exact decode_bytes s fits

/-- The first fault that is found is reported. -/
theorem decode_eq_error_iff : decode frame = .error e ↔ e.IsFirst frame := by
  constructor
  · intro h
    rcases decode_cases frame with ⟨-, s, -, read⟩ | ⟨e', first, read⟩
    · cases read.symm.trans h
    · obtain rfl := Except.error.inj (read.symm.trans h)
      exact first
  · intro first
    rcases decode_cases frame with ⟨fits, s, rfl, -⟩ | ⟨e', first', read⟩
    · exact absurd first.1 (FrameError.not_foundIn_bytes s fits)
    · rw [read, first'.unique first]

end Response

/-! ### The shortest form -/

namespace Response

/-- The fields that a response needs. -/
def fields (r : Response) : List String :=
  match r.barcode, r.tag with
  | none, none => []
  | some barcode, none => [barcode]
  | barcode, some tag => [barcode.getD "", tag]

/-- The fields that a response needs are read as they are, if none of them is empty. -/
theorem getElem?_fields (named : r.barcode ≠ some "") (tagged : r.tag ≠ some "") :
    r.fields[0]?.filter (· ≠ "") = r.barcode ∧ r.fields[1]?.filter (· ≠ "") = r.tag := by
  rcases r with ⟨ok, _ | barcode, _ | tag⟩ <;> simp_all [fields, Option.filter_some]

/-- A response in its shortest form. -/
def shortFrame (r : Response) : Bytes :=
  Bytes.ofChars (statusWord r.ok ++ r.fields.flatMap fun field => '|' :: field.toList) ++
    [terminator]

end Response

namespace Spelling

/-- A response needs no more fields than are written, and the same ones. -/
theorem fields_response_prefix (s : Spelling) : s.response.fields <+: s.fields := by
  have few := s.few
  rcases fields : s.fields with _ | ⟨barcode, _ | ⟨tag, _ | ⟨more, rest⟩⟩⟩
  · simp [response, Response.fields, fields]
  · by_cases unnamed : barcode = "" <;>
      simp [response, Response.fields, fields, unnamed, Option.filter_some]
  · by_cases unnamed : barcode = "" <;> by_cases untagged : tag = "" <;>
      simp [response, Response.fields, fields, unnamed, untagged, Option.filter_some]
  · rw [fields, List.length_cons, List.length_cons, List.length_cons] at few
    omega

/-- What is meant, in its shortest form. -/
def short (s : Spelling) : Spelling where
  ok := s.ok
  fields := s.response.fields
  few := s.fields_response_prefix.length_le.trans s.few
  plain field hfield := s.plain field (s.fields_response_prefix.mem hfield)

theorem bytes_short (s : Spelling) : s.short.bytes = s.response.shortFrame := rfl

theorem response_short (s : Spelling) : s.short.response = s.response := by
  have named (i : Nat) : s.fields[i]?.filter (· ≠ "") ≠ some "" := by
    simp [Option.filter_eq_some_iff]
  obtain ⟨barcode, tag⟩ := @Response.getElem?_fields s.response (named 0) (named 1)
  exact congrArg₂ (Response.mk s.ok) barcode tag

/-- The shortest form is no longer than any other. -/
theorem length_bytes_short_le (s : Spelling) : s.short.bytes.length ≤ s.bytes.length := by
  obtain ⟨more, fields⟩ := s.fields_response_prefix
  have line : s.line = s.short.line ++ more.flatMap fun field => '|' :: field.toList := by
    rw [Spelling.line, ← fields, List.flatMap_append, ← List.append_assoc]
    rfl
  have chars : s.chars = List.replicate s.feeds '\n' ++
      (s.short.chars ++ more.flatMap fun field => '|' :: field.toList) := by
    rw [Spelling.chars, line]
    rfl
  rw [bytes, bytes, chars]
  simp only [Bytes.ofChars_append, List.length_append]
  omega

end Spelling

namespace Response

/-- A response that was read is read from its shortest form too. -/
theorem decode_shortFrame (h : decode frame = .ok r) :
    r.shortFrame.length ≤ frame.length ∧ decode r.shortFrame = .ok r := by
  obtain ⟨fits, s, rfl, rfl⟩ := decode_eq_ok_iff.mp h
  have shorter := s.length_bytes_short_le
  rw [← s.bytes_short]
  exact ⟨shorter, (decode_bytes s.short (shorter.trans fits)).trans (congrArg _ s.response_short)⟩

/-! ### Every frame -/

/-- The response in a frame, its status looked up among the fields. There is no result if there is
no first field. -/
def indexed? (frame : Bytes) : Option (Except FrameError Response) :=
  if frame.length > maxFrameLength then some (.error .tooLong)
  else match body? frame with
    | none => some (.error .unterminated)
    | some body =>
      match Bytes.text? body with
      | none => some (.error .notText)
      | some text =>
        let fields := Text.splitOn '|' (text.toList.dropWhile (· = '\n'))
        if fields.length > 3 then some (.error (.tooManyFields fields.length))
        else fields[0]?.map fun status =>
          match status? status with
          | none => .error (.unknownStatus (String.ofList status))
          | some ok =>
            .ok { ok, barcode := fields[1]?.bind field?, tag := fields[2]?.bind field? }

/-- There always is a first field. -/
theorem indexed?_eq (frame : Bytes) : indexed? frame = some (decode frame) := by
  unfold indexed? decode
  split_ifs
  · rfl
  cases body? frame with
  | none => rfl
  | some body =>
    dsimp only
    cases Bytes.text? body with
    | none => rfl
    | some text =>
      dsimp only
      cases fields : Text.splitOn '|' (text.toList.dropWhile (· = '\n')) with
      | nil => exact absurd fields (Text.splitOn_ne_nil _ _)
      | cons status rest =>
        rw [ofFields]
        by_cases many : rest.length > 2
        · rw [if_pos many, if_pos (by rw [List.length_cons]; omega)]
        · rw [if_neg many, if_neg (by rw [List.length_cons]; omega)]
          cases known : status? status <;> simp [known]

/-- A frame is read as a response just if it is no longer than a frame may be and written as the
response: line feeds, the status, and at most two fields without bars behind one each, in UTF-8,
and a carriage return. It is written in one way only. The look-up of the status does not fail, and
every other frame is reported by one fault, the first that is found in it. A response that is read
is read again from its shortest form, than which no frame that is read as it is shorter. -/
theorem decode_follows_spelling (frame : Bytes) :
    (∀ r, decode frame = .ok r ↔
      frame.length ≤ maxFrameLength ∧ ∃ s : Spelling, s.bytes = frame ∧ s.response = r) ∧
    (∀ s t : Spelling, s.bytes = frame → t.bytes = frame → s = t) ∧
    indexed? frame = some (decode frame) ∧
    (¬ (frame.length ≤ maxFrameLength ∧ ∃ s : Spelling, s.bytes = frame) →
      ∃! e, decode frame = .error e) ∧
    (∀ e, decode frame = .error e ↔ e.IsFirst frame) ∧
    ∀ r, decode frame = .ok r →
      r.shortFrame.length ≤ frame.length ∧ decode r.shortFrame = .ok r := by
  refine ⟨fun r => decode_eq_ok_iff, ?_, indexed?_eq frame, ?_, fun e => decode_eq_error_iff,
    fun r => decode_shortFrame⟩
  · rintro s t rfl same
    exact (Spelling.bytes_injective same).symm
  · intro unwritten
    cases read : decode frame with
    | error e => exact ⟨e, rfl, fun e' same => (Except.error.inj same).symm⟩
    | ok r =>
      obtain ⟨fits, s, written, -⟩ := decode_eq_ok_iff.mp read
      exact absurd ⟨fits, s, written⟩ unwritten

/-- An empty barcode and the line feed in front are left out of the shortest form, and of two faults
the number of fields is reported. -/
theorem decode_follows_spelling_awkwardFrames :
    let frame := Bytes.ofText "\nNOK|10B2|\r"
    let faulty := Bytes.ofText "what|a|b|c\r"
    (∃ r, decode frame = .ok r ∧ r.shortFrame = Bytes.ofText "NOK|10B2\r" ∧
      decode r.shortFrame = .ok r) ∧
    FrameError.FoundIn faulty (.unknownStatus "what") ∧
      decode faulty = .error (.tooManyFields 4) ∧ ∃! e, decode faulty = .error e := by
  intro frame faulty
  constructor
  · obtain ⟨spelled, -, -, -, -, short⟩ := decode_follows_spelling frame
    let s : Spelling := ⟨1, false, ["10B2", ""], by decide, by decide⟩
    have read := (spelled s.response).mpr ⟨by decide, s, by decide, rfl⟩
    exact ⟨s.response, read, by decide, (short s.response read).2⟩
  · obtain ⟨-, -, -, one, fault, -⟩ := decode_follows_spelling faulty
    have unknown : FrameError.FoundIn faulty (.unknownStatus "what") :=
      ⟨"what|a|b|c", by decide, by decide, by decide⟩
    have many : FrameError.FoundIn faulty (.tooManyFields 4) :=
      ⟨"what|a|b|c", by decide, by decide, by decide⟩
    have read : decode faulty = .error (.tooManyFields 4) := by decide
    refine ⟨unknown, read, one ?_⟩
    rintro ⟨fits, s, written⟩
    exact FrameError.not_foundIn_bytes s (written ▸ fits) (written ▸ many)

end Response

end Reader

end SelfCheck
