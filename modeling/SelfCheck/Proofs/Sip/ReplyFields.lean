import SelfCheck.Proofs.Sip.ReplyParts
import Mathlib.Data.List.Basic

/-!
# The fields of a reply are those that were written

A server writes the fixed part, the fields with a bar behind each, and line ends. Codes are two
bytes long, which may be one character, and a value may be empty or have any characters but bars, so
the segments that the reader finds are the fields again, and of those with one code the first is
kept.

The reader cuts at offsets that count bytes, where a text that came from damaged bytes may have any
character. It asks at each cut whether a character begins there. The reading is told here once more
with these questions in it and with cuts that fail where none begins, and none of them fails.

## Main definitions

* `Sip.Reply.Written` — a reply as a server writes it
* `Sip.Reply.sliced?` — the reading with its questions and cuts

## Main results

* `Sip.Reply.filterMap_segment?_written` — the fields are found in what is written
* `Sip.Reply.sliced?_eq` — no cut of the reading fails
* `Sip.Reply.wellFormed_iff` — a line can be cut just if it is long enough and has a boundary there
* `Sip.Reply.parse_recovers_fields` — what is read of a written reply, and of any other text
-/

namespace SelfCheck

namespace Text

variable {p : Char → Bool} {cs run : List Char}

theorem trimEnd_append_of_forall (h : ∀ c ∈ run, p c = true) :
    trimEnd p (cs ++ run) = trimEnd p cs := by
  rw [trimEnd, List.reverse_append,
    List.dropWhile_append_of_pos fun c hc => h c (List.mem_reverse.mp hc), trimEnd]

theorem trimEnd_eq_self (h : ∀ c ∈ cs.getLast?, p c = false) : trimEnd p cs = cs := by
  rw [trimEnd]
  cases last : cs.reverse with
  | nil => rw [List.reverse_eq_nil_iff.mp last]; rfl
  | cons c rest =>
    have stays : p c = false := h c (by rw [← List.head?_reverse, last]; rfl)
    rw [List.dropWhile_cons_of_neg (by rw [stays]; exact Bool.false_ne_true), ← last,
      List.reverse_reverse]

end Text

namespace Sip.Reply

variable {number raw : String} {fixedLength : Nat} {segment : List Char}
  {fields : List (String × String)} {f : String × String}

/-! ### Reading by slices -/

/-- Fields with one more, unless there is one with its code. -/
def entered (fields : List (String × String)) (f : String × String) : List (String × String) :=
  if fields.any (·.1 = f.1) then fields else fields ++ [f]

/-- Fields with that of one more segment, which is passed over when it is too short or when no
character begins at its second byte. It is then cut there; there is no result if that fails. -/
def enter? (fields : List (String × String)) (segment : List Char) :
    Option (List (String × String)) :=
  if Text.byteLength segment < 2 || !Text.isBoundary 2 segment then some fields
  else (Text.cutAt? 2 segment).map fun (code, value) =>
    entered fields (String.ofList code, String.ofList value)

/-- Cuts a reply into its parts, the line and then segment by segment, each after asking whether it
can be cut. There is no result if a cut fails. -/
def sliced? (number : String) (fixedLength : Nat) (raw : String) : Option (Except Fault Reply) :=
  let line := chomp raw
  if number.toList.isPrefixOf line then
    if Text.byteLength line < fixedLength || !Text.isBoundary fixedLength line then
      some (.error (.malformed ("message " ++ number ++ " shorter than its fixed part")))
    else
      (Text.cutAt? fixedLength line).bind fun (fixed, rest) =>
        ((Text.splitOn '|' rest).foldlM enter? []).map fun fields =>
          .ok { fixed := String.ofList fixed, fields }
  else
    some (.error (.malformed ("expected message " ++ number ++ ", got " ++
      Text.Quoted.render (leading line))))

/-- The questions before a cut are answered by the cut. -/
theorem guard_eq_isNone (n : Nat) (cs : List Char) :
    (Text.byteLength cs < n || !Text.isBoundary n cs) = (Text.cutAt? n cs).isNone := by
  rw [← Option.not_isSome, ← Bool.eq_iff_iff.mpr Text.isBoundary_iff]
  cases boundary : Text.isBoundary n cs with
  | false => simp
  | true =>
    have long := Text.le_byteLength_of_isBoundary boundary
    simpa using long

theorem enter?_eq (fields : List (String × String)) (segment : List Char) :
    enter? fields segment = some ((segment? segment).elim fields (entered fields)) := by
  rw [enter?, guard_eq_isNone, segment?]
  cases Text.cutAt? 2 segment <;> rfl

theorem foldlM_enter? (segments : List (List Char)) (fields : List (String × String)) :
    segments.foldlM enter? fields =
      some ((segments.filterMap segment?).foldl entered fields) := by
  induction segments generalizing fields with
  | nil => rfl
  | cons segment segments ih =>
    rw [List.foldlM_cons, enter?_eq]
    cases held : segment? segment with
    | none =>
      rw [List.filterMap_cons_none held]
      exact ih fields
    | some f =>
      rw [List.filterMap_cons_some held]
      exact ih (entered fields f)

/-- Fields entered one by one are those with a new code, the first with each. -/
theorem foldl_entered (fs fields : List (String × String)) :
    fs.foldl entered fields = fields ++ (firsts fs).filter fun g => !fields.any (·.1 = g.1) := by
  induction fs generalizing fields with
  | nil => simp [firsts]
  | cons f fs ih =>
    rw [List.foldl_cons, ih, entered, firsts]
    split_ifs with known
    · -- What `firsts` leaves out has the code of `f`, and that is known too.
      rw [List.filter_cons_of_neg (by rw [known]; exact Bool.false_ne_true), List.filter_filter]
      congr 2
      funext g
      cases new : !fields.any (·.1 = g.1) with
      | false => rfl
      | true =>
        have other : g.1 ≠ f.1 := by
          intro same
          rw [same, known] at new
          cases new
        simp [other]
    · -- From here on `f` is among the known ones, which is what `firsts` filters by.
      rw [List.filter_cons_of_pos (by rw [Bool.eq_false_iff.mpr known]; rfl), List.filter_filter,
        List.append_assoc, List.singleton_append]
      congr 3
      funext g
      simp [List.any_append, eq_comm]

/-- No cut of the reading fails. -/
theorem sliced?_eq (number : String) (fixedLength : Nat) (raw : String) :
    sliced? number fixedLength raw = some (parse number fixedLength raw) := by
  unfold sliced? parse
  dsimp only
  -- With the questions answered by the cut, the two readings branch alike.
  rw [guard_eq_isNone]
  split_ifs with begins uncut
  · rw [Option.isNone_iff_eq_none.mp uncut]
  · obtain ⟨⟨fixed, rest⟩, cut⟩ :=
      Option.ne_none_iff_exists'.mp (mt Option.isNone_iff_eq_none.mpr uncut)
    rw [cut, Option.bind_some, foldlM_enter?, foldl_entered]
    simp
  · rfl

/-- A line can be cut just if it has the bytes of the fixed part and a character begins behind
them. -/
theorem wellFormed_iff {line : List Char} :
    WellFormed number fixedLength line ↔
      number.toList <+: line ∧ fixedLength ≤ (Bytes.ofChars line).length ∧
        Text.isBoundary fixedLength line = true := by
  rw [Bytes.length_ofChars]
  constructor
  · rintro ⟨fixed, rest, cut⟩
    have boundary : Text.isBoundary fixedLength line = true := by
      rw [Text.isBoundary_iff, (cutAt?_iff cut.begins).mpr cut]
      rfl
    exact ⟨cut.begins, Text.le_byteLength_of_isBoundary boundary, boundary⟩
  · rintro ⟨begins, -, boundary⟩
    obtain ⟨⟨fixed, rest⟩, cut⟩ := Option.isSome_iff_exists.mp (Text.isBoundary_iff.mp boundary)
    exact ⟨fixed, rest, (cutAt?_iff begins).mp cut⟩

theorem exists_parse_iff :
    (∃ r, parse number fixedLength raw = .ok r) ↔ WellFormed number fixedLength (chomp raw) := by
  constructor
  · rintro ⟨r, read⟩
    obtain ⟨rest, cut, -⟩ := parse_eq_ok_iff.mp read
    exact ⟨_, rest, cut⟩
  · rintro ⟨fixed, rest, cut⟩
    obtain ⟨r, read, -⟩ := cut.parse
    exact ⟨r, read⟩

/-! ### What a server writes -/

/-- A code of two bytes and a value, without the bar that would end them. -/
structure IsField (f : String × String) : Prop where
  two : Text.byteLength f.1.toList = 2
  code : '|' ∉ f.1.toList
  value : '|' ∉ f.2.toList

instance (f : String × String) : Decidable (IsField f) :=
  decidable_of_iff (Text.byteLength f.1.toList = 2 ∧ '|' ∉ f.1.toList ∧ '|' ∉ f.2.toList)
    ⟨fun ⟨two, code, value⟩ => ⟨two, code, value⟩, fun h => ⟨h.two, h.code, h.value⟩⟩

/-- A reply as a server writes it. -/
structure Written (number : String) where
  fixed : String
  fields : List (String × String)
  /-- The line ends behind it, in any number. -/
  ends : String
  begins : number.toList <+: fixed.toList
  proper : ∀ f ∈ fields, IsField f
  lineEnds : ∀ c ∈ ends.toList, Text.isLineEnd c = true
  /-- When no field stands between them, the fixed part has no line end before those behind it. -/
  firm : fields = [] → ∀ c ∈ fixed.toList.getLast?, Text.isLineEnd c = false

/-- The segment of a field. -/
def fieldSegment (f : String × String) : List Char := f.1.toList ++ f.2.toList

/-- Fields with a bar behind each. -/
def fieldsText (fields : List (String × String)) : List Char :=
  fields.flatMap fun f => fieldSegment f ++ ['|']

/-- The text of a reply. -/
def Written.text (w : Written number) : String :=
  String.ofList (w.fixed.toList ++ fieldsText w.fields ++ w.ends.toList)

theorem fieldsText_eq_joinWith (fields : List (String × String)) :
    fieldsText fields = Text.joinWith '|' (fields.map fieldSegment ++ [[]]) := by
  induction fields with
  | nil => rfl
  | cons f fields ih =>
    have first : fieldsText (f :: fields) = fieldSegment f ++ '|' :: fieldsText fields := by
      simp [fieldsText]
    rw [first, ih]
    cases fields <;> rfl

/-- The fields stand between the bars, and nothing behind the last one. -/
theorem splitOn_fieldsText (proper : ∀ f ∈ fields, IsField f) :
    Text.splitOn '|' (fieldsText fields) = fields.map fieldSegment ++ [[]] := by
  rw [fieldsText_eq_joinWith]
  refine Text.splitOn_joinWith (by simp) fun segment hsegment => ?_
  rcases List.mem_append.mp hsegment with hsegment | hsegment
  · obtain ⟨f, hf, rfl⟩ := List.mem_map.mp hsegment
    rw [fieldSegment, List.mem_append, not_or]
    exact ⟨(proper f hf).code, (proper f hf).value⟩
  · rw [List.mem_singleton.mp hsegment]
    exact List.not_mem_nil

/-- The fields are found in what is written. -/
theorem filterMap_segment?_written (proper : ∀ f ∈ fields, IsField f) :
    (Text.splitOn '|' (fieldsText fields)).filterMap segment? = fields := by
  have each : ∀ f ∈ fields, (segment? ∘ fieldSegment) f = some f :=
    fun f hf => segment?_eq_some_iff.mpr ⟨rfl, (proper f hf).two⟩
  -- Behind the last bar there is no code.
  have last : [([] : List Char)].filterMap segment? = [] := rfl
  rw [splitOn_fieldsText proper, List.filterMap_append, List.filterMap_map, last, List.append_nil,
    List.filterMap_congr each, List.filterMap_some]

/-- The line ends are taken off, and nothing else. -/
theorem Written.chomp_text (w : Written number) :
    chomp w.text = w.fixed.toList ++ fieldsText w.fields := by
  rw [chomp, text, String.toList_ofList, Text.trimEnd_append_of_forall w.lineEnds]
  refine Text.trimEnd_eq_self fun c last => ?_
  rcases List.eq_nil_or_concat w.fields with none | ⟨before, f, fields⟩
  · rw [none, fieldsText, List.flatMap_nil, List.append_nil] at last
    exact w.firm none c last
  · -- The bar behind the last field ends the text.
    have ends : w.fixed.toList ++ fieldsText w.fields =
        (w.fixed.toList ++ fieldsText before ++ fieldSegment f) ++ ['|'] := by
      rw [fields]
      simp [fieldsText]
    rw [ends, List.getLast?_concat] at last
    obtain rfl := Option.some.inj last
    decide

/-- A field counts once, the first with its code. -/
theorem nodup_firsts (fs : List (String × String)) : ((firsts fs).map Prod.fst).Nodup := by
  induction fs with
  | nil => exact List.nodup_nil
  | cons f fs ih =>
    rw [firsts, List.map_cons, List.nodup_cons]
    constructor
    · -- The filter has removed all others with the code of `f`.
      intro again
      obtain ⟨g, kept, same⟩ := List.mem_map.mp again
      exact absurd same (of_decide_eq_true (List.mem_filter.mp kept).2)
    · exact ih.sublist (List.filter_sublist.map Prod.fst)

/-- What is written is read with its fixed part and its fields. -/
theorem Written.parse_text (w : Written number) :
    parse number (Bytes.ofText w.fixed).length w.text =
      .ok { fixed := w.fixed, fields := firsts w.fields } := by
  refine parse_eq_ok_iff.mpr ⟨fieldsText w.fields, ⟨?_, w.chomp_text, ?_⟩, ?_⟩
  · rw [w.chomp_text]
    exact w.begins.trans (List.prefix_append _ _)
  · exact (Bytes.length_ofChars _).symm
  · rw [filterMap_segment?_written w.proper]

/-- Of a reply as a server writes it, the reader finds the fixed part, and for each code the value
of the first field with it. Whatever a text is, no cut fails, and the text is read or malformed; it
is read just if, without the line ends behind it, it begins with the number and has the bytes of the
fixed part with a boundary behind them. -/
theorem parse_recovers_fields (number : String) :
    (∀ w : Written number, ∃ r,
      parse number (Bytes.ofText w.fixed).length w.text = .ok r ∧ r.fixed = w.fixed ∧
        (r.fields.map Prod.fst).Nodup ∧
        ∀ code, r.field? code = (w.fields.find? fun f => f.1 = code).map Prod.snd) ∧
    ∀ fixedLength raw,
      let fits := number.toList <+: chomp raw ∧
        fixedLength ≤ (Bytes.ofChars (chomp raw)).length ∧
          Text.isBoundary fixedLength (chomp raw) = true
      sliced? number fixedLength raw = some (parse number fixedLength raw) ∧
        ((∃ r, parse number fixedLength raw = .ok r) ↔ fits) ∧
        ((∃ what, parse number fixedLength raw = .error (.malformed what)) ↔ ¬ fits) := by
  constructor
  · intro w
    refine ⟨_, w.parse_text, rfl, nodup_firsts w.fields, fun code => ?_⟩
    rw [field?, find?_firsts]
  · intro fixedLength raw fits
    refine ⟨sliced?_eq number fixedLength raw, ?_, ?_⟩
    · exact exists_parse_iff.trans wellFormed_iff
    · exact parse_eq_error_iff.trans (not_congr wellFormed_iff)

/-- A reply with a code of one character, one that comes twice, an empty value, and line ends inside
the fixed part and a value. -/
def awkwardReply : Written "18" where
  fixed := "18é\r"
  fields := [("é", "a\nb"), ("AB", "1"), ("AB", "2"), ("AF", "")]
  ends := "\r\n\r"
  begins := by decide
  proper := by decide
  lineEnds := List.all_eq_true.mp rfl
  firm := nofun

theorem parse_recovers_fields_awkwardReply :
    ∃ r, parse "18" (Bytes.ofText awkwardReply.fixed).length awkwardReply.text = .ok r ∧
      r.fixed = "18é\r" ∧ r.field? "é" = some "a\nb" ∧ r.field? "AB" = some "1" ∧
      r.field? "AF" = some "" ∧ r.field? "AO" = none := by
  obtain ⟨r, read, fixed, -, value⟩ := (parse_recovers_fields "18").1 awkwardReply
  refine ⟨r, read, fixed, ?_, ?_, ?_, ?_⟩
  · exact (value "é").trans (by decide)
  · exact (value "AB").trans (by decide)
  · exact (value "AF").trans (by decide)
  · exact (value "AO").trans (by decide)

end Sip.Reply

end SelfCheck
