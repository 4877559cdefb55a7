import SelfCheck.Proofs.Reader.Responses
import SelfCheck.Proofs.Station.ByteStream
import SelfCheck.Proofs.Station.Fatal

/-!
# What is written on a tag is what a scan identifies

A barcode goes to a tag behind its mark, in the line of a command, and comes back in a field of a
frame. On the way back the stream is cut into frames, the frame into fields, and the mark is taken
off. Five rules meet here that know nothing of each other, and they undo one another: whatever the
barcode is, as long as no bar and no carriage return is in it, the backend is asked about that
barcode and no other, and everything the station notes of the item is noted under it. A barcode that
itself begins with the mark keeps its own.

## Main definitions

* `Reader.Keeps` — what a reader keeps of a command to write
* `Reader.scanFrame` — the frame of a scan of what it keeps
* `Reader.Response.ofWritten` — the response that is meant
* `Mode.call`, `Verdict.owed?` — the call that a scan makes, and what is owed upon it

## Main results

* `Reader.keeps_written_iff` — a reader keeps the barcode behind its mark
* `Reader.read_scanFrame`, `Reader.events_append_of_drain` — the scan is heard, wherever it stands
* `Station.step_of_written` — what a station does upon it
* `Station.written_is_identified` — from the command to the notes
-/

namespace SelfCheck

open Wire (terminator lineFeed)

namespace Reader

variable {earlier left kept : Bytes} {heard : List Response} {b tag : String} {feeds : Nat}

/-- What a reader keeps of what it has got: one line, a command to write, of which it keeps the
argument. -/
def Keeps (received kept : Bytes) : Prop :=
  Wire.lines received = ([Bytes.ofText "WRT|" ++ kept], [])

instance (received kept : Bytes) : Decidable (Keeps received kept) :=
  inferInstanceAs (Decidable (_ = _))

/-- The frame of a scan, read in full, of what the reader keeps on a tag with a handle. -/
def scanFrame (kept : Bytes) (tag : String) : Bytes :=
  Bytes.ofText "OK|" ++ kept ++ Bytes.ofText ("|" ++ tag) ++ [terminator]

/-- The response that names a barcode behind its mark, and a tag unless its handle is empty. -/
def Response.ofWritten (b tag : String) : Response where
  ok := true
  barcode := some (Barcode.toTag b)
  tag := (some tag).filter (· ≠ "")

theorem scanned_ofWritten (b tag : String) : (Response.ofWritten b tag).scanned = b :=
  Barcode.ofTag_toTag b

/-- A reader that gets the command to write a barcode keeps it behind its mark. -/
theorem keeps_written_iff (plain : '\r' ∉ b.toList) :
    Keeps (Command.write (Barcode.toTag b)).frame kept ↔ kept = Bytes.ofText (Barcode.toTag b) := by
  have whole : '\r' ∉ (Command.write (Barcode.toTag b)).text.toList := by
    rw [Command.return_mem_text_iff]
    simpa [Command.argument, Barcode.toTag, Barcode.mark] using plain
  have line := lines_frames [.write (Barcode.toTag b)]
  rw [List.flatMap_singleton, List.flatMap_singleton, Command.pieces_of_plain whole, Command.text,
    Bytes.ofText_append] at line
  rw [Keeps, line]
  simp [eq_comm]

/-- The scan of a written barcode, as it may be spelled. -/
def scanSpelling (b tag : String) (feeds : Nat) (bars : '|' ∉ b.toList) (bars' : '|' ∉ tag.toList) :
    Spelling where
  feeds
  ok := true
  fields := [Barcode.toTag b, tag]
  few := Nat.le_refl 2
  plain := by simp [Barcode.toTag, Barcode.mark, bars, bars']

theorem bytes_scanSpelling (bars : '|' ∉ b.toList) (bars' : '|' ∉ tag.toList) :
    (scanSpelling b tag feeds bars bars').bytes =
      List.replicate feeds lineFeed ++ scanFrame (Bytes.ofText (Barcode.toTag b)) tag := by
  have front : Bytes.ofChars (List.replicate feeds '\n') = List.replicate feeds lineFeed :=
    Bytes.ofChars_replicate rfl feeds
  have line : (scanSpelling b tag feeds bars bars').line =
      "OK|".toList ++ (Barcode.toTag b).toList ++ ("|" ++ tag).toList := by
    simp [Spelling.line, scanSpelling, statusWord]
  rw [Spelling.bytes, Spelling.chars, Bytes.ofChars_append, line, Bytes.ofChars_append,
    Bytes.ofChars_append, List.append_assoc]
  exact congrArg (· ++ _) front

/-- A scan of a written barcode is read as it was written, and what follows is left. -/
theorem read_scanFrame (bars : '|' ∉ b.toList) (bars' : '|' ∉ tag.toList) (plain : '\r' ∉ b.toList)
    (plain' : '\r' ∉ tag.toList)
    (fits : feeds + (scanFrame (Bytes.ofText (Barcode.toTag b)) tag).length ≤ maxFrameLength)
    (ended : Bool) (rest : Bytes) :
    read ended (List.replicate feeds lineFeed ++
        (scanFrame (Bytes.ofText (Barcode.toTag b)) tag ++ rest)) =
      .response (.ofWritten b tag) rest := by
  let s := scanSpelling b tag feeds bars bars'
  have bytes : s.bytes = _ := bytes_scanSpelling bars bars'
  have whole : IsFrame s.bytes := by
    refine ⟨Bytes.ofChars s.chars, mt Bytes.terminator_mem_ofChars_iff.mp ?_, rfl⟩
    simp [Spelling.chars, Spelling.line, s, scanSpelling, statusWord, Barcode.toTag, Barcode.mark,
      plain, plain', List.mem_replicate]
  have size : s.bytes.length ≤ maxFrameLength := by
    rw [bytes, List.length_append, List.length_replicate]
    exact fits
  have spelled : Response.decode s.bytes = .ok (.ofWritten b tag) := by
    rw [Response.decode_bytes s size]
    have marked : Barcode.toTag b ≠ "" := by
      simp [Barcode.toTag, Barcode.mark]
    simp [Spelling.response, s, scanSpelling, Response.ofWritten, Option.filter_some, marked]
  rw [← List.append_assoc, ← bytes, read_frame whole, spelled]

/-- What has been read of the beginning of a stream is heard first, and what was left of it is read
with what follows. -/
theorem events_append_of_drain (h : drain false earlier = ⟨heard, none, left⟩) (more : Bytes) :
    events (earlier ++ more) = heard.map .response ++ events (left ++ more) := by
  induction earlier using drain.induct false generalizing heard with
  | case1 bs waiting =>
    rw [drain_of_waiting waiting] at h
    cases h
    rfl
  | case2 bs f fault =>
    rw [drain_of_fault fault] at h
    cases h
  | case3 bs r rest response ih =>
    rw [drain_of_response response] at h
    obtain ⟨rfl, fault, rfl⟩ := Drained.mk.inj h
    have later := ih (show drain false rest = ⟨_, none, _⟩ by rw [← fault])
    rw [events_of_response (read_append_of_response response more), later]
    rfl

end Reader

/-- The call that a scan makes, read in full. -/
def Mode.call (branch barcode : String) : Mode → Call
  | checkin => .checkin branch barcode
  | checkout => .itemStatus barcode

theorem Reader.Response.due?_ofWritten (mode : Mode) (branch : String) (last : Option String)
    (b handle : String) :
    (Reader.Response.ofWritten b handle).due? mode branch last = some (mode.call branch b) := by
  cases mode with
  | checkin => exact congrArg (some <| Call.checkin branch ·) (Reader.scanned_ofWritten b handle)
  | checkout => exact congrArg (some <| Call.itemStatus ·) (Reader.scanned_ofWritten b handle)

/-- The toggle that is owed upon a verdict. -/
def Verdict.owed? (mode : Mode) (barcode : String) (tag : Option String) : Verdict → Option Toggle
  | toggle alarm item => some ⟨alarm, mode, barcode, tag, item⟩
  | carryOn | abort | giveUp _ => none

namespace Station

variable {around : Surroundings} {s w : Station} {m : Message} {b : String} {tag : Option String}
  {mode : Mode}

/-- A message that is taken up by an idle station as a command to write has just that command
sent. -/
theorem commands_of_accepted (asked : m.action = .write) (named : m.barcode? = some b)
    (accepted : Effect.commands (w.step around (.message m)).effects ≠ []) :
    Effect.commands (w.step around (.message m)).effects = [.write (Barcode.toTag b)] := by
  cases running : w.terminated with
  | true =>
    rw [step_of_terminated running] at accepted
    exact absurd rfl accepted
  | false =>
    have sent := commands_step running around (.message m)
    by_cases willing : around.refusal = none
    · rw [if_pos willing] at sent
      rw [sent] at accepted ⊢
      -- The barcode that the message names is the one that it carries, unless that is empty.
      simp only [given?, asked, Message.namedBarcode?, named] at accepted ⊢
      split_ifs at accepted ⊢ with idle
      · by_cases empty : b = ""
        · simp [empty, Option.filter_some] at accepted
        · simp [empty, Option.filter_some]
      · exact absurd rfl accepted
    · rw [if_neg willing] at sent
      exact absurd sent accepted

/-- What a station does upon the scan of a written barcode, while it owes nothing. The backend is
asked about the barcode, what the verdict demands is noted under the barcode, and the command that
follows is for the handle of the tag. -/
theorem step_of_written (handle : String) (owes : s.Owes none) (running : s.terminated = false)
    (phase : s.phase = .scanning mode) (named : b ≠ "") (around : Surroundings) :
    let r := Reader.Response.ofWritten b handle
    let after := s.step around (.event (.response r))
    let verdict := s.verdict around mode b true
    Effect.asked after.effects = [mode.call s.branch b] ∧
      after.station.Owes (verdict.owed? mode b r.tag) ∧
      Effect.commands after.effects =
        if around.refusal = none then (verdict.given? r.tag).toList else [] := by
  intro r after verdict
  have scanned : r.scanned = b := Reader.scanned_ofWritten b handle
  have course : s.Course around (.event (.response r)) after.station after.effects :=
    course_step running _
  obtain ⟨fs, done, comes⟩ := course.scanned phase (by rwa [scanned])
  have inquired : Effect.asked (s.inquiry around mode r.scanned r.ok) = _ := asked_inquiry mode r
  have sent := commands_step running around (.event (.response r))
  simp only [given?, phase, scanned, if_neg named] at sent
  rw [scanned] at done comes inquired
  have free : Station.Owes { s with inFlight := none } none := ⟨owes.pending, owes.retries⟩
  change after.effects = s.inquiry around mode b true ++ fs at done
  -- Whatever the verdict, what follows the inquiry makes no call.
  have silent : Effect.asked fs = [] ∧ after.station.Owes (verdict.owed? mode b r.tag) := by
    rw [show s.verdict around mode b r.ok = verdict from rfl] at comes
    clear_value after verdict
    generalize verdict = v at comes ⊢
    cases v with
    | toggle alarm item =>
      exact ⟨comes.asked, comes.owes (free.incur ⟨alarm, mode, b, r.tag, item⟩)⟩
    | carryOn =>
      obtain ⟨same, rfl⟩ := comes
      exact ⟨rfl, same ▸ free⟩
    | abort => exact ⟨comes.asked, comes.owes free⟩
    | giveUp e =>
      obtain ⟨same, rfl⟩ := comes
      exact ⟨rfl, same ▸ ⟨owes.pending, owes.retries⟩⟩
  refine ⟨?_, silent.2, sent⟩
  rw [done, Effect.asked_append, silent.1, List.append_nil]
  exact inquired.trans (by rw [Reader.Response.due?_ofWritten]; rfl)

/-- A command to set an alarm that follows upon a verdict is for the tag of the scan. -/
theorem tag_of_given? {v : Verdict} {alarm : Alarm} {found : Option String}
    (given : alarm.command found ∈ v.given? tag) : found = tag := by
  cases v with
  | toggle other item => exact (Alarm.command_inj (Option.some.inj given)).2.symm
  | abort => cases alarm <;> cases given
  | carryOn | giveUp => cases given

/-- What is written on a tag is what a later scan identifies. When a station has accepted a barcode
to write, the reader keeps one text. The frame of its scan, wherever it stands in the stream, is
heard as one response; and a station that scans, whatever has come before, asks the backend about
the barcode that was to be written, notes it under that barcode, and gives its command for the
handle of the tag, or for no tag if that is empty. -/
theorem written_is_identified {t : String} (asked : m.action = .write)
    (named : m.barcode? = some b)
    (accepted : Effect.commands (w.step around (.message m)).effects ≠ [])
    (bars : '|' ∉ b.toList) (bars' : '|' ∉ t.toList) (plain : '\r' ∉ b.toList)
    (plain' : '\r' ∉ t.toList) :
    let r := Reader.Response.ofWritten b t
    ∃ stored, (∀ kept,
        Reader.Keeps (Effect.written (w.step around (.message m)).effects) kept ↔ kept = stored) ∧
      (∀ feeds, feeds + (Reader.scanFrame stored t).length ≤ Reader.maxFrameLength →
        ∀ earlier heard rest,
          Reader.drain false earlier = ⟨heard, none, List.replicate feeds lineFeed⟩ →
          Reader.events (earlier ++ (Reader.scanFrame stored t ++ rest)) =
            heard.map .response ++ .response r :: Reader.events rest) ∧
      ∀ ip policy inputs around mode,
        let s := ((fresh ip policy).run inputs).station
        let after := s.step around (.event (.response r))
        let verdict := s.verdict around mode b true
        s.terminated = false → s.phase = .scanning mode →
        Effect.asked after.effects = [mode.call s.branch b] ∧
          after.station.Owes (verdict.owed? mode b r.tag) ∧
          Effect.commands after.effects =
            (if around.refusal = none then (verdict.given? r.tag).toList else []) ∧
          ∀ (alarm : Alarm) tag, alarm.command tag ∈ Effect.commands after.effects →
            tag = if t = "" then none else some t := by
  intro r
  have sent := commands_of_accepted asked named accepted
  have nonempty : b ≠ "" := by
    rintro rfl
    cases running : w.terminated with
    | true => exact accepted (by rw [step_of_terminated running]; rfl)
    | false =>
      refine accepted ?_
      rw [commands_step running]
      simp [given?, asked, Message.namedBarcode?, named]
  refine ⟨Bytes.ofText (Barcode.toTag b), fun kept => ?_,
    fun feeds fits earlier heard rest left => ?_, ?_⟩
  · rw [Effect.written, sent, List.flatMap_singleton]
    exact Reader.keeps_written_iff plain
  · rw [Reader.events_append_of_drain left,
      Reader.events_of_response (Reader.read_scanFrame bars bars' plain plain' fits true rest)]
  · intro ip policy inputs around mode s after verdict running phase
    obtain ⟨owed, owes, allows⟩ := owes_run ip policy inputs running
    -- Nothing is owed while the reader scans.
    obtain rfl : owed = none := by
      rw [show ((fresh ip policy).run inputs).station.phase = _ from phase] at allows
      exact allows
    obtain ⟨calls, noted, given⟩ := step_of_written t owes running phase nonempty around
    refine ⟨calls, noted, given, fun alarm tag sent => ?_⟩
    have handle : r.tag = if t = "" then none else some t := by
      by_cases empty : t = "" <;> simp [r, Reader.Response.ofWritten, Option.filter_some, empty]
    rw [given] at sent
    split_ifs at sent with willing
    · rw [tag_of_given? (Option.mem_toList.mp sent), handle]
    · cases sent

/-- A barcode that itself begins with the mark is written behind another one, and a checkin
identifies it with its own. -/
theorem written_is_identified_markedBarcode :
    let m : Message := { action := .write, item := some { barcode := "10A1" } }
    let around : Surroundings := { backend := .obliging }
    let s := ((fresh "" .carryOn).run (retriedCheckin.take 2)).station
    let r := Reader.Response.ofWritten "10A1" "T1"
    let after := s.step around (.event (.response r))
    Reader.Keeps (Effect.written ((fresh "" .carryOn).step around (.message m)).effects)
        (Bytes.ofText "1010A1") ∧
      Reader.events (Bytes.ofText "OK|1010A1|T1\rOK") =
        .response r :: Reader.events (Bytes.ofText "OK") ∧
      Effect.asked after.effects = [.checkin "MAIN" "10A1"] ∧
      after.station.pending.get? "10A1" =
        some ((Message.plain .checkin).about { barcode := "10A1" }) ∧
      Effect.commands after.effects = [.alarmOn (some "T1")] := by
  intro m around s r after
  obtain ⟨stored, keeps, heard, upon⟩ :=
    @written_is_identified around (fresh "" .carryOn) m "10A1" "T1" rfl rfl (by decide) (by decide)
      (by decide) (by decide) (by decide)
  obtain rfl : Bytes.ofText "1010A1" = stored := (keeps _).mp (by decide +kernel)
  obtain ⟨calls, owes, given, -⟩ :=
    upon "" .carryOn (retriedCheckin.take 2) around .checkin (by decide) (by decide)
  refine ⟨(keeps _).mpr rfl, heard 0 (by decide) [] [] (Bytes.ofText "OK") (by decide +kernel),
    calls, ?_, given⟩
  rw [owes.pending]
  decide

end Station

end SelfCheck
