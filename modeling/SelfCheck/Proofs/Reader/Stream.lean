import SelfCheck.Reader.Link
import Mathlib.Data.List.Forall2
import Mathlib.Tactic.Common

/-!
# The stream of the reader

Whatever a reader sends falls into frames, each up to the next terminator. The first answers the
announcement, and every later one is a response that the station hears, up to the place where the
reading stops: a frame that is too long or spells no response, or the end of the stream. How the
stream is cut into packets, and when they are read, makes no difference.

## Main definitions

* `Reader.IsFrame` — bytes up to and including their first terminator
* `Reader.Stops` — where and why the reading stops
* `Reader.Account` — the responses of a stream, and the fault behind them
* `Reader.Intake` — the reading in its course, while packets arrive

## Main results

* `Reader.read_frame` — a frame is read as what it spells, and nothing behind it is touched
* `Reader.read_eq_fault_iff` — when the reading of an ended stream stops
* `Reader.events_of_account` — the events of a stream, told from its frames
* `Reader.Intake.Sound.run` — what has been found is the beginning of those events, at every moment
* `Reader.link_follows_frames` — the link from the greeting to its end
-/

namespace SelfCheck

namespace Wire

/-- What has arrived decides what is read first, unless it is the beginning of a line. -/
theorem cut_append {limit : Nat} {bs : Bytes} (decided : cut limit bs ≠ .short) (more : Bytes) :
    cut limit (bs ++ more) =
      match cut limit bs with
      | .line line rest => .line line (rest ++ more)
      | other => other := by
  cases h : cut limit bs with
  | short => exact absurd h decided
  | line line rest =>
    obtain ⟨body, hline, plain, fits, rfl⟩ := cut_eq_line_iff.1 h
    exact cut_eq_line_iff.2 ⟨body, hline, plain, fits, List.append_assoc ..⟩
  | tooLong =>
    obtain ⟨long, plain⟩ := cut_eq_tooLong_iff.1 h
    refine cut_eq_tooLong_iff.2 ⟨?_, ?_⟩
    · rw [List.length_append]
      omega
    · rwa [List.take_append_of_le_length long]

end Wire

namespace Reader

variable {ended : Bool} {frame bs rest more stream : Bytes} {r : Response} {f : Fault}
  {responses : List Response}

/-- A frame: bytes up to and including their first terminator. -/
def IsFrame (frame : Bytes) : Prop :=
  ∃ body, Wire.terminator ∉ body ∧ frame = body ++ [Wire.terminator]

/-! ### Reading one response -/

/-- A frame is read as what it spells, and what follows it is left. -/
theorem read_frame (whole : IsFrame frame) (ended : Bool) (rest : Bytes) :
    read ended (frame ++ rest) =
      match Response.decode frame with
      | .ok r => .response r rest
      | .error e => .fault (.malformed e) := by
  obtain ⟨body, plain, rfl⟩ := whole
  unfold read
  by_cases fits : body.length < maxFrameLength
  · have cut : Wire.cut maxFrameLength (body ++ [Wire.terminator] ++ rest) =
        .line (body ++ [Wire.terminator]) rest :=
      Wire.cut_eq_line_iff.2 ⟨body, rfl, plain, fits, rfl⟩
    cases spelled : Response.decode (body ++ [Wire.terminator]) <;> simp only [cut, spelled]
  · -- The frame is too long for the cut and for its decoding alike.
    have cut : Wire.cut maxFrameLength (body ++ [Wire.terminator] ++ rest) = .tooLong := by
      refine Wire.cut_eq_tooLong_iff.2 ⟨?_, ?_⟩
      · simp only [List.length_append]
        omega
      · rw [List.append_assoc, List.take_append_of_le_length (by omega)]
        exact mt List.mem_of_mem_take plain
    have decoded : Response.decode (body ++ [Wire.terminator]) = .error .tooLong := by
      refine if_pos ?_
      simp only [List.length_append, List.length_singleton]
      omega
    rw [cut, decoded]

theorem read_eq_response_iff :
    read ended bs = .response r rest ↔
      ∃ frame, IsFrame frame ∧ Response.decode frame = .ok r ∧ bs = frame ++ rest := by
  constructor
  · intro h
    unfold read at h
    split at h
    · cases h
    · split_ifs at h
    · next line after cut =>
      obtain ⟨body, rfl, plain, -, rfl⟩ := Wire.cut_eq_line_iff.1 cut
      split at h
      · next spelled =>
        cases h
        exact ⟨_, ⟨body, plain, rfl⟩, spelled, rfl⟩
      · cases h
  · rintro ⟨frame, whole, spelled, rfl⟩
    rw [read_frame whole, spelled]

/-- Where the reading of an ended stream stops, and the fault that stops it. -/
inductive Stops : Bytes → Fault → Prop
  /-- As many bytes as a frame may have hold no terminator. -/
  | tooLong {bs : Bytes} (long : maxFrameLength ≤ bs.length)
      (plain : Wire.terminator ∉ bs.take maxFrameLength) : Stops bs (.malformed .tooLong)
  /-- A frame spells no response. -/
  | malformed {frame rest : Bytes} {e : FrameError} (whole : IsFrame frame)
      (fits : frame.length ≤ maxFrameLength) (spelled : Response.decode frame = .error e) :
      Stops (frame ++ rest) (.malformed e)
  /-- The stream ends, within a frame or between two. -/
  | closed {bs : Bytes} (short : bs.length < maxFrameLength) (plain : Wire.terminator ∉ bs) :
      Stops bs .closed

theorem read_eq_fault_iff : read true bs = .fault f ↔ Stops bs f := by
  constructor
  · intro h
    unfold read at h
    split at h
    · next cut =>
      cases h
      obtain ⟨long, plain⟩ := Wire.cut_eq_tooLong_iff.1 cut
      exact .tooLong long plain
    · next cut =>
      cases h
      obtain ⟨short, plain⟩ := Wire.cut_eq_short_iff.1 cut
      exact .closed short plain
    · next line after cut =>
      obtain ⟨body, rfl, plain, fits, rfl⟩ := Wire.cut_eq_line_iff.1 cut
      split at h
      · cases h
      · next spelled =>
        cases h
        refine .malformed ⟨body, plain, rfl⟩ ?_ spelled
        rw [List.length_append, List.length_singleton]
        exact fits
  · intro h
    cases h with
    | tooLong long plain => rw [read, Wire.cut_eq_tooLong_iff.2 ⟨long, plain⟩]
    | malformed whole _ spelled => rw [read_frame whole, spelled]
    | closed short plain => rw [read, Wire.cut_eq_short_iff.2 ⟨short, plain⟩, if_pos rfl]

/-- An ended stream keeps nobody waiting. -/
theorem read_true_ne_waiting : read true bs ≠ .waiting := by
  intro h
  unfold read at h
  split at h
  · cases h
  · cases h
  · split at h <;> cases h

/-- What has been read of a part of a stream is read of the whole. -/
theorem read_append_of_response (h : read ended bs = .response r rest) (more : Bytes) :
    read true (bs ++ more) = .response r (rest ++ more) := by
  obtain ⟨frame, whole, spelled, rfl⟩ := read_eq_response_iff.1 h
  exact read_eq_response_iff.2 ⟨frame, whole, spelled, List.append_assoc ..⟩

/-- A fault in a part of a stream that goes on is one of the whole. -/
theorem read_append_of_fault (h : read false bs = .fault f) (more : Bytes) :
    read true (bs ++ more) = .fault f := by
  have decided : Wire.cut maxFrameLength bs ≠ .short := by
    intro short
    rw [read, short] at h
    cases h
  unfold read at h ⊢
  rw [Wire.cut_append decided]
  cases cut : Wire.cut maxFrameLength bs with
  | tooLong => simpa only [cut] using h
  | short => exact absurd cut decided
  | line line after => cases spelled : Response.decode line <;> simp_all

/-! ### The events of a stream -/

theorem drain_of_waiting (h : read ended bs = .waiting) : drain ended bs = ⟨[], none, bs⟩ := by
  rw [drain]
  split <;> simp_all

theorem drain_of_fault (h : read ended bs = .fault f) : drain ended bs = ⟨[], some f, []⟩ := by
  rw [drain]
  split <;> simp_all

theorem drain_of_response (h : read ended bs = .response r rest) :
    drain ended bs =
      { drain ended rest with responses := r :: (drain ended rest).responses } := by
  rw [drain]
  split <;> simp_all

theorem events_of_response (h : read true bs = .response r rest) :
    events bs = .response r :: events rest := by
  rw [events, drain_of_response h]
  rfl

theorem events_of_fault (h : read true bs = .fault f) : events bs = [.failed f] := by
  rw [events, drain_of_fault h]
  rfl

/-- The reading of an ended stream comes to a fault. -/
theorem isSome_fault_drain (stream : Bytes) : (drain true stream).fault.isSome = true := by
  induction stream using drain.induct true with
  | case1 bs h => exact absurd h read_true_ne_waiting
  | case2 bs f h => rw [drain_of_fault h, Option.isSome_some]
  | case3 bs r rest h ih =>
    rw [drain_of_response h]
    exact ih

/-- The responses that a stream spells frame by frame, and the fault that the reading meets behind
them. -/
def Account (stream : Bytes) (responses : List Response) (f : Fault) : Prop :=
  ∃ (frames : List Bytes) (last : Bytes), stream = frames.flatten ++ last ∧
    List.Forall₂ (fun frame r => IsFrame frame ∧ Response.decode frame = .ok r) frames responses ∧
    Stops last f

/-- Every stream has an account. -/
theorem exists_account (stream : Bytes) : ∃ responses f, Account stream responses f := by
  -- A frame has at least its terminator, so what follows it is shorter.
  induction size : stream.length using Nat.strongRecOn generalizing stream with
  | _ n ih =>
    cases h : read true stream with
    | waiting => exact absurd h read_true_ne_waiting
    | fault f => exact ⟨[], f, [], stream, rfl, .nil, read_eq_fault_iff.1 h⟩
    | response r rest =>
      have shorter : rest.length < n := size ▸ length_rest_lt_of_read h
      obtain ⟨responses, f, frames, last, hrest, spelled, stops⟩ := ih _ shorter rest rfl
      obtain ⟨frame, whole, here, rfl⟩ := read_eq_response_iff.1 h
      refine ⟨r :: responses, f, frame :: frames, last, ?_, .cons ⟨whole, here⟩ spelled, stops⟩
      rw [hrest, List.flatten_cons, List.append_assoc]

/-- The events of a stream are the responses of its account and, behind them, the one fault. -/
theorem events_of_account (h : Account stream responses f) :
    events stream = responses.map .response ++ [.failed f] := by
  obtain ⟨frames, last, rfl, spelled, stops⟩ := h
  induction spelled with
  | nil => exact events_of_fault (read_eq_fault_iff.2 stops)
  | @cons frame r frames responses here _ ih =>
    have first : read true ((frame :: frames).flatten ++ last) =
        .response r (frames.flatten ++ last) := by
      rw [List.flatten_cons, List.append_assoc, read_frame here.1, here.2]
    rw [events_of_response first, ih]
    rfl

/-! ### The reading in its course -/

/-- The reading of a stream while it arrives in packets. -/
structure Intake where
  /-- All that has arrived. -/
  received : Bytes
  /-- What has arrived and has not been read. -/
  unread : Bytes
  /-- Nothing more will arrive. -/
  ended : Bool := false
  /-- What has been found, in order. -/
  found : List Event := []
  /-- The reading has stopped, at a fault. -/
  halted : Bool := false

namespace Intake

/-- What may happen while a stream is read, in any order. -/
inductive Move where
  | arrive (packet : Bytes)
  | finish
  /-- The next response is read, if it is there. -/
  | read

/-- The reading of what follows the greeting, of which some bytes have come with it. -/
def behind (rest : Bytes) : Intake := { received := rest, unread := rest }

/-- The intake with a packet that has arrived, unless the stream has ended. -/
def arrive (i : Intake) (packet : Bytes) : Intake :=
  if i.ended then i
  else { i with received := i.received ++ packet, unread := i.unread ++ packet }

/-- The intake of a stream that has ended. -/
def finish (i : Intake) : Intake := { i with ended := true }

/-- The intake after the next response has been read, if it is there. -/
def next (i : Intake) : Intake :=
  if i.halted then i
  else match Reader.read i.ended i.unread with
    | .waiting => i
    | .response r rest => { i with unread := rest, found := i.found ++ [.response r] }
    | .fault f => { i with found := i.found ++ [.failed f], halted := true }

/-- The intake after one move. -/
def step (i : Intake) : Move → Intake
  | .arrive packet => i.arrive packet
  | .finish => i.finish
  | .read => i.next

/-- The reading after several moves. -/
def run (i : Intake) (moves : List Move) : Intake := moves.foldl step i

/-- The bytes that arrive, which is until the stream ends. -/
def arrivals : List Move → Bytes
  | [] => []
  | .arrive packet :: moves => packet ++ arrivals moves
  | .finish :: _ => []
  | .read :: moves => arrivals moves

/-- What has been found, and what is still to be found in the bytes not yet read, are the events of
all that arrives in the end. -/
def Sound (i : Intake) : Prop :=
  ∀ more, (i.ended = true → more = []) →
    events (i.received ++ more) = i.found ++ if i.halted then [] else events (i.unread ++ more)

variable {i : Intake}

theorem sound_behind (rest : Bytes) : (behind rest).Sound := fun _ _ => rfl

theorem Sound.arrive (sound : i.Sound) (packet : Bytes) : (i.arrive packet).Sound := by
  unfold Intake.arrive
  split_ifs with ended
  · exact sound
  · -- The packet is the first of what was still to arrive.
    intro more _
    have later := sound (packet ++ more) fun h => absurd h ended
    rwa [← List.append_assoc, ← List.append_assoc] at later

theorem Sound.finish (sound : i.Sound) : i.finish.Sound := by
  intro more closed
  obtain rfl := closed rfl
  exact sound [] fun _ => rfl

theorem Sound.next (sound : i.Sound) : i.next.Sound := by
  unfold Intake.next
  split_ifs with halted
  · exact sound
  · intro more
    cases h : Reader.read i.ended i.unread with
    | waiting => exact sound more
    | response r rest =>
      intro closed
      have first := events_of_response (read_append_of_response h more)
      rw [sound more closed, if_neg halted, first]
      simp [halted]
    | fault f =>
      intro closed
      -- Only at the end of a stream do missing bytes make a fault, and then no more will arrive.
      have first : Reader.read true (i.unread ++ more) = .fault f := by
        cases ended : i.ended with
        | false => exact read_append_of_fault (ended ▸ h) more
        | true =>
          obtain rfl := closed ended
          rw [List.append_nil]
          exact ended ▸ h
      rw [sound more closed, if_neg halted, events_of_fault first]
      simp

theorem Sound.run (sound : i.Sound) (moves : List Move) : (i.run moves).Sound := by
  induction moves generalizing i with
  | nil => exact sound
  | cons move moves ih =>
    cases move with
    | arrive packet => exact ih (sound.arrive packet)
    | finish => exact ih sound.finish
    | read => exact ih sound.next

@[simp] theorem ended_next : i.next.ended = i.ended := by
  unfold next
  split_ifs
  · rfl
  · split <;> rfl

@[simp] theorem received_next : i.next.received = i.received := by
  unfold next
  split_ifs
  · rfl
  · split <;> rfl

theorem arrive_of_ended (ended : i.ended = true) (packet : Bytes) : i.arrive packet = i :=
  if_pos ended

theorem arrive_of_open (opened : i.ended = false) (packet : Bytes) :
    i.arrive packet = { i with received := i.received ++ packet, unread := i.unread ++ packet } := by
  simp [arrive, opened]

theorem received_run_of_ended (ended : i.ended = true) (moves : List Move) :
    (i.run moves).received = i.received := by
  induction moves generalizing i with
  | nil => rfl
  | cons move moves ih =>
    cases move with
    | arrive packet =>
      have same := arrive_of_ended ended packet
      rw [run, List.foldl_cons, step, same]
      exact ih ended
    | finish => exact @ih i.finish rfl
    | read => exact (ih (ended_next.trans ended)).trans received_next

/-- Nothing that arrives is lost. -/
theorem received_run (opened : i.ended = false) (moves : List Move) :
    (i.run moves).received = i.received ++ arrivals moves := by
  induction moves generalizing i with
  | nil => exact (List.append_nil _).symm
  | cons move moves ih =>
    cases move with
    | arrive packet =>
      have here := arrive_of_open opened packet
      have later := @ih (i.arrive packet) (by rw [here, opened])
      rw [here, List.append_assoc, ← here] at later
      exact later
    | finish => exact (@received_run_of_ended i.finish rfl moves).trans (List.append_nil _).symm
    | read =>
      refine (ih (ended_next.trans opened)).trans ?_
      rw [received_next, arrivals]

/-- What has been found stays found. -/
theorem found_prefix_step (i : Intake) (move : Move) : i.found <+: (i.step move).found := by
  cases move with
  | arrive packet =>
    rw [step, arrive]
    split_ifs <;> exact List.prefix_rfl
  | finish => exact List.prefix_rfl
  | read =>
    rw [step, next]
    split_ifs
    · exact List.prefix_rfl
    · split
      · exact List.prefix_rfl
      · exact List.prefix_append _ _
      · exact List.prefix_append _ _

/-- Once the reading is over, the fault is among what has been found. -/
def Told (i : Intake) : Prop := i.halted = true → ∃ f, .failed f ∈ i.found

theorem told_behind (rest : Bytes) : (behind rest).Told := nofun

theorem Told.step (told : i.Told) (move : Move) : (i.step move).Told := by
  cases move with
  | arrive packet =>
    rw [Intake.step, Intake.arrive]
    split_ifs <;> exact told
  | finish => exact told
  | read =>
    rw [Intake.step, Intake.next]
    split_ifs with halted
    · exact told
    · split
      · exact told
      · exact fun now => absurd now halted
      · exact fun _ => ⟨_, List.mem_concat_self⟩

/-- Reading on and on finds all that has arrived. -/
theorem exists_run_drain (reading : i.halted = false) :
    ∃ n,
      let d := drain i.ended i.unread
      let i' := i.run (List.replicate n .read)
      i'.found = i.found ++ d.events ∧ i'.halted = d.fault.isSome ∧ i'.ended = i.ended ∧
        (d.fault = none → i'.unread = d.rest) := by
  generalize hended : i.ended = ended
  generalize hunread : i.unread = bs
  induction bs using drain.induct ended generalizing i with
  | case1 bs waiting =>
    rw [drain_of_waiting waiting]
    exact ⟨0, by simp [run, Drained.events], reading, hended, fun _ => hunread⟩
  | case2 bs f fault =>
    have next : i.next = { i with found := i.found ++ [.failed f], halted := true } := by
      simp [next, reading, hended, hunread, fault]
    refine ⟨1, ?_⟩
    rw [drain_of_fault fault, run, List.replicate_one, List.foldl_cons, List.foldl_nil, step, next]
    exact ⟨rfl, rfl, hended, nofun⟩
  | case3 bs r rest response ih =>
    have next : i.next = { i with unread := rest, found := i.found ++ [.response r] } := by
      simp [next, reading, hended, hunread, response]
    obtain ⟨n, found, halted, ended, unread⟩ :=
      @ih i.next (by rw [next, reading]) (by rw [next, hended]) (by rw [next])
    rw [drain_of_response response]
    refine ⟨n + 1, ?_, halted, ended, unread⟩
    have kept : i.next.found = i.found ++ [.response r] := by rw [next]
    rw [kept, List.append_assoc] at found
    exact found

/-- The reading of an ended stream comes to its end. -/
theorem exists_halted (ended : i.ended = true) :
    ∃ n, (i.run (List.replicate n .read)).halted = true := by
  cases halted : i.halted with
  | true => exact ⟨0, halted⟩
  | false =>
    obtain ⟨n, -, done, -⟩ := exists_run_drain halted
    exact ⟨n, done.trans (ended ▸ isSome_fault_drain _)⟩

end Intake

/-! ### The link -/

theorem greet_frame (whole : IsFrame frame) (ended : Bool) (rest : Bytes) :
    greet ended (frame ++ rest) =
      match Response.decode frame with
      | .ok r => if r.ok then .ok rest else .error .handshakeRejected
      | .error e => .error (.malformed e) := by
  rw [greet, read_frame whole]
  cases Response.decode frame <;> rfl

theorem greet_eq_ok_iff :
    greet ended bs = .ok rest ↔
      ∃ frame r, IsFrame frame ∧ Response.decode frame = .ok r ∧ r.ok = true ∧
        bs = frame ++ rest := by
  constructor
  · intro h
    unfold greet at h
    split at h
    · cases h
    · cases h
    · next r after first =>
      split_ifs at h with ok
      obtain rfl := Except.ok.inj h
      obtain ⟨frame, whole, spelled, rfl⟩ := read_eq_response_iff.1 first
      exact ⟨frame, r, whole, spelled, ok, rfl⟩
  · rintro ⟨frame, r, whole, spelled, ok, rfl⟩
    rw [greet_frame whole, spelled]
    exact if_pos ok

/-- The link takes the first frame for the answer to the announcement, whatever comes with it, and
stands just if that frame spells an ok. Of all that follows, the station hears the responses frame
by frame and then one fault, the first that the reading meets; at every moment, and however the
bytes arrive, a beginning of that has been found, and once the reading is over all of it. The
reading of an ended stream does come to its end. -/
theorem link_follows_frames (address : String) (arrived : Bytes) (ended : Bool) :
    (∀ frame rest, IsFrame frame → arrived = frame ++ rest →
      connect address (.answered arrived ended) =
        some (match Response.decode frame with
          | .ok r => if r.ok then .ok rest else .error .handshakeRejected
          | .error e => .error (.malformed e))) ∧
    (∀ rest, connect address (.answered arrived ended) = some (.ok rest) ↔
      ∃ frame r, IsFrame frame ∧ Response.decode frame = .ok r ∧ r.ok = true ∧
        arrived = frame ++ rest) ∧
    ∀ rest moves,
      let stream := rest ++ Intake.arrivals moves
      let i := (Intake.behind rest).run moves
      ∃ responses f, Account stream responses f ∧
        events stream = responses.map .response ++ [.failed f] ∧
        i.found <+: responses.map .response ++ [.failed f] ∧
        (i.halted = true → i.found = responses.map .response ++ [.failed f]) ∧
        (i.ended = true → ∃ n, (i.run (List.replicate n .read)).halted = true) := by
  refine ⟨?_, fun rest => ?_, fun rest moves => ?_⟩
  · rintro frame rest whole rfl
    exact congrArg some (greet_frame whole ended rest)
  · rw [connect, Option.some_inj]
    exact greet_eq_ok_iff
  · intro stream i
    obtain ⟨responses, f, account⟩ := exists_account stream
    have heard := events_of_account account
    have sound : i.Sound := (Intake.sound_behind rest).run moves
    have received : i.received = stream := Intake.received_run rfl moves
    have all := sound [] fun _ => rfl
    rw [List.append_nil, received, heard] at all
    refine ⟨responses, f, account, heard, ⟨_, all.symm⟩, fun halted => ?_, Intake.exists_halted⟩
    rw [if_pos halted, List.append_nil] at all
    exact all.symm

/-- A response comes in two packets; behind it is a frame that spells none, and that is the end. -/
example :
    let i := (Intake.behind (Bytes.ofText "OK|10A1")).run
      [.read, .arrive (Bytes.ofText "|T1\rGARBAGE\rOK\r"), .read, .read, .read]
    i.found = [.response { ok := true, barcode := some "10A1", tag := some "T1" },
      .failed (.malformed (.unknownStatus "GARBAGE"))] ∧ i.halted = true := by
  decide +kernel

end Reader

end SelfCheck
