import SelfCheck.Station.Step

/-!
# The courses of a turn

A turn takes one of a small number of courses, which the phase of the station, the command in
flight and the input select. Each course is listed here once, with the guard under which it is
taken, the station it leaves and everything done in it. What a run preserves is then shown course
by course, and no later proof opens the turns themselves.

A turn gives at most one command, and gives it last. What can become of a command, that the reader
takes it or that the station ends because the reader does not, is therefore a relation of its own.

## Main definitions

* `Station.Orders` — what comes of a command, with none in flight
* `Verdict`, `Station.verdict`, `Station.inquiry` — what a scanned barcode comes to
* `Station.Ruling` — the cases in which it comes to that, with the answers that select them
* `Station.settle`, `Station.outcome` — what the answer to an alarm command comes to
* `Station.Passes` — the inputs that a running station passes over
* `Station.Course` — the courses of a turn of a running station

## Main results

* `Station.step_of_terminated` — a terminated station does nothing
* `Station.ruling` — every scanned barcode comes to its verdict in one of those cases
* `Station.course_step` — every turn of a running station takes one of the courses
* `Station.Course.answered`, `Station.Course.scanStarted`, `Station.Course.scanEnded`,
  `Station.Course.tagWritten` — the courses of the answers to the commands
* `Station.Course.askedAgain`, `Station.Course.scanned` — the courses of a message that asks for
  another try, and of a scan
-/

namespace SelfCheck

namespace Alarm

/-- The action by which the screen asks for another try. -/
def retryAction : Alarm → Action
  | on => .retryAlarmOn
  | off => .retryAlarmOff

/-- Which command sets the security bit. -/
def kind : Alarm → Reader.Command.Kind
  | on => .alarmOn
  | off => .alarmOff

@[simp] theorem kind_command (alarm : Alarm) (tag : Option String) :
    (alarm.command tag).kind = alarm.kind := by cases alarm <;> rfl

theorem retryAction_inj {a b : Alarm} (h : a.retryAction = b.retryAction) : a = b := by
  cases a <;> cases b <;> first | rfl | cases h

theorem command_inj {a b : Alarm} {t u : Option String} (h : a.command t = b.command u) :
    a = b ∧ t = u := by
  cases a <;> cases b <;> simp_all [command]

end Alarm

/-- The barcode that a scan names. -/
def Reader.Response.scanned (r : Reader.Response) : String := Barcode.ofTag (r.barcode.getD "")

/-- What a scanned barcode comes to, once the backend has been asked. -/
inductive Verdict where
  /-- The item is recorded and the alarm of its tag is to be set. -/
  | toggle (alarm : Alarm) (item : Item)
  /-- Scanning goes on. -/
  | carryOn
  /-- The batch is to end. -/
  | abort
  /-- The station ends, because of a failed call. -/
  | giveUp (e : CallFailure)
deriving DecidableEq, Repr

namespace Station

variable (around : Surroundings) (s : Station)

/-! ### What a turn depends on -/

/-- What a scanned barcode comes to. -/
def verdict (mode : Mode) (barcode : String) (ok : Bool) : Verdict :=
  match ok, mode with
  | true, .checkin =>
    -- Only a known item that was taken back arms its tag.
    match around.backend.checkin s.branch barcode with
    | .ok item => .toggle (if item.unknown || item.transactionFailed then .off else .on) item
    | .error _ =>
      match s.policy with
      | .carryOn => .carryOn
      | .release => .toggle .off { Item.bare barcode with transactionFailed := true }
      | .abort => .abort
  | true, .checkout =>
    match around.backend.itemStatus barcode with
    | .ok item => .toggle (if item.unknown then .on else .off) item
    | .error _ => .carryOn
  | false, mode =>
    -- The look-up is for the title alone, and the item recorded last needs none.
    match s.current.filter (·.barcode = barcode) with
    | some item => .toggle (Turn.unreadableAlarm mode) { item with transactionFailed := true }
    | none =>
      match around.backend.itemStatus barcode with
      | .ok item => .toggle (Turn.unreadableAlarm mode) { item with transactionFailed := true }
      | .error e => .giveUp e

/-- The calls made for a scanned barcode, and the report on a failed one that does not end the
station. -/
def inquiry (mode : Mode) (barcode : String) (ok : Bool) : List Effect :=
  match ok, mode with
  | true, .checkin =>
    .ask (.checkin s.branch barcode) ::
      match around.backend.checkin s.branch barcode with
      | .ok _ => []
      | .error e => [.tell ((Message.backendFailure .checkin e.message).about (.bare barcode))]
  | true, .checkout =>
    .ask (.itemStatus barcode) ::
      match around.backend.itemStatus barcode with
      | .ok _ => []
      | .error e => [.tell ((Message.backendFailure .checkout e.message).about (.bare barcode))]
  | false, _ =>
    match s.current.filter (·.barcode = barcode) with
    | some _ => []
    | none => [.ask (.itemStatus barcode)]

/-- How a verdict is reached: the cases that select it, each with what is done on the way. -/
inductive Ruling (mode : Mode) (barcode : String) (ok : Bool) : Verdict → List Effect → Prop
  | returned {item : Item} (read : ok = true) (at_checkin : mode = .checkin)
      (answer : around.backend.checkin s.branch barcode = .ok item) :
      Ruling mode barcode ok
        (.toggle (if item.unknown || item.transactionFailed then .off else .on) item)
        [.ask (.checkin s.branch barcode)]
  | passedOver {e : CallFailure} (read : ok = true) (at_checkin : mode = .checkin)
      (answer : around.backend.checkin s.branch barcode = .error e)
      (policy : s.policy = .carryOn) :
      Ruling mode barcode ok .carryOn
        [.ask (.checkin s.branch barcode),
          .tell ((Message.backendFailure .checkin e.message).about (.bare barcode))]
  | released {e : CallFailure} (read : ok = true) (at_checkin : mode = .checkin)
      (answer : around.backend.checkin s.branch barcode = .error e)
      (policy : s.policy = .release) :
      Ruling mode barcode ok (.toggle .off { Item.bare barcode with transactionFailed := true })
        [.ask (.checkin s.branch barcode),
          .tell ((Message.backendFailure .checkin e.message).about (.bare barcode))]
  | brokenOff {e : CallFailure} (read : ok = true) (at_checkin : mode = .checkin)
      (answer : around.backend.checkin s.branch barcode = .error e) (policy : s.policy = .abort) :
      Ruling mode barcode ok .abort
        [.ask (.checkin s.branch barcode),
          .tell ((Message.backendFailure .checkin e.message).about (.bare barcode))]
  | lent {item : Item} (read : ok = true) (at_checkout : mode = .checkout)
      (answer : around.backend.itemStatus barcode = .ok item) :
      Ruling mode barcode ok (.toggle (if item.unknown then .on else .off) item)
        [.ask (.itemStatus barcode)]
  | notLent {e : CallFailure} (read : ok = true) (at_checkout : mode = .checkout)
      (answer : around.backend.itemStatus barcode = .error e) :
      Ruling mode barcode ok .carryOn
        [.ask (.itemStatus barcode),
          .tell ((Message.backendFailure .checkout e.message).about (.bare barcode))]
  | recalled {item : Item} (unread : ok = false)
      (current : s.current.filter (·.barcode = barcode) = some item) :
      Ruling mode barcode ok
        (.toggle (Turn.unreadableAlarm mode) { item with transactionFailed := true }) []
  | titled {item : Item} (unread : ok = false)
      (current : s.current.filter (·.barcode = barcode) = none)
      (answer : around.backend.itemStatus barcode = .ok item) :
      Ruling mode barcode ok
        (.toggle (Turn.unreadableAlarm mode) { item with transactionFailed := true })
        [.ask (.itemStatus barcode)]
  | untitled {e : CallFailure} (unread : ok = false)
      (current : s.current.filter (·.barcode = barcode) = none)
      (answer : around.backend.itemStatus barcode = .error e) :
      Ruling mode barcode ok (.giveUp e) [.ask (.itemStatus barcode)]

/-- The station once its alarm command is answered. -/
def settle (mode : Mode) (barcode : String) (ok : Bool) : Station :=
  if ok then
    { s with
      phase := .scanning mode
      retryOn := s.retryOn.erase barcode
      retryOff := s.retryOff.erase barcode
      pending := s.pending.erase barcode
      inFlight := none }
  else { s with inFlight := none }

/-- What the screen is told when an alarm command is answered. -/
def outcome (alarm : Alarm) (mode : Mode) (barcode : String) (ok : Bool) : List Message :=
  let held := s.pending.get? barcode
  if ok then held.toList
  else
    [(Message.readerFailure mode.action alarm.failure).about
      ((held.bind (·.item)).getD (.bare barcode))]

/-- The toggle that a message asks to try again: the mode of the batch, the barcode and the tag. -/
def retryable? (alarm : Alarm) (m : Message) : Option (Mode × String × Option String) :=
  match s.phase.scanMode?, s.inFlight, m.barcode? with
  | some mode, none, some barcode =>
    ((s.retries alarm).get? barcode).map fun tag => (mode, barcode, tag)
  | _, _, _ => none

/-- What is done to look up the item that a message names. -/
def lookUp (around : Surroundings) (m : Message) : List Effect :=
  match m.namedBarcode? with
  | none => [.tell (.backendFailure .itemInfo "ITEM-INFO requires an item barcode")]
  | some barcode =>
    [.ask (.itemStatus barcode), .tell (match around.backend.itemStatus barcode with
      | .ok item => (Message.plain .itemInfo).about item
      | .error e => (Message.backendFailure .itemInfo e.message).about (.bare barcode))]

/-- The inputs that a running station passes over. A scan without a barcode is not among them. -/
def Passes : Input → Prop
  | .message m =>
    match m.action with
    | .connect => True
    | .checkin | .checkout | .write => ¬ (s.phase = .idle ∧ s.inFlight = none)
    | .finish => s.phase.acceptsEnd = false
    | .retryAlarmOn => s.retryable? .on m = none
    | .retryAlarmOff => s.retryable? .off m = none
    | .itemInfo => False
  | .event (.failed _) => False
  | .event (.response _) => s.inFlight = none ∧ s.phase.isScanning = false

/-! ### The courses -/

/-- What comes of a command when none is in flight: the reader takes it and the station waits in
phase `next`, or the reader refuses it and the station ends where it is. -/
inductive Orders (c : Reader.Command) (next : Phase) : Station → List Effect → Prop
  | taken (willing : around.refusal = none) :
      Orders c next { s with codec := (s.codec.encode c).2, inFlight := some c.kind, phase := next }
        [.send (s.codec.encode c).2.sequence c]
  | refused (f : Reader.Fault) (unwilling : around.refusal = some f) :
      Orders c next { s with codec := (s.codec.encode c).2, terminated := true }
        [.tell (.readerFailure .connect f.message)]

/-- The courses of a turn of a running station: the guard under which each is taken, the station
it leaves, and what is done in it. -/
inductive Course : Input → Station → List Effect → Prop
  | passed {i : Input} (h : s.Passes i) : Course i s []
  | opened {m : Message} {mode : Mode} {s' : Station} {es : List Effect}
      (asked : m.action = mode.action) (idle : s.phase = .idle) (free : s.inFlight = none)
      (h : Orders around (s.renew (m.branch.getD "")) .beginScan (.awaitScanStart mode) s' es) :
      Course (.message m) s' (.reset :: es)
  | deferred {m : Message} (asked : m.action = .finish) (accepts : s.phase.acceptsEnd = true)
      (busy : s.inFlight.isSome = true) : Course (.message m) { s with endRequested := true } []
  | ended {m : Message} {s' : Station} {es : List Effect} (asked : m.action = .finish)
      (accepts : s.phase.acceptsEnd = true) (free : s.inFlight = none)
      (h : Orders around { s with endRequested := false } .endScan .awaitScanEnd s' es) :
      Course (.message m) s' es
  | retried {m : Message} {alarm : Alarm} {mode : Mode} {barcode : String} {tag : Option String}
      {s' : Station} {es : List Effect} (asked : m.action = alarm.retryAction)
      (found : s.retryable? alarm m = some (mode, barcode, tag))
      (h : Orders around (s.remember alarm barcode tag) (alarm.command tag)
        (.awaitAlarm alarm mode barcode) s' es) :
      Course (.message m) s' es
  | lookedUp {m : Message} (asked : m.action = .itemInfo) :
      Course (.message m) s (lookUp around m)
  | writeUnnamed {m : Message} (asked : m.action = .write) (idle : s.phase = .idle)
      (free : s.inFlight = none) (unnamed : m.namedBarcode? = none) :
      Course (.message m) s [.tell (.readerFailure .write "WRITE requires an item barcode")]
  | writing {m : Message} {barcode : String} {s' : Station} {es : List Effect}
      (asked : m.action = .write) (idle : s.phase = .idle) (free : s.inFlight = none)
      (named : m.namedBarcode? = some barcode)
      (h : Orders around s (.write (Barcode.toTag barcode)) (.awaitWrite barcode) s' es) :
      Course (.message m) s' es
  | lost (f : Reader.Fault) :
      Course (.event (.failed f)) { s with terminated := true }
        [.tell (.readerFailure .connect f.message)]
  | started {r : Reader.Response} {mode : Mode} (phase : s.phase = .awaitScanStart mode)
      (busy : s.inFlight.isSome = true) (ok : r.ok = true) :
      Course (.event (.response r)) { s with inFlight := none, phase := .scanning mode } []
  | notStarted {r : Reader.Response} {mode : Mode} (phase : s.phase = .awaitScanStart mode)
      (busy : s.inFlight.isSome = true) (ok : r.ok = false) :
      Course (.event (.response r)) { s with inFlight := none, phase := .idle, terminated := true }
        [.tell (.readerFailure .connect "RFID reader failed to start scanning")]
  | blank {r : Reader.Response} {mode : Mode} (phase : s.phase = .scanning mode)
      (h : r.scanned = "") : Course (.event (.response r)) { s with inFlight := none } []
  | toggled {r : Reader.Response} {mode : Mode} {alarm : Alarm} {item : Item} {s' : Station}
      {es : List Effect} (phase : s.phase = .scanning mode) (named : r.scanned ≠ "")
      (decided : s.verdict around mode r.scanned r.ok = .toggle alarm item)
      (h : Orders around
        (({ s with inFlight := none }.record mode r.scanned item).remember alarm r.scanned r.tag)
        (alarm.command r.tag) (.awaitAlarm alarm mode r.scanned) s' es) :
      Course (.event (.response r)) s' (s.inquiry around mode r.scanned r.ok ++ es)
  | unreported {r : Reader.Response} {mode : Mode} (phase : s.phase = .scanning mode)
      (named : r.scanned ≠ "") (decided : s.verdict around mode r.scanned r.ok = .carryOn) :
      Course (.event (.response r)) { s with inFlight := none }
        (s.inquiry around mode r.scanned r.ok)
  | aborted {r : Reader.Response} {mode : Mode} {s' : Station} {es : List Effect}
      (phase : s.phase = .scanning mode) (named : r.scanned ≠ "")
      (decided : s.verdict around mode r.scanned r.ok = .abort)
      (h : Orders around { s with inFlight := none } .endScan .awaitScanEnd s' es) :
      Course (.event (.response r)) s' (s.inquiry around mode r.scanned r.ok ++ es)
  | gaveUp {r : Reader.Response} {mode : Mode} {e : CallFailure} (phase : s.phase = .scanning mode)
      (named : r.scanned ≠ "") (decided : s.verdict around mode r.scanned r.ok = .giveUp e) :
      Course (.event (.response r)) { s with inFlight := none, terminated := true }
        (s.inquiry around mode r.scanned r.ok ++ [.tell (.backendFailure .connect e.message)])
  | settled {r : Reader.Response} {alarm : Alarm} {mode : Mode} {barcode : String}
      (phase : s.phase = .awaitAlarm alarm mode barcode) (busy : s.inFlight.isSome = true)
      (stays : s.endRequested = false) :
      Course (.event (.response r)) (s.settle mode barcode r.ok)
        ((s.outcome alarm mode barcode r.ok).map .tell)
  | settledLast {r : Reader.Response} {alarm : Alarm} {mode : Mode} {barcode : String}
      {s' : Station} {es : List Effect} (phase : s.phase = .awaitAlarm alarm mode barcode)
      (busy : s.inFlight.isSome = true) (ends : s.endRequested = true)
      (h : Orders around { s.settle mode barcode r.ok with endRequested := false } .endScan
        .awaitScanEnd s' es) :
      Course (.event (.response r)) s' ((s.outcome alarm mode barcode r.ok).map .tell ++ es)
  | closed {r : Reader.Response} (phase : s.phase = .awaitScanEnd)
      (busy : s.inFlight.isSome = true) :
      Course (.event (.response r)) { s with inFlight := none, phase := .idle }
        [.tell (if r.ok then .plain .finish
          else .readerFailure .finish "RFID reader failed to end scanning")]
  | wrote {r : Reader.Response} {barcode : String} (phase : s.phase = .awaitWrite barcode)
      (busy : s.inFlight.isSome = true) :
      Course (.event (.response r)) { s with inFlight := none, phase := .idle }
        [.tell ((if r.ok then Message.plain .write
          else .readerFailure .write "RFID reader failed to write tag").about (.bare barcode))]
  | stray {r : Reader.Response} (phase : s.phase = .idle) (busy : s.inFlight.isSome = true) :
      Course (.event (.response r)) { s with inFlight := none } []

variable {around s}

/-! ### Remembered tags -/

section Remember

variable {alarm : Alarm} {barcode : String} {tag : Option String}

@[simp] theorem phase_remember : (s.remember alarm barcode tag).phase = s.phase := by
  cases alarm <;> rfl

@[simp] theorem inFlight_remember : (s.remember alarm barcode tag).inFlight = s.inFlight := by
  cases alarm <;> rfl

@[simp] theorem endRequested_remember :
    (s.remember alarm barcode tag).endRequested = s.endRequested := by
  cases alarm <;> rfl

@[simp] theorem terminated_remember :
    (s.remember alarm barcode tag).terminated = s.terminated := by
  cases alarm <;> rfl

@[simp] theorem branch_remember : (s.remember alarm barcode tag).branch = s.branch := by
  cases alarm <;> rfl

end Remember

@[simp] theorem terminated_renew (branch : String) :
    (s.renew branch).terminated = s.terminated := rfl

@[simp] theorem terminated_record (mode : Mode) (barcode : String) (item : Item) :
    (s.record mode barcode item).terminated = s.terminated := rfl

/-! ### What a verdict and a settlement depend on -/

@[simp] theorem verdict_free {p : Phase} :
    verdict around { s with inFlight := none, phase := p } = s.verdict around := rfl

@[simp] theorem inquiry_free {p : Phase} :
    inquiry around { s with inFlight := none, phase := p } = s.inquiry around := rfl

/-- Every scanned barcode comes to its verdict in one of these cases. -/
theorem ruling (around : Surroundings) (s : Station) (mode : Mode) (barcode : String) (ok : Bool) :
    s.Ruling around mode barcode ok (s.verdict around mode barcode ok)
      (s.inquiry around mode barcode ok) := by
  cases ok with
  | true =>
    cases mode with
    | checkin =>
      cases answer : around.backend.checkin s.branch barcode with
      | ok item =>
        simp only [verdict, inquiry, answer]
        exact .returned rfl rfl answer
      | error e =>
        simp only [verdict, inquiry, answer]
        cases policy : s.policy with
        | carryOn => exact .passedOver rfl rfl answer policy
        | release => exact .released rfl rfl answer policy
        | abort => exact .brokenOff rfl rfl answer policy
    | checkout =>
      cases answer : around.backend.itemStatus barcode with
      | ok item =>
        simp only [verdict, inquiry, answer]
        exact .lent rfl rfl answer
      | error e =>
        simp only [verdict, inquiry, answer]
        exact .notLent rfl rfl answer
  | false =>
    cases current : s.current.filter (·.barcode = barcode) with
    | some item =>
      simp only [verdict, inquiry, current]
      exact .recalled rfl current
    | none =>
      cases answer : around.backend.itemStatus barcode with
      | ok item =>
        simp only [verdict, inquiry, current, answer]
        exact .titled rfl current answer
      | error e =>
        simp only [verdict, inquiry, current, answer]
        exact .untitled rfl current answer

section Settle

variable {mode : Mode} {barcode : String} {ok : Bool}

@[simp] theorem inFlight_settle : (s.settle mode barcode ok).inFlight = none := by
  cases ok <;> rfl

@[simp] theorem terminated_settle : (s.settle mode barcode ok).terminated = s.terminated := by
  cases ok <;> rfl

@[simp] theorem endRequested_settle :
    (s.settle mode barcode ok).endRequested = s.endRequested := by
  cases ok <;> rfl

@[simp] theorem branch_settle : (s.settle mode barcode ok).branch = s.branch := by
  cases ok <;> rfl

theorem acceptsEnd_settle {alarm : Alarm} (phase : s.phase = .awaitAlarm alarm mode barcode) :
    (s.settle mode barcode ok).phase.acceptsEnd = true := by
  cases ok with
  | true => rfl
  | false => simp [settle, phase, Phase.acceptsEnd, Phase.scanMode?]

end Settle

/-! ### Every turn takes a course -/

private theorem exists_order_eq (around : Surroundings) (t : Turn) (c : Reader.Command)
    (next : Phase) (running : t.station.terminated = false) (free : t.station.inFlight = none) :
    ∃ s' es, t.order around c next = ⟨s', t.effects ++ es⟩ ∧
      Orders around t.station c next s' es := by
  -- With nothing in flight the guard against a second command is passed.
  cases h : around.refusal with
  | none =>
    refine ⟨_, _, ?_, .taken h⟩
    simp [Turn.order, free, h, Turn.act, Turn.update]
  | some f =>
    refine ⟨_, _, ?_, .refused f h⟩
    simp [Turn.order, free, h, Turn.lose, Turn.fail, Turn.tell, Turn.act, Turn.update, running]

private theorem course_beginBatch {m : Message} (mode : Mode) (running : s.terminated = false)
    (asked : m.action = mode.action) :
    let t := Turn.beginBatch around { station := s } mode m
    Course around s (.message m) t.station t.effects := by
  intro t
  by_cases idle : s.phase = .idle ∧ s.inFlight = none
  · obtain ⟨s', es, heq, h⟩ := exists_order_eq around ⟨s.renew (m.branch.getD ""), [.reset]⟩
      .beginScan (.awaitScanStart mode) running idle.2
    have ht : t = ⟨s', .reset :: es⟩ := by
      simpa [t, Turn.beginBatch, idle.1, idle.2, Turn.act, Turn.update] using heq
    rw [ht]
    exact .opened asked idle.1 idle.2 h
  · have ht : t = { station := s } := by
      simp only [t, Turn.beginBatch]
      rw [if_neg (by simpa using idle)]
    rw [ht]
    refine .passed ?_
    cases mode <;> simpa only [Passes, asked, Mode.action] using idle

private theorem course_endBatch {m : Message} (running : s.terminated = false)
    (asked : m.action = .finish) :
    let t := Turn.endBatch around { station := s }
    Course around s (.message m) t.station t.effects := by
  intro t
  by_cases accepts : s.phase.acceptsEnd = true
  · by_cases busy : s.inFlight.isSome = true
    · have ht : t = { station := { s with endRequested := true } } := by
        simp [t, Turn.endBatch, accepts, busy, Turn.update]
      rw [ht]
      exact .deferred asked accepts busy
    · have free : s.inFlight = none := by simpa using busy
      obtain ⟨s', es, heq, h⟩ := exists_order_eq around ⟨{ s with endRequested := false }, []⟩
        .endScan .awaitScanEnd running free
      have ht : t = ⟨s', es⟩ := by
        simpa [t, Turn.endBatch, accepts, free, Turn.update] using heq
      rw [ht]
      exact .ended asked accepts free h
  · have ht : t = { station := s } := by simp [t, Turn.endBatch, accepts]
    rw [ht]
    exact .passed (by simpa [Passes, asked] using accepts)

theorem retryable?_eq_some_iff {alarm : Alarm} {m : Message} {mode : Mode} {barcode : String}
    {tag : Option String} :
    s.retryable? alarm m = some (mode, barcode, tag) ↔
      s.phase.scanMode? = some mode ∧ s.inFlight = none ∧
        m.barcode? = some barcode ∧ (s.retries alarm).get? barcode = some tag := by
  unfold retryable?
  split
  · next hmode hfree hnamed =>
    rw [hmode, hfree, hnamed, Option.map_eq_some_iff]
    constructor
    · rintro ⟨_, hget, hx⟩
      cases hx
      exact ⟨rfl, rfl, rfl, hget⟩
    · rintro ⟨hm, -, hb, hget⟩
      cases hm
      cases hb
      exact ⟨tag, hget, rfl⟩
  · next hne =>
    -- The other patterns of the match are the ways in which the message does not fit.
    refine iff_of_false (by simp) ?_
    rintro ⟨hmode, hfree, hnamed, -⟩
    exact hne _ _ hmode hfree hnamed

private theorem course_retryAlarm {m : Message} (alarm : Alarm) (running : s.terminated = false)
    (asked : m.action = alarm.retryAction) :
    let t := Turn.retryAlarm around { station := s } alarm m
    Course around s (.message m) t.station t.effects := by
  intro t
  -- A retry that is not taken up is passed over, for whatever reason.
  cases found : s.retryable? alarm m with
  | none =>
    have ht : t = { station := s } := by
      simp only [t, Turn.retryAlarm]
      split
      · next mode barcode hmode hfree hnamed =>
        cases kept : (s.retries alarm).get? barcode with
        | none => rfl
        | some tag =>
          rw [retryable?_eq_some_iff.mpr ⟨hmode, hfree, hnamed, kept⟩] at found
          cases found
      · rfl
    rw [ht]
    refine .passed ?_
    cases alarm <;> simpa only [Passes, asked, Alarm.retryAction] using found
  | some x =>
    obtain ⟨mode, barcode, tag⟩ := x
    obtain ⟨hmode, hfree, hnamed, hget⟩ := retryable?_eq_some_iff.mp found
    obtain ⟨s', es, heq, h⟩ := exists_order_eq around ⟨s.remember alarm barcode tag, []⟩
      (alarm.command tag) (.awaitAlarm alarm mode barcode) (by simpa using running)
      (by simpa using hfree)
    have ht : t = ⟨s', es⟩ := by
      simpa only [t, Turn.retryAlarm, hmode, hfree, hnamed, hget, Turn.toggle, Turn.update,
        List.nil_append] using heq
    rw [ht]
    exact .retried asked found h

private theorem course_lookUp {m : Message} (asked : m.action = .itemInfo) :
    let t := Turn.lookUp around { station := s } m
    Course around s (.message m) t.station t.effects := by
  intro t
  have ht : t = ⟨s, lookUp around m⟩ := by
    simp only [t, Turn.lookUp, lookUp]
    cases m.namedBarcode? with
    | none => rfl
    | some barcode => cases h : around.backend.itemStatus barcode <;> simp [h, Turn.tell, Turn.act]
  rw [ht]
  exact .lookedUp asked

private theorem course_writeTag {m : Message} (running : s.terminated = false)
    (asked : m.action = .write) :
    let t := Turn.writeTag around { station := s } m
    Course around s (.message m) t.station t.effects := by
  intro t
  by_cases idle : s.phase = .idle ∧ s.inFlight = none
  · cases named : m.namedBarcode? with
    | none =>
      have ht : t = ⟨s, [.tell (.readerFailure .write "WRITE requires an item barcode")]⟩ := by
        simp [t, Turn.writeTag, idle.1, idle.2, named, Turn.tell, Turn.act]
      rw [ht]
      exact .writeUnnamed asked idle.1 idle.2 named
    | some barcode =>
      obtain ⟨s', es, heq, h⟩ := exists_order_eq around { station := s }
        (.write (Barcode.toTag barcode)) (.awaitWrite barcode) running idle.2
      have ht : t = ⟨s', es⟩ := by
        simpa [t, Turn.writeTag, idle.1, idle.2, named] using heq
      rw [ht]
      exact .writing asked idle.1 idle.2 named h
  · have ht : t = { station := s } := by
      simp only [t, Turn.writeTag]
      rw [if_neg (by simpa using idle)]
    rw [ht]
    exact .passed (by simpa only [Passes, asked] using idle)

/-- A message to a running station takes one of the courses. -/
theorem course_heed (running : s.terminated = false) (m : Message) :
    Course around s (.message m) (s.heed around m).station (s.heed around m).effects := by
  simp only [heed, running, Bool.false_eq_true, if_false]
  cases asked : m.action with
  | connect => exact .passed (by simp [Passes, asked])
  | checkin => exact course_beginBatch .checkin running asked
  | checkout => exact course_beginBatch .checkout running asked
  | finish => exact course_endBatch running asked
  | itemInfo => exact course_lookUp asked
  | write => exact course_writeTag running asked
  | retryAlarmOn => exact course_retryAlarm .on running asked
  | retryAlarmOff => exact course_retryAlarm .off running asked

/-- A scan as a decision and what follows from it. -/
private theorem scan_eq (around : Surroundings) (s : Station) (mode : Mode)
    {r : Reader.Response} (named : r.scanned ≠ "") :
    Turn.scan around { station := s } mode r =
      let asked : Turn :=
        ⟨{ s with phase := .scanning mode }, s.inquiry around mode r.scanned r.ok⟩
      match s.verdict around mode r.scanned r.ok with
      | .toggle alarm item =>
        (asked.update (·.record mode r.scanned item)).toggle around alarm mode r.scanned r.tag
      | .carryOn => asked
      | .abort => asked.order around .endScan .awaitScanEnd
      | .giveUp e => asked.fail (.backendFailure .connect e.message) := by
  obtain ⟨ok, b, tag⟩ := r
  simp only [Reader.Response.scanned] at named
  simp only [Turn.scan, named, if_false, Reader.Response.scanned]
  -- From here on the barcode is any text; what the tag carried no longer matters.
  generalize Barcode.ofTag (b.getD "") = barcode
  cases ok with
  | true =>
    cases mode with
    | checkin =>
      cases h : around.backend.checkin s.branch barcode with
      | ok item => simp [Turn.checkinItem, Turn.enter, Turn.update, Turn.act, verdict, inquiry, h]
      | error e =>
        cases hp : s.policy <;>
          simp [Turn.checkinItem, Turn.enter, Turn.update, Turn.act, Turn.tell, verdict, inquiry, h,
            hp]
    | checkout =>
      cases h : around.backend.itemStatus barcode <;>
        simp [Turn.checkoutItem, Turn.enter, Turn.update, Turn.act, Turn.tell, verdict, inquiry, h]
  | false =>
    cases hc : s.current.filter (·.barcode = barcode) with
    | some item =>
      simp [Turn.unreadableItem, Turn.enter, Turn.update, verdict, inquiry, hc]
    | none =>
      cases h : around.backend.itemStatus barcode <;>
        simp [Turn.unreadableItem, Turn.enter, Turn.update, Turn.act, verdict, inquiry, hc, h]

private theorem course_scan {r : Reader.Response} {mode : Mode} (running : s.terminated = false)
    (phase : s.phase = .scanning mode) :
    let t := Turn.scan around { station := { s with inFlight := none, phase := .idle } } mode r
    Course around s (.event (.response r)) t.station t.effects := by
  intro t
  -- Entering the scanning phase restores the phase that the response found.
  have entered : { s with inFlight := none, phase := .scanning mode } =
      { s with inFlight := none } := by rw [← phase]
  by_cases named : r.scanned = ""
  · have ht : t = { station := { s with inFlight := none } } := by
      simp only [Reader.Response.scanned] at named
      simpa [t, Turn.scan, named, Turn.enter, Turn.update] using entered
    rw [ht]
    exact .blank phase named
  · have ht := scan_eq around { s with inFlight := none, phase := .idle } mode named
    simp only [verdict_free, inquiry_free, entered] at ht
    cases decided : s.verdict around mode r.scanned r.ok with
    | toggle alarm item =>
      obtain ⟨s', es, heq, h⟩ := exists_order_eq around
        ⟨({ s with inFlight := none }.record mode r.scanned item).remember alarm r.scanned r.tag,
          s.inquiry around mode r.scanned r.ok⟩ (alarm.command r.tag)
        (.awaitAlarm alarm mode r.scanned) (by simpa [record] using running) (by simp [record])
      rw [decided] at ht
      rw [show t = _ from ht.trans heq]
      exact .toggled phase named decided h
    | carryOn =>
      rw [decided] at ht
      rw [show t = _ from ht]
      exact .unreported phase named decided
    | abort =>
      obtain ⟨s', es, heq, h⟩ := exists_order_eq around
        ⟨{ s with inFlight := none }, s.inquiry around mode r.scanned r.ok⟩ .endScan .awaitScanEnd
        running rfl
      rw [decided] at ht
      rw [show t = _ from ht.trans heq]
      exact .aborted phase named decided h
    | giveUp e =>
      have heq : Turn.fail ⟨{ s with inFlight := none }, s.inquiry around mode r.scanned r.ok⟩
          (.backendFailure .connect e.message) =
          ⟨{ s with inFlight := none, terminated := true }, s.inquiry around mode r.scanned r.ok ++
            [.tell (.backendFailure .connect e.message)]⟩ := by
        simp [Turn.fail, running, Turn.tell, Turn.act, Turn.update]
      rw [decided] at ht
      rw [show t = _ from ht.trans heq]
      exact .gaveUp phase named decided

private theorem course_alarmReply {r : Reader.Response} {alarm : Alarm} {mode : Mode}
    {barcode : String} (running : s.terminated = false)
    (phase : s.phase = .awaitAlarm alarm mode barcode) (busy : s.inFlight.isSome = true) :
    let t := Turn.alarmReply around { station := { s with inFlight := none, phase := .idle } }
      alarm mode barcode r.ok
    Course around s (.event (.response r)) t.station t.effects := by
  intro t
  have told : Turn.alarmOutcome { station := { s with inFlight := none, phase := .idle } } alarm
      mode barcode r.ok =
        ⟨s.settle mode barcode r.ok, (s.outcome alarm mode barcode r.ok).map .tell⟩ := by
    cases r.ok with
    | true =>
      cases h : s.pending.get? barcode <;>
        simp [Turn.alarmOutcome, settle, outcome, h, Turn.enter, Turn.update, Turn.tell, Turn.act]
    | false =>
      simp [Turn.alarmOutcome, settle, outcome, Turn.enter, Turn.update, Turn.tell, Turn.act, phase]
  cases ends : s.endRequested with
  | false =>
    have ht : t = ⟨s.settle mode barcode r.ok, (s.outcome alarm mode barcode r.ok).map .tell⟩ := by
      simp only [t, Turn.alarmReply]
      rw [told]
      simp only [endRequested_settle, ends, Bool.false_eq_true, if_false]
    rw [ht]
    exact .settled phase busy ends
  | true =>
    obtain ⟨s', es, heq, h⟩ := exists_order_eq around
      ⟨{ s.settle mode barcode r.ok with endRequested := false },
        (s.outcome alarm mode barcode r.ok).map .tell⟩ .endScan .awaitScanEnd
      (by simpa using running) (by simp)
    -- The phase still accepts the end after the outcome, so the deferred end is not lost.
    have ht : t = ⟨s', (s.outcome alarm mode barcode r.ok).map .tell ++ es⟩ := by
      simp only [t, Turn.alarmReply]
      rw [told]
      simp only [endRequested_settle, ends, if_true, Turn.endBatch, Turn.update,
        acceptsEnd_settle phase, inFlight_settle, Option.isSome_none, Bool.false_eq_true, if_false]
      simpa only [inFlight_settle] using heq
    rw [ht]
    exact .settledLast phase busy ends h

/-- An event of the reader, heard by a running station, takes one of the courses. -/
theorem course_hear (running : s.terminated = false) (e : Reader.Event) :
    Course around s (.event e) (s.hear around e).station (s.hear around e).effects := by
  simp only [hear, running, Bool.false_eq_true, if_false]
  cases e with
  | failed f =>
    simpa [Turn.lose, Turn.fail, running, Turn.tell, Turn.act, Turn.update]
      using @Course.lost around s f
  | response r =>
    by_cases dropped : s.inFlight = none ∧ s.phase.isScanning = false
    · simp only [dropped.1, dropped.2, Option.isNone_none, Bool.not_false, Bool.and_self, if_true]
      exact .passed dropped
    · -- Outside of a scan, a response that is heard has a command to answer.
      have heard : (s.inFlight.isNone && !s.phase.isScanning) = false := by
        simpa using dropped
      have busy (h : s.phase.isScanning = false) : s.inFlight.isSome = true := by
        simpa [h, Option.isSome_iff_ne_none] using dropped
      simp only [heard, Bool.false_eq_true, if_false, Turn.update]
      cases phase : s.phase with
      | idle =>
        simpa [Turn.answer, ← phase]
          using Course.stray phase (busy (by simp [phase, Phase.isScanning]))
      | awaitScanStart mode =>
        have busy := busy (by simp [phase, Phase.isScanning])
        cases ok : r.ok with
        | true =>
          simpa [Turn.answer, ok, Turn.enter, Turn.update] using Course.started phase busy ok
        | false =>
          simpa [Turn.answer, ok, Turn.fail, running, Turn.tell, Turn.act, Turn.update]
            using Course.notStarted phase busy ok
      | scanning mode => exact course_scan running phase
      | awaitAlarm alarm mode barcode =>
        exact course_alarmReply running phase (busy (by simp [phase, Phase.isScanning]))
      | awaitScanEnd =>
        simpa [Turn.answer, Turn.tell, Turn.act]
          using Course.closed phase (busy (by simp [phase, Phase.isScanning]))
      | awaitWrite barcode =>
        simpa [Turn.answer, Turn.tell, Turn.act]
          using Course.wrote phase (busy (by simp [phase, Phase.isScanning]))

/-- Every turn of a running station takes one of the courses. -/
theorem course_step (running : s.terminated = false) (i : Input) :
    Course around s i (s.step around i).station (s.step around i).effects := by
  cases i with
  | message m => exact course_heed running m
  | event e => exact course_hear running e

/-- Of the courses, a response in an alarm wait with the command in flight takes one of the two
answers: the outcome is told, and then the batch ends if it was asked to. -/
theorem Course.answered {r : Reader.Response} {alarm : Alarm} {mode : Mode} {barcode : String}
    {s' : Station} {es : List Effect} (h : Course around s (.event (.response r)) s' es)
    (phase : s.phase = .awaitAlarm alarm mode barcode) (busy : s.inFlight.isSome = true) :
    ∃ fs, es = (s.outcome alarm mode barcode r.ok).map .tell ++ fs ∧
      (s.endRequested = false ∧ s' = s.settle mode barcode r.ok ∧ fs = [] ∨
        s.endRequested = true ∧
          Orders around { s.settle mode barcode r.ok with endRequested := false } .endScan
            .awaitScanEnd s' fs) := by
  cases h with
  | passed h => simp [h.1] at busy
  | settled own _ stays =>
    cases phase.symm.trans own
    exact ⟨[], (List.append_nil _).symm, .inl ⟨stays, rfl, rfl⟩⟩
  | settledLast own _ ends h =>
    cases phase.symm.trans own
    exact ⟨_, rfl, .inr ⟨ends, h⟩⟩
  | started own | notStarted own | blank own | toggled own | unreported own | aborted own
  | gaveUp own | closed own | wrote own | stray own => cases phase.symm.trans own

/-- Of the courses, the loss of the link takes one. -/
theorem Course.linkLost {f : Reader.Fault} {s' : Station} {es : List Effect}
    (h : Course around s (.event (.failed f)) s' es) :
    s' = { s with terminated := true } ∧ es = [.tell (.readerFailure .connect f.message)] := by
  cases h with
  | passed h => cases h
  | lost => exact ⟨rfl, rfl⟩

section Answers

variable {r : Reader.Response} {s' : Station} {es : List Effect}

/-- Of the courses, the answer to the command to scan takes one of two: the reader scans, or the
station ends. -/
theorem Course.scanStarted {mode : Mode} (h : Course around s (.event (.response r)) s' es)
    (phase : s.phase = .awaitScanStart mode) (busy : s.inFlight.isSome = true) :
    if r.ok then s' = { s with inFlight := none, phase := .scanning mode } ∧ es = []
    else s' = { s with inFlight := none, phase := .idle, terminated := true } ∧
      es = [.tell (.readerFailure .connect "RFID reader failed to start scanning")] := by
  cases h with
  | passed h => simp [h.1] at busy
  | started own _ ok =>
    cases phase.symm.trans own
    rw [ok, if_pos rfl]
    exact ⟨rfl, rfl⟩
  | notStarted own _ ok =>
    rw [ok, if_neg Bool.false_ne_true]
    exact ⟨rfl, rfl⟩
  | blank own | toggled own | unreported own | aborted own | gaveUp own | settled own
  | settledLast own | closed own | wrote own | stray own => cases phase.symm.trans own

/-- Of the courses, the answer to the command to end takes one. -/
theorem Course.scanEnded (h : Course around s (.event (.response r)) s' es)
    (phase : s.phase = .awaitScanEnd) (busy : s.inFlight.isSome = true) :
    s' = { s with inFlight := none, phase := .idle } ∧
      es = [.tell (if r.ok then .plain .finish
        else .readerFailure .finish "RFID reader failed to end scanning")] := by
  cases h with
  | passed h => simp [h.1] at busy
  | closed => exact ⟨rfl, rfl⟩
  | started own | notStarted own | blank own | toggled own | unreported own | aborted own
  | gaveUp own | settled own | settledLast own | wrote own | stray own =>
    cases phase.symm.trans own

/-- Of the courses, the answer to the command to write a tag takes one. -/
theorem Course.tagWritten {barcode : String} (h : Course around s (.event (.response r)) s' es)
    (phase : s.phase = .awaitWrite barcode) (busy : s.inFlight.isSome = true) :
    s' = { s with inFlight := none, phase := .idle } ∧
      es = [.tell ((if r.ok then Message.plain .write
        else .readerFailure .write "RFID reader failed to write tag").about (.bare barcode))] := by
  cases h with
  | passed h => simp [h.1] at busy
  | wrote own =>
    cases phase.symm.trans own
    exact ⟨rfl, rfl⟩
  | started own | notStarted own | blank own | toggled own | unreported own | aborted own
  | gaveUp own | settled own | settledLast own | closed own | stray own =>
    cases phase.symm.trans own

end Answers

/-- Of the courses, a message that asks for another try takes one of two: it is passed over, or the
toggle that it finds is tried again. -/
theorem Course.askedAgain {m : Message} {alarm : Alarm} {s' : Station} {es : List Effect}
    (h : Course around s (.message m) s' es) (asked : m.action = alarm.retryAction) :
    (s.retryable? alarm m = none ∧ s' = s ∧ es = []) ∨
      ∃ mode barcode tag, s.retryable? alarm m = some (mode, barcode, tag) ∧
        Orders around (s.remember alarm barcode tag) (alarm.command tag)
          (.awaitAlarm alarm mode barcode) s' es := by
  cases h with
  | passed h =>
    refine .inl ⟨?_, rfl, rfl⟩
    cases alarm <;> simpa only [Passes, asked, Alarm.retryAction] using h
  | @retried _ alarm' mode barcode tag _ _ asked' found h =>
    obtain rfl : alarm' = alarm := Alarm.retryAction_inj (asked'.symm.trans asked)
    exact .inr ⟨mode, barcode, tag, found, h⟩
  -- The other courses of a message are taken upon other actions.
  | @opened _ mode _ _ asked' =>
    have same := asked'.symm.trans asked
    cases mode <;> cases alarm <;> cases same
  | deferred asked' | ended asked' | lookedUp asked' | writeUnnamed asked' | writing asked' =>
    have same := asked'.symm.trans asked
    cases alarm <;> cases same

/-- Of the courses, a scan takes the one that its verdict selects: the backend is asked first, and
what follows is what the verdict demands. -/
theorem Course.scanned {r : Reader.Response} {mode : Mode} {s' : Station} {es : List Effect}
    (h : Course around s (.event (.response r)) s' es) (phase : s.phase = .scanning mode)
    (named : r.scanned ≠ "") :
    ∃ fs, es = s.inquiry around mode r.scanned r.ok ++ fs ∧
      match s.verdict around mode r.scanned r.ok with
      | .toggle alarm item =>
        Orders around
          (({ s with inFlight := none }.record mode r.scanned item).remember alarm r.scanned r.tag)
          (alarm.command r.tag) (.awaitAlarm alarm mode r.scanned) s' fs
      | .carryOn => s' = { s with inFlight := none } ∧ fs = []
      | .abort => Orders around { s with inFlight := none } .endScan .awaitScanEnd s' fs
      | .giveUp e => s' = { s with inFlight := none, terminated := true } ∧
          fs = [.tell (.backendFailure .connect e.message)] := by
  cases h with
  | passed h =>
    obtain ⟨-, other⟩ := h
    simp [phase, Phase.isScanning] at other
  | blank _ unnamed => exact absurd unnamed named
  | toggled own _ decided h | aborted own _ decided h =>
    cases phase.symm.trans own
    exact ⟨_, rfl, by simpa only [decided] using h⟩
  | unreported own _ decided =>
    cases phase.symm.trans own
    exact ⟨[], (List.append_nil _).symm, by simp only [decided, and_self]⟩
  | gaveUp own _ decided =>
    cases phase.symm.trans own
    exact ⟨_, rfl, by simp only [decided, and_self]⟩
  | started own | notStarted own | settled own | settledLast own | closed own | wrote own
  | stray own => cases phase.symm.trans own

/-- A terminated station does nothing. -/
theorem step_of_terminated (ended : s.terminated = true) (i : Input) :
    s.step around i = { station := s } := by
  cases i <;> simp [step, heed, hear, ended]

end Station

end SelfCheck
