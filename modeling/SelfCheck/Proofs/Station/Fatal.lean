import SelfCheck.Proofs.Station.Calls

/-!
# What ends a station

Most of what goes wrong at a desk is reported and forgotten: a checkin or a look-up that fails, an
alarm, an end or a tag that the reader does not manage. A few failures end the station, and where
they are noticed is spread over the turn: a command may be refused two calls deep, in the release of
a tag after a failed checkin, or behind the answer to another command. Here they are listed, each
with the last that the station says, and nothing else ends it.

A refused command leaves nothing behind that could be observed but the farewell. That a turn gives
one is therefore said by what a willing reader would have taken.

## Main definitions

* `Station.given?` — the command that an input makes a station give
* `Station.Fatal` — what ends a station, and the last that it says

## Main results

* `Station.Course.given` — every course gives the command that its input demands, behind all else
* `Station.commands_step` — a willing reader takes that command, and any other takes none
* `Station.ended_iff_fatal` — a turn ends a station just if something fatal occurs in it
-/

namespace SelfCheck

/-- The command that follows upon a verdict. -/
def Verdict.given? (tag : Option String) : Verdict → Option Reader.Command
  | toggle alarm _ => some (alarm.command tag)
  | abort => some .endScan
  | carryOn | giveUp _ => none

namespace Station

/-! ### The command of a turn -/

/-- The command that an input makes a running station give, whether or not the reader takes it. -/
def given? (around : Surroundings) (s : Station) : Input → Option Reader.Command
  | .message m =>
    match m.action with
    | .checkin | .checkout => if s.phase = .idle ∧ s.inFlight = none then some .beginScan else none
    | .finish => if s.phase.acceptsEnd ∧ s.inFlight = none then some .endScan else none
    | .retryAlarmOn => (s.retryable? .on m).map fun found => .alarmOn found.2.2
    | .retryAlarmOff => (s.retryable? .off m).map fun found => .alarmOff found.2.2
    | .write =>
      if s.phase = .idle ∧ s.inFlight = none then
        m.namedBarcode?.map fun barcode => .write (Barcode.toTag barcode)
      else none
    | .connect | .itemInfo => none
  | .event (.failed _) => none
  | .event (.response r) =>
    match s.phase with
    | .scanning mode =>
      if r.scanned = "" then none else (s.verdict around mode r.scanned r.ok).given? r.tag
    -- The answer to a toggle sets off the end that waits for it.
    | .awaitAlarm _ _ _ => if s.inFlight.isSome ∧ s.endRequested then some .endScan else none
    | _ => none

variable {around : Surroundings} {s s' : Station} {i : Input} {es : List Effect}
  {c : Reader.Command} {next : Phase} {r : Reader.Response} {mode : Mode}

/-- What an input demands of a station does not depend on the willingness of the reader. -/
theorem given?_refusal (refusal : Option Reader.Fault) :
    s.given? { around with refusal } i = s.given? around i := rfl

/-- What is passed over demands no command. -/
theorem given?_of_passes (h : s.Passes i) : s.given? around i = none := by
  cases i with
  | message m =>
    cases asked : m.action with
    | connect | itemInfo => simp [given?, asked]
    | checkin | checkout | write | retryAlarmOn | retryAlarmOff =>
      simp only [Passes, asked] at h
      simp [given?, asked, h]
    | finish =>
      simp only [Passes, asked] at h
      simp [given?, asked, h]
  | event e =>
    cases e with
    | failed f => rfl
    | response r =>
      obtain ⟨free, other⟩ := h
      unfold given?
      cases phase : s.phase with
      | scanning => simp [phase, Phase.isScanning] at other
      | _ => simp [free]

/-! ### What is fatal -/

/-- What ends a station in a turn, and the last that it says: the link to the reader is lost; the
reader refuses a command that a willing one would have taken; the reader cannot begin to scan; or
the title of an item cannot be looked up whose tag was not read in full, and which is not the item
recorded last. -/
inductive Fatal (around : Surroundings) (s : Station) (last : Option String) :
    Input → Message → Prop
  | lost (f : Reader.Fault) :
      Fatal around s last (.event (.failed f)) (.readerFailure .connect f.message)
  | refused {i : Input} {c : Reader.Command} {f : Reader.Fault}
      (given : c ∈ Effect.commands (s.step { around with refusal := none } i).effects)
      (unwilling : around.refusal = some f) :
      Fatal around s last i (.readerFailure .connect f.message)
  | notStarted {r : Reader.Response} {mode : Mode} (phase : s.phase = .awaitScanStart mode)
      (failed : r.ok = false) :
      Fatal around s last (.event (.response r))
        (.readerFailure .connect "RFID reader failed to start scanning")
  | untitled {r : Reader.Response} {mode : Mode} {e : CallFailure}
      (phase : s.phase = .scanning mode) (named : r.scanned ≠ "") (unread : r.ok = false)
      (other : last ≠ some r.scanned) (answer : around.backend.itemStatus r.scanned = .error e) :
      Fatal around s last (.event (.response r)) (.backendFailure .connect e.message)

theorem Orders.commands_eq (h : Orders around s c next s' es) :
    Effect.commands es = if around.refusal = none then [c] else [] := by
  cases h with
  | taken willing =>
    rw [if_pos willing]
    rfl
  | refused f unwilling =>
    rw [if_neg (by simp [unwilling])]
    rfl

/-- All that is said of a command when it is given is that the reader refuses it. -/
theorem Orders.told (h : Orders around s c next s' es) :
    Effect.told es = around.refusal.toList.map fun f => .readerFailure .connect f.message := by
  cases h with
  | taken willing =>
    rw [willing]
    rfl
  | refused f unwilling =>
    rw [unwilling]
    rfl

/-- A command that is refused ends the station. -/
theorem Orders.terminated_of_refusal {f : Reader.Fault} (h : Orders around s c next s' es)
    (unwilling : around.refusal = some f) : s'.terminated = true := by
  cases h with
  | taken willing => simp [willing] at unwilling
  | refused => rfl

/-- Only a failed look-up of a title makes a station give up. -/
theorem giveUp_iff {barcode : String} {ok : Bool} {e : CallFailure} :
    s.verdict around mode barcode ok = .giveUp e ↔
      ok = false ∧ s.current.map (·.barcode) ≠ some barcode ∧
        around.backend.itemStatus barcode = .error e := by
  rw [← filter_current_eq_none_iff]
  constructor
  · intro decided
    have ruling := ruling around s mode barcode ok
    rw [decided] at ruling
    generalize s.inquiry around mode barcode ok = es at ruling
    cases ruling with
    | untitled unread current answer => exact ⟨unread, current, answer⟩
  · rintro ⟨rfl, current, answer⟩
    simp [verdict, current, answer]

/-- Every course gives the command that its input demands, and all else that it does comes before.
Where none is demanded, nothing is sent, and the station goes on unless something fatal occurs. -/
theorem Course.given (h : Course around s i s' es) :
    (s.given? around i = none ∧ Effect.commands es = [] ∧
      (s'.terminated = s.terminated ∨
        ∃ m, s.Fatal around (s.current.map (·.barcode)) i m)) ∨
      ∃ c next t pre fs, s.given? around i = some c ∧ Orders around t c next s' fs ∧
        t.terminated = s.terminated ∧ Effect.commands pre = [] ∧ es = pre ++ fs := by
  -- By the course: those that order a command give it, and three of the others are fatal.
  cases h with
  | passed h => exact .inl ⟨given?_of_passes h, rfl, .inl rfl⟩
  | @opened m mode _ es asked idle free h =>
    refine .inr ⟨_, _, _, [.reset], es, ?_, h, rfl, rfl, rfl⟩
    cases mode <;> simp [given?, asked, idle, free, Mode.action]
  | deferred asked accepts busy =>
    exact .inl ⟨by simp [given?, asked, Option.isSome_iff_ne_none.mp busy], rfl, .inl rfl⟩
  | ended asked accepts free h =>
    exact .inr ⟨_, _, _, [], _, by simp [given?, asked, accepts, free], h, rfl, rfl, rfl⟩
  | @retried m alarm _ _ _ _ _ asked found h =>
    refine .inr ⟨_, _, _, [], _, ?_, h, terminated_remember, rfl, rfl⟩
    cases alarm <;> simp [given?, asked, found, Alarm.retryAction, Alarm.command]
  | lookedUp asked => exact .inl ⟨by simp [given?, asked], commands_lookUp, .inl rfl⟩
  | writeUnnamed asked idle free unnamed =>
    exact .inl ⟨by simp [given?, asked, unnamed], rfl, .inl rfl⟩
  | writing asked idle free named h =>
    exact .inr ⟨_, _, _, [], _, by simp [given?, asked, idle, free, named], h, rfl, rfl, rfl⟩
  | lost f => exact .inl ⟨rfl, rfl, .inr ⟨_, .lost f⟩⟩
  | blank phase unnamed => exact .inl ⟨by simp [given?, phase, unnamed], rfl, .inl rfl⟩
  | toggled phase named decided h =>
    refine .inr ⟨_, _, _, _, _, ?_, h, terminated_remember, commands_inquiry, rfl⟩
    simp [given?, phase, named, decided, Verdict.given?]
  | aborted phase named decided h =>
    refine .inr ⟨_, _, _, _, _, ?_, h, rfl, commands_inquiry, rfl⟩
    simp [given?, phase, named, decided, Verdict.given?]
  | unreported phase named decided =>
    refine .inl ⟨?_, commands_inquiry, .inl rfl⟩
    simp [given?, phase, named, decided, Verdict.given?]
  | gaveUp phase named decided =>
    obtain ⟨unread, other, answer⟩ := giveUp_iff.mp decided
    refine .inl ⟨?_, by simp, .inr ⟨_, .untitled phase named unread other answer⟩⟩
    simp [given?, phase, named, decided, Verdict.given?]
  | settled phase busy stays =>
    exact .inl ⟨by simp [given?, phase, stays], Effect.commands_map_tell _, .inl terminated_settle⟩
  | settledLast phase busy ends h =>
    refine .inr ⟨_, _, _, _, _, ?_, h, terminated_settle, Effect.commands_map_tell _, rfl⟩
    simp [given?, phase, busy, ends]
  | notStarted phase busy failed =>
    exact .inl ⟨by simp [given?, phase], rfl, .inr ⟨_, .notStarted phase failed⟩⟩
  | started phase | closed phase | wrote phase | stray phase =>
    exact .inl ⟨by simp [given?, phase], rfl, .inl rfl⟩

/-- A willing reader takes the command that an input makes a running station give, and nothing else;
a reader that is not willing takes nothing. -/
theorem commands_step (running : s.terminated = false) (around : Surroundings) (i : Input) :
    Effect.commands (s.step around i).effects =
      if around.refusal = none then (s.given? around i).toList else [] := by
  have course : s.Course around i _ _ := course_step running i
  obtain ⟨demanded, quiet, -⟩ | ⟨c, next, t, pre, fs, demanded, h, -, quiet, done⟩ := course.given
  · rw [quiet, demanded]
    simp
  · rw [done, Effect.commands_append, quiet, h.commands_eq, demanded]
    rfl

/-! ### Runs -/

/-- Something fatal ends the station, and the farewell that goes with it is the last that is
said. -/
theorem Fatal.ends {m : Message} (h : s.Fatal around (s.current.map (·.barcode)) i m)
    (running : s.terminated = false) (inStep : s.InStep) :
    (s.step around i).station.terminated = true ∧
      (Effect.told (s.step around i).effects).getLast? = some m := by
  have course : s.Course around i _ _ := course_step running i
  cases h with
  | lost f =>
    obtain ⟨ended, done⟩ := course.linkLost
    rw [ended, done]
    exact ⟨rfl, rfl⟩
  | @refused _ c f given unwilling =>
    -- The station gives to this reader what it would give to a willing one.
    rw [commands_step running, if_pos rfl, given?_refusal, Option.mem_toList] at given
    obtain ⟨demanded, -⟩ | ⟨_, _, _, pre, fs, -, h, -, -, done⟩ := course.given
    · rw [demanded] at given
      cases given
    · rw [done, Effect.told_append, h.told, unwilling]
      exact ⟨h.terminated_of_refusal unwilling, List.getLast?_concat⟩
  | @notStarted r mode phase failed =>
    have busy : s.inFlight.isSome = true := by
      have awaits := inStep.awaits
      rw [phase] at awaits
      rw [awaits]
      rfl
    have started := course.scanStarted phase busy
    rw [failed, if_neg Bool.false_ne_true] at started
    rw [started.1, started.2]
    exact ⟨rfl, rfl⟩
  | @untitled r mode e phase named unread other answer =>
    have decided : s.verdict around mode r.scanned r.ok = .giveUp e :=
      giveUp_iff.mpr ⟨unread, other, answer⟩
    obtain ⟨fs, done, comes⟩ := course.scanned phase named
    rw [decided] at comes
    obtain ⟨ended, rfl⟩ := comes
    rw [ended, done, Effect.told_append]
    exact ⟨rfl, List.getLast?_concat⟩

/-- A turn ends a running station just if something fatal occurs in it, and then the last that is
said is the farewell that goes with it. So a willing reader ends a station only by the loss of its
link, by failing to begin to scan, or by a scan that it could not read in full; no message ends it,
no answer to an alarm command, an end or a tag to write, and no scan that was read in full, whatever
the backend makes of it. -/
theorem ended_iff_fatal {ip : String} {policy : FailurePolicy}
    {inputs : List (Surroundings × Input)}
    (running : ((fresh ip policy).run inputs).station.terminated = false) (around : Surroundings)
    (i : Input) :
    let s := ((fresh ip policy).run inputs).station
    let last := lastRecorded ((fresh ip policy).history inputs)
    let t := s.step around i
    (t.station.terminated = true ↔ ∃ m, s.Fatal around last i m) ∧
      (∀ m, s.Fatal around last i m → (Effect.told t.effects).getLast? = some m) ∧
      (around.refusal = none → t.station.terminated = true →
        (∃ f, i = .event (.failed f)) ∨ ∃ r mode, i = .event (.response r) ∧ r.ok = false ∧
          (s.phase = .awaitScanStart mode ∨ s.phase = .scanning mode)) := by
  intro s last t
  have inStep : s.InStep := inStep_run ip policy inputs
  have recorded : s.current.map (·.barcode) = last := lastRecorded_run ip policy inputs running
  have course : s.Course around i t.station t.effects := course_step running i
  have fatal_of_ended (ended : t.station.terminated = true) : ∃ m, s.Fatal around last i m := by
    obtain ⟨-, -, same | fatal⟩ | ⟨c, next, t', pre, fs, demanded, h, same, -⟩ := course.given
    · rw [same, running] at ended
      cases ended
    · rwa [recorded] at fatal
    · -- The command was refused, and a willing reader would have taken it.
      cases refusal : around.refusal with
      | none =>
        obtain quiet | ⟨-, -, same'⟩ := h.commands
        · simp [h.commands_eq, refusal] at quiet
        · rw [same', same, running] at ended
          cases ended
      | some f =>
        refine ⟨_, .refused (c := c) ?_ refusal⟩
        rw [commands_step running, if_pos rfl, given?_refusal, demanded]
        exact List.mem_singleton_self c
  have ends {m : Message} (fatal : s.Fatal around last i m) := by
    rw [← recorded] at fatal
    exact fatal.ends running inStep
  refine ⟨⟨fatal_of_ended, fun ⟨m, fatal⟩ => (ends fatal).1⟩, fun m fatal => (ends fatal).2, ?_⟩
  intro willing ended
  obtain ⟨m, fatal⟩ := fatal_of_ended ended
  cases fatal with
  | lost f => exact .inl ⟨f, rfl⟩
  | refused _ unwilling => simp [willing] at unwilling
  | notStarted phase failed => exact .inr ⟨_, _, rfl, failed, .inl phase⟩
  | untitled phase _ unread => exact .inr ⟨_, _, rfl, unread, .inr phase⟩

/-- A tag is scanned that was not read in full, in a batch that has recorded nothing yet, while the
backend is out of reach. -/
theorem ended_iff_fatal_unreadScan :
    let s := ((fresh "" .carryOn).run (retriedCheckin.take 2)).station
    let around : Surroundings :=
      { backend := { Backend.obliging with itemStatus := fun _ => .error ⟨"out of reach"⟩ } }
    let t := s.step around (.event (.response { ok := false, barcode := some "10A1" }))
    s.terminated = false ∧ t.station.terminated = true ∧
      (Effect.told t.effects).getLast? = some (.backendFailure .connect "out of reach") := by
  intro s around t
  have running : s.terminated = false := by decide
  have fatal : s.Fatal around (lastRecorded ((fresh "" .carryOn).history (retriedCheckin.take 2)))
      (.event (.response { ok := false, barcode := some "10A1" }))
      (.backendFailure .connect "out of reach") := by
    have phase : s.phase = .scanning .checkin := by decide
    exact .untitled (e := ⟨"out of reach"⟩) phase (by decide) rfl (by decide) rfl
  obtain ⟨ended, farewell, -⟩ := ended_iff_fatal running around
    (.event (.response { ok := false, barcode := some "10A1" }))
  exact ⟨running, ended.mpr ⟨_, fatal⟩, farewell _ fatal⟩

end Station

end SelfCheck
