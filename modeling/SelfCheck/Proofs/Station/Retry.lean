import SelfCheck.Proofs.Station.AlarmWait

/-!
# What another try repeats

The screen asks for another try by naming an item. The station looks the barcode up in the ledger
of the setting and sends the tag that it finds there. That ledger has room for many tags, and
nothing that writes to it clears the other one; but in every phase the three ledgers have one shape,
and another try is taken up just where the command sent last has failed, and repeats it.

## Main definitions

* `Station.Bookkept` — the shape of the ledgers in each phase

## Main results

* `Station.bookkept_of_owes` — what is owed gives the ledgers their shape
* `Station.orders_of_named`, `Station.step_of_misnamed` — what comes of a message that asks for
  another try in an alarm wait
* `Station.taken_up_iff` — which messages that ask for another try are taken up
* `Station.retries_match_alarm_wait` — the shape of the ledgers, how answers change it, and which
  tries are taken up, after every run
-/

namespace SelfCheck

namespace Station

variable {around : Surroundings} {s : Station} {owed : Option Toggle} {g : Toggle} {m : Message}
  {alarm : Alarm} {mode : Mode} {barcode : String} {tag : Option String}

/-! ### The shape of the ledgers -/

/-- The shape of the ledgers in each phase: nothing is noted where the reader is about to scan; in
an alarm wait, its barcode and no other, for its setting and not for the other one; and elsewhere
at most one barcode, for one of the settings. -/
def Bookkept (s : Station) : Prop :=
  match s.phase with
  | .awaitScanStart _ | .scanning _ =>
    s.pending = .empty ∧ s.retryOn = .empty ∧ s.retryOff = .empty
  | .awaitAlarm alarm _ barcode =>
    (∃ tag, s.retries alarm = .single barcode tag) ∧
      (∀ other, other ≠ alarm → s.retries other = .empty) ∧
      ∃ report, s.pending = .single barcode report
  | .idle | .awaitScanEnd | .awaitWrite _ =>
    s.pending.barcodes = s.retryOn.barcodes ++ s.retryOff.barcodes ∧ s.pending.barcodes.length ≤ 1

/-- The barcodes noted are those of the toggle that is owed, in one of the two settings. -/
theorem Owes.barcodes (h : s.Owes owed) :
    s.pending.barcodes = s.retryOn.barcodes ++ s.retryOff.barcodes ∧
      s.pending.barcodes.length ≤ 1 := by
  have on : s.retryOn = _ := h.retries .on
  have off : s.retryOff = _ := h.retries .off
  rw [h.pending, on, off]
  cases owed with
  | none => exact ⟨rfl, Nat.zero_le 1⟩
  | some g =>
    obtain ⟨alarm, mode, barcode, tag, item⟩ := g
    cases alarm <;> exact ⟨rfl, Nat.le_refl 1⟩

/-- What is owed, and allowed by the phase, gives the ledgers their shape. -/
theorem bookkept_of_owes (owes : s.Owes owed) (allows : s.phase.Allows owed) : s.Bookkept := by
  unfold Bookkept
  cases phase : s.phase with
  | awaitScanStart | scanning =>
    rw [phase] at allows
    obtain rfl : owed = none := allows
    exact owes.ledgers_of_none
  | awaitAlarm =>
    rw [phase] at allows
    obtain ⟨g, rfl, rfl, rfl, rfl⟩ := allows
    exact ⟨⟨g.tag, owes.retries_self⟩, fun other => owes.retries_other, g.report, owes.pending⟩
  | idle | awaitScanEnd | awaitWrite => exact owes.barcodes

/-! ### Answers -/

/-- The answer to an alarm command settles what is owed if it is a confirmation, and otherwise
leaves it; and whatever becomes of a deferred end, it changes none of this. -/
theorem Owes.answered (owes : s.Owes (some g)) (running : s.terminated = false)
    (phase : s.phase = .awaitAlarm g.alarm g.mode g.barcode) (busy : s.inFlight.isSome = true)
    (around : Surroundings) (r : Reader.Response) :
    (s.step around (.event (.response r))).station.Owes (if r.ok then none else some g) := by
  have settled : (s.settle g.mode g.barcode r.ok).Owes (if r.ok then none else some g) := by
    cases r.ok with
    | true => exact owes.settle_ok g.mode
    | false => exact owes.settle_failed g.mode g.barcode
  have course : s.Course around (.event (.response r)) _ _ := course_step running _
  obtain ⟨fs, -, ⟨-, same, -⟩ | ⟨-, h⟩⟩ := course.answered phase busy
  · rwa [same]
  · exact h.owes ⟨settled.pending, settled.retries⟩

/-! ### Messages that ask for another try -/

/-- To remember a tag that is noted already changes nothing. -/
theorem remember_eq_self (kept : s.retries alarm = .single barcode tag) :
    s.remember alarm barcode tag = s := by
  cases alarm with
  | on =>
    have : s.retryOn.insert barcode tag = s.retryOn := by
      rw [show s.retryOn = _ from kept, Ledger.insert_single]
    rw [remember, this]
  | off =>
    have : s.retryOff.insert barcode tag = s.retryOff := by
      rw [show s.retryOff = _ from kept, Ledger.insert_single]
    rw [remember, this]

/-- With one tag noted and nothing in flight, just the messages that name its barcode find it. -/
theorem retryable?_of_single (phase : s.phase = .awaitAlarm alarm mode barcode)
    (free : s.inFlight = none) (kept : s.retries alarm = .single barcode tag) {named : String}
    (hnamed : m.barcode? = some named) :
    s.retryable? alarm m = if named = barcode then some (mode, barcode, tag) else none := by
  have scans : s.phase.scanMode? = some mode := by rw [phase]; rfl
  by_cases same : named = barcode
  · rw [if_pos same, retryable?_eq_some_iff, kept]
    exact ⟨scans, free, same ▸ hnamed, Ledger.get?_single⟩
  · rw [if_neg same]
    refine Option.eq_none_iff_forall_ne_some.mpr fun x hx => ?_
    obtain ⟨mode', barcode', tag'⟩ := x
    obtain ⟨-, -, hnamed', found⟩ := retryable?_eq_some_iff.mp hx
    rw [hnamed, Option.some.injEq] at hnamed'
    rw [kept, ← hnamed', Ledger.get?_single_of_ne (Ne.symm same)] at found
    cases found

/-- Where another try is taken up, the station is in the alarm wait of the toggle that is owed. -/
theorem phase_of_retryable? (owes : s.Owes owed) (allows : s.phase.Allows owed)
    (found : s.retryable? alarm m = some (mode, barcode, tag)) :
    s.phase = .awaitAlarm alarm mode barcode := by
  obtain ⟨scans, -⟩ := retryable?_eq_some_iff.mp found
  obtain ⟨g, rfl, rfl, rfl, rfl, rfl⟩ := owes.of_retryable? allows found
  cases phase : s.phase with
  | awaitAlarm =>
    rw [phase] at allows
    obtain ⟨g', same, rfl, rfl, rfl⟩ := allows
    cases same
    rfl
  | scanning =>
    -- Nothing is owed while the reader scans.
    rw [phase] at allows
    cases allows
  | idle | awaitScanStart | awaitScanEnd | awaitWrite =>
    rw [phase] at scans
    cases scans

theorem Orders.commands_ne_nil {c : Reader.Command} {next : Phase} {s' : Station}
    {es : List Effect} (h : Orders around s c next s' es) :
    Effect.commands es ≠ [] ↔ around.refusal = none := by
  cases h with
  | taken willing => exact iff_of_true (List.cons_ne_nil _ _) willing
  | refused f unwilling => exact iff_of_false (· rfl) (by simp [unwilling])

theorem Orders.effects_ne_nil {c : Reader.Command} {next : Phase} {s' : Station}
    {es : List Effect} (h : Orders around s c next s' es) : es ≠ [] := by
  cases h <;> exact List.cons_ne_nil _ _

/-- A message that names the barcode of the alarm wait repeats the command for the tag noted. -/
theorem orders_of_named (running : s.terminated = false)
    (phase : s.phase = .awaitAlarm alarm mode barcode) (free : s.inFlight = none)
    (kept : s.retries alarm = .single barcode tag) (asked : m.action = alarm.retryAction)
    (named : m.barcode? = some barcode) :
    s.Orders around (alarm.command tag) s.phase (s.step around (.message m)).station
      (s.step around (.message m)).effects := by
  have course : s.Course around (.message m) _ _ := course_step running _
  have here := retryable?_of_single phase free kept named
  rw [if_pos rfl] at here
  obtain ⟨found, -⟩ | ⟨_, _, _, found, h⟩ := course.askedAgain asked
  · rw [here] at found
    cases found
  · -- What the message finds is noted already, so the command is given as the station stands.
    rw [here] at found
    cases found
    rwa [remember_eq_self kept, ← phase] at h

/-- A message that names any other barcode is passed over. -/
theorem step_of_misnamed (running : s.terminated = false)
    (phase : s.phase = .awaitAlarm alarm mode barcode) (free : s.inFlight = none)
    (kept : s.retries alarm = .single barcode tag) (asked : m.action = alarm.retryAction)
    {named : String} (hnamed : m.barcode? = some named) (other : named ≠ barcode) :
    s.step around (.message m) = { station := s } := by
  have course : s.Course around (.message m) _ _ := course_step running _
  have missing := retryable?_of_single phase free kept hnamed
  rw [if_neg other] at missing
  obtain ⟨-, same, silent⟩ | ⟨_, _, _, found, -⟩ := course.askedAgain asked
  · exact congrArg₂ Turn.mk same silent
  · rw [missing] at found
    cases found

/-- A message that asks for another try is taken up just where it names the barcode and the setting
of an alarm wait with nothing in flight. -/
theorem taken_up_iff (owes : s.Owes owed) (allows : s.phase.Allows owed)
    (running : s.terminated = false) (asked : m.action = alarm.retryAction) :
    Effect.commands (s.step around (.message m)).effects ≠ [] ↔
      around.refusal = none ∧ s.inFlight = none ∧ ∃ mode barcode,
        s.phase = .awaitAlarm alarm mode barcode ∧ m.barcode? = some barcode := by
  constructor
  · intro sends
    have course : s.Course around (.message m) _ _ := course_step running _
    obtain ⟨-, -, silent⟩ | ⟨mode, barcode, tag, found, h⟩ := course.askedAgain asked
    · rw [silent] at sends
      exact absurd rfl sends
    · obtain ⟨-, free, named, -⟩ := retryable?_eq_some_iff.mp found
      exact ⟨h.commands_ne_nil.mp sends, free, mode, barcode,
        phase_of_retryable? owes allows found, named⟩
  · rintro ⟨willing, free, mode, barcode, phase, named⟩
    -- The ledgers have the entry that the phase promises, so the barcode is found.
    obtain ⟨tag, kept⟩ := owes.retries_of_phase allows phase
    exact (orders_of_named running phase free kept asked named).commands_ne_nil.mpr willing

/-! ### Runs -/

/-- In an alarm wait, one tag is noted for its setting, and the command sent last is for it. -/
theorem getLast?_commands_run {ip : String} {policy : FailurePolicy}
    {inputs : List (Surroundings × Input)}
    (running : ((fresh ip policy).run inputs).station.terminated = false)
    (phase : ((fresh ip policy).run inputs).station.phase = .awaitAlarm alarm mode barcode) :
    ∃ tag, ((fresh ip policy).run inputs).station.retries alarm = .single barcode tag ∧
      (Effect.commands ((fresh ip policy).run inputs).effects).getLast? =
        some (alarm.command tag) := by
  obtain ⟨owed, owes, allows⟩ := owes_run ip policy inputs running
  obtain ⟨tag, kept⟩ := owes.retries_of_phase allows phase
  -- The tag that the last command was for is noted too, and only one is.
  obtain ⟨tag', kept', last⟩ := (recalls_run running phase).sent
  obtain rfl : tag = tag' := by
    rwa [kept, Ledger.get?_single, Option.some.injEq] at kept'
  exact ⟨tag, kept, commands_run _ inputs ▸ last⟩

/-- The shape of the ledgers after every run that leaves the station running, how the answer to an
alarm command changes it, and which messages that ask for another try are taken up: those, and only
those, that name the barcode and the setting of the current alarm wait while nothing is in flight;
and then the command sent last is repeated. -/
theorem retries_match_alarm_wait (ip : String) (policy : FailurePolicy)
    (inputs : List (Surroundings × Input))
    (running : ((fresh ip policy).run inputs).station.terminated = false) :
    let t := (fresh ip policy).run inputs
    let s := t.station
    let last := (Effect.commands t.effects).getLast?
    s.Bookkept ∧
      (∀ alarm mode barcode, s.phase = .awaitAlarm alarm mode barcode → s.inFlight.isSome = true →
        ∃ tag, last = some (alarm.command tag) ∧ ∀ around r,
          let s' := (s.step around (.event (.response r))).station
          if r.ok then s'.retryOn.get? barcode = none ∧ s'.retryOff.get? barcode = none
          else (s'.retries alarm).get? barcode = some tag) ∧
      ∀ around alarm m, m.action = alarm.retryAction →
        let sent := Effect.commands (s.step around (.message m)).effects
        (sent ≠ [] ↔ around.refusal = none ∧ s.inFlight = none ∧ ∃ mode barcode,
          s.phase = .awaitAlarm alarm mode barcode ∧ m.barcode? = some barcode) ∧
        (sent ≠ [] → sent = last.toList) := by
  intro t s last
  obtain ⟨owed, owes, allows⟩ := owes_run ip policy inputs running
  refine ⟨bookkept_of_owes owes allows, ?answers, ?tries⟩
  case answers =>
    intro alarm mode barcode phase busy
    obtain ⟨tag, kept, sent⟩ := getLast?_commands_run running phase
    refine ⟨tag, sent, fun around r => ?_⟩
    intro s'
    rw [show s.phase = _ from phase] at allows
    obtain ⟨g, rfl, rfl, rfl, rfl⟩ := allows
    have answered : s'.Owes _ := owes.answered running phase busy around r
    cases ok : r.ok with
    | true =>
      rw [ok, if_pos rfl] at answered
      obtain ⟨-, on, off⟩ := answered.ledgers_of_none
      rw [if_pos rfl, on, off]
      exact ⟨Ledger.get?_empty, Ledger.get?_empty⟩
    | false =>
      rw [ok, if_neg Bool.false_ne_true] at answered
      -- What is owed is the same as before the answer, and so is the tag noted for it.
      have same : s'.retries g.alarm = s.retries g.alarm :=
        answered.retries_self.trans owes.retries_self.symm
      rw [if_neg Bool.false_ne_true, same, kept, Ledger.get?_single]
  case tries =>
    intro around alarm m asked sent
    have up : sent ≠ [] ↔ _ := taken_up_iff owes allows running asked
    refine ⟨up, fun sends => ?_⟩
    obtain ⟨-, free, mode, barcode, phase, named⟩ := up.mp sends
    obtain ⟨tag, kept, repeated⟩ := getLast?_commands_run running phase
    have orders : s.Orders around _ _ _ _ :=
      orders_of_named running phase free kept asked named
    rw [show last = _ from repeated]
    exact orders.commands.elim (fun silent => absurd silent sends) And.left

/-- In the sample run the failed alarm may be tried again, and then its command is repeated. -/
theorem retries_match_alarm_wait_retriedCheckin :
    let t := (fresh "" .carryOn).run (retriedCheckin.take 4)
    let again := t.station.step { backend := .obliging }
      (.message { action := .retryAlarmOn, item := some { barcode := "A1" } })
    t.station.terminated = false ∧ t.station.Bookkept ∧
      Effect.commands again.effects = [.alarmOn (some "T1")] := by
  intro t again
  have running : t.station.terminated = false := by decide
  obtain ⟨shape, -, tries⟩ := retries_match_alarm_wait "" .carryOn _ running
  obtain ⟨up, same⟩ := tries { backend := .obliging } .on
    { action := .retryAlarmOn, item := some { barcode := "A1" } } rfl
  have sends := up.mpr ⟨rfl, by decide, .checkin, "A1", by decide, rfl⟩
  have last : (Effect.commands t.effects).getLast? = some (.alarmOn (some "T1")) := by decide
  rw [last] at same
  exact ⟨running, shape, same sends⟩

end Station

end SelfCheck
