import SelfCheck.Proofs.Station.Fatal
import SelfCheck.Proofs.Station.RecordedItem
import SelfCheck.Proofs.Station.Retry

/-!
# What the answer to a command is reported as

A response does not say what it answers, and between a command and its answer the screen may send
anything. What the station makes of the answer rests on notes that it took earlier: on its phase, and
for an alarm on the report that it holds back for the barcode. Here the answer is tied to the command
itself, the last one that was sent, and to what that command was sent for: the message that opened
the batch or asked for a tag to be written, or the scan that recorded the item.

## Main definitions

* `Episode.Sends` — the command of an episode, what it was sent for, and the phase that waits for
  its answer
* `Outstanding` — the last command of a history, sent in one of its episodes, is not yet answered
* `Report` — what the screen is told of the answer to a command

## Main results

* `Station.outstanding_run` — a command in flight was sent last, and its phase still waits for it
* `Station.answers_reported` — every answer is reported as that to the command it answers
-/

namespace SelfCheck

/-- A command that was given and sent is the one sent, and the station waits for its answer. -/
theorem Station.Orders.sent {around : Surroundings} {s s' : Station} {es : List Effect}
    {c d : Reader.Command} {next : Phase} (h : s.Orders around d next s' es)
    (running : s'.terminated = false) (sent : Effect.commands es = [c]) :
    d = c ∧ s'.phase = next := by
  obtain ⟨phase, -, own, -⟩ := h.granted running
  rw [own] at sent
  exact ⟨List.singleton_inj.mp sent, phase⟩

namespace Episode

variable {e : Episode} {c : Reader.Command}

/-- The command of an episode, what it was sent for, and the phase that waits for its answer. -/
inductive Sends (e : Episode) : Reader.Command → Phase → Prop
  | beginScan {m : Message} {mode : Mode} (heard : e.input = .message m)
      (asked : m.action = mode.action) : Sends e .beginScan (.awaitScanStart mode)
  | alarm (alarm : Alarm) (mode : Mode) (barcode : String) (tag : Option String) :
      Sends e (alarm.command tag) (.awaitAlarm alarm mode barcode)
  | endScan : Sends e .endScan .awaitScanEnd
  | write {m : Message} {barcode : String} (heard : e.input = .message m)
      (asked : m.action = .write) (named : m.namedBarcode? = some barcode) :
      Sends e (.write (Barcode.toTag barcode)) (.awaitWrite barcode)

/-- An episode that sends a command leaves the station in the phase that waits for its answer. -/
theorem sends (sent : e.commands = [c]) : e.Sends c e.after.phase := by
  obtain ⟨-, running⟩ := busy_of_commands_ne_nil (e := e) (by simp [sent])
  have course := course (running_of_after running)
  generalize heard : e.input = i, ha : e.after = s', he : e.turn.effects = es at course
  rw [ha] at running
  rw [commands, he] at sent
  cases course with
  | opened asked _ _ h =>
    obtain ⟨rfl, phase⟩ := h.sent running (by simpa using sent)
    exact phase ▸ .beginScan heard asked
  | ended _ _ _ h | aborted _ _ _ h | settledLast _ _ _ h =>
    obtain ⟨rfl, phase⟩ := h.sent running (by simpa using sent)
    exact phase ▸ .endScan
  | @retried _ alarm mode barcode tag _ _ _ _ h =>
    obtain ⟨rfl, phase⟩ := h.sent running sent
    exact phase ▸ .alarm alarm mode barcode tag
  | @toggled r mode alarm _ _ _ _ _ _ h =>
    obtain ⟨rfl, phase⟩ := h.sent running (by simpa using sent)
    exact phase ▸ .alarm alarm mode r.scanned r.tag
  | writing asked _ _ named h =>
    obtain ⟨rfl, phase⟩ := h.sent running sent
    exact phase ▸ .write heard asked named
  | lost | notStarted | gaveUp => cases running
  | _ => simp at sent

end Episode

/-- The last command of a history is not yet answered: this episode sent it, and nothing was sent or
answered since. -/
def Outstanding (h past : List Episode) (sender : Episode) (c : Reader.Command) : Prop :=
  ∃ between, h = past ++ sender :: between ∧ sender.commands = [c] ∧
    ∀ d ∈ between, d.commands = [] ∧ ¬ d.Answers

theorem Outstanding.getLast? {h past : List Episode} {sender : Episode}
    {c : Reader.Command} (outstanding : Outstanding h past sender c) :
    (h.flatMap (·.commands)).getLast? = some c := by
  obtain ⟨between, rfl, sent, silent⟩ := outstanding
  have quiet : between.flatMap (·.commands) = [] :=
    List.flatMap_eq_nil_iff.mpr fun d hd => (silent d hd).1
  rw [List.flatMap_append, List.flatMap_cons, sent, quiet, List.append_nil]
  exact List.getLast?_concat

/-- What the screen is told of the answer to a command, which the episode `sender` sent in the
history `h`. Only a failure to begin to scan is told; every other answer is reported, with the
reader's failure if there is one. The report on an alarm is about the item that was recorded when
the barcode was scanned, under the action of the message that opened the batch; that on a tag is
about the barcode that the screen asked to be written. -/
inductive Report (h : List Episode) (sender : Episode) (ok : Bool) :
    Reader.Command → List Message → Prop
  | begun : Report h sender ok .beginScan
      (if ok then []
        else [.readerFailure .connect "RFID reader failed to start scanning"])
  | set {alarm : Alarm} {past later : List Episode} {scan : Episode} {mode : Mode} {m : Message}
      {r : Reader.Response} {item : Item} (split : h = past ++ scan :: later)
      (last : ∀ d ∈ later, d.scan? = none ∧ d.opens = false) (opened : OpenedBy h mode m)
      (scanned : scan.scan? = some (mode, r))
      (recorded : scan.records? (lastItem past) = some item) :
      Report h sender ok (alarm.command r.tag)
        [(if ok then Message.plain mode.action
          else .readerFailure mode.action alarm.failure).about item]
  | ended : Report h sender ok .endScan
      [if ok then .plain .finish
        else .readerFailure .finish "RFID reader failed to end scanning"]
  | written {m : Message} {barcode : String} (heard : sender.input = .message m)
      (asked : m.action = .write) (named : m.namedBarcode? = some barcode) :
      Report h sender ok (.write (Barcode.toTag barcode))
        [(if ok then Message.plain .write
          else .readerFailure .write "RFID reader failed to write tag").about (.bare barcode)]

namespace Station

variable {around : Surroundings} {s s' : Station} {i : Input} {es : List Effect}
  {c : Reader.Command} {next : Phase}

/-! ### The command in flight -/

/-- While a command is in flight, only a response moves the station to another phase. -/
theorem Course.phase_of_busy (h : Course around s i s' es) (busy : s.inFlight.isSome = true)
    (other : ∀ r, i ≠ .event (.response r)) : s'.phase = s.phase := by
  cases h with
  | opened _ _ free | ended _ _ free | writing _ _ free => simp [free] at busy
  | retried _ found => simp [(retryable?_eq_some_iff.mp found).2.1] at busy
  | passed | deferred | lookedUp | writeUnnamed | lost => rfl
  | _ => exact absurd rfl (other _)

/-- A command in flight is the last one that was sent and is not yet answered, and its phase still
waits for it. -/
theorem outstanding_run (ip : String) (policy : FailurePolicy)
    (inputs : List (Surroundings × Input))
    (running : ((fresh ip policy).run inputs).station.terminated = false)
    (busy : ((fresh ip policy).run inputs).station.inFlight.isSome = true) :
    ∃ past sender c, Outstanding ((fresh ip policy).history inputs) past sender c ∧
      sender.Sends c ((fresh ip policy).run inputs).station.phase := by
  refine history_induction (P := fun h s => s.terminated = false → s.inFlight.isSome = true →
    ∃ past sender c, Outstanding h past sender c ∧ sender.Sends c s.phase) ?_ ?_ inputs running busy
  · intro _ busy
    cases busy
  · intro h e old running busy
    by_cases quiet : e.commands = []
    · -- What is in flight was in flight before, and no response has taken it out of flight.
      have before := Episode.running_of_after running
      have course := Episode.course before
      have waiting : ¬ (e.before.inFlight = none ∨ ∃ r, e.input = .event (.response r)) := by
        intro heard
        rw [course.free_of_quiet running quiet heard] at busy
        cases busy
      rw [not_or, not_exists] at waiting
      obtain ⟨busy', other⟩ := waiting
      have busy' := Option.isSome_iff_ne_none.mpr busy'
      obtain ⟨past, sender, c, ⟨between, rfl, sent, silent⟩, sends⟩ := old before busy'
      refine ⟨past, sender, c, ⟨between ++ [e], by simp, sent, ?_⟩, ?_⟩
      · intro d hd
        rcases List.mem_append.mp hd with hd | hd
        · exact silent d hd
        · obtain rfl := List.mem_singleton.mp hd
          exact ⟨quiet, fun ⟨_, _, r, heard⟩ => other r heard⟩
      · rwa [course.phase_of_busy busy' other]
    · have one := e.commands_length_le
      obtain ⟨c, sent⟩ := List.length_eq_one_iff.mp
        (Nat.le_antisymm one (List.length_pos_iff.mpr quiet))
      exact ⟨h, e, c, ⟨[], rfl, sent, List.forall_mem_nil _⟩, Episode.sends sent⟩

/-! ### The report -/

/-- The answer to an alarm command is reported as the outcome of the toggle, and nothing follows but
the refusal of an end that waits for it. -/
theorem Course.told_of_answered {r : Reader.Response} {alarm : Alarm} {mode : Mode}
    {barcode : String} (h : Course around s (.event (.response r)) s' es)
    (phase : s.phase = .awaitAlarm alarm mode barcode) (busy : s.inFlight.isSome = true) :
    Effect.told es = s.outcome alarm mode barcode r.ok ++
      if s.endRequested then
        around.refusal.toList.map fun f => .readerFailure .connect f.message
      else [] := by
  obtain ⟨fs, rfl, ⟨stays, -, rfl⟩ | ⟨ends, h⟩⟩ := h.answered phase busy
  · rw [List.append_nil, Effect.told_map_tell, stays, if_neg Bool.false_ne_true, List.append_nil]
  · rw [Effect.told_append, Effect.told_map_tell, h.told, ends, if_pos rfl]

/-- In an alarm wait, the outcome that the station would tell is the report on the command sent last;
the report that is held back for the barcode is at hand, with its item. -/
theorem report_outcome {ip : String} {policy : FailurePolicy}
    {inputs : List (Surroundings × Input)} {past : List Episode} {sender : Episode} {alarm : Alarm}
    {mode : Mode} {barcode : String}
    (running : ((fresh ip policy).run inputs).station.terminated = false)
    (phase : ((fresh ip policy).run inputs).station.phase = .awaitAlarm alarm mode barcode)
    (outstanding : Outstanding ((fresh ip policy).history inputs) past sender c) (ok : Bool) :
    let s := ((fresh ip policy).run inputs).station
    Report ((fresh ip policy).history inputs) sender ok c (s.outcome alarm mode barcode ok) ∧
      ∃ held, s.pending.get? barcode = some held ∧ held.item.isSome = true := by
  intro s
  obtain ⟨owed, owes, allows, -, stems⟩ := stems_run ip policy inputs running
  obtain ⟨owed', -, -, traced⟩ := traced_run ip policy inputs running
  obtain ⟨m, opened, -⟩ := traced.opened mode (by rw [phase]; rfl)
  obtain ⟨tag, kept, last⟩ := getLast?_commands_run running phase
  rw [phase] at allows
  obtain ⟨g, rfl, rfl, rfl, rfl⟩ := allows
  obtain ⟨past', scan, later, r, split, quiet, scanned, named, tagged, recorded⟩ := stems g rfl
  -- The command sent last is for the tag that is noted, and that is the tag of the scan.
  have sent : c = g.alarm.command r.tag := by
    have noted : tag = g.tag := by
      have same := congrArg (·.get? g.barcode) (kept.symm.trans owes.retries_self)
      simpa using same
    rw [commands_run, outstanding.getLast?, noted, tagged] at last
    exact Option.some.inj last
  have outcome : s.outcome g.alarm g.mode g.barcode ok =
      [(if ok then Message.plain g.mode.action
        else .readerFailure g.mode.action g.alarm.failure).about g.item] := by
    rw [owes.outcome]
    cases ok <;> rfl
  refine ⟨?_, g.report, ?_, rfl⟩
  · rw [outcome, sent]
    exact .set split quiet opened scanned recorded
  · rw [owes.pending, Option.elim_some, Ledger.get?_single]

/-- Every answer is reported as that to the command it answers, which is the last one that was sent,
and nothing else is told, unless an end waits for the answer and the reader refuses it. In an alarm
wait the item of the report is always at hand. -/
theorem answers_reported {ip : String} {policy : FailurePolicy}
    {inputs : List (Surroundings × Input)} {before after : List Episode} {e : Episode}
    {r : Reader.Response} (split : (fresh ip policy).history inputs = before ++ e :: after)
    (running : e.before.terminated = false) (busy : e.before.inFlight.isSome = true)
    (heard : e.input = .event (.response r)) :
    (∃ past sender c report, Outstanding before past sender c ∧ Report before sender r.ok c report ∧
      e.told = report ++
        if e.before.endRequested then
          e.around.refusal.toList.map fun f => .readerFailure .connect f.message
        else []) ∧
      ∀ alarm mode barcode, e.before.phase = .awaitAlarm alarm mode barcode →
        ∃ held, e.before.pending.get? barcode = some held ∧ held.item.isSome = true := by
  obtain ⟨xs, -, rfl, same, -⟩ := exists_history_split split
  have running' : ((fresh ip policy).run xs).station.terminated = false := same ▸ running
  have inStep : e.before.InStep := same ▸ inStep_run ip policy xs
  obtain ⟨past, sender, c, outstanding, sends⟩ :=
    outstanding_run ip policy xs running' (same ▸ busy)
  rw [same] at sends
  have course := Episode.course running
  rw [heard] at course
  constructor
  · -- The phase still is the one that the command left the station in, and says which answer is due.
    cases phase : e.before.phase with
    | idle | scanning =>
      -- Nothing is in flight in these phases.
      have awaits := inStep.awaits
      rw [phase] at awaits
      rw [show e.before.inFlight = none from awaits] at busy
      cases busy
    | awaitScanStart mode =>
      rw [phase] at sends
      cases sends
      have told := course.scanStarted phase busy
      refine ⟨past, sender, _, _, outstanding, .begun, ?_⟩
      rw [inStep.quiet (by simp [phase]), if_neg Bool.false_ne_true, List.append_nil, Episode.told]
      split at told
      · next began =>
        rw [told.2, if_pos began]
        rfl
      · next failed =>
        rw [told.2, if_neg failed]
        rfl
    | awaitAlarm alarm mode barcode =>
      obtain ⟨report, -⟩ := report_outcome running' (same ▸ phase) outstanding r.ok
      rw [same] at report
      exact ⟨past, sender, c, _, outstanding, report, course.told_of_answered phase busy⟩
    | awaitScanEnd =>
      rw [phase] at sends
      cases sends
      refine ⟨past, sender, _, _, outstanding, .ended, ?_⟩
      rw [inStep.quiet (by simp [phase]), if_neg Bool.false_ne_true, List.append_nil, Episode.told,
        (course.scanEnded phase busy).2]
      rfl
    | awaitWrite barcode =>
      rw [phase] at sends
      cases sends with
      | write own asked named =>
        refine ⟨past, sender, _, _, outstanding, .written own asked named, ?_⟩
        rw [inStep.quiet (by simp [phase]), if_neg Bool.false_ne_true, List.append_nil,
          Episode.told, (course.tagWritten phase busy).2]
        rfl
  · intro alarm mode barcode phase
    obtain ⟨-, held⟩ := report_outcome running' (same ▸ phase) outstanding r.ok
    rwa [same] at held

/-- The reader fails to turn on the alarm of the item that the sample run scans. -/
theorem answers_reported_retriedCheckin :
    let h := (fresh "" .carryOn).history retriedCheckin
    let before := (fresh "" .carryOn).history (retriedCheckin.take 3)
    ∃ e after, h = before ++ e :: after ∧
      e.told = [(Message.readerFailure .checkin Alarm.on.failure).about (.bare "A1")] ∧
      ∃ past sender c report, Outstanding before past sender c ∧
        Report before sender false c report ∧ e.told = report ++ [] := by
  intro h before
  let e : Episode := ⟨((fresh "" .carryOn).run (retriedCheckin.take 3)).station,
    { backend := .obliging }, .event (.response { ok := false })⟩
  have split : h = before ++ e :: e.after.history (retriedCheckin.drop 4) := rfl
  have running : e.before.terminated = false := by decide
  have busy : e.before.inFlight.isSome = true := by decide
  refine ⟨e, _, split, by decide, ?_⟩
  exact (answers_reported split running busy rfl).1

end Station

end SelfCheck
