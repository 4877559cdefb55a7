import SelfCheck.Proofs.Station.Owed

/-!
# Waiting for an alarm

A station that waits for the alarm of a barcode has sent the command for it and nothing since, and
once nothing is in flight it has told the screen that the reader failed and nothing of the kind
since. Messages that are passed over, look-ups and a deferred end come in between and change neither.
So what another try will need, the command on the one side and the report on the other, is the last
of its kind in the history.

## Main definitions

* `failures` — the messages that report a toggle as failed
* `Station.Lingers` — how a turn leaves a station in an alarm wait
* `Station.Recalls` — what a station in an alarm wait has done last

## Main results

* `Station.Course.lingers` — every turn that leaves the station in an alarm wait is of these kinds
* `Station.recalls_run` — in an alarm wait, the last command and the last failure are those of it
-/

namespace SelfCheck

/-- The messages that report a toggle as failed. -/
def failures (ms : List Message) : List Message :=
  ms.filter fun m => m.concernsItem && m.rfidError

@[simp] theorem failures_append {ms ns : List Message} :
    failures (ms ++ ns) = failures ms ++ failures ns := List.filter_append ..

namespace Station

variable {around : Surroundings} {s s' : Station} {i : Input} {es : List Effect}
  {alarm : Alarm} {mode : Mode} {barcode : String} {tag : Option String}

/-! ### What is remembered and told of a toggle -/

theorem retries_remember :
    (s.remember alarm barcode tag).retries alarm = (s.retries alarm).insert barcode tag := by
  cases alarm <;> rfl

/-- A failed toggle is reported by one message, which is a report of failure. -/
theorem failures_outcome :
    failures (s.outcome alarm mode barcode false) = s.outcome alarm mode barcode false := by
  refine List.filter_eq_self.mpr fun m hm => ?_
  obtain rfl := List.mem_singleton.mp hm
  cases mode <;> rfl

theorem failures_lookUp {m : Message} : failures (Effect.told (lookUp around m)) = [] := by
  refine List.filter_eq_nil_iff.mpr fun reply hreply => ?_
  have action := action_of_told_lookUp hreply
  simp [Message.concernsItem, action]

/-! ### One turn -/

variable (s s' es alarm mode barcode) in
/-- How a turn leaves the station waiting for the alarm of a barcode: it sends the command, it hears
that the reader failed, or the station waits as it did before. -/
inductive Lingers : Prop
  | sends {tag : Option String} (sent : Effect.commands es = [alarm.command tag])
      (kept : (s'.retries alarm).get? barcode = some tag) (busy : s'.inFlight.isSome = true)
  | fails (waited : s.phase = .awaitAlarm alarm mode barcode)
      (same : s' = { s with inFlight := none }) (quiet : Effect.commands es = [])
      (told : Effect.told es = s.outcome alarm mode barcode false)
  | waits (waited : s.phase = .awaitAlarm alarm mode barcode) (pending : s'.pending = s.pending)
      (retries : s'.retries = s.retries) (inFlight : s'.inFlight = s.inFlight)
      (quiet : Effect.commands es = []) (told : failures (Effect.told es) = [])

/-- A command that sets an alarm is in flight from then on, and its tag is remembered. -/
theorem Orders.lingers {t : Station} {more : List Effect}
    (h : Orders around (t.remember alarm barcode tag) (alarm.command tag)
      (.awaitAlarm alarm mode barcode) s' es) (running : s'.terminated = false)
    (quiet : Effect.commands more = []) : Lingers s s' (more ++ es) alarm mode barcode := by
  have kept : ((t.remember alarm barcode tag).retries alarm).get? barcode = some tag := by
    rw [retries_remember, Ledger.get?_insert_self]
  cases h with
  | taken =>
    refine .sends ?_ (by simpa only [Station.retries] using kept) rfl
    rw [Effect.commands_append, quiet]
    rfl
  | refused => cases running

/-- Every turn that leaves the station in an alarm wait sends the command, hears that the reader
failed, or lets it wait. -/
theorem Course.lingers (h : Course around s i s' es) (running : s'.terminated = false)
    (phase : s'.phase = .awaitAlarm alarm mode barcode) : Lingers s s' es alarm mode barcode := by
  cases h with
  | passed => exact .waits phase rfl rfl rfl rfl rfl
  | deferred => exact .waits phase rfl rfl rfl rfl rfl
  | lookedUp => exact .waits phase rfl rfl rfl commands_lookUp failures_lookUp
  | retried _ _ h =>
    obtain ⟨phase', -⟩ := h.granted running
    cases phase'.symm.trans phase
    -- Unlike a scan, another try does nothing before its command.
    have sent : Lingers s s' ([] ++ _) _ _ _ := h.lingers running rfl
    exact sent
  | toggled _ _ _ h =>
    obtain ⟨phase', -⟩ := h.granted running
    cases phase'.symm.trans phase
    exact h.lingers running commands_inquiry
  | @settled r _ _ _ own =>
    cases ok : r.ok with
    | true =>
      -- A confirmed toggle leads back to scanning.
      rw [ok] at phase
      cases phase
    | false =>
      rw [ok] at phase
      have waited : s.phase = .awaitAlarm alarm mode barcode := phase
      cases own.symm.trans waited
      exact .fails waited rfl (Effect.commands_map_tell _) (Effect.told_map_tell _)
  | opened _ _ _ h | ended _ _ _ h | writing _ _ _ _ h | aborted _ _ _ h | settledLast _ _ _ h =>
    obtain ⟨phase', -⟩ := h.granted running
    cases phase'.symm.trans phase
  | started | closed | wrote => cases phase
  | writeUnnamed _ own | blank own | unreported own | stray own => cases own.symm.trans phase
  | lost | notStarted | gaveUp => cases running

/-! ### Runs -/

variable (s alarm mode barcode) in
/-- What a station in an alarm wait has done last: of commands, the one that it waits for, with the
tag that it remembers; and with nothing in flight, of reports on failed toggles, the one on this. -/
structure Recalls (h : List Episode) : Prop where
  sent : ∃ tag, (s.retries alarm).get? barcode = some tag ∧
    (h.flatMap (·.commands)).getLast? = some (alarm.command tag)
  failed : s.inFlight = none →
    (failures (h.flatMap (·.told))).getLast? = (s.outcome alarm mode barcode false).head?

/-- An episode that leaves the station in an alarm wait adds to what it recalls, or nothing. -/
theorem Recalls.concat {h : List Episode} {e : Episode}
    (old : e.before.phase = .awaitAlarm alarm mode barcode →
      Recalls e.before alarm mode barcode h)
    (lingers : Lingers e.before e.after e.turn.effects alarm mode barcode) :
    Recalls e.after alarm mode barcode (h ++ [e]) := by
  have commands : (h ++ [e]).flatMap (·.commands) = h.flatMap (·.commands) ++ e.commands := by
    rw [List.flatMap_append, List.flatMap_singleton]
  have told : (h ++ [e]).flatMap (·.told) = h.flatMap (·.told) ++ e.told := by
    rw [List.flatMap_append, List.flatMap_singleton]
  cases lingers with
  | @sends tag sent kept busy =>
    refine ⟨⟨tag, kept, ?_⟩, fun free => ?_⟩
    · rw [commands, show e.commands = _ from sent, List.getLast?_concat]
    · -- Until the command is answered, nothing is claimed of the reports.
      rw [free] at busy
      cases busy
  | fails waited same quiet said =>
    -- The command stays the last one, and its failure is now the last report.
    obtain ⟨tag, kept, last⟩ := (old waited).sent
    rw [same]
    refine ⟨⟨tag, kept, ?_⟩, fun _ => ?_⟩
    · rw [commands, show e.commands = _ from quiet, List.append_nil, last]
    · rw [told, show e.told = _ from said, failures_append, failures_outcome]
      exact List.getLast?_concat
  | waits waited pending retries inFlight quiet silent =>
    obtain ⟨⟨tag, kept, last⟩, failed⟩ := old waited
    refine ⟨⟨tag, by rwa [retries], ?_⟩, fun free => ?_⟩
    · rw [commands, show e.commands = _ from quiet, List.append_nil, last]
    · rw [told, failures_append, show failures e.told = _ from silent, List.append_nil,
        failed (inFlight ▸ free), outcome, outcome, pending]

/-- In an alarm wait, the last command that the reader took is the one that is waited for, and with
nothing in flight the last failure told of a toggle is the one of this toggle. -/
theorem recalls_run {ip : String} {policy : FailurePolicy} {inputs : List (Surroundings × Input)}
    (running : ((fresh ip policy).run inputs).station.terminated = false)
    (phase : ((fresh ip policy).run inputs).station.phase = .awaitAlarm alarm mode barcode) :
    Recalls ((fresh ip policy).run inputs).station alarm mode barcode
      ((fresh ip policy).history inputs) := by
  refine history_induction (P := fun h s => s.terminated = false → ∀ alarm mode barcode,
    s.phase = .awaitAlarm alarm mode barcode → Recalls s alarm mode barcode h) ?_ ?_ inputs running
    alarm mode barcode phase
  · intro _ alarm mode barcode phase
    cases phase
  · intro h e old running alarm mode barcode phase
    have before := Episode.running_of_after running
    exact .concat (old before alarm mode barcode)
      ((Episode.course before).lingers running phase)

end Station

end SelfCheck
