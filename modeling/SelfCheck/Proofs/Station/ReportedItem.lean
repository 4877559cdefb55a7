import SelfCheck.Proofs.Station.Retry

/-!
# The item that was reported

When a toggle has failed, the screen is told of the item by the backend's own record of it, and it
asks for another try by sending that item back. The ledgers of the station go by the barcode that
was scanned. Where the backend names an item otherwise than it was asked about it, the report names
nothing that can be tried again; everywhere else it does.

## Main definitions

* `Backend.Echoes` — the backend names items as it was asked about them

## Main results

* `Station.barcode_of_verdict` — a backend that echoes gives recorded items the barcode scanned
* `Station.retried_iff_named_as_scanned` — what was reported can be tried again just where it goes
  by the barcode that was scanned
-/

namespace SelfCheck

/-- The barcode that a call is about. -/
def Call.barcode : Call → String
  | checkin _ barcode => barcode
  | itemStatus barcode => barcode

/-- The backend names items as it was asked about them. -/
def Backend.Echoes (b : Backend) : Prop :=
  ∀ q item, b.answer q = .ok item → item.barcode = q.barcode

theorem Backend.echoes_obliging : Backend.obliging.Echoes := by
  intro q item answered
  cases q <;> cases answered <;> rfl

/-- A backend that knows every item by another barcode than it is asked about. -/
def Backend.renaming : Backend where
  checkin _ barcode := .ok { barcode := "0" ++ barcode, title := "Dune" }
  itemStatus barcode := .ok { barcode := "0" ++ barcode, title := "Dune" }

namespace Station

variable {around : Surroundings} {s : Station} {alarm : Alarm} {mode : Mode} {barcode : String}

/-! ### What is recorded of a scan -/

/-- A backend that echoes gives every item that is recorded the barcode that was scanned. -/
theorem barcode_of_verdict {ok : Bool} {item : Item} (echoes : around.backend.Echoes)
    (decided : s.verdict around mode barcode ok = .toggle alarm item) :
    item.barcode = barcode := by
  have ruling := ruling around s mode barcode ok
  rw [decided] at ruling
  generalize s.inquiry around mode barcode ok = es at ruling
  cases ruling with
  | returned _ _ answer => exact echoes (.checkin s.branch barcode) item answer
  | lent _ _ answer => exact echoes (.itemStatus barcode) item answer
  | @titled found _ _ answer => exact echoes (.itemStatus barcode) found answer
  | released => rfl
  | recalled _ current =>
    -- The item recorded last is taken only where it goes by this barcode.
    obtain ⟨-, named⟩ := Option.filter_eq_some_iff.mp current
    exact of_decide_eq_true named

/-! ### Runs -/

/-- If the backends of a history echo, the item that is owed goes by the barcode scanned. -/
def NamedAsScanned (h : List Episode) (owed : Option Toggle) : Prop :=
  (∀ e ∈ h, e.around.backend.Echoes) → ∀ g, owed = some g → g.item.barcode = g.barcode

/-- Every move leaves what is owed under the barcode scanned. -/
theorem NamedAsScanned.concat {h : List Episode} {e : Episode} {owed owed' : Option Toggle}
    (old : NamedAsScanned h owed) (move : e.Move owed owed') :
    NamedAsScanned (h ++ [e]) owed' := by
  intro echoes
  have before := old fun d hd => echoes d (List.mem_append_left _ hd)
  have here : e.around.backend.Echoes := echoes e (List.mem_append_right _ (.head _))
  cases move with
  | incurred _ decided =>
    rintro _ ⟨⟩
    exact barcode_of_verdict here decided
  | retried | kept => exact before
  | opened | forgone | discharged => exact nofun

/-- With backends that echo, the item that is owed after a run goes by the barcode scanned. -/
theorem named_as_scanned_run (ip : String) (policy : FailurePolicy)
    (inputs : List (Surroundings × Input))
    (running : ((fresh ip policy).run inputs).station.terminated = false) :
    ∃ owed, ((fresh ip policy).run inputs).station.Owes owed ∧
      ((fresh ip policy).run inputs).station.phase.Allows owed ∧
      ((∀ x ∈ inputs, x.1.backend.Echoes) → ∀ g, owed = some g → g.item.barcode = g.barcode) := by
  obtain ⟨owed, owes, allows, named⟩ := owed_induction (P := fun h _ owed => NamedAsScanned h owed)
    (fun _ => nofun) (fun _ _ _ _ old _ move _ => old.concat move) inputs running
  exact ⟨owed, owes, allows, fun echoes => named fun e he => echoes _ (heard_of_mem_history he)⟩

/-- In an alarm wait with nothing in flight, the last failure of a toggle that the screen was told
of names an item, and to ask for another try of that item repeats the command sent last, just where
the item goes by the barcode that was scanned; otherwise nothing happens. It does go by that barcode
if the backends echo. -/
theorem retried_iff_named_as_scanned {ip : String} {policy : FailurePolicy}
    {inputs : List (Surroundings × Input)} {alarm : Alarm} {mode : Mode} {barcode : String}
    (running : ((fresh ip policy).run inputs).station.terminated = false)
    (phase : ((fresh ip policy).run inputs).station.phase = .awaitAlarm alarm mode barcode)
    (free : ((fresh ip policy).run inputs).station.inFlight = none) :
    let t := (fresh ip policy).run inputs
    let s := t.station
    ∃ tag report item, (Effect.commands t.effects).getLast? = some (alarm.command tag) ∧
      (failures (Effect.told t.effects)).getLast? = some report ∧ report.item = some item ∧
      (∀ around m, m.action = alarm.retryAction → m.item = report.item →
        let again := s.step around (.message m)
        (s.Orders around (alarm.command tag) s.phase again.station again.effects ↔
          item.barcode = barcode) ∧
        (item.barcode ≠ barcode → again = { station := s })) ∧
      ((∀ x ∈ inputs, x.1.backend.Echoes) → item.barcode = barcode) := by
  intro t s
  obtain ⟨tag, kept, sent⟩ := getLast?_commands_run running phase
  have failed := (recalls_run running phase).failed free
  obtain ⟨owed, owes, allows, named⟩ := named_as_scanned_run ip policy inputs running
  rw [phase] at allows
  obtain ⟨g, rfl, rfl, rfl, rfl⟩ := allows
  -- The outcome that was told is that of the toggle that is owed.
  rw [← told_run, owes.outcome, if_neg Bool.false_ne_true] at failed
  refine ⟨tag, _, g.item, sent, failed, rfl, fun around m asked same => ?_,
    fun echoes => named echoes g rfl⟩
  intro again
  have hnamed : m.barcode? = some g.item.barcode := by
    rw [Message.barcode?, same]
    rfl
  have passed (other : g.item.barcode ≠ g.barcode) : again = { station := s } :=
    step_of_misnamed running phase free kept asked hnamed other
  refine ⟨⟨fun orders => ?_, fun scanned => ?_⟩, passed⟩
  · by_contra other
    rw [passed other] at orders
    exact orders.effects_ne_nil rfl
  · exact orders_of_named running phase free kept asked (scanned ▸ hnamed)

/-- The backend of the sample run echoes, so the report on the failed alarm may be sent back. -/
theorem retried_iff_named_as_scanned_retriedCheckin :
    let t := (fresh "" .carryOn).run (retriedCheckin.take 4)
    let s := t.station
    s.terminated = false ∧ s.phase = .awaitAlarm .on .checkin "A1" ∧ s.inFlight = none ∧
      ∃ report, (failures (Effect.told t.effects)).getLast? = some report ∧
        ∀ around m, m.action = .retryAlarmOn → m.item = report.item →
          s.Orders around (.alarmOn (some "T1")) s.phase (s.step around (.message m)).station
            (s.step around (.message m)).effects := by
  intro t s
  have running : s.terminated = false := by decide
  have phase : s.phase = .awaitAlarm .on .checkin "A1" := by decide
  have free : s.inFlight = none := by decide
  obtain ⟨tag, report, item, sent, failed, named, tries, echoed⟩ :=
    retried_iff_named_as_scanned running phase free
  refine ⟨running, phase, free, report, failed, fun around m asked same => ?_⟩
  have last : (Effect.commands t.effects).getLast? = some (.alarmOn (some "T1")) := by decide
  obtain ⟨-, rfl⟩ := Alarm.command_inj (Option.some.inj (sent.symm.trans last) :
    Alarm.command .on tag = Alarm.command .on (some "T1"))
  have scanned : item.barcode = "A1" := by
    refine echoed fun x hx => ?_
    obtain ⟨i, -, rfl⟩ := List.mem_map.mp (List.mem_of_mem_take hx)
    exact Backend.echoes_obliging
  exact (tries around m asked same).1.mpr scanned

/-- A checkin at a backend that knows the item by another barcode than was scanned, whose alarm the
reader fails to turn on. -/
def renamedCheckin : List (Surroundings × Input) :=
  (retriedCheckin.take 4).map fun x => ({ backend := .renaming }, x.2)

/-- The screen is told that the alarm of an item failed, and sends the item back to try it again.
Nothing comes of it. -/
theorem not_retried_renamedCheckin :
    let t := (fresh "" .carryOn).run renamedCheckin
    let s := t.station
    let item : Item := { barcode := "0A1", title := "Dune" }
    let again := s.step { backend := .renaming }
      (.message { action := .retryAlarmOn, item := some item })
    s.terminated = false ∧ s.phase = .awaitAlarm .on .checkin "A1" ∧ s.inFlight = none ∧
      (Effect.commands t.effects).getLast? = some (.alarmOn (some "T1")) ∧
      (failures (Effect.told t.effects)).getLast? =
        some ((Message.readerFailure .checkin Alarm.on.failure).about item) ∧
      again.effects = [] ∧ again.station.inFlight = none ∧
      ¬ s.Orders { backend := .renaming } (.alarmOn (some "T1")) s.phase again.station
        again.effects := by
  intro t s item again
  have silent : again.effects = [] := by decide
  exact ⟨by decide, by decide, by decide, by decide, by decide, silent, by decide,
    fun orders => orders.effects_ne_nil silent⟩

end Station

end SelfCheck
