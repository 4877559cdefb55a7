import SelfCheck.Proofs.Station.Owed

/-!
# The exchange with the reader

A station and its reader work at the two ends of a pair of queues. The reader answers the commands
that it takes, in order; between its answer to the command to scan and its taking of the command to
end, it reports scans whenever no command that it took is still to be answered. A response does not
say what it is, and the station takes the next one for the answer to its command. That is right as
long as no scan is on its way while a command is still to be answered. When a scan and a command
cross, the station takes the scan for the answer.

## Main definitions

* `Order`, `Frame` — what goes to the reader, and what comes from it
* `Exchange`, `Exchange.step` — the two ends and the queues between them, and what may happen
* `Exchange.Faithful` — the next frame is the answer to the command that it will be taken for
* `Exchange.Crossing` — a scan is on its way while a command is still to be answered

## Main results

* `Exchange.aligned_step` — queues and station stay aligned until a scan and a command cross
* `Exchange.faithful_iff_no_crossing` — answers are taken for what they are just in the runs in
  which no scan crosses a command
-/

namespace SelfCheck

/-- A command on its way, with its number among all that the station sent. -/
structure Order where
  number : Nat
  command : Reader.Command
deriving DecidableEq, Repr

/-- What the reader sends. -/
inductive Frame where
  /-- The answer to an order. -/
  | answer (o : Order) (ok : Bool)
  /-- A scan. -/
  | scan (r : Reader.Response)
deriving DecidableEq, Repr

namespace Frame

/-- What the station hears of a frame. An answer names neither its order nor a barcode. -/
def response : Frame → Reader.Response
  | answer _ ok => { ok }
  | scan r => r

/-- The frame is a scan. -/
def isScan : Frame → Bool
  | answer _ _ => false
  | scan _ => true

end Frame

/-- A station and its reader, with what is on its way between them. -/
structure Exchange where
  station : Station
  /-- How many commands the station has sent. -/
  issued : Nat := 0
  /-- The orders on their way to the reader. -/
  orders : List Order := []
  /-- The orders that the reader has taken and not yet answered. -/
  taken : List Order := []
  /-- The reader has confirmed that it scans, and has not been told to end. -/
  scanning : Bool := false
  /-- The frames on their way to the station. -/
  frames : List Frame := []

namespace Exchange

/-- What may happen next. -/
inductive Action where
  /-- The station hears a message of its screen. -/
  | hear (around : Surroundings) (m : Message)
  /-- The next frame reaches the station. -/
  | deliver (around : Surroundings)
  /-- The reader takes the next order. -/
  | take
  /-- The reader answers the order that it took first. -/
  | answer (ok : Bool)
  /-- The reader reports a scan. -/
  | scan (r : Reader.Response)

/-- A turn of the station. What it sends is put behind the orders on their way. -/
def react (x : Exchange) (around : Surroundings) (i : Input) : Exchange :=
  let t := x.station.step around i
  let sent := Effect.commands t.effects
  { x with
    station := t.station
    issued := x.issued + sent.length
    orders := x.orders ++ sent.mapIdx fun k c => ⟨x.issued + k + 1, c⟩ }

/-- What happens, if it may. -/
def step (x : Exchange) : Action → Exchange
  | .hear around m => x.react around (.message m)
  | .deliver around =>
    match x.frames with
    | [] => x
    | f :: rest => { x with frames := rest }.react around (.event (.response f.response))
  | .take =>
    match x.orders with
    | [] => x
    | o :: rest =>
      { x with
        orders := rest
        taken := x.taken ++ [o]
        scanning := x.scanning && o.command.kind ≠ .endScan }
  | .answer ok =>
    match x.taken with
    | [] => x
    | o :: rest =>
      { x with
        taken := rest
        frames := x.frames ++ [.answer o ok]
        scanning := x.scanning || (ok && o.command.kind = .beginScan) }
  | .scan r =>
    if x.scanning && x.taken.isEmpty then { x with frames := x.frames ++ [.scan r] } else x

/-- A station that has heard nothing yet, with an idle reader. -/
def start (ip : String) (policy : FailurePolicy) : Exchange := { station := .fresh ip policy }

/-- What comes of a sequence of actions. -/
def run (x : Exchange) (actions : List Action) : Exchange := actions.foldl step x

/-- If the next frame will be taken for the answer to a command, it is the reader's answer to the
command sent last; and if that command sets an alarm, the one message about the item tells of a
failure if and only if the reader did. -/
def Faithful (x : Exchange) : Prop :=
  ∀ f rest, x.frames = f :: rest → x.station.terminated = false →
    x.station.inFlight.isSome = true → ∃ c ok, f = .answer ⟨x.issued, c⟩ ok ∧
      x.station.inFlight = some c.kind ∧
      ∀ around alarm mode barcode, x.station.phase = .awaitAlarm alarm mode barcode →
        ∃ m, (Effect.told (x.station.step around (.event (.response f.response))).effects).filter
          (·.concernsItem) = [m] ∧ m.action = mode.action ∧ m.rfidError = !ok

/-- A scan is on its way to a running station while one of its commands is still to be answered. -/
def Crossing (x : Exchange) : Prop :=
  x.station.terminated = false ∧ x.taken ++ x.orders ≠ [] ∧ ∃ f ∈ x.frames, f.isScan = true

/-- Queues and station are aligned: with no command in flight nothing but scans is on its way, and
a command in flight is still to be answered, or its answer is the next frame. -/
inductive Aligned (x : Exchange) : Prop
  | ended (terminated : x.station.terminated = true)
  | free (free : x.station.inFlight = none) (taken : x.taken = []) (orders : x.orders = [])
      (scans : ∀ f ∈ x.frames, f.isScan = true)
  | waiting {c : Reader.Command} (busy : x.station.inFlight = some c.kind)
      (one : x.taken ++ x.orders = [⟨x.issued, c⟩]) (scans : ∀ f ∈ x.frames, f.isScan = true)
  | answered {c : Reader.Command} {ok : Bool} {rest : List Frame}
      (busy : x.station.inFlight = some c.kind) (taken : x.taken = []) (orders : x.orders = [])
      (next : x.frames = .answer ⟨x.issued, c⟩ ok :: rest)
      (scans : ∀ f ∈ rest, f.isScan = true)

variable {x : Exchange} {around : Surroundings} {i : Input}

/-! ### Turns of the station -/

theorem react_of_terminated (ended : x.station.terminated = true) : x.react around i = x := by
  simp [react, Station.step_of_terminated ended]

theorem aligned_react_of_terminated (ended : x.station.terminated = true) :
    (x.react around i).Aligned := by
  rw [react_of_terminated ended]
  exact .ended ended

/-- A turn that sends nothing changes the station alone. -/
theorem react_of_quiet (quiet : Effect.commands (x.station.step around i).effects = []) :
    x.react around i = { x with station := (x.station.step around i).station } := by
  simp [react, quiet]

/-- With nothing still to be answered, a turn on a response, or on a message that finds no command
in flight, leaves the queues aligned. -/
theorem aligned_react (taken : x.taken = []) (orders : x.orders = [])
    (scans : ∀ f ∈ x.frames, f.isScan = true)
    (heard : x.station.inFlight = none ∨ ∃ r, i = .event (.response r)) :
    (x.react around i).Aligned := by
  cases ended : (x.station.step around i).station.terminated with
  | true => exact .ended ended
  | false =>
    have running := Episode.running_of_after (e := ⟨x.station, around, i⟩) ended
    have course : x.station.Course around i _ _ := Station.course_step running i
    rcases course.commands with quiet | ⟨c, sent, busy, -⟩
    · rw [react_of_quiet quiet]
      exact .free (course.free_of_quiet ended quiet heard) taken orders scans
    · refine .waiting (c := c) busy ?_ scans
      simp [react, taken, orders, sent]

/-- A message that finds a command in flight leaves queues and command as they are. -/
theorem aligned_hear_of_busy (h : x.Aligned) (busy : x.station.inFlight.isSome = true)
    (m : Message) : (x.react around (.message m)).Aligned := by
  cases running : x.station.terminated with
  | true =>
    rw [react_of_terminated running]
    exact h
  | false =>
    obtain ⟨quiet, same⟩ := (Station.course_step running (.message m)).waits busy nofun
    rw [react_of_quiet quiet]
    cases h with
    | ended ended => simp [running] at ended
    | free free => simp [free] at busy
    | waiting own one scans => exact .waiting (same.trans own) one scans
    | answered own taken orders next scans =>
      exact .answered (same.trans own) taken orders next scans

/-! ### Alignment -/

theorem aligned_start (ip : String) (policy : FailurePolicy) : (start ip policy).Aligned :=
  .free rfl rfl rfl (by simp [start])

/-- With no command in flight, all that is on its way is scans. -/
theorem Aligned.of_free (h : x.Aligned) (running : x.station.terminated = false)
    (free : x.station.inFlight = none) :
    x.taken = [] ∧ x.orders = [] ∧ ∀ f ∈ x.frames, f.isScan = true := by
  cases h with
  | ended ended => simp [running] at ended
  | free _ taken orders scans => exact ⟨taken, orders, scans⟩
  | waiting busy | answered busy => simp [free] at busy

theorem frames_eq_nil_of_not_crossing (running : x.station.terminated = false)
    (unanswered : x.taken ++ x.orders ≠ []) (scans : ∀ f ∈ x.frames, f.isScan = true)
    (clear : ¬ x.Crossing) : x.frames = [] := by
  by_contra nonempty
  obtain ⟨f, hf⟩ := List.exists_mem_of_ne_nil _ nonempty
  exact clear ⟨running, unanswered, f, hf, scans f hf⟩

theorem aligned_hear (h : x.Aligned) (around : Surroundings) (m : Message) :
    (x.step (.hear around m)).Aligned := by
  cases running : x.station.terminated with
  | true => exact aligned_react_of_terminated running
  | false =>
    cases free : x.station.inFlight with
    | some k => exact aligned_hear_of_busy h (by simp [free]) m
    | none =>
      obtain ⟨taken, orders, scans⟩ := h.of_free running free
      exact aligned_react taken orders scans (.inl free)

theorem aligned_deliver (h : x.Aligned) (clear : ¬ x.Crossing) (around : Surroundings) :
    (x.step (.deliver around)).Aligned := by
  cases frames : x.frames with
  | nil => simpa only [step, frames] using h
  | cons f rest =>
    simp only [step, frames]
    cases h with
    | ended ended => exact aligned_react_of_terminated ended
    -- The frame is a scan, and what the station sends upon it is the only order.
    | free _ taken orders scans =>
      refine aligned_react taken orders (fun g hg => scans g ?_) (.inr ⟨_, rfl⟩)
      rw [frames]
      exact List.mem_cons_of_mem f hg
    | waiting busy one scans =>
      cases running : x.station.terminated with
      | true => exact aligned_react_of_terminated running
      | false =>
        -- Only a scan could arrive before the answer, and that would be a crossing.
        have := frames_eq_nil_of_not_crossing running (by simp [one]) scans clear
        simp [frames] at this
    | answered busy taken orders next scans =>
      obtain ⟨-, rfl⟩ := List.cons.inj (frames.symm.trans next)
      exact aligned_react taken orders scans (.inr ⟨_, rfl⟩)

theorem aligned_take (h : x.Aligned) : (x.step .take).Aligned := by
  cases orders : x.orders with
  | nil => simpa only [step, orders] using h
  | cons o rest =>
    simp only [step, orders]
    cases h with
    | ended ended => exact .ended ended
    | free _ _ none_sent | answered _ _ none_sent => simp [none_sent] at orders
    | waiting busy one scans => exact .waiting busy (by simpa [orders] using one) scans

theorem aligned_answer (h : x.Aligned) (clear : ¬ x.Crossing) (ok : Bool) :
    (x.step (.answer ok)).Aligned := by
  cases taken : x.taken with
  | nil => simpa only [step, taken] using h
  | cons o rest =>
    simp only [step, taken]
    cases h with
    | ended ended => exact .ended ended
    | free _ none_taken | answered _ none_taken => simp [none_taken] at taken
    | waiting busy one scans =>
      cases running : x.station.terminated with
      | true => exact .ended running
      | false =>
        -- Nothing crosses, so the answer becomes the next frame.
        have arrived := frames_eq_nil_of_not_crossing running (by simp [one]) scans clear
        obtain ⟨rfl, none_taken, none_sent⟩ : o = _ ∧ rest = [] ∧ x.orders = [] := by
          simpa [taken] using one
        exact .answered busy none_taken none_sent (by rw [arrived, List.nil_append]) (by simp)

theorem aligned_scan (h : x.Aligned) (r : Reader.Response) : (x.step (.scan r)).Aligned := by
  by_cases may : (x.scanning && x.taken.isEmpty) = true
  · have more {fs : List Frame} (scans : ∀ f ∈ fs, f.isScan = true) :
        ∀ f ∈ fs ++ [.scan r], f.isScan = true := by
      intro f hf
      rcases List.mem_append.mp hf with hf | hf
      · exact scans f hf
      · rw [List.mem_singleton.mp hf]
        rfl
    simp only [step, may, if_true]
    cases h with
    | ended ended => exact .ended ended
    | free free taken orders scans => exact .free free taken orders (more scans)
    | waiting busy one scans => exact .waiting busy one (more scans)
    | answered busy taken orders next scans =>
      exact .answered busy taken orders (by rw [next, List.cons_append]) (more scans)
  · simpa only [step, if_neg may] using h

/-- Queues and station stay aligned until a scan and a command cross. -/
theorem aligned_step (h : x.Aligned) (clear : ¬ x.Crossing) (a : Action) : (x.step a).Aligned := by
  cases a with
  | hear around m => exact aligned_hear h around m
  | deliver around => exact aligned_deliver h clear around
  | take => exact aligned_take h
  | answer ok => exact aligned_answer h clear ok
  | scan r => exact aligned_scan h r

/-! ### What the station makes of an answer -/

end Exchange

namespace Station

variable {around : Surroundings} {s s' : Station} {es : List Effect} {c : Reader.Command}
  {next : Phase}

/-- A command that is given says nothing of an item. -/
theorem Orders.filter_told (h : Orders around s c next s' es) :
    (Effect.told es).filter (·.concernsItem) = [] := by
  cases h <;> rfl

/-- A response in an alarm wait, with the command in flight, has the item reported once: as a
failure of the reader just if the response is one. -/
theorem told_of_alarmReply {owed : Option Toggle} {alarm : Alarm} {mode : Mode} {barcode : String}
    (owes : s.Owes owed) (allows : s.phase.Allows owed) (running : s.terminated = false)
    (phase : s.phase = .awaitAlarm alarm mode barcode) (busy : s.inFlight.isSome = true)
    (around : Surroundings) (r : Reader.Response) :
    ∃ m, (Effect.told (s.step around (.event (.response r))).effects).filter
      (·.concernsItem) = [m] ∧ m.action = mode.action ∧ m.rfidError = !r.ok := by
  have said : (Effect.told (s.step around (.event (.response r))).effects).filter
      (·.concernsItem) = (s.outcome alarm mode barcode r.ok).filter (·.concernsItem) := by
    have course : s.Course around (.event (.response r)) _ _ := course_step running _
    -- Whatever ends the batch after the outcome says nothing of an item.
    obtain ⟨fs, done, ⟨-, -, rfl⟩ | ⟨-, h⟩⟩ := course.answered phase busy
    · simp [done]
    · simp [done, h.filter_told]
  rw [phase] at allows
  obtain ⟨g, rfl, rfl, rfl, rfl⟩ := allows
  rw [said, owes.outcome]
  cases r.ok with
  | true =>
    have concerns : g.report.concernsItem = true := Message.concernsItem_of_action rfl
    exact ⟨g.report, by simp [concerns], rfl, rfl⟩
  | false =>
    let m := (Message.readerFailure g.mode.action g.alarm.failure).about g.item
    have concerns : m.concernsItem = true := Message.concernsItem_of_action rfl
    exact ⟨m, by simp [m, concerns], rfl, rfl⟩

end Station

namespace Exchange

theorem run_concat (x : Exchange) (actions : List Action) (a : Action) :
    x.run (actions ++ [a]) = (x.run actions).step a := by
  simp [run]

/-- The station of an exchange has made a run of its own. -/
theorem exists_run_eq (ip : String) (policy : FailurePolicy) (actions : List Action) :
    ∃ inputs, ((start ip policy).run actions).station =
      ((Station.fresh ip policy).run inputs).station := by
  induction actions using List.reverseRecOn with
  | nil => exact ⟨[], rfl⟩
  | append_singleton actions a ih =>
    obtain ⟨inputs, same⟩ := ih
    -- Only what the station hears takes its run further.
    have heard (around : Surroundings) (i : Input) : ∃ inputs',
        (((start ip policy).run actions).station.step around i).station =
          ((Station.fresh ip policy).run inputs').station :=
      ⟨inputs ++ [(around, i)], by simp [same, Station.run_append, Station.run]⟩
    rw [run_concat]
    cases a with
    | hear around m => exact heard around (.message m)
    | deliver around =>
      simp only [step]
      split
      · exact ⟨inputs, same⟩
      · exact heard around _
    | take | answer | scan =>
      simp only [step]
      split <;> exact ⟨inputs, same⟩

/-- An aligned exchange is faithful just if nothing crosses. -/
theorem faithful_iff_of_aligned {ip : String} {policy : FailurePolicy} {actions : List Action}
    (h : ((start ip policy).run actions).Aligned) :
    ((start ip policy).run actions).Faithful ↔ ¬ ((start ip policy).run actions).Crossing := by
  obtain ⟨inputs, same⟩ := exists_run_eq ip policy actions
  generalize (start ip policy).run actions = x at h same ⊢
  constructor
  · rintro faithful ⟨running, unanswered, f, hf, scanned⟩
    cases h with
    | ended ended => simp [running] at ended
    | free _ taken orders | answered _ taken orders => simp [taken, orders] at unanswered
    | waiting busy _ scans =>
      cases frames : x.frames with
      | nil => simp [frames] at hf
      | cons next rest =>
        obtain ⟨c, ok, rfl, -⟩ := faithful next rest frames running (by simp [busy])
        have := scans (.answer ⟨x.issued, c⟩ ok) (by simp [frames])
        cases this
  · intro clear f rest frames running busy
    cases h with
    | ended ended => simp [running] at ended
    | free free => simp [free] at busy
    | waiting _ one scans =>
      have := frames_eq_nil_of_not_crossing running (by simp [one]) scans clear
      simp [frames] at this
    | @answered c ok _ own _ _ next =>
      obtain ⟨rfl, -⟩ := List.cons.inj (frames.symm.trans next)
      refine ⟨c, ok, rfl, own, fun around alarm mode barcode phase => ?_⟩
      obtain ⟨owed, owes, allows⟩ := Station.owes_run ip policy inputs (same ▸ running)
      exact Station.told_of_alarmReply (same ▸ owes) (same ▸ allows) running phase busy around _

/-- Without a crossing on the way, queues and station end up aligned. -/
theorem aligned_run {ip : String} {policy : FailurePolicy} {actions : List Action}
    (clear : ∀ p, p <+: actions → ¬ ((start ip policy).run p).Crossing) :
    ((start ip policy).run actions).Aligned := by
  induction actions using List.reverseRecOn with
  | nil => exact aligned_start ip policy
  | append_singleton actions a ih =>
    have before := ih fun p hp => clear p (hp.trans (List.prefix_append _ _))
    rw [run_concat]
    exact aligned_step before (clear actions (List.prefix_append _ _)) a

/-- Answers are taken for what they are just in the runs in which no scan crosses a command. In such
a run no scan is taken for an answer, and every message on a toggle tells of a failure of the reader
if and only if the reader's own answer to that toggle did. -/
theorem faithful_iff_no_crossing (ip : String) (policy : FailurePolicy) (actions : List Action) :
    (∀ p, p <+: actions → ((start ip policy).run p).Faithful) ↔
      ∀ p, p <+: actions → ¬ ((start ip policy).run p).Crossing := by
  constructor
  · intro faithful
    -- The first crossing would put a scan at the head of the frames, in front of the answer.
    induction actions using List.reverseRecOn with
    | nil =>
      intro p hp
      obtain rfl := List.prefix_nil.mp hp
      have aligned : ((start ip policy).run []).Aligned := aligned_start ip policy
      exact (faithful_iff_of_aligned aligned).mp (faithful [] hp)
    | append_singleton actions a ih =>
      have clear := ih fun p hp => faithful p (hp.trans (List.prefix_append _ _))
      intro p hp
      rcases List.prefix_concat_iff.mp hp with rfl | hp
      · have aligned : ((start ip policy).run (actions ++ [a])).Aligned := by
          rw [run_concat]
          exact aligned_step (aligned_run clear) (clear actions (List.prefix_refl _)) a
        exact (faithful_iff_of_aligned aligned).mp (faithful _ hp)
      · exact clear p hp
  · intro clear p hp
    have aligned := aligned_run fun q hq => clear q (hq.trans hp)
    exact (faithful_iff_of_aligned aligned).mpr (clear p hp)

/-- A checkin in which a second scan is on its way when the command for the first item is sent. -/
def crossedCheckin : List Action :=
  [.hear { backend := .obliging } { action := .checkin },
    .take,
    .answer true,
    .scan { ok := true, barcode := some "10A1", tag := some "T1" },
    .scan { ok := true, barcode := some "10B2", tag := some "T2" },
    .deliver { backend := .obliging },
    .deliver { backend := .obliging }]

/-- The second scan is taken for the answer: the item is reported as done although the reader has
not even taken the command, and when it answers that it failed, nothing is said of it. -/
theorem not_faithful_crossedCheckin :
    let x := (start "" .carryOn).run crossedCheckin
    let y := x.run [.deliver { backend := .obliging }, .take, .answer false]
    ¬ x.Faithful ∧
      Effect.told (x.station.step { backend := .obliging }
        (.event (.response { ok := true, barcode := some "10B2", tag := some "T2" }))).effects =
        [(Message.plain .checkin).about (.bare "A1")] ∧
      y.frames = [.answer ⟨2, .alarmOn (some "T1")⟩ false] ∧
      (y.station.step { backend := .obliging } (.event (.response { ok := false }))).effects =
        [] := by
  intro x y
  refine ⟨fun faithful => ?_, by decide, by decide, by decide⟩
  obtain ⟨c, ok, scanned, -⟩ := faithful
    (.scan { ok := true, barcode := some "10B2", tag := some "T2" }) [] (by decide) (by decide)
    (by decide)
  cases scanned

end Exchange

end SelfCheck
