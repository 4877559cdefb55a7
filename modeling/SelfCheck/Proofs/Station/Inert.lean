import SelfCheck.Proofs.Station.Owed

/-!
# What a station passes over leaves no trace

A screen may send anything at any time, and a reader may send frames that answer nothing. Each
handler of a station tests in its own order whether it takes an input up, and upon a response the
command is out of flight before it is known whether the frame counts. What is not taken up must
leave no trace all the same: a run that never hears it goes on alike, to the last field of the
station. Only a look-up is seen at all, by its own call and its own reply.

## Main definitions

* `Station.isInert` — the inputs that a station does not take up
* `Station.Abridges` — some inputs of a run are left out, each inert where it is heard
* `Station.besides` — what a run does, its look-ups aside

## Main results

* `Station.step_of_inert` — an inert input changes nothing, and only a look-up is seen
* `Station.run_abridged` — to leave inert inputs out changes nothing of a run but its look-ups
-/

namespace SelfCheck

/-- The input asks for a look-up. -/
def Input.isLookUp : Input → Bool
  | .message m => m.action = .itemInfo
  | .event _ => false

namespace Station

variable {around : Surroundings} {s s' : Station} {i : Input} {es : List Effect}

/-- The inputs that a station does not take up as it stands: what only reports or looks up; a batch
or a tag to write outside of the idle phase; an end that the phase does not accept, or that is noted
already; another try that finds nothing to try again; a response that answers nothing, and a scan
without a barcode. -/
def isInert (s : Station) : Input → Bool
  | .message m =>
    match m.action with
    | .connect | .itemInfo => true
    | .checkin | .checkout | .write => s.phase ≠ .idle
    | .finish => !s.phase.acceptsEnd || s.endRequested
    | .retryAlarmOn => (s.retryable? .on m).isNone
    | .retryAlarmOff => (s.retryable? .off m).isNone
  | .event (.failed _) => false
  | .event (.response r) => if s.phase.isScanning then r.scanned = "" else s.inFlight.isNone

/-- Some inputs of a run that begins at `s` are left out, each of them inert in the state in which
the station hears it. -/
inductive Abridges : Station → List (Surroundings × Input) → List (Surroundings × Input) → Prop
  | nil {s : Station} : Abridges s [] []
  | keep {s : Station} {x : Surroundings × Input} {xs ys : List (Surroundings × Input)}
      (rest : Abridges (s.step x.1 x.2).station xs ys) : Abridges s (x :: xs) (x :: ys)
  | leave {s : Station} {x : Surroundings × Input} {xs ys : List (Surroundings × Input)}
      (inert : s.isInert x.2 = true) (rest : Abridges (s.step x.1 x.2).station xs ys) :
      Abridges s (x :: xs) ys

/-- What a run does besides looking items up. -/
def besides (s : Station) (inputs : List (Surroundings × Input)) : List Effect :=
  ((s.history inputs).filter fun e => !e.input.isLookUp).flatMap (·.turn.effects)

/-! ### One turn -/

/-- A course upon an inert input leaves the station as it was, and does nothing but look up. -/
theorem Course.of_inert (h : Course around s i s' es) (inStep : s.InStep)
    (inert : s.isInert i = true) : s' = s ∧ (i.isLookUp = false → es = []) := by
  cases h with
  | passed => exact ⟨rfl, fun _ => rfl⟩
  | lookedUp asked => exact ⟨rfl, by simp [Input.isLookUp, asked]⟩
  | deferred asked accepts =>
    -- The end is noted already.
    have noted : s.endRequested = true := by simpa [isInert, asked, accepts] using inert
    refine ⟨?_, fun _ => rfl⟩
    rw [← noted]
  | blank phase =>
    -- While the reader scans nothing is in flight, so nothing is taken out of flight.
    have free : s.inFlight = none := by
      have awaits := inStep.awaits
      rwa [phase] at awaits
    refine ⟨?_, fun _ => rfl⟩
    rw [← free]
  | ended asked accepts free =>
    have noted : s.endRequested = true := by simpa [isInert, asked, accepts] using inert
    obtain ⟨alarm, mode, barcode, -, busy⟩ := inStep.ending noted
    rw [free] at busy
    cases busy
  -- In the other courses the input is taken up.
  | @opened m mode _ _ asked idle => cases mode <;> simp [isInert, asked, idle, Mode.action] at inert
  | @retried m alarm _ _ _ _ _ asked found =>
    cases alarm <;> simp [isInert, asked, found, Alarm.retryAction] at inert
  | writeUnnamed asked idle | writing asked idle => simp [isInert, asked, idle] at inert
  | lost => cases inert
  | toggled phase named | unreported phase named | aborted phase named | gaveUp phase named =>
    simp [isInert, phase, Phase.isScanning, named] at inert
  | started phase busy | notStarted phase busy | settled phase busy | settledLast phase busy
  | closed phase busy | wrote phase busy | stray phase busy =>
    simp [isInert, phase, Phase.isScanning] at inert
    simp [inert] at busy

/-- An inert input changes nothing of the station, and nothing is done upon it but a look-up. -/
theorem step_of_inert (inStep : s.InStep) (inert : s.isInert i = true) (around : Surroundings) :
    (s.step around i).station = s ∧ (i.isLookUp = false → (s.step around i).effects = []) := by
  cases running : s.terminated with
  | true =>
    rw [step_of_terminated running]
    exact ⟨rfl, fun _ => rfl⟩
  | false => exact (course_step running i).of_inert inStep inert

/-- A course upon the request for a look-up sends nothing and says nothing but the reply. -/
theorem Course.of_isLookUp (h : Course around s i s' es) (asks : i.isLookUp = true) :
    Effect.commands es = [] ∧ ∀ m ∈ Effect.told es, m.action = .itemInfo := by
  cases h with
  | lookedUp => exact ⟨commands_lookUp, fun m hm => action_of_told_lookUp hm⟩
  | @passed i passes =>
    cases i with
    | message => exact ⟨rfl, List.forall_mem_nil _⟩
    | event => cases asks
  -- The other courses are taken upon other inputs.
  | @opened m mode _ _ asked => cases mode <;> simp [Input.isLookUp, asked, Mode.action] at asks
  | @retried m alarm _ _ _ _ _ asked =>
    cases alarm <;> simp [Input.isLookUp, asked, Alarm.retryAction] at asks
  | deferred asked | ended asked | writeUnnamed asked | writing asked =>
    simp [Input.isLookUp, asked] at asks
  | _ => cases asks

/-- The request for a look-up has nothing sent, and nothing said but the reply. -/
theorem step_of_isLookUp (asks : i.isLookUp = true) :
    Effect.commands (s.step around i).effects = [] ∧
      ∀ m ∈ Effect.told (s.step around i).effects, m.action = .itemInfo := by
  cases running : s.terminated with
  | true =>
    rw [step_of_terminated running]
    exact ⟨rfl, List.forall_mem_nil _⟩
  | false => exact (course_step running i).of_isLookUp asks

/-! ### Runs -/

theorem besides_cons (s : Station) (x : Surroundings × Input)
    (xs : List (Surroundings × Input)) :
    s.besides (x :: xs) =
      (if x.2.isLookUp then [] else (s.step x.1 x.2).effects) ++
        (s.step x.1 x.2).station.besides xs := by
  cases asks : x.2.isLookUp <;> simp [besides, history, Episode.turn, asks]

/-- Look-ups send nothing, so a run sends all that it sends besides them. -/
theorem commands_besides (s : Station) (inputs : List (Surroundings × Input)) :
    Effect.commands (s.besides inputs) = Effect.commands (s.run inputs).effects := by
  induction inputs generalizing s with
  | nil => rfl
  | cons x xs ih =>
    rw [besides_cons, run, Effect.commands_append, Effect.commands_append, ih]
    cases asks : x.2.isLookUp with
    | false => rfl
    | true => rw [(step_of_isLookUp asks).1, if_pos rfl, Effect.commands_nil]

/-- What a run says under another action than that of a look-up, it says besides its look-ups. -/
theorem told_besides (s : Station) (inputs : List (Surroundings × Input)) :
    (Effect.told (s.besides inputs)).filter (·.action ≠ .itemInfo) =
      (Effect.told (s.run inputs).effects).filter (·.action ≠ .itemInfo) := by
  induction inputs generalizing s with
  | nil => rfl
  | cons x xs ih =>
    rw [besides_cons, run, Effect.told_append, Effect.told_append, List.filter_append,
      List.filter_append, ih]
    cases asks : x.2.isLookUp with
    | false => rfl
    | true =>
      have replies : (Effect.told (s.step x.1 x.2).effects).filter (·.action ≠ .itemInfo) = [] := by
        apply List.filter_eq_nil_iff.mpr
        intro m hm
        simp [(step_of_isLookUp asks).2 m hm]
      rw [replies, if_pos rfl, Effect.told_nil, List.filter_nil]

/-- Without inputs that are inert where they are heard, a run leaves the same station and does the
same besides its look-ups. -/
theorem Abridges.alike {inputs kept : List (Surroundings × Input)} (h : s.Abridges inputs kept)
    (inStep : s.InStep) :
    (s.run inputs).station = (s.run kept).station ∧ s.besides inputs = s.besides kept := by
  induction h with
  | nil => exact ⟨rfl, rfl⟩
  | @keep s x xs ys _ ih =>
    obtain ⟨station, besides⟩ := ih (inStep.step x.1 x.2)
    refine ⟨station, ?_⟩
    rw [besides_cons, besides_cons, besides]
  | @leave s x xs ys inert _ ih =>
    obtain ⟨same, quiet⟩ := step_of_inert inStep inert x.1
    -- The rest of the run begins at the station that heard the input.
    rw [same] at ih
    obtain ⟨station, besides⟩ := ih inStep
    constructor
    · rw [← station, run, same]
    · rw [besides_cons, same, besides]
      cases asks : x.2.isLookUp with
      | false => rw [if_neg Bool.false_ne_true, quiet asks, List.nil_append]
      | true => rw [if_pos rfl, List.nil_append]

/-- Inputs that are inert where they are heard can be left out of a run, any of them and as many as
one likes. The station is then the same in every field; it sends the same commands, and besides its
look-ups it makes the same calls and tells the screen the same, in the same order. What lies outside
stays as it was for the inputs that are kept. -/
theorem run_abridged {ip : String} {policy : FailurePolicy}
    {inputs kept : List (Surroundings × Input)} (h : (fresh ip policy).Abridges inputs kept) :
    let s := fresh ip policy
    let t := s.run inputs
    let t' := s.run kept
    t.station = t'.station ∧ Effect.commands t.effects = Effect.commands t'.effects ∧
      s.besides inputs = s.besides kept ∧
      Effect.asked (s.besides inputs) = Effect.asked (s.besides kept) ∧
      (Effect.told t.effects).filter (·.action ≠ .itemInfo) =
        (Effect.told t'.effects).filter (·.action ≠ .itemInfo) := by
  intro s t t'
  obtain ⟨station, besides⟩ := h.alike (inStep_fresh ip policy)
  refine ⟨station, ?_, besides, by rw [besides], ?_⟩
  · rw [← commands_besides, ← commands_besides, besides]
  · rw [← told_besides, ← told_besides, besides]

/-- A retried checkin in which the screen and the reader send much that is not taken up: the screen
looks the item up, asks for another checkin and for a tag to be written, asks for the end twice and
for another try too early; the reader sends a frame before anything is asked of it and a scan
without a barcode. -/
def restlessCheckin : List (Surroundings × Input) :=
  [.message { action := .connect }, .event (.response { ok := true }),
    .message { action := .checkin, branch := some "MAIN" },
    .message { action := .finish },
    .event (.response { ok := true }),
    .message { action := .checkin, branch := some "SIDE" },
    .event (.response { ok := true, barcode := some "10" }),
    .event (.response { ok := true, barcode := some "10A1", tag := some "T1" }),
    .message { action := .itemInfo, item := some { barcode := "A1" } },
    .message { action := .write, item := some { barcode := "A1" } },
    .message { action := .retryAlarmOn, item := some { barcode := "A1" } },
    .event (.response { ok := false }),
    .message { action := .retryAlarmOff, item := some { barcode := "A1" } },
    .message { action := .retryAlarmOn, item := some { barcode := "A1" } }].map
    fun i => ({ backend := .obliging }, i)

/-- Of all this only the retried checkin itself leaves a trace. -/
theorem run_abridged_restlessCheckin :
    let s := fresh "" .carryOn
    s.Abridges restlessCheckin retriedCheckin ∧
      (s.run restlessCheckin).station = (s.run retriedCheckin).station ∧
      Effect.commands (s.run restlessCheckin).effects =
        [.beginScan, .alarmOn (some "T1"), .alarmOn (some "T1")] ∧
      Effect.asked (s.besides restlessCheckin) = [.checkin "MAIN" "A1"] := by
  intro s
  have abridges : s.Abridges restlessCheckin retriedCheckin := by
    -- What is kept is the opening, its answer, the scan, the answer to the toggle and the retry.
    refine .leave rfl (.leave rfl (.keep (.leave rfl (.keep ?_))))
    refine .leave (by decide) (.leave (by decide) (.keep ?_))
    refine .leave rfl (.leave (by decide) (.leave (by decide) (.keep ?_)))
    exact .leave (by decide) (.keep .nil)
  obtain ⟨station, commands, -, calls, -⟩ := run_abridged abridges
  exact ⟨abridges, station, commands.trans (by decide), calls.trans (by decide)⟩

end Station

end SelfCheck
