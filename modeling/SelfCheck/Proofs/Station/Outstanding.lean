import SelfCheck.Proofs.Station.History

/-!
# One command at a time

The reader's responses do not say what they answer, so a station must never have two commands
outstanding. The guard is not in one place: each handler tests for a command in flight, and a
response takes the command out of flight before it is looked at, so that its own turn may already
send the next one. What holds the handlers together is an agreement between the phase, the command
in flight and the deferred end of the batch.

## Main definitions

* `Phase.Awaits` — the commands that may be in flight in a phase
* `Station.InStep` — phase, command in flight and deferred end agree
* `Episode.Answers` — the station takes a response as the answer to the command in flight

## Main results

* `Station.inStep_run` — the agreement holds after every run
* `Episode.commands_length_le` — no turn sends two commands
* `Station.one_command_outstanding` — between two commands the first one is answered
-/

namespace SelfCheck

/-- The command that may be in flight in a phase, `none` standing for no command. -/
def Phase.Awaits : Phase → Option Reader.Command.Kind → Prop
  | .idle, k => k = none
  | .awaitScanStart _, k => k = some .beginScan
  | .scanning _, k => k = none
  | .awaitAlarm alarm _ _, k => k = none ∨ k = some alarm.kind
  | .awaitScanEnd, k => k = some .endScan
  | .awaitWrite _, k => k = some .write

namespace Station

/-- Phase, command in flight and deferred end agree: the command is the one that the phase waits
for, and the end is deferred only behind an alarm command that is in flight. -/
structure InStep (s : Station) : Prop where
  awaits : s.phase.Awaits s.inFlight
  ending : s.endRequested = true → ∃ alarm mode barcode,
    s.phase = .awaitAlarm alarm mode barcode ∧ s.inFlight = some alarm.kind

variable {around : Surroundings} {s s' : Station} {i : Input} {es : List Effect}
  {c : Reader.Command} {next : Phase}

theorem inStep_fresh (ip : String) (policy : FailurePolicy) : (fresh ip policy).InStep :=
  ⟨rfl, by simp [fresh]⟩

/-- An end is deferred only while an alarm command is in flight. -/
theorem InStep.quiet (h : s.InStep) (out : ∀ alarm mode barcode,
    s.phase = .awaitAlarm alarm mode barcode → s.inFlight = none) : s.endRequested = false := by
  by_contra ending
  obtain ⟨alarm, mode, barcode, phase, busy⟩ := h.ending (by simpa using ending)
  rw [out alarm mode barcode phase] at busy
  cases busy

theorem awaits_settle {alarm : Alarm} {mode : Mode} {barcode : String} {ok : Bool}
    (phase : s.phase = .awaitAlarm alarm mode barcode) :
    (s.settle mode barcode ok).phase.Awaits (s.settle mode barcode ok).inFlight := by
  cases ok with
  | true => rfl
  | false => simp [settle, phase, Phase.Awaits]

/-- A command keeps the agreement if its phase waits for it and no end is deferred. -/
theorem Orders.inStep (h : Orders around s c next s' es) (old : s.InStep)
    (quiet : s.endRequested = false) (fits : next.Awaits (some c.kind)) : s'.InStep := by
  cases h with
  | taken => exact ⟨fits, by simp [quiet]⟩
  | refused => exact ⟨old.awaits, by simp [quiet]⟩

/-- Every course of a turn keeps the agreement. -/
theorem Course.inStep (h : Course around s i s' es) (old : s.InStep) : s'.InStep := by
  -- A response takes the command out of flight; what it finds says what may be in flight after it.
  cases h with
  | passed => exact old
  | @opened m mode _ _ _ idle free h =>
    have renewed : (s.renew (m.branch.getD "")).InStep :=
      ⟨by simp [renew, idle, free, Phase.Awaits], by simp [renew]⟩
    exact h.inStep renewed rfl rfl
  | deferred _ accepts busy =>
    refine ⟨old.awaits, fun _ => ?_⟩
    -- Of the phases that accept the end, only an alarm wait may have a command in flight.
    have awaits := old.awaits
    cases phase : s.phase <;>
      simp_all [Phase.Awaits, Phase.acceptsEnd, Phase.scanMode?, Option.isSome_iff_ne_none]
  | ended _ _ _ h => exact h.inStep ⟨old.awaits, by simp⟩ rfl rfl
  | retried _ found h =>
    have quiet := old.quiet fun _ _ _ _ => (retryable?_eq_some_iff.mp found).2.1
    refine h.inStep ⟨by simpa using old.awaits, by simp [quiet]⟩ (by simpa using quiet) ?_
    -- Phase and command change together, whichever setting is tried again.
    exact .inr (by simp)
  | lookedUp => exact old
  | writeUnnamed => exact old
  | writing _ _ free _ h => exact h.inStep old (old.quiet fun _ _ _ _ => free) rfl
  | lost => exact ⟨old.awaits, old.ending⟩
  | started phase => exact ⟨rfl, by simp [old.quiet (by simp [phase])]⟩
  | notStarted phase => exact ⟨rfl, by simp [old.quiet (by simp [phase])]⟩
  | blank phase => exact ⟨by simp [phase, Phase.Awaits], by simp [old.quiet (by simp [phase])]⟩
  | @toggled r mode alarm item _ _ phase _ _ h =>
    have quiet := old.quiet (by simp [phase])
    refine h.inStep ⟨?_, ?_⟩ (by simpa [record] using quiet) (.inr (by simp))
    · simp [record, phase, Phase.Awaits]
    · simp [record, quiet]
  | unreported phase => exact ⟨by simp [phase, Phase.Awaits], by simp [old.quiet (by simp [phase])]⟩
  | aborted phase _ _ h =>
    have quiet := old.quiet (by simp [phase])
    exact h.inStep ⟨by simp [phase, Phase.Awaits], by simp [quiet]⟩ quiet rfl
  | gaveUp phase => exact ⟨by simp [phase, Phase.Awaits], by simp [old.quiet (by simp [phase])]⟩
  | settled phase _ stays => exact ⟨awaits_settle phase, by simp [stays]⟩
  | settledLast phase _ _ h => exact h.inStep ⟨awaits_settle phase, by simp⟩ rfl rfl
  | closed phase => exact ⟨rfl, by simp [old.quiet (by simp [phase])]⟩
  | wrote phase => exact ⟨rfl, by simp [old.quiet (by simp [phase])]⟩
  | stray phase => exact ⟨by simp [phase, Phase.Awaits], by simp [old.quiet (by simp [phase])]⟩

/-- Every turn keeps the agreement. -/
theorem InStep.step (old : s.InStep) (around : Surroundings) (i : Input) :
    (s.step around i).station.InStep := by
  cases running : s.terminated with
  | false => exact (course_step running i).inStep old
  | true => rwa [step_of_terminated running]

/-- The agreement holds after every run. -/
theorem inStep_run (ip : String) (policy : FailurePolicy) (inputs : List (Surroundings × Input)) :
    ((fresh ip policy).run inputs).station.InStep :=
  run_invariant (fun _ around i old => old.step around i) (inStep_fresh ip policy) inputs

/-! ### What a turn sends -/

@[simp] theorem commands_inquiry {mode : Mode} {barcode : String} {ok : Bool} :
    Effect.commands (s.inquiry around mode barcode ok) = [] := by
  unfold inquiry
  cases ok <;> cases mode <;> simp only [Effect.commands_ask] <;> split <;> rfl

@[simp] theorem commands_lookUp {m : Message} : Effect.commands (lookUp around m) = [] := by
  unfold lookUp
  split <;> rfl

theorem withhold_notMem_inquiry {mode : Mode} {barcode : String} {ok : Bool} :
    Effect.withhold c ∉ s.inquiry around mode barcode ok := by
  unfold inquiry
  cases ok <;> cases mode <;> dsimp only <;> split <;> simp

theorem withhold_notMem_lookUp {m : Message} : Effect.withhold c ∉ lookUp around m := by
  unfold lookUp
  split <;> simp

/-- A command that leaves the station running is one that the reader took. -/
theorem Orders.granted (h : Orders around s c next s' es) (running : s'.terminated = false) :
    s'.phase = next ∧ s'.branch = s.branch ∧
      Effect.commands es = [c] ∧ Effect.told es = [] ∧ Effect.asked es = [] := by
  cases h with
  | taken => exact ⟨rfl, rfl, rfl, rfl, rfl⟩
  | refused => cases running

theorem Orders.commands (h : Orders around s c next s' es) :
    Effect.commands es = [] ∨
      Effect.commands es = [c] ∧ s'.inFlight = some c.kind ∧ s'.terminated = s.terminated := by
  cases h with
  | taken => exact .inr ⟨rfl, rfl, rfl⟩
  | refused => exact .inl rfl

theorem Orders.withhold_notMem (h : Orders around s c next s' es) (c' : Reader.Command) :
    Effect.withhold c' ∉ es := by
  cases h <;> simp

/-- A turn sends nothing, or it sends one command, leaves that command in flight and the station
running. -/
theorem Course.commands (h : Course around s i s' es) :
    Effect.commands es = [] ∨ ∃ c, Effect.commands es = [c] ∧
      s'.inFlight = some c.kind ∧ s'.terminated = s.terminated := by
  cases h with
  | opened _ _ _ h | ended _ _ _ h | retried _ _ h | writing _ _ _ _ h | toggled _ _ _ h
  | aborted _ _ _ h | settledLast _ _ _ h =>
    obtain none_sent | ⟨sent, busy, runs⟩ := h.commands
    · exact .inl (by simpa using none_sent)
    · exact .inr ⟨_, by simpa using sent, busy, by simpa using runs⟩
  | _ => exact .inl (by simp)

/-- No turn has a command that it must hold back. -/
theorem Course.withhold_notMem (h : Course around s i s' es) (c : Reader.Command) :
    Effect.withhold c ∉ es := by
  cases h with
  | opened _ _ _ h | ended _ _ _ h | retried _ _ h | writing _ _ _ _ h | settledLast _ _ _ h =>
    simpa using h.withhold_notMem c
  | toggled _ _ _ h | aborted _ _ _ h =>
    simpa [withhold_notMem_inquiry] using h.withhold_notMem c
  | unreported | gaveUp => simp [withhold_notMem_inquiry]
  | lookedUp => exact withhold_notMem_lookUp
  | _ => simp

/-- While a command is in flight, only a response has anything sent or takes it out of flight. -/
theorem Course.waits (h : Course around s i s' es) (busy : s.inFlight.isSome = true)
    (other : ∀ r, i ≠ .event (.response r)) :
    Effect.commands es = [] ∧ s'.inFlight = s.inFlight := by
  cases h with
  | opened _ _ free | ended _ _ free | writing _ _ free => simp [free] at busy
  | retried _ found => simp [(retryable?_eq_some_iff.mp found).2.1] at busy
  | passed | deferred | lookedUp | writeUnnamed | lost => exact ⟨by simp, rfl⟩
  | _ => exact absurd rfl (other _)

/-- A turn that sends nothing leaves no command in flight, unless it is on a message that found
one. -/
theorem Course.free_of_quiet (h : Course around s i s' es) (running : s'.terminated = false)
    (quiet : Effect.commands es = [])
    (heard : s.inFlight = none ∨ ∃ r, i = .event (.response r)) : s'.inFlight = none := by
  cases h with
  | passed h =>
    rcases heard with free | ⟨r, rfl⟩
    · exact free
    · exact h.1
  | opened _ _ _ h | ended _ _ _ h | retried _ _ h | writing _ _ _ _ h | toggled _ _ _ h
  | aborted _ _ _ h | settledLast _ _ _ h =>
    obtain ⟨-, -, sent, -⟩ := h.granted running
    simp [sent] at quiet
  | deferred | lookedUp | writeUnnamed => simpa using heard
  | lost | notStarted | gaveUp => cases running
  | settled => simp
  | started | blank | unreported | closed | wrote | stray => rfl

end Station

/-! ### Between two commands -/

namespace Episode

variable {e : Episode}

/-- The station takes a response as the answer to the command in flight. -/
def Answers (e : Episode) : Prop :=
  e.before.terminated = false ∧ e.before.inFlight.isSome = true ∧
    ∃ r, e.input = .event (.response r)

/-- An episode of a running station takes one of the courses. -/
theorem course (running : e.before.terminated = false) :
    e.before.Course e.around e.input e.after e.turn.effects := Station.course_step running _

theorem turn_of_terminated (ended : e.before.terminated = true) :
    e.turn = { station := e.before } := Station.step_of_terminated ended _

/-- No turn sends two commands. -/
theorem commands_length_le : e.commands.length ≤ 1 := by
  cases running : e.before.terminated with
  | false =>
    obtain none_sent | ⟨c, one_sent, -, -⟩ := (course running).commands
    · simp [commands, none_sent]
    · simp [commands, one_sent]
  | true => simp [commands, turn_of_terminated running]

theorem withhold_notMem (c : Reader.Command) : Effect.withhold c ∉ e.turn.effects := by
  cases running : e.before.terminated with
  | false => exact (course running).withhold_notMem c
  | true => simp [turn_of_terminated running]

/-- A command that is sent is in flight from then on, and the station runs. -/
theorem busy_of_commands_ne_nil (sent : e.commands ≠ []) :
    e.after.inFlight.isSome = true ∧ e.after.terminated = false := by
  cases running : e.before.terminated with
  | false =>
    obtain none_sent | ⟨c, -, busy, runs⟩ := (course running).commands
    · exact absurd none_sent sent
    · exact ⟨by simp [busy], runs.trans running⟩
  | true => simp [commands, turn_of_terminated running] at sent

/-- Unless it answers the command in flight, an episode sends nothing and leaves it in flight. -/
theorem waits (busy : e.before.inFlight.isSome = true) (unanswered : ¬ e.Answers) :
    e.commands = [] ∧ e.after.inFlight = e.before.inFlight := by
  cases running : e.before.terminated with
  | false =>
    refine (course running).waits busy fun r heard => ?_
    exact unanswered ⟨running, busy, r, heard⟩
  | true => simp [commands, after, turn_of_terminated running]

end Episode

namespace Station

/-- With a command in flight, whatever is sent next is preceded by the answer, or is sent in its
turn. -/
theorem exists_answers_of_busy {s : Station} (busy : s.inFlight.isSome = true)
    {inputs : List (Surroundings × Input)} {between after : List Episode} {second : Episode}
    (split : s.history inputs = between ++ second :: after) (sent : second.commands ≠ []) :
    ∃ e ∈ between ++ [second], e.Answers := by
  induction inputs generalizing s between with
  | nil => simp [history] at split
  | cons x rest ih =>
    -- An answer in the first turn is what is looked for; otherwise the command stays in flight.
    by_cases answered : Episode.Answers ⟨s, x.1, x.2⟩
    · cases between with
      | nil =>
        obtain ⟨rfl, -⟩ := List.cons.inj split
        exact ⟨_, by simp, answered⟩
      | cons b between =>
        obtain ⟨rfl, -⟩ := List.cons.inj split
        exact ⟨_, by simp, answered⟩
    · obtain ⟨quiet, still⟩ := Episode.waits (e := ⟨s, x.1, x.2⟩) busy answered
      cases between with
      | nil =>
        obtain ⟨rfl, -⟩ := List.cons.inj split
        exact absurd quiet sent
      | cons b between =>
        obtain ⟨rfl, hrest⟩ := List.cons.inj split
        obtain ⟨e, he, answers⟩ := ih (by rwa [← still] at busy) hrest
        exact ⟨e, List.mem_cons_of_mem _ he, answers⟩

/-- At most one command is outstanding in every run of a station. No turn sends two commands or has
one that it must hold back; of two commands, the first is answered before the second is sent or in
the turn that sends it; and phase, command in flight and deferred end agree after the run. -/
theorem one_command_outstanding (ip : String) (policy : FailurePolicy)
    (inputs : List (Surroundings × Input)) :
    (∀ e ∈ (fresh ip policy).history inputs,
      e.commands.length ≤ 1 ∧ ∀ c, Effect.withhold c ∉ e.turn.effects) ∧
    (∀ (before between after : List Episode) (first second : Episode),
      (fresh ip policy).history inputs = before ++ first :: (between ++ second :: after) →
      first.commands ≠ [] → second.commands ≠ [] → ∃ e ∈ between ++ [second], e.Answers) ∧
    ((fresh ip policy).run inputs).station.InStep := by
  refine ⟨fun e _ => ⟨e.commands_length_le, e.withhold_notMem⟩, ?_, inStep_run ip policy inputs⟩
  intro before between after first second split sent sent'
  obtain ⟨-, later, -, -, hlater⟩ := exists_history_split split
  exact exists_answers_of_busy (Episode.busy_of_commands_ne_nil sent).1 hlater sent'

end Station

end SelfCheck
