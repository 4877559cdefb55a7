import SelfCheck.Proofs.Station.Grammar
import SelfCheck.Proofs.Station.Owed

/-!
# The end of a batch

The screen may ask for the end of a batch while an alarm command is in flight. The station then
only notes it, and gives the command to end from inside the answer, behind the outcome of the
toggle. Until the answer is there it hears messages of any kind: other tries, look-ups, batches to
open, tags to write, the same request again. None of them clears the note or gets a command past
it, so the request is neither lost nor overtaken; and once a session is ended, it is not ended again
before the next one has begun.

## Main definitions

* `Station.EndDue` — the end is noted, behind the alarm command in flight
* `Episode.Bides` — nothing is sent upon a message
* `Episode.GivesEnd` — the reader takes the command to end, or the station comes to its own end
* `Episode.FallsDue` — the answer that a noted end waits for, or the loss of the link
* `EndedOnce` — no session is ended before another one has begun

## Main results

* `Station.Course.bides` — a message finds a noted end and leaves the station as it was
* `Station.endedOnce_history` — outside of a session, none is ended before one has begun
* `Station.end_kept_of_due` — a noted end waits for the answer and is given in it
* `Station.end_neither_lost_nor_overtaken` — what becomes of every request to end
-/

namespace SelfCheck

/-- The end of the batch is asked for, behind an alarm command in flight. -/
structure Station.EndDue (s : Station) : Prop where
  running : s.terminated = false
  asked : s.endRequested = true
  busy : s.inFlight.isSome = true
  phase : ∃ alarm mode barcode, s.phase = .awaitAlarm alarm mode barcode

namespace Episode

/-- The station hears a message and sends nothing. -/
def Bides (e : Episode) : Prop := (∃ m, e.input = .message m) ∧ e.commands = []

/-- The end is given to the reader: it takes the command, or the station comes to its own end
because the reader does not. -/
def GivesEnd (e : Episode) : Prop :=
  if e.around.refusal = none then e.commands = [.endScan]
  else e.commands = [] ∧ e.after.terminated = true

/-- The first thing that the station does is to tell what the reader answered to its alarm command,
under the action of the batch and with the item recorded for the barcode. -/
def TellsOutcome (e : Episode) (r : Reader.Response) : Prop :=
  ∃ alarm mode barcode report, e.before.phase = .awaitAlarm alarm mode barcode ∧
    e.turn.effects.head? = some (.tell report) ∧ report.action = mode.action ∧
    report.rfidError = (!r.ok) ∧ report.item = (e.before.pending.get? barcode).bind (·.item)

/-- How the wait for the answer is over. The answer is not taken for a scan; its outcome is told,
and then the end is given. Or else the link is lost, and the station comes to its own end. -/
inductive FallsDue (e : Episode) : Prop
  | answered {r : Reader.Response} (heard : e.input = .event (.response r))
      (unscanned : e.scan? = none) (told : e.TellsOutcome r) (given : e.GivesEnd)
  | lost {f : Reader.Fault} (heard : e.input = .event (.failed f)) (quiet : e.commands = [])
      (ended : e.after.terminated = true)

end Episode

/-- In these episodes no session is ended before another one has begun. -/
def EndedOnce (h : List Episode) : Prop :=
  ∀ between last later, h = between ++ last :: later → .endScan ∈ last.commands →
    ∃ e ∈ between, e.opens = true

namespace Station

variable {around : Surroundings} {s s' : Station} {m : Message} {es : List Effect}
  {owed : Option Toggle}

/-! ### After the end -/

open Reader.Grammar in
/-- What is given outside of a session does not end one, and leaves none open unless it begins
one. -/
theorem endScan_notMem_of_gives {o : Bool} {ks : List Reader.Command.Kind} (h : Gives false o ks) :
    .endScan ∉ ks ∧ (ks = [.beginScan] ∨ o = false) := by
  cases h <;> simp

theorem opens_of_kinds {e : Episode} (begun : Effect.kinds e.turn.effects = [.beginScan]) :
    e.opens = true := by
  obtain ⟨c, sent, kind⟩ := List.map_eq_singleton_iff.mp begun
  have sent : e.commands = [c] := sent
  cases c <;> simp_all [Episode.opens, Reader.Command.kind]

/-- No session is open, and if the station is at its end none will be. -/
def Closed (s : Station) : Prop := s.terminated = true ∨ s.phase.inSession = false

/-- A turn that finds no session open ends none, and leaves none open unless it begins one. -/
theorem Closed.episode {e : Episode} (closed : e.before.Closed) :
    .endScan ∉ e.commands ∧ (e.opens = true ∨ e.after.Closed) := by
  cases running : e.before.terminated with
  | true =>
    have turn := Episode.turn_of_terminated running
    have quiet : e.commands = [] := by rw [Episode.commands, turn]; rfl
    have still : e.after = e.before := by rw [Episode.after, turn]
    exact ⟨by simp [quiet], .inr (still ▸ closed)⟩
  | false =>
    have outside : e.before.phase.inSession = false := closed.resolve_left (by simp [running])
    have course := Episode.course running
    cases running' : e.after.terminated with
    | true =>
      have quiet : e.commands = [] := course.commands_of_ended running running'
      exact ⟨by simp [quiet], .inr (.inl running')⟩
    | false =>
      have gives := course.gives running'
      rw [outside] at gives
      obtain ⟨other, next⟩ := endScan_notMem_of_gives gives
      refine ⟨fun ends => other (List.mem_map_of_mem (f := (·.kind)) ends), ?_⟩
      exact next.imp opens_of_kinds .inr

/-- Outside of a session, none is ended before another one has begun. -/
theorem endedOnce_history (closed : s.Closed) (inputs : List (Surroundings × Input)) :
    EndedOnce (s.history inputs) := by
  intro between last later split ends
  induction inputs generalizing s between with
  | nil => simp [history] at split
  | cons x rest ih =>
    -- The first turn begins a session, or finds none open and leaves none open.
    obtain ⟨none_ended, next⟩ := Closed.episode (e := ⟨s, x.1, x.2⟩) closed
    cases between with
    | nil =>
      obtain ⟨rfl, -⟩ := List.cons.inj split
      exact absurd ends none_ended
    | cons b between =>
      obtain ⟨rfl, hrest⟩ := List.cons.inj split
      rcases next with opens | closed'
      · exact ⟨_, List.mem_cons_self, opens⟩
      · obtain ⟨e, he, opens⟩ := ih closed' between hrest
        exact ⟨e, List.mem_cons_of_mem _ he, opens⟩

/-! ### Giving the end -/

/-- The command to end is taken, or the station comes to its own end; either way no session is open
from then on. -/
theorem Orders.givesEnd {e : Episode} (h : Orders e.around s .endScan .awaitScanEnd s' es)
    (after : e.after = s') (commands : e.commands = Effect.commands es) :
    e.GivesEnd ∧ e.after.Closed := by
  rw [Episode.GivesEnd, commands, after]
  cases h with
  | taken willing =>
    rw [if_pos willing]
    exact ⟨rfl, .inr rfl⟩
  | refused f unwilling =>
    rw [if_neg (by simp [unwilling])]
    exact ⟨⟨rfl, rfl⟩, .inl rfl⟩

/-- The answer to an alarm command is told first, about the item recorded. -/
theorem Owes.tellsOutcome {e : Episode} {r : Reader.Response} (owes : e.before.Owes owed)
    (allows : e.before.phase.Allows owed) {alarm : Alarm} {mode : Mode} {barcode : String}
    (phase : e.before.phase = .awaitAlarm alarm mode barcode)
    (done : e.turn.effects = (e.before.outcome alarm mode barcode r.ok).map .tell ++ es) :
    e.TellsOutcome r := by
  rw [phase] at allows
  obtain ⟨g, rfl, rfl, rfl, rfl⟩ := allows
  rw [owes.outcome] at done
  have item : (e.before.pending.get? g.barcode).bind (·.item) = some g.item := by
    rw [owes.pending, Option.elim_some, Ledger.get?_single]
    rfl
  cases ok : r.ok with
  | true =>
    rw [ok, if_pos rfl] at done
    exact ⟨_, _, _, g.report, phase, by rw [done]; rfl, rfl, by rw [ok]; rfl, item.symm⟩
  | false =>
    rw [ok, if_neg Bool.false_ne_true] at done
    exact ⟨_, _, _, _, phase, by rw [done]; rfl, rfl, by rw [ok]; rfl, item.symm⟩

/-! ### Waiting for the answer -/

/-- A message finds a noted end and leaves the station as it was, and nothing is sent. -/
theorem Course.bides (h : Course around s (.message m) s' es) (due : s.EndDue) :
    s' = s ∧ Effect.commands es = [] := by
  have busy := due.busy
  cases h with
  | passed => exact ⟨rfl, rfl⟩
  | deferred =>
    -- The end is noted already.
    refine ⟨?_, rfl⟩
    rw [← due.asked]
  | lookedUp => exact ⟨rfl, commands_lookUp⟩
  | opened _ _ free | ended _ _ free | writing _ _ free | writeUnnamed _ _ free =>
    simp [free] at busy
  | retried _ found => simp [(retryable?_eq_some_iff.mp found).2.1] at busy

/-- An event of the reader is what a noted end waits for: the answer, or the loss of the link. -/
theorem EndDue.fallsDue {e : Episode} {event : Reader.Event} (due : e.before.EndDue)
    (owes : e.before.Owes owed) (allows : e.before.phase.Allows owed)
    (heard : e.input = .event event) : e.FallsDue ∧ e.after.Closed := by
  have course := Episode.course due.running
  rw [heard] at course
  cases event with
  | failed f =>
    generalize after : e.after = s', done : e.turn.effects = es at course
    cases course with
    | passed h => cases h
    | lost =>
      refine ⟨.lost heard (by rw [Episode.commands, done]; rfl) (by rw [after]), .inl rfl⟩
  | response r =>
    obtain ⟨alarm, mode, barcode, phase⟩ := due.phase
    obtain ⟨fs, done, ⟨stays, -⟩ | ⟨-, h⟩⟩ := course.answered phase due.busy
    · rw [due.asked] at stays
      cases stays
    · have commands : e.commands = Effect.commands fs := by
        rw [Episode.commands, done, Effect.commands_append, Effect.commands_map_tell,
          List.nil_append]
      obtain ⟨given, closed⟩ := h.givesEnd rfl commands
      have unscanned : e.scan? = none := Episode.scan?_of_phase (by rw [phase]; rfl)
      exact ⟨.answered heard unscanned (owes.tellsOutcome allows phase done) given, closed⟩

/-- A noted end waits for the answer, and is given in it. -/
theorem end_kept_of_due (due : s.EndDue) (owes : s.Owes owed) (allows : s.phase.Allows owed)
    (inputs : List (Surroundings × Input)) :
    ((∀ e ∈ s.history inputs, e.Bides) ∧ (s.run inputs).station = s) ∨
      ∃ before e after, s.history inputs = before ++ e :: after ∧ (∀ b ∈ before, b.Bides) ∧
        e.FallsDue ∧ EndedOnce after := by
  induction inputs with
  | nil => exact .inl ⟨List.forall_mem_nil _, rfl⟩
  | cons x rest ih =>
    obtain ⟨around, i⟩ := x
    cases i with
    | message m =>
      have course : s.Course around (.message m) _ _ := course_step due.running (.message m)
      obtain ⟨same, quiet⟩ := course.bides due
      have bides : Episode.Bides ⟨s, around, .message m⟩ := ⟨⟨m, rfl⟩, quiet⟩
      -- The station is as it was, so what is heard next finds the same noted end.
      rw [history, same, run, same]
      rcases ih with ⟨all, still⟩ | ⟨before, e, after, split, bide, falls, once⟩
      · exact .inl ⟨List.forall_mem_cons.mpr ⟨bides, all⟩, still⟩
      · refine .inr ⟨_ :: before, e, after, ?_, List.forall_mem_cons.mpr ⟨bides, bide⟩, falls, once⟩
        rw [split, List.cons_append]
    | event event =>
      obtain ⟨falls, closed⟩ := EndDue.fallsDue (e := ⟨s, around, .event event⟩) due owes allows rfl
      exact .inr ⟨[], _, _, rfl, List.forall_mem_nil _, falls, endedOnce_history closed rest⟩

/-! ### Requests to end -/

/-- A request to end that the phase accepts is taken up in one of two ways: with nothing in flight
the end is given, and otherwise it is noted. -/
theorem Course.askedToEnd (h : Course around s (.message m) s' es) (asked : m.action = .finish)
    (accepts : s.phase.acceptsEnd = true) :
    (s.inFlight = none ∧
      Orders around { s with endRequested := false } .endScan .awaitScanEnd s' es) ∨
      (s.inFlight.isSome = true ∧ s' = { s with endRequested := true } ∧ es = []) := by
  cases h with
  | passed h =>
    have rejects : s.phase.acceptsEnd = false := by simpa only [Passes, asked] using h
    rw [accepts] at rejects
    cases rejects
  | ended _ _ free h => exact .inl ⟨free, h⟩
  | deferred _ _ busy => exact .inr ⟨busy, rfl, rfl⟩
  -- The other courses of a message are taken upon other actions.
  | @opened _ mode _ _ asked' =>
    have same := asked'.symm.trans asked
    cases mode <;> cases same
  | @retried _ alarm _ _ _ _ _ asked' =>
    have same := asked'.symm.trans asked
    cases alarm <;> cases same
  | lookedUp asked' | writeUnnamed asked' | writing asked' => cases asked'.symm.trans asked

/-- A request to end that the phase accepts is neither lost nor overtaken, whatever the station
hears afterwards. With nothing in flight the end is given at once. Otherwise it waits behind the
alarm command in flight: nothing is sent upon any message, and the answer, of either kind, is
followed by the end as soon as its outcome is told, unless the link is lost before. However often
the end is asked for, it is not given again before another session has begun. -/
theorem end_neither_lost_nor_overtaken {ip : String} {policy : FailurePolicy}
    {inputs : List (Surroundings × Input)}
    (running : ((fresh ip policy).run inputs).station.terminated = false)
    (accepts : ((fresh ip policy).run inputs).station.phase.acceptsEnd = true)
    (asked : m.action = .finish) (around : Surroundings) (rest : List (Surroundings × Input)) :
    let s := ((fresh ip policy).run inputs).station
    let h := s.history ((around, .message m) :: rest)
    if s.inFlight = none then ∃ e after, h = e :: after ∧ e.GivesEnd ∧ EndedOnce after
    else
      ((∀ e ∈ h, e.Bides) ∧ (s.run ((around, .message m) :: rest)).station.EndDue) ∨
        ∃ before e after, h = before ++ e :: after ∧ (∀ b ∈ before, b.Bides) ∧ e.FallsDue ∧
          EndedOnce after := by
  intro s h
  have inStep : s.InStep := inStep_run ip policy inputs
  obtain ⟨owed, owes, allows⟩ : ∃ owed, s.Owes owed ∧ s.phase.Allows owed :=
    owes_run ip policy inputs running
  let first : Episode := ⟨s, around, .message m⟩
  have course : s.Course around (.message m) first.after first.turn.effects :=
    Episode.course (e := first) running
  rcases course.askedToEnd asked accepts with ⟨free, orders⟩ | ⟨busy, noted, silent⟩
  · rw [if_pos free]
    obtain ⟨given, closed⟩ := orders.givesEnd (e := first) rfl rfl
    exact ⟨first, _, rfl, given, endedOnce_history closed rest⟩
  · rw [if_neg (Option.isSome_iff_ne_none.mp busy)]
    -- Of the phases that accept the end, only an alarm wait has a command in flight.
    obtain ⟨alarm, mode, barcode, phase, -⟩ := (course.inStep inStep).ending (by rw [noted])
    have due : first.after.EndDue :=
      ⟨by rw [noted]; exact running, by rw [noted], by rw [noted]; exact busy,
        alarm, mode, barcode, phase⟩
    have owes' : first.after.Owes owed := by
      rw [noted]
      exact ⟨owes.pending, owes.retries⟩
    have allows' : first.after.phase.Allows owed := by
      rw [noted]
      exact allows
    have bides : first.Bides := ⟨⟨m, rfl⟩, by rw [Episode.commands, silent]; rfl⟩
    rcases end_kept_of_due due owes' allows' rest with
      ⟨all, still⟩ | ⟨before, e, after, split, bide, falls, once⟩
    · refine .inl ⟨List.forall_mem_cons.mpr ⟨bides, all⟩, ?_⟩
      have last : (s.run ((around, .message m) :: rest)).station = first.after := still
      rw [last]
      exact due
    · have bide' := List.forall_mem_cons.mpr ⟨bides, bide⟩
      refine .inr ⟨first :: before, e, after, ?_, bide', falls, once⟩
      exact congrArg (first :: ·) split

/-- In the sample run the end is asked for while the alarm is being turned on, and again; the screen
asks for another try, and then the reader fails. The failure is told and the end is given. -/
theorem end_neither_lost_nor_overtaken_retriedCheckin :
    let s := ((fresh "" .carryOn).run (retriedCheckin.take 3)).station
    let rest : List (Surroundings × Input) :=
      [.message { action := .retryAlarmOn, item := some { barcode := "A1" } },
        .message { action := .finish }, .event (.response { ok := false })].map
        fun i => ({ backend := .obliging }, i)
    let h := s.history (({ backend := .obliging }, .message { action := .finish }) :: rest)
    s.terminated = false ∧ s.phase.acceptsEnd = true ∧ s.inFlight.isSome = true ∧
      ∃ before e after, h = before ++ e :: after ∧ (∀ b ∈ before, b.Bides) ∧ e.FallsDue ∧
        EndedOnce after := by
  intro s rest h
  have running : s.terminated = false := by decide
  have accepts : s.phase.acceptsEnd = true := by decide
  have busy : s.inFlight.isSome = true := by decide
  refine ⟨running, accepts, busy, ?_⟩
  have kept := end_neither_lost_nor_overtaken (m := { action := .finish }) running accepts rfl
    { backend := .obliging } rest
  rw [if_neg (Option.isSome_iff_ne_none.mp busy)] at kept
  -- With the answer the end is no longer noted.
  have settled : (s.run (({ backend := .obliging }, .message { action := .finish }) ::
      rest)).station.endRequested = false := by decide
  refine kept.resolve_left fun waiting => ?_
  have asked := waiting.2.asked
  rw [settled] at asked
  cases asked

end Station

end SelfCheck
