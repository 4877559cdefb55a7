import SelfCheck.Proofs.Station.Lifetime

/-!
# Sessions as schedules

A session has one way of dealing with what occurs to it: it takes up all that is there before
anything else occurs. A lifetime leaves the order open, so every session is a lifetime in which the
actions happen to come in that order, and what holds of all lifetimes holds of sessions.

## Main definitions

* `Lifetime.Shows` — the session that a lifetime has come to
* `Lifetime.Comes` — a session that the lifetime comes to by some actions, and what is done

## Main results

* `Lifetime.run_pending` — the station takes up all that waits, as in a run of its own
* `Lifetime.comes_listen` — the stream is read as far as it has arrived, and heard
* `Session.exists_lifetime` — a session does what some lifetime does
-/

namespace SelfCheck

namespace Lifetime

variable {l : Lifetime} {around : Surroundings} {actions : List Action}

theorem run_append (l : Lifetime) (xs ys : List Action) :
    l.run (xs ++ ys) = (l.run xs).run ys := List.foldl_append

/-- The session that a lifetime has come to. -/
inductive Shows (l : Lifetime) : Session → Prop
  | connecting (stage : l.stage = .connecting) (running : l.station.terminated = false)
      (quiet : l.events = []) : Shows l (.connecting l.station l.inbox l.screenGone)
  | running (stage : l.stage = .running) (running : l.station.terminated = false)
      (here : l.screenGone = false) (still : l.inbox = []) (quiet : l.events = [])
      (opened : l.intake.ended = false) (reading : l.intake.halted = false) :
      Shows l (.running l.station l.intake.unread)
  | ended {exit : Session.Exit} (stage : l.stage = .ended exit) : Shows l (.over exit)

/-- The lifetime comes to a session by some actions, with some effects. -/
def Comes (l : Lifetime) (outcome : Session × List Effect) : Prop :=
  ∃ actions, (l.run actions).Shows outcome.1 ∧
    (l.run actions).effects = l.effects ++ outcome.2

/-- The inputs that wait. -/
def pending (l : Lifetime) : List Input := l.inbox.map .message ++ l.events.map .event

/-- The action by which an input is taken up. -/
def taking (around : Surroundings) : Input → Action
  | .message _ => .heed around
  | .event _ => .hear around

theorem run_of_ended {exit : Session.Exit} (ended : l.stage = .ended exit) (actions : List Action) :
    (l.run actions).stage = .ended exit ∧ (l.run actions).effects = l.effects := by
  induction actions generalizing l with
  | nil => exact ⟨ended, rfl⟩
  | cons a actions ih =>
    obtain ⟨inbox, gone, same⟩ := step_of_ended ended a
    rw [run, List.foldl_cons, same]
    exact ih ended

/-- The first input that waits is taken up. -/
theorem step_taking {i : Input} {rest : List Input} (running : l.stage = .running)
    (waits : l.pending = i :: rest) :
    ∃ inbox events, l.step (taking around i) = { l with inbox, events }.turn around i ∧
      inbox.map .message ++ events.map .event = rest := by
  cases hinbox : l.inbox with
  | cons m inbox =>
    rw [pending, hinbox, List.map_cons, List.cons_append, List.cons.injEq] at waits
    obtain ⟨rfl, waits⟩ := waits
    exact ⟨inbox, l.events, by rw [taking, step, if_pos running, heed, hinbox], waits⟩
  | nil =>
    rw [pending, hinbox, List.map_nil, List.nil_append, List.map_eq_cons_iff] at waits
    obtain ⟨e, events, hevents, rfl, waits⟩ := waits
    refine ⟨[], events, ?_, waits⟩
    rw [taking, step, if_pos running, hear, hevents, ← hinbox]

/-- What a lifetime has come to when its station has taken up all that waited, as in the turns of a
run. -/
structure Took (l : Lifetime) (t : Turn) (l' : Lifetime) : Prop where
  effects : l'.effects = l.effects ++ t.effects
  ended : t.station.terminated = true → l'.stage = .ended .terminated
  going : t.station.terminated = false →
    l'.stage = .running ∧ l'.station = t.station ∧ l'.pending = [] ∧
      l'.screenGone = l.screenGone ∧ l'.intake = l.intake

/-- The station takes up all that waits, as in a run of its own. -/
theorem run_pending (running : l.stage = .running) (alive : l.station.terminated = false) :
    Took l (l.station.run (l.pending.map (around, ·))) (l.run (l.pending.map (taking around))) := by
  -- On what waits. A turn that ends the station ends the run too, and the rest stays where it is.
  generalize waits : l.pending = inputs
  induction inputs generalizing l with
  | nil =>
    exact ⟨(List.append_nil _).symm, fun ends => absurd ends (alive ▸ Bool.false_ne_true),
      fun _ => ⟨running, rfl, waits, rfl, rfl⟩⟩
  | cons i rest ih =>
    obtain ⟨inbox, events, first, left⟩ := @step_taking l around i rest running waits
    have tail : l.run ((i :: rest).map (taking around)) =
        ({ l with inbox, events }.turn around i).run (rest.map (taking around)) := by
      rw [← first]
      rfl
    rw [tail]
    generalize next : { l with inbox, events }.turn around i = l₁
    have station : l₁.station = (l.station.step around i).station := next ▸ rfl
    have effects : l₁.effects = l.effects ++ (l.station.step around i).effects := next ▸ rfl
    have stage : l₁.stage =
      if (l.station.step around i).station.terminated then .ended .terminated else l.stage :=
        next ▸ rfl
    have turns : l.station.run ((i :: rest).map (around, ·)) =
        { station := (l₁.station.run (rest.map (around, ·))).station
          effects := (l.station.step around i).effects ++
            (l₁.station.run (rest.map (around, ·))).effects } := by
      rw [station]
      rfl
    rw [turns]
    cases ends : (l.station.step around i).station.terminated with
    | true =>
      rw [ends, if_pos rfl] at stage
      obtain ⟨stays, silent⟩ := run_of_ended stage (rest.map (taking around))
      rw [Station.run_of_terminated (station ▸ ends)]
      refine ⟨?_, fun _ => stays, fun still => ?_⟩
      · rw [silent, effects, List.append_nil]
      · change l₁.station.terminated = false at still
        rw [station, ends] at still
        cases still
    | false =>
      rw [ends, if_neg Bool.false_ne_true] at stage
      have later := @ih l₁ (stage.trans running) (station ▸ ends) (next ▸ left)
      refine ⟨?_, later.ended, fun still => ?_⟩
      · rw [later.effects, effects, List.append_assoc]
      · obtain ⟨runs, same, none, gone, intake⟩ := later.going still
        exact ⟨runs, same, none, gone.trans (next ▸ rfl), intake.trans (next ▸ rfl)⟩

/-- What is found in the stream waits for the station. -/
theorem exists_run_moves (running : l.stage = .running) (moves : List Reader.Intake.Move) :
    ∃ news, (l.intake.run moves).found = l.intake.found ++ news ∧
      l.run (moves.map .intake) =
        { l with intake := l.intake.run moves, events := l.events ++ news } := by
  induction moves generalizing l with
  | nil => exact ⟨[], (List.append_nil _).symm, by simp [run, Reader.Intake.run]⟩
  | cons move moves ih =>
    obtain ⟨first, kept⟩ := l.intake.found_prefix_step move
    have here : l.step (.intake move) =
        { l with intake := l.intake.step move, events := l.events ++ first } := by
      rw [step, if_pos running, advance, ← kept, List.drop_left]
    obtain ⟨news, found, later⟩ := @ih (l.step (.intake move)) (by rw [here, running])
    refine ⟨first ++ news, ?_, ?_⟩
    · rw [here, ← kept, List.append_assoc] at found
      exact found
    · refine later.trans ?_
      rw [here, ← List.append_assoc]
      rfl

/-- Some actions may come first. -/
theorem Comes.of_run (actions : List Action) {session : Session} {es more : List Effect}
    (h : (l.run actions).Comes (session, more))
    (effects : (l.run actions).effects = l.effects ++ es) : l.Comes (session, es ++ more) := by
  obtain ⟨later, shows, done⟩ := h
  refine ⟨actions ++ later, ?_, ?_⟩
  · rwa [run_append]
  · rw [run_append, done, effects, List.append_assoc]

/-- Silent actions may come first. -/
theorem Comes.of_silent (actions : List Action) {outcome : Session × List Effect}
    (h : (l.run actions).Comes outcome) (silent : (l.run actions).effects = l.effects) :
    l.Comes outcome :=
  h.of_run actions (silent.trans (List.append_nil _).symm)

/-- A fault that is heard is the end of the station. -/
theorem terminated_run_of_failed {s : Station} {inputs : List Input} {f : Reader.Fault}
    (mem : .event (.failed f) ∈ inputs) :
    (s.run (inputs.map (around, ·))).station.terminated = true := by
  obtain ⟨before, after, rfl⟩ := List.append_of_mem mem
  rw [List.map_append, Station.run_append, List.map_cons, Station.run]
  have ends := terminated_of_failed (s.run (before.map (around, ·))).station around f
  dsimp only
  rw [Station.run_of_terminated ends]
  exact ends

/-- The station takes up all that waits; unless this is its end, the stream stands as before. -/
theorem comes_turns (running : l.stage = .running) (alive : l.station.terminated = false)
    (here : l.screenGone = false) {arrived : Bytes}
    (stands : (l.station.run (l.pending.map (around, ·))).station.terminated = false →
      l.intake.ended = false ∧ l.intake.halted = false ∧ l.intake.unread = arrived) :
    l.Comes (Session.turns around l.station l.pending arrived) := by
  have took := @run_pending l around running alive
  refine ⟨_, ?_, took.effects⟩
  rw [Session.turns]
  cases ends : (l.station.run (l.pending.map (around, ·))).station.terminated with
  | true => exact .ended (took.ended ends)
  | false =>
    obtain ⟨stage, station, none, gone, intake⟩ := took.going ends
    obtain ⟨still, quiet⟩ := List.append_eq_nil_iff.1 none
    obtain ⟨opened, reading, rfl⟩ := stands ends
    rw [← intake] at opened reading
    dsimp only
    rw [if_neg Bool.false_ne_true, ← station, ← intake]
    exact .running stage (station ▸ ends) (gone.trans here) (List.map_eq_nil_iff.1 still)
      (List.map_eq_nil_iff.1 quiet) opened reading

/-- What has arrived of the stream is read. -/
theorem exists_run_reads (running : l.stage = .running) (reading : l.intake.halted = false) :
    let d := Reader.drain l.intake.ended l.intake.unread
    ∃ reads intake, l.run reads = { l with intake, events := l.events ++ d.events } ∧
      intake.ended = l.intake.ended ∧ intake.halted = d.fault.isSome ∧
      (d.fault = none → intake.unread = d.rest) := by
  intro d
  obtain ⟨n, found, halted, ended, unread⟩ := Reader.Intake.exists_run_drain reading
  obtain ⟨news, found', read⟩ := exists_run_moves running (List.replicate n .read)
  obtain rfl := List.append_cancel_left (found'.symm.trans found)
  exact ⟨_, _, read, ended, halted, unread⟩

/-- What has arrived of the stream is read, and then heard. -/
theorem comes_listen (running : l.stage = .running) (alive : l.station.terminated = false)
    (here : l.screenGone = false) (still : l.inbox = []) (quiet : l.events = [])
    (reading : l.intake.halted = false) :
    l.Comes (Session.listen around l.station l.intake.ended l.intake.unread) := by
  obtain ⟨reads, intake, read, ended, halted, unread⟩ := exists_run_reads running reading
  have fault : l.intake.ended = true →
      (Reader.drain l.intake.ended l.intake.unread).fault.isSome = true :=
    fun h => h ▸ Reader.isSome_fault_drain _
  rw [Session.listen]
  generalize Reader.drain l.intake.ended l.intake.unread = d at *
  rw [quiet, List.nil_append] at read
  have turns : (l.run reads).Comes
      (Session.turns around l.station (d.events.map .event) d.rest) := by
    rw [read]
    have waits : { l with intake, events := d.events }.pending = d.events.map .event := by
      rw [pending, still]
      rfl
    rw [← waits]
    refine comes_turns (l := { l with intake, events := d.events }) running alive here
      fun goes => ?_
    -- A station that goes on has heard no fault, so the reading goes on as well.
    have none : d.fault = none := by
      rw [Option.eq_none_iff_forall_ne_some]
      intro f hf
      have mem : .event (.failed f) ∈ d.events.map Input.event :=
        List.mem_map_of_mem (List.mem_append_right _ (by simp [hf]))
      rw [waits, terminated_run_of_failed mem] at goes
      cases goes
    refine ⟨?_, ?_, unread none⟩
    · rw [ended, ← Bool.not_eq_true]
      intro closed
      have failed := fault closed
      rw [none] at failed
      cases failed
    · rw [halted, none, Option.isSome_none]
  obtain ⟨later, shows, done⟩ := turns
  rw [← run_append] at shows done
  refine ⟨_, shows, done.trans ?_⟩
  rw [read]

/-- The stream goes on or ends, and what has arrived is read and then heard. -/
theorem comes_listen_after (running : l.stage = .running) (alive : l.station.terminated = false)
    (here : l.screenGone = false) (still : l.inbox = []) (quiet : l.events = [])
    (move : Reader.Intake.Move) (found : (l.intake.step move).found = l.intake.found)
    (reading : (l.intake.step move).halted = false) :
    l.Comes (Session.listen around l.station (l.intake.step move).ended
      (l.intake.step move).unread) := by
  have next : l.run [.intake move] = { l with intake := l.intake.step move } := by
    rw [run, List.foldl_cons, List.foldl_nil, step, if_pos running, advance, found,
      List.drop_length, List.append_nil]
  refine Comes.of_silent [.intake move] ?_ (by rw [next])
  rw [next]
  exact comes_listen (l := { l with intake := l.intake.step move })
    running alive here still quiet reading

/-- Once no message waits, the station finds that its screen is gone. -/
theorem comes_of_screenGone (around : Surroundings) (running : l.stage = .running)
    (still : l.inbox = []) (gone : l.screenGone = true) : l.Comes (.over .screenClosed, []) := by
  have found : l.run [.heed around] = { l with stage := .ended .screenClosed } := by
    rw [run, List.foldl_cons, List.foldl_nil, step, if_pos running, heed, still]
    exact if_pos gone
  refine ⟨[.heed around], ?_⟩
  rw [found]
  exact ⟨.ended rfl, (List.append_nil _).symm⟩

/-- A connected station reports so, takes up the messages that have waited, and hears what the
reader has sent already. -/
theorem comes_begin (stage : l.stage = .connecting) (alive : l.station.terminated = false)
    (quiet : l.events = []) (ended : Bool) (rest : Bytes) :
    l.Comes (Session.begin around l.station l.inbox l.screenGone ended rest) := by
  have greeted : l.run [.connected (.ok rest)] = l.greet (.ok rest) := if_pos stage
  have waits : (l.greet (.ok rest)).pending = l.inbox.map .message := by
    rw [pending, greet, quiet]
    exact List.append_nil _
  have took := @run_pending (l.greet (.ok rest)) around rfl alive
  rw [waits] at took
  -- The station may end on what has waited; then the reader is not heard any more.
  generalize hl₂ : (l.greet (.ok rest)).run ((l.inbox.map .message).map (taking around)) = l₂ at took
  have there : l.run (.connected (.ok rest) :: (l.inbox.map .message).map (taking around)) = l₂ := by
    rw [← hl₂, ← greeted]
    rfl
  have told : l₂.effects = l.effects ++ .tell (.plain .connect) ::
      (l.station.run ((l.inbox.map .message).map (around, ·))).effects :=
    took.effects.trans (List.append_assoc ..)
  refine Comes.of_run (.connected (.ok rest) :: (l.inbox.map .message).map (taking around)) ?_ ?_
  · rw [there]
    cases ends : (l.station.run ((l.inbox.map .message).map (around, ·))).station.terminated with
    | true => exact ⟨[], .ended (took.ended ends), (List.append_nil _).symm⟩
    | false =>
      obtain ⟨running, station, none, gone, intake⟩ := took.going ends
      obtain ⟨still, quiet⟩ := List.append_eq_nil_iff.1 none
      rw [List.map_eq_nil_iff] at still quiet
      change l₂.screenGone = l.screenGone at gone
      change l₂.intake = .behind rest at intake
      change l₂.station = (l.station.run ((l.inbox.map .message).map (around, ·))).station at station
      rw [if_neg Bool.false_ne_true, ← gone, ← station]
      dsimp only
      cases here : l₂.screenGone with
      | true => exact comes_of_screenGone around running still here
      | false =>
        have reading : l₂.intake.halted = false := by
          rw [intake]
          rfl
        cases ended with
        | false =>
          have listened := @comes_listen l₂ around running (station ▸ ends) here still quiet reading
          rw [intake] at listened
          exact listened
        | true =>
          have listened := @comes_listen_after l₂ around running (station ▸ ends) here still quiet
            .finish rfl reading
          rw [intake] at listened
          exact listened
  · rw [there, told]

theorem Shows.step {session : Session} (h : l.Shows session) (around : Surroundings)
    (o : Session.Occurrence) : l.Comes (session.step around o) := by
  -- What comes of the reader before the link stands is part of the approach.
  have stays : l.Comes (session, []) := ⟨[], h, (List.append_nil _).symm⟩
  cases h with
  | ended stage => exact stays
  | connecting stage alive quiet =>
    cases o with
    | approach address a =>
      unfold Session.step
      dsimp only
      split
      · exact stays
      · next f failed =>
        refine ⟨[.connected (.error f)], ?_⟩
        rw [run, List.foldl_cons, List.foldl_nil, Lifetime.step, if_pos stage]
        exact ⟨.ended rfl, rfl⟩
      · exact comes_begin stage alive quiet _ _
    | message m =>
      refine ⟨[.send m], ?_⟩
      rw [run, List.foldl_cons, List.foldl_nil, Lifetime.step, Session.step]
      split_ifs
      · exact ⟨.connecting stage alive quiet, (List.append_nil _).symm⟩
      · exact ⟨.connecting stage alive quiet, (List.append_nil _).symm⟩
    | bytes bs => exact stays
    | readerEnd => exact stays
    | screenEnd => exact ⟨[.leave], .connecting stage alive quiet, (List.append_nil _).symm⟩
    | stop =>
      refine ⟨[.stop], ?_⟩
      rw [run, List.foldl_cons, List.foldl_nil, Lifetime.step, stage]
      exact ⟨.ended rfl, (List.append_nil _).symm⟩
  | running stage alive here still quiet opened reading =>
    cases o with
    | approach address a => exact stays
    | message m =>
      have sent : l.run [.send m] = { l with inbox := [m] } := by
        rw [run, List.foldl_cons, List.foldl_nil, Lifetime.step, here, still]
        rfl
      have waits : { l with inbox := [m] }.pending = [.message m] := by
        rw [pending, quiet]
        rfl
      refine Comes.of_silent [.send m] ?_ (by rw [sent])
      rw [sent, Session.step, ← waits]
      exact comes_turns (l := { l with inbox := [m] }) stage alive here
        fun _ => ⟨opened, reading, rfl⟩
    | bytes bs =>
      have arrived : l.intake.step (.arrive bs) = { l.intake with
          received := l.intake.received ++ bs, unread := l.intake.unread ++ bs } :=
        Reader.Intake.arrive_of_open opened bs
      have comes := @comes_listen_after l around stage alive here still quiet (.arrive bs)
      rw [arrived] at comes
      have listened := comes rfl reading
      rw [opened] at listened
      exact listened
    | readerEnd => exact comes_listen_after stage alive here still quiet .finish rfl reading
    | screenEnd =>
      refine Comes.of_silent [.leave] ?_ rfl
      exact comes_of_screenGone (l := { l with screenGone := true }) around stage still rfl
    | stop =>
      refine ⟨[.stop], ?_⟩
      rw [run, List.foldl_cons, List.foldl_nil, Lifetime.step, stage]
      exact ⟨.ended rfl, (List.append_nil _).symm⟩

theorem Shows.run {session : Session} (h : l.Shows session) (around : Surroundings)
    (occurrences : List Session.Occurrence) : l.Comes (session.run around occurrences) := by
  induction occurrences generalizing l session with
  | nil => exact ⟨[], h, (List.append_nil _).symm⟩
  | cons o rest ih =>
    obtain ⟨actions, shows, done⟩ := h.step around o
    exact (ih shows).of_run actions done

end Lifetime

/-- Every session is a lifetime: some actions bring the station just as far, and what is done on the
way is the same. -/
theorem Session.exists_lifetime (ip : String) (policy : FailurePolicy) (around : Surroundings)
    (occurrences : List Occurrence) :
    let (session, effects) := run around (.connecting (.fresh ip policy) [] false) occurrences
    ∃ actions, ((Lifetime.ofStation ip policy).run actions).Shows session ∧
      ((Lifetime.ofStation ip policy).run actions).effects = effects := by
  have begun : (Lifetime.ofStation ip policy).Shows (.connecting (.fresh ip policy) [] false) :=
    .connecting rfl rfl rfl
  exact begun.run around occurrences

end SelfCheck
