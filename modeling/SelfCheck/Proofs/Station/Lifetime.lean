import SelfCheck.Station.Session
import SelfCheck.Proofs.Reader.Stream
import SelfCheck.Proofs.Station.Farewell
import Mathlib.Data.List.Induction

/-!
# The lifetime of a station

A station waits for its reader, and then takes up whatever is there: the next message of the
screen, the next event of the reader, or the word of the registry to stop. The three sources know
nothing of each other, so any of them may come first at any time. What the screen is told is the
same story in every order: one greeting when the reader is there, then the talk of the station, and
one farewell as the last message just if the station came to its end by itself.

## Main definitions

* `Lifetime` — a station with all that has come for it, from its beginning to its end
* `Lifetime.step`, `Lifetime.run` — what may happen, in any order
* `Lifetime.beginning` — what became of the connect
* `Lifetime.Deserted` — the reading is over and the station has heard all of it, and still runs
* `Lifetime.Orderly` — what holds at every moment, by what became of the connect

## Main results

* `Lifetime.orderly_run` — every lifetime is orderly
* `Lifetime.Orderly.not_deserted` — the end of the reading is heard before it is noticed
* `Lifetime.greeting_then_station` — what the screen is told, and when the lifetime ends
-/

namespace SelfCheck

/-- A word on the link is the farewell, and the last. -/
theorem Speech.of_connect {ended : Bool} {ms before after : List Message} {m : Message}
    (h : Speech ended ms) (here : ms = before ++ m :: after) (link : m.action = .connect) :
    ended = true ∧ m.IsFarewell ∧ after = [] := by
  cases h with
  | going h =>
    have mem : m ∈ ms := here ▸ List.mem_append_right _ List.mem_cons_self
    exact absurd link (h m mem)
  | @gone talk last h farewell =>
    rcases List.eq_nil_or_concat after with rfl | ⟨after, x, rfl⟩
    · obtain ⟨-, same⟩ := List.append_inj' here rfl
      obtain rfl := List.head_eq_of_cons_eq same
      exact ⟨rfl, farewell, rfl⟩
    · rw [List.concat_eq_append, ← List.cons_append, ← List.append_assoc] at here
      obtain ⟨rfl, -⟩ := List.append_inj' here rfl
      exact absurd link (h m (List.mem_append_right _ List.mem_cons_self))

namespace Input

/-- The message that is heard. -/
def message? : Input → Option Message
  | message m => some m
  | event _ => none

/-- The event that is heard. -/
def event? : Input → Option Reader.Event
  | message _ => none
  | event e => some e

end Input

/-- Where a station is in its life. -/
inductive Stage where
  | connecting
  | running
  | ended (exit : Session.Exit)
deriving DecidableEq, Repr

/-- A station with all that has come for it. -/
structure Lifetime where
  station : Station
  stage : Stage := .connecting
  /-- The messages of the screen that wait. -/
  inbox : List Message := []
  /-- No more messages will come. -/
  screenGone : Bool := false
  /-- The reading of the reader's stream, which goes on beside the station. -/
  intake : Reader.Intake := .behind []
  /-- The events of the reader that wait. -/
  events : List Reader.Event := []
  /-- What the station has taken up, in order. -/
  taken : List (Surroundings × Input) := []
  /-- All that has been done, in order. -/
  effects : List Effect := []

namespace Lifetime

/-- What may happen next. -/
inductive Action where
  /-- The screen sends a message. -/
  | send (m : Message)
  /-- The screen is gone. -/
  | leave
  /-- The connect has an outcome: what the reader has sent behind its answer, or a fault. -/
  | connected (outcome : Except Reader.Fault Bytes)
  /-- The reader's stream goes on, or is read. -/
  | intake (move : Reader.Intake.Move)
  /-- The station looks for a message. -/
  | heed (around : Surroundings)
  /-- The station looks for an event of its reader. -/
  | hear (around : Surroundings)
  /-- The station takes up the word of the registry to stop. -/
  | stop

/-- A station that has not begun to connect. -/
def ofStation (ip : String) (policy : FailurePolicy) : Lifetime := { station := .fresh ip policy }

variable (l : Lifetime)

/-- The messages that the station has taken up. -/
def heeded : List Message := l.taken.filterMap (·.2.message?)

/-- The events that the station has taken up. -/
def heard : List Reader.Event := l.taken.filterMap (·.2.event?)

/-- The connect has an outcome, of which the screen is told. -/
def greet : Except Reader.Fault Bytes → Lifetime
  | .error f =>
    { l with
      stage := .ended .terminated
      effects := l.effects ++ [.tell (.readerFailure .connect f.message)] }
  | .ok rest =>
    { l with
      stage := .running
      intake := .behind rest
      effects := l.effects ++ [.tell (.plain .connect)] }

/-- The reader's stream goes on, or is read; what is found waits for the station. -/
def advance (move : Reader.Intake.Move) : Lifetime :=
  let intake := l.intake.step move
  { l with intake, events := l.events ++ intake.found.drop l.intake.found.length }

/-- The station takes up an input, which may be its end. -/
def turn (around : Surroundings) (i : Input) : Lifetime :=
  let t := l.station.step around i
  { l with
    station := t.station
    stage := if t.station.terminated then .ended .terminated else l.stage
    taken := l.taken ++ [(around, i)]
    effects := l.effects ++ t.effects }

/-- The station takes up the next message, or finds that no more will come. -/
def heed (around : Surroundings) : Lifetime :=
  match l.inbox with
  | m :: inbox => { l with inbox }.turn around (.message m)
  | [] => if l.screenGone then { l with stage := .ended .screenClosed } else l

/-- The station takes up the next event, or finds that no more will come. -/
def hear (around : Surroundings) : Lifetime :=
  match l.events with
  | e :: events => { l with events }.turn around (.event e)
  | [] => if l.intake.halted then { l with stage := .ended .terminated } else l

/-- What comes of an action, if it may happen. -/
def step : Action → Lifetime
  | .send m => if l.screenGone then l else { l with inbox := l.inbox ++ [m] }
  | .leave => { l with screenGone := true }
  | .connected outcome => if l.stage = .connecting then l.greet outcome else l
  | .intake move => if l.stage = .running then l.advance move else l
  | .heed around => if l.stage = .running then l.heed around else l
  | .hear around => if l.stage = .running then l.hear around else l
  | .stop =>
    match l.stage with
    | .ended _ => l
    | .connecting | .running => { l with stage := .ended .stopped }

/-- What comes of a sequence of actions. -/
def run (actions : List Action) : Lifetime := actions.foldl step l

/-- The reading is over and the station has heard all of it, and still runs. -/
def Deserted : Prop := l.stage = .running ∧ l.events = [] ∧ l.intake.halted = true

/-! ### What the actions say -/

/-- What became of the connect. -/
inductive Beginning where
  | waiting
  /-- The registry's word to stop came first. -/
  | stopped
  | failed (f : Reader.Fault)
  | connected (rest : Bytes)

/-- What became of the connect, after one more action. -/
def Beginning.after : Beginning → Action → Beginning
  | .waiting, .connected (.ok rest) => .connected rest
  | .waiting, .connected (.error f) => .failed f
  | .waiting, .stop => .stopped
  | b, _ => b

/-- What became of the connect. -/
def beginning (actions : List Action) : Beginning := actions.foldl .after .waiting

/-- The messages that the screen sends until it is gone. -/
def sent : List Action → List Message
  | [] => []
  | .send m :: actions => m :: sent actions
  | .leave :: _ => []
  | _ :: actions => sent actions

/-- What befalls the reader's stream. -/
def Action.move? : Action → Option Reader.Intake.Move
  | .intake move => some move
  | _ => none

/-! ### The queue of the screen -/

section

variable {l}

theorem heeded_turn (l : Lifetime) (around : Surroundings) (i : Input) :
    (l.turn around i).heeded = l.heeded ++ i.message?.toList := by
  cases i <;> simp [turn, heeded, Input.message?]

theorem heard_turn (l : Lifetime) (around : Surroundings) (i : Input) :
    (l.turn around i).heard = l.heard ++ i.event?.toList := by
  cases i <;> simp [turn, heard, Input.event?]

/-- The messages that have come, taken up or not. -/
def posted (l : Lifetime) : List Message := l.heeded ++ l.inbox

/-- What the screen has done so far: the messages that it has sent, and whether it is gone. -/
def screen (l : Lifetime) : List Message × Bool := (l.posted, l.screenGone)

theorem screen_greet (l : Lifetime) (outcome : Except Reader.Fault Bytes) :
    (l.greet outcome).screen = l.screen := by
  cases outcome <;> rfl

theorem screen_heed (l : Lifetime) (around : Surroundings) :
    (l.heed around).screen = l.screen := by
  unfold heed
  split
  · next m inbox h =>
    rw [screen, posted, heeded_turn, screen, posted, h, List.append_assoc]
    rfl
  · split_ifs <;> rfl

theorem screen_hear (l : Lifetime) (around : Surroundings) :
    (l.hear around).screen = l.screen := by
  unfold hear
  split
  · rw [screen, posted, heeded_turn, Input.message?, Option.toList_none, List.append_nil]
    rfl
  · split_ifs <;> rfl

/-- Only the screen adds to what the screen has done. -/
theorem screen_step (l : Lifetime) (a : Action) :
    (l.step a).screen =
      match a with
      | .send m => (l.posted ++ if l.screenGone then [] else [m], l.screenGone)
      | .leave => (l.posted, true)
      | _ => l.screen := by
  -- The screen sends and leaves; all else is done by the station, the reader or the registry.
  cases a with
  | send m =>
    rw [step]
    split_ifs
    · simp [screen]
    · simp [screen, posted, heeded]
  | leave => rfl
  | connected outcome =>
    change (l.step _).screen = l.screen
    rw [step]
    split_ifs
    · exact screen_greet l outcome
    · rfl
  | intake move =>
    change (l.step _).screen = l.screen
    rw [step]
    split_ifs <;> rfl
  | heed around =>
    change (l.step _).screen = l.screen
    rw [step]
    split_ifs
    · exact screen_heed l around
    · rfl
  | hear around =>
    change (l.step _).screen = l.screen
    rw [step]
    split_ifs
    · exact screen_hear l around
    · rfl
  | stop =>
    rw [step]
    split <;> rfl

theorem posted_run_of_gone (gone : l.screenGone = true) (actions : List Action) :
    (l.run actions).posted = l.posted := by
  induction actions generalizing l with
  | nil => rfl
  | cons a actions ih =>
    have here : (l.step a).screen = (l.posted, true) := by
      rw [screen_step]
      cases a <;> simp [screen, gone]
    obtain ⟨same, still⟩ := Prod.mk.inj here
    exact (ih still).trans same

/-- The station takes the messages of its screen up in their order, and loses none. -/
theorem posted_run (here : l.screenGone = false) (actions : List Action) :
    (l.run actions).posted = l.posted ++ sent actions := by
  induction actions generalizing l with
  | nil => exact (List.append_nil _).symm
  | cons a actions ih =>
    have next := screen_step l a
    cases a with
    | leave =>
      obtain ⟨same, gone⟩ := Prod.mk.inj next
      rw [sent, List.append_nil, ← same]
      exact posted_run_of_gone gone actions
    | send m =>
      obtain ⟨more, still⟩ := Prod.mk.inj next
      rw [here, if_neg Bool.false_ne_true] at more
      rw [sent, List.append_cons, ← more]
      exact ih (still.trans here)
    | connected | intake | heed | hear | stop =>
      obtain ⟨same, still⟩ := Prod.mk.inj next
      exact (ih (still.trans here)).trans (congrArg (· ++ sent actions) same)

end

/-! ### The course of a lifetime -/

/-- A lifetime whose reader has been there, with what came behind its answer. -/
structure Afoot (ip : String) (policy : FailurePolicy) (rest : Bytes)
    (moves : List Reader.Intake.Move) (l : Lifetime) : Prop where
  begun : l.stage ≠ .connecting
  station : l.station = ((Station.fresh ip policy).run l.taken).station
  /-- The greeting comes first, and then only what the station does. -/
  effects : l.effects =
    .tell (.plain .connect) :: ((Station.fresh ip policy).run l.taken).effects
  ended : l.stage = .ended .terminated ↔ l.station.terminated = true
  /-- The reading has gone on from what came behind the answer. -/
  reading : ∃ before, before.Sublist moves ∧ l.intake = (Reader.Intake.behind rest).run before
  told : l.intake.Told
  /-- The events of the reading wait for the station in their order, and none is lost. -/
  found : l.heard ++ l.events = l.intake.found
  /-- A station that has heard a fault is at its end. -/
  lost : ∀ f, .failed f ∈ l.heard → l.station.terminated = true

/-- What holds of a lifetime at every moment, by what became of the connect. -/
inductive Orderly (ip : String) (policy : FailurePolicy) (moves : List Reader.Intake.Move) :
    Beginning → Lifetime → Prop
  | waiting (inbox : List Message) (screenGone : Bool) :
      Orderly ip policy moves .waiting { ofStation ip policy with inbox, screenGone }
  | stopped (inbox : List Message) (screenGone : Bool) :
      Orderly ip policy moves .stopped
        { ofStation ip policy with inbox, screenGone, stage := .ended .stopped }
  | failed (f : Reader.Fault) (inbox : List Message) (screenGone : Bool) :
      Orderly ip policy moves (.failed f)
        { ofStation ip policy with
          inbox, screenGone, stage := .ended .terminated
          effects := [.tell (.readerFailure .connect f.message)] }
  | connected {rest : Bytes} {l : Lifetime} (afoot : Afoot ip policy rest moves l) :
      Orderly ip policy moves (.connected rest) l

section

variable {ip : String} {policy : FailurePolicy} {rest : Bytes} {moves : List Reader.Intake.Move}
  {l} {around : Surroundings} {i : Input} {b : Beginning}

theorem Afoot.mono (h : Afoot ip policy rest moves l) (more : List Reader.Intake.Move) :
    Afoot ip policy rest (moves ++ more) l where
  __ := h
  reading := by
    obtain ⟨before, sub, run⟩ := h.reading
    exact ⟨before, sub.trans (List.sublist_append_left ..), run⟩

/-- A fault of the reader is the end of the station. -/
theorem terminated_of_failed (s : Station) (around : Surroundings) (f : Reader.Fault) :
    (s.step around (.event (.failed f))).station.terminated = true := by
  cases running : s.terminated with
  | true => rw [Station.step_of_terminated running, running]
  | false => simp [Station.step, Station.hear, running, Turn.lose, Turn.fail, Turn.update]

theorem Afoot.advance (h : Afoot ip policy rest moves l) (move : Reader.Intake.Move) :
    Afoot ip policy rest (moves ++ [move]) (l.advance move) where
  __ := h
  reading := by
    obtain ⟨before, sub, run⟩ := h.reading
    refine ⟨before ++ [move], sub.append (List.Sublist.refl _), ?_⟩
    rw [Reader.Intake.run, List.foldl_append, Lifetime.advance, run]
    rfl
  told := h.told.step move
  found := by
    obtain ⟨news, kept⟩ := l.intake.found_prefix_step move
    change l.heard ++ (l.events ++ (l.intake.step move).found.drop l.intake.found.length) =
      (l.intake.step move).found
    rw [← kept, List.drop_left, ← List.append_assoc, h.found]

/-- What a station does with an input is a turn of its run. -/
theorem Afoot.turn (h : Afoot ip policy rest moves l) (running : l.stage = .running)
    {inbox : List Message} {events : List Reader.Event}
    (found : l.heard ++ (i.event?.toList ++ events) = l.intake.found) :
    Afoot ip policy rest moves ({ l with inbox, events }.turn around i) := by
  -- A station that runs has not come to its end, so it has heard no fault before this input.
  have alive : l.station.terminated = false := by
    rw [← Bool.not_eq_true, ← h.ended, running]
    decide
  have run : (Station.fresh ip policy).run (l.taken ++ [(around, i)]) =
      { station := (l.station.step around i).station
        effects := ((Station.fresh ip policy).run l.taken).effects ++
          (l.station.step around i).effects } := by
    rw [h.station, Station.run_append]
    simp [Station.run]
  refine { begun := ?_, station := ?_, effects := ?_, ended := ?_, reading := h.reading,
           told := h.told, found := ?_, lost := ?_ }
  · rw [Lifetime.turn]
    dsimp only
    split_ifs
    · intro begins
      cases begins
    · exact h.begun
  · exact (congrArg Turn.station run).symm
  · refine Eq.trans ?_ (congrArg (_ :: Turn.effects ·) run).symm
    change l.effects ++ _ = _
    rw [h.effects]
    rfl
  · rw [Lifetime.turn]
    dsimp only
    split_ifs with ends
    · exact iff_of_true rfl ends
    · rw [running]
      exact iff_of_false (by decide) ends
  · rw [heard_turn, List.append_assoc]
    exact found
  · intro f
    rw [heard_turn, List.mem_append]
    rintro (old | new)
    · exact absurd (h.lost f old) (alive ▸ Bool.false_ne_true)
    · cases i with
      | message m => cases new
      | event e =>
        obtain rfl := List.mem_singleton.1 new
        exact terminated_of_failed ..

/-- A station that runs may be put to its end from outside. -/
theorem Afoot.close (h : Afoot ip policy rest moves l) (running : l.stage = .running)
    {exit : Session.Exit} (outside : exit ≠ .terminated) :
    Afoot ip policy rest moves { l with stage := .ended exit } where
  __ := h
  begun := nofun
  ended := by
    refine iff_of_false (fun same => outside (Stage.ended.inj same)) ?_
    rw [← h.ended, running]
    nofun

theorem Afoot.heed (h : Afoot ip policy rest moves l) (running : l.stage = .running) :
    Afoot ip policy rest moves (l.heed around) := by
  unfold Lifetime.heed
  split
  · exact h.turn running h.found
  · split_ifs
    · exact h.close running nofun
    · exact h

/-- A station that still runs has not heard all of a reading that is over. -/
theorem Afoot.not_deserted (h : Afoot ip policy rest moves l) : ¬ l.Deserted := by
  rintro ⟨running, none, halted⟩
  -- With nothing left to hear, the fault that ended the reading has been heard.
  obtain ⟨f, hf⟩ := h.told halted
  rw [← h.found, none, List.append_nil] at hf
  have ends := h.ended.2 (h.lost f hf)
  rw [running] at ends
  cases ends

theorem Afoot.hear (h : Afoot ip policy rest moves l) (running : l.stage = .running) :
    Afoot ip policy rest moves (l.hear around) := by
  unfold Lifetime.hear
  split
  · next e events waiting =>
    refine h.turn running ?_
    rw [← h.found, waiting]
    rfl
  · next none =>
    split_ifs with halted
    · exact absurd ⟨running, none, halted⟩ h.not_deserted
    · exact h

/-- After the reader has been there, every action keeps the lifetime in order. -/
theorem Afoot.step (h : Afoot ip policy rest moves l) (a : Action) :
    Afoot ip policy rest (moves ++ a.move?.toList) (l.step a) := by
  have idle : Afoot ip policy rest (moves ++ []) l := h.mono []
  cases a with
  | send m =>
    rw [Lifetime.step]
    split_ifs
    · exact idle
    · exact { idle with }
  | leave => exact { idle with }
  | connected outcome =>
    -- The link is made once.
    rw [Lifetime.step, if_neg h.begun]
    exact idle
  | intake move =>
    rw [Lifetime.step]
    split_ifs
    · exact h.advance move
    · exact h.mono _
  | heed around =>
    rw [Lifetime.step]
    split_ifs with running
    · exact idle.heed running
    · exact idle
  | hear around =>
    rw [Lifetime.step]
    split_ifs with running
    · exact idle.hear running
    · exact idle
  | stop =>
    rw [Lifetime.step]
    split
    · exact idle
    · next connecting => exact absurd connecting h.begun
    · next running => exact idle.close running nofun

/-- The connect has been there just now. -/
theorem afoot_greet (inbox : List Message) (screenGone : Bool) (rest : Bytes) :
    Afoot ip policy rest moves
      ({ ofStation ip policy with inbox, screenGone }.greet (.ok rest)) where
  begun := nofun
  station := rfl
  effects := rfl
  ended := iff_of_false nofun nofun
  reading := ⟨[], List.nil_sublist _, rfl⟩
  told := Reader.Intake.told_behind rest
  found := rfl
  lost := nofun

/-- A lifetime that is over only waits for its screen to notice. -/
theorem step_of_ended {exit : Session.Exit} (ended : l.stage = .ended exit) (a : Action) :
    ∃ inbox screenGone, l.step a = { l with inbox, screenGone } := by
  cases a with
  | send m =>
    rw [Lifetime.step]
    split_ifs
    · exact ⟨_, _, rfl⟩
    · exact ⟨_, _, rfl⟩
  | leave => exact ⟨_, _, rfl⟩
  | connected | intake | heed | hear =>
    rw [Lifetime.step, if_neg (by rw [ended]; nofun)]
    exact ⟨_, _, rfl⟩
  | stop =>
    rw [Lifetime.step]
    split
    · exact ⟨_, _, rfl⟩
    · next other => cases ended.symm.trans other
    · next other => cases ended.symm.trans other

theorem Orderly.step (h : Orderly ip policy moves b l) (a : Action) :
    Orderly ip policy (moves ++ a.move?.toList) (b.after a) (l.step a) := by
  -- Only a connect and the word to stop lead out of the waiting; the other beginnings last.
  cases h with
  | waiting inbox gone =>
    cases a with
    | connected outcome =>
      cases outcome with
      | error f => exact .failed f inbox gone
      | ok rest => exact .connected (afoot_greet inbox gone rest)
    | send m =>
      rw [Lifetime.step]
      split_ifs
      · exact .waiting ..
      · exact .waiting ..
    | leave => exact .waiting ..
    | stop => exact .stopped ..
    | intake | heed | hear => exact .waiting ..
  | stopped inbox gone =>
    obtain ⟨inbox, gone, same⟩ := step_of_ended (l := { ofStation ip policy with
      inbox, screenGone := gone, stage := .ended .stopped }) rfl a
    rw [same]
    exact .stopped inbox gone
  | failed f inbox gone =>
    obtain ⟨inbox, gone, same⟩ := step_of_ended (l := { ofStation ip policy with
      inbox, screenGone := gone, stage := .ended .terminated
      effects := [.tell (.readerFailure .connect f.message)] }) rfl a
    rw [same]
    exact .failed f inbox gone
  | connected afoot =>
    have here := afoot.step a
    cases a <;> exact .connected here

/-- Every lifetime is orderly. -/
theorem orderly_run (ip : String) (policy : FailurePolicy) (actions : List Action) :
    Orderly ip policy (actions.filterMap Action.move?) (beginning actions)
      ((ofStation ip policy).run actions) := by
  induction actions using List.reverseRecOn with
  | nil => exact .waiting [] false
  | append_singleton actions a ih =>
    have moved : [a].filterMap Action.move? = a.move?.toList := by cases a <;> rfl
    rw [List.filterMap_append, moved, beginning, run, List.foldl_concat, List.foldl_concat]
    exact ih.step a

/-- A lifetime that is over has told its screen nothing just if it was stopped while it connected. -/
theorem Orderly.silent_iff (h : Orderly ip policy moves b l) {exit : Session.Exit}
    (ended : l.stage = .ended exit) : Effect.told l.effects = [] ↔ b = .stopped := by
  cases h with
  | waiting => cases ended
  | stopped => exact iff_of_true rfl rfl
  | failed => exact iff_of_false nofun nofun
  | connected afoot =>
    rw [afoot.effects]
    exact iff_of_false nofun nofun

theorem Orderly.of_stopped (h : Orderly ip policy moves .stopped l) :
    l.stage = .ended .stopped := by
  cases h
  rfl

/-- A connect that fails is told in one message. -/
theorem Orderly.of_failed {f : Reader.Fault} (h : Orderly ip policy moves (.failed f) l) :
    l.stage = .ended .terminated ∧
      Effect.told l.effects = [.readerFailure .connect f.message] := by
  cases h
  exact ⟨rfl, rfl⟩

theorem Orderly.afoot (h : Orderly ip policy moves (.connected rest) l) :
    Afoot ip policy rest moves l := by
  cases h with
  | connected afoot => exact afoot

/-- Once the greeting is told, there is a second word on the link just if the station has come to
its end. -/
theorem Afoot.terminated_iff (h : Afoot ip policy rest moves l) :
    l.stage = .ended .terminated ↔
      ∃ m ∈ Effect.told ((Station.fresh ip policy).run l.taken).effects, m.action = .connect := by
  have speech := Station.speech_run ip policy l.taken
  rw [h.ended, h.station]
  constructor
  · intro ends
    rw [ends] at speech
    obtain ⟨m, last, farewell⟩ := speech.getLast?_farewell
    exact ⟨m, List.mem_of_getLast? last, farewell.action⟩
  · rintro ⟨m, mem, link⟩
    obtain ⟨before, after, split⟩ := List.append_of_mem mem
    exact (speech.of_connect split link).1

/-- No lifetime is ever deserted. -/
theorem Orderly.not_deserted (h : Orderly ip policy moves b l) : ¬ l.Deserted := by
  cases h with
  | waiting | stopped | failed => exact fun deserted => nomatch deserted.1
  | connected afoot => exact afoot.not_deserted

/-- Until the reader has been there, nothing is taken up. -/
theorem Orderly.taken_eq_nil (h : Orderly ip policy moves b l)
    (before : ∀ rest, b ≠ .connected rest) : l.taken = [] := by
  cases h with
  | waiting | stopped | failed => rfl
  | connected => exact absurd rfl (before _)

/-- The events of the reading come to the station in their order, and none is lost. -/
theorem Orderly.found (h : Orderly ip policy moves b l) :
    l.heard ++ l.events = l.intake.found := by
  cases h with
  | waiting | stopped | failed => rfl
  | connected afoot => exact afoot.found

theorem Orderly.sound (h : Orderly ip policy moves b l) : l.intake.Sound := by
  cases h with
  | waiting | stopped | failed => exact Reader.Intake.sound_behind []
  | connected afoot =>
    obtain ⟨before, -, run⟩ := afoot.reading
    rw [run]
    exact (Reader.Intake.sound_behind _).run before

end

/-- In whatever order the messages of the screen, the events of the reader and the word to stop are
taken up, the screen is told the same story. It is told nothing just if the station is stopped while
it connects. A connect that fails is told in one message, which is also the end. Otherwise there is
one greeting, behind it only what the station says on what it takes up, and the lifetime ends with
the end of the station just if there is a second word on the link, which then says what failed and
is the last. Messages and events are taken up in their order, once each and only behind the
greeting; and the end of the reading is always heard before it is noticed. -/
theorem greeting_then_station (ip : String) (policy : FailurePolicy) (actions : List Action) :
    let l := (ofStation ip policy).run actions
    let said := Effect.told l.effects
    let talk := Effect.told ((Station.fresh ip policy).run l.taken).effects
    (∀ exit, l.stage = .ended exit → (said = [] ↔ beginning actions = .stopped)) ∧
    (beginning actions = .stopped → l.stage = .ended .stopped) ∧
    (∀ f, beginning actions = .failed f →
      l.stage = .ended .terminated ∧ said = [.readerFailure .connect f.message]) ∧
    (∀ rest, beginning actions = .connected rest →
      l.effects = .tell (.plain .connect) :: ((Station.fresh ip policy).run l.taken).effects ∧
      (l.stage = .ended .terminated ↔ ∃ m ∈ talk, m.action = .connect) ∧
      ∀ before m after, talk = before ++ m :: after → m.action = .connect →
        m.IsFarewell ∧ after = []) ∧
    ((∀ rest, beginning actions ≠ .connected rest) → l.taken = []) ∧
    l.heeded ++ l.inbox = sent actions ∧
    l.heard ++ l.events = l.intake.found ∧
    l.intake.found <+: Reader.events l.intake.received ∧
    ¬ l.Deserted := by
  intro l said talk
  have orderly := orderly_run ip policy actions
  have posted := @posted_run (ofStation ip policy) rfl actions
  refine ⟨?_, ?_, ?_, ?_, orderly.taken_eq_nil, posted, orderly.found, ?_, orderly.not_deserted⟩
  · exact fun exit => orderly.silent_iff
  · exact fun stopped => (stopped ▸ orderly).of_stopped
  · exact fun f failed => (failed ▸ orderly).of_failed
  · intro rest connected
    have afoot := (connected ▸ orderly).afoot
    refine ⟨afoot.effects, afoot.terminated_iff, fun before m after split link => ?_⟩
    exact ((Station.speech_run ip policy l.taken).of_connect split link).2
  · have sound := orderly.sound [] fun _ => rfl
    rw [List.append_nil] at sound
    exact ⟨_, sound.symm⟩

/-- The reader ends its stream at once, and the station hears so before it heeds the message that has
waited: the greeting, the farewell, and nothing about the message. -/
example (around : Surroundings) :
    let l := (ofStation "10.0.0.7" .carryOn).run
      [.send (.plain .checkout), .connected (.ok []), .intake .finish, .intake .read,
        .hear around, .heed around]
    l.stage = .ended .terminated ∧ l.inbox = [.plain .checkout] ∧ Effect.told l.effects =
      [.plain .connect, .readerFailure .connect "RFID reader connection closed"] :=
  ⟨rfl, rfl, rfl⟩

end Lifetime

end SelfCheck
