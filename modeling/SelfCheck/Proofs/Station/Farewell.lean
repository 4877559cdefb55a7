import SelfCheck.Proofs.Station.Owed

/-!
# The last word of a station

A station can come to its end in the middle of a turn that has said and noted things already: a
command is refused inside the release of a tag, inside another try, or when a deferred end falls
due behind the outcome that was just told. Wherever it comes to its end, it says so once, with the
side that failed and the reason, and after that it never says or does anything again.

## Main definitions

* `Message.IsFarewell` — the message says that the station is at its end, and why
* `Speech` — what a station tells while it runs, and when it ends

## Main results

* `Station.Course.speech` — a turn speaks of the link only as its last word, just when it ends the
  station
* `Station.farewell_once_and_last` — so does every run, and nothing follows the farewell
-/

namespace SelfCheck

/-- The message says that the station is at its end: one of the two sides failed, for a reason. -/
structure Message.IsFarewell (m : Message) : Prop where
  action : m.action = .connect
  fault : m.rfidError ≠ m.sipError
  reason : m.errorMessage.isSome = true

theorem Message.isFarewell_readerFailure (text : String) :
    (readerFailure .connect text).IsFarewell :=
  ⟨rfl, by simp [readerFailure], rfl⟩

theorem Message.isFarewell_backendFailure (text : String) :
    (backendFailure .connect text).IsFarewell :=
  ⟨rfl, by simp [backendFailure], rfl⟩

/-- What a station tells while it runs, which is nothing about its link, and when it ends, which is
a farewell behind all the rest. -/
inductive Speech : Bool → List Message → Prop
  | going {talk : List Message} (h : ∀ m ∈ talk, m.action ≠ .connect) : Speech false talk
  | gone {talk : List Message} {last : Message} (h : ∀ m ∈ talk, m.action ≠ .connect)
      (farewell : last.IsFarewell) : Speech true (talk ++ [last])

namespace Speech

variable {ended : Bool} {ms ns : List Message}

theorem nil : Speech false [] := .going (List.forall_mem_nil _)

theorem farewell {m : Message} (h : m.IsFarewell) : Speech true [m] := 
  @gone [] m (List.forall_mem_nil _) h

/-- Nothing that is told while the station runs is about its link. -/
theorem of_going (h : Speech false ms) : ∀ m ∈ ms, m.action ≠ .connect := by
  obtain ⟨h⟩ := h
  exact h

/-- Talk that is not about the link may come first. -/
theorem prepend (h : Speech ended ns) (talk : ∀ m ∈ ms, m.action ≠ .connect) :
    Speech ended (ms ++ ns) := by
  have both {ns' : List Message} (h' : ∀ m ∈ ns', m.action ≠ .connect) :
      ∀ m ∈ ms ++ ns', m.action ≠ .connect := by
    intro m hm
    rcases List.mem_append.mp hm with hm | hm
    · exact talk m hm
    · exact h' m hm
  cases h with
  | going h => exact .going (both h)
  | gone h last =>
    rw [← List.append_assoc]
    exact .gone (both h) last

/-- There is one message about the link when the station has ended, and none before. -/
theorem countP_connect (h : Speech ended ms) :
    ms.countP (·.action = .connect) = if ended then 1 else 0 := by
  have none {talk : List Message} (h : ∀ m ∈ talk, m.action ≠ .connect) :
      talk.countP (·.action = .connect) = 0 := by
    rw [List.countP_eq_zero]
    intro m hm
    simpa using h m hm
  cases h with
  | going h => exact none h
  | @gone talk last h farewell =>
    rw [List.countP_append, none h, List.countP_singleton]
    simp [farewell.action]

theorem getLast?_farewell (h : Speech true ms) : ∃ m, ms.getLast? = some m ∧ m.IsFarewell := by
  obtain _ | ⟨-, farewell⟩ := h
  exact ⟨_, List.getLast?_concat, farewell⟩

end Speech

namespace Station

variable {around : Surroundings} {s s' : Station} {i : Input} {es : List Effect}
  {c : Reader.Command} {next : Phase} {owed : Option Toggle}

/-! ### What a turn says of the link -/

/-- The report on a failed call for a scan is about its item. -/
theorem action_of_told_inquiry {mode : Mode} {barcode : String} {ok : Bool} :
    ∀ m ∈ Effect.told (s.inquiry around mode barcode ok), m.action ≠ .connect := by
  have ruling := ruling around s mode barcode ok
  generalize s.verdict around mode barcode ok = v, s.inquiry around mode barcode ok = es at ruling ⊢
  intro m hm
  cases ruling with
  | passedOver | released | brokenOff | notLent =>
    obtain rfl := List.mem_singleton.mp hm
    intro same
    cases same
  | returned | lent | recalled | titled | untitled => cases hm

/-- The outcome of an alarm command is told under the action of the batch. -/
theorem Owes.action_of_outcome (h : s.Owes owed) {alarm : Alarm} {mode : Mode} {barcode : String}
    {ok : Bool} : ∀ m ∈ s.outcome alarm mode barcode ok, m.action ≠ .connect := by
  have batch (mode : Mode) : mode.action ≠ .connect := by
    cases mode <;> decide
  intro m hm
  cases ok with
  | false =>
    obtain rfl := List.mem_singleton.mp hm
    exact batch mode
  | true =>
    -- Only the report on what is owed can have been held back.
    have held : s.pending.get? barcode = some m := by
      simpa [Station.outcome] using hm
    rw [h.pending] at held
    cases owed with
    | none => cases held
    | some g =>
      by_cases named : g.barcode = barcode
      · rw [Option.elim_some, named, Ledger.get?_single] at held
        cases held
        exact batch g.mode
      · rw [Option.elim_some, Ledger.get?_single_of_ne named] at held
        cases held

/-- A command that is refused is the end of the station, and a command that is taken is silent. -/
theorem Orders.speech (h : Orders around s c next s' es) (running : s.terminated = false) :
    Speech s'.terminated (Effect.told es) := by
  cases h with
  | taken =>
    rw [running]
    exact .nil
  | refused f => exact .farewell (Message.isFarewell_readerFailure f.message)

/-- A turn speaks of the link only as its last word, just when it ends the station. -/
theorem Course.speech (h : Course around s i s' es) (running : s.terminated = false)
    (owes : s.Owes owed) : Speech s'.terminated (Effect.told es) := by
  cases h with
  | passed | deferred | started | blank | stray =>
    rw [running]
    exact .nil
  | opened _ _ _ h | ended _ _ _ h | writing _ _ _ _ h => exact h.speech running
  | retried _ _ h => exact h.speech (terminated_remember.trans running)
  | lookedUp =>
    rw [running]
    refine .going fun m hm same => ?_
    cases (action_of_told_lookUp hm).symm.trans same
  | writeUnnamed =>
    rw [running]
    exact .going (by simp [Message.readerFailure])
  | lost f => exact .farewell (Message.isFarewell_readerFailure f.message)
  | notStarted => exact .farewell (Message.isFarewell_readerFailure _)
  | toggled _ _ _ h =>
    rw [Effect.told_append]
    exact (h.speech (terminated_remember.trans running)).prepend action_of_told_inquiry
  | unreported =>
    rw [running]
    exact .going action_of_told_inquiry
  | aborted _ _ _ h =>
    rw [Effect.told_append]
    exact (h.speech running).prepend action_of_told_inquiry
  | gaveUp =>
    rw [Effect.told_append]
    exact (Speech.farewell (Message.isFarewell_backendFailure _)).prepend action_of_told_inquiry
  | settled =>
    rw [terminated_settle, running, Effect.told_map_tell]
    exact .going owes.action_of_outcome
  | settledLast _ _ _ h =>
    -- The outcome has been told before the end of the batch may be refused.
    rw [Effect.told_append, Effect.told_map_tell]
    exact (h.speech (terminated_settle.trans running)).prepend owes.action_of_outcome
  | closed =>
    rw [running]
    refine .going fun m hm same => ?_
    obtain rfl := List.mem_singleton.mp hm
    split at same <;> cases same
  | wrote =>
    rw [running]
    refine .going fun m hm same => ?_
    obtain rfl := List.mem_singleton.mp hm
    split at same <;> cases same

/-! ### Runs -/

theorem run_of_terminated (ended : s.terminated = true) (inputs : List (Surroundings × Input)) :
    s.run inputs = { station := s } := by
  induction inputs with
  | nil => rfl
  | cons x xs ih =>
    rw [run, step_of_terminated ended, ih]
    rfl

/-- What a station tells in a run speaks of the link only as its last word, just when the station
has ended. -/
theorem speech_run (ip : String) (policy : FailurePolicy) (inputs : List (Surroundings × Input)) :
    Speech ((fresh ip policy).run inputs).station.terminated
      (Effect.told ((fresh ip policy).run inputs).effects) := by
  rw [told_run]
  -- Each turn begins where a run ends, so what it may have held back is a report that is owed.
  refine history_induction_of_run (P := fun h s => Speech s.terminated (h.flatMap (·.told)))
    ?_ ?_ inputs
  · exact .nil
  intro xs e before old
  rw [List.flatMap_append, List.flatMap_singleton]
  cases running : e.before.terminated with
  | true =>
    have turn := Episode.turn_of_terminated running
    rw [Episode.after, Episode.told, turn, Effect.told_nil, List.append_nil]
    exact old
  | false =>
    obtain ⟨owed, owes, -⟩ := owes_run ip policy xs (before ▸ running)
    rw [← before] at owes
    rw [running] at old
    exact ((Episode.course running).speech running owes).prepend old.of_going

/-- A station speaks of its link exactly once, when it ends: it names the side that failed and the
reason, and this is the last that it says. Whatever it hears afterwards, it changes nothing, says
nothing, asks the backend nothing and sends nothing. -/
theorem farewell_once_and_last (ip : String) (policy : FailurePolicy)
    (inputs : List (Surroundings × Input)) :
    let t := (fresh ip policy).run inputs
    let said := Effect.told t.effects
    said.countP (·.action = .connect) = (if t.station.terminated then 1 else 0) ∧
      (t.station.terminated = true →
        (∃ m, said.getLast? = some m ∧ m.IsFarewell) ∧
          ∀ more, t.station.run more = { station := t.station }) := by
  intro t said
  have speech : Speech t.station.terminated said := speech_run ip policy inputs
  refine ⟨speech.countP_connect, fun ended => ⟨?_, run_of_terminated ended⟩⟩
  rw [ended] at speech
  exact speech.getLast?_farewell

end Station

end SelfCheck
