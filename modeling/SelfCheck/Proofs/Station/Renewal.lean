import SelfCheck.Proofs.Station.Outstanding

/-!
# A batch begins anew

What a station knows of one patron's items must not show in the next one's batch. An idle station
may well hold an item recorded last, reports that were held back and tags to be tried again; the
message that opens a batch clears all of it, and what it does not clear is at rest in an idle
station. So from that message on the station is one that has heard nothing before: of two stations
with the same policy, whatever they heard, everything that follows is the same. They may differ in
the address of their reader, which no turn looks at.

## Main definitions

* `Station.relocate`, `Turn.relocate` — the same at another address
* `Episode.SameButAddress` — two episodes do the same and leave the same

## Main results

* `Station.step_relocate` — no turn looks at the address
* `Station.step_opening` — an idle station opens a batch as one that has heard nothing
* `Station.batches_begin_alike` — no trace of what was heard before is left in a batch
-/

namespace SelfCheck

/-- The station at another address. -/
def Station.relocate (s : Station) (ip : String) : Station := { s with ip }

/-! ### The address

Every function of a turn commutes with a change of the address. Its guards read other fields, what
it changes are other fields, and the functions that it calls commute; so each proof only follows the
cases of the definition, one lemma for each function. -/

namespace Turn

/-- The turn of the station at another address. -/
def relocate (t : Turn) (ip : String) : Turn := t.update (·.relocate ip)

section Fields

variable {t : Turn} {ip : String}

@[simp] theorem phase_relocate : (t.relocate ip).station.phase = t.station.phase := rfl

@[simp] theorem inFlight_relocate : (t.relocate ip).station.inFlight = t.station.inFlight := rfl

@[simp] theorem policy_relocate : (t.relocate ip).station.policy = t.station.policy := rfl

@[simp] theorem branch_relocate : (t.relocate ip).station.branch = t.station.branch := rfl

@[simp] theorem current_relocate : (t.relocate ip).station.current = t.station.current := rfl

@[simp] theorem pending_relocate : (t.relocate ip).station.pending = t.station.pending := rfl

@[simp] theorem retries_relocate (alarm : Alarm) :
    (t.relocate ip).station.retries alarm = t.station.retries alarm := by
  cases alarm <;> rfl

@[simp] theorem endRequested_relocate :
    (t.relocate ip).station.endRequested = t.station.endRequested := rfl

@[simp] theorem tell_relocate (m : Message) : (t.relocate ip).tell m = (t.tell m).relocate ip := rfl

@[simp] theorem act_relocate (e : Effect) : (t.relocate ip).act e = (t.act e).relocate ip := rfl

@[simp] theorem enter_relocate (p : Phase) :
    (t.relocate ip).enter p = (t.enter p).relocate ip := rfl

end Fields

variable (around : Surroundings) (t : Turn) (ip : String)

theorem fail_relocate (m : Message) : (t.relocate ip).fail m = (t.fail m).relocate ip := by
  cases ended : t.station.terminated <;>
    simp [fail, relocate, update, tell, act, Station.relocate, ended]

theorem order_relocate (c : Reader.Command) (next : Phase) :
    (t.relocate ip).order around c next = (t.order around c next).relocate ip := by
  simp only [order, inFlight_relocate]
  cases t.station.inFlight with
  | some k => rfl
  | none =>
    cases around.refusal with
    | none => rfl
    | some f =>
      -- A refused command has been counted by then, alike at both addresses.
      dsimp only [lose]
      rw [← fail_relocate]
      rfl

theorem toggle_relocate (alarm : Alarm) (mode : Mode) (barcode : String) (tag : Option String) :
    (t.relocate ip).toggle around alarm mode barcode tag =
      (t.toggle around alarm mode barcode tag).relocate ip := by
  unfold toggle
  rw [← order_relocate]
  -- The tag is noted in one ledger or the other.
  cases alarm <;> rfl

theorem beginBatch_relocate (mode : Mode) (m : Message) :
    (t.relocate ip).beginBatch around mode m = (t.beginBatch around mode m).relocate ip := by
  unfold beginBatch
  rw [phase_relocate, inFlight_relocate]
  split
  · rw [← order_relocate]
    rfl
  · rfl

theorem endBatch_relocate :
    (t.relocate ip).endBatch around = (t.endBatch around).relocate ip := by
  unfold endBatch
  rw [phase_relocate, inFlight_relocate]
  split
  · split
    · rfl
    · rw [← order_relocate]
      rfl
  · rfl

theorem retryAlarm_relocate (alarm : Alarm) (m : Message) :
    (t.relocate ip).retryAlarm around alarm m = (t.retryAlarm around alarm m).relocate ip := by
  simp only [retryAlarm, phase_relocate, inFlight_relocate, retries_relocate]
  split
  · split
    · exact toggle_relocate ..
    · rfl
  · rfl

theorem lookUp_relocate (m : Message) :
    (t.relocate ip).lookUp around m = (t.lookUp around m).relocate ip := by
  unfold lookUp
  cases m.namedBarcode? with
  | none => rfl
  | some barcode => cases answer : around.backend.itemStatus barcode <;> simp [answer]

theorem writeTag_relocate (m : Message) :
    (t.relocate ip).writeTag around m = (t.writeTag around m).relocate ip := by
  unfold writeTag
  rw [phase_relocate, inFlight_relocate]
  split
  · cases m.namedBarcode? with
    | none => rfl
    | some barcode => exact order_relocate ..
  · rfl

theorem checkinItem_relocate (barcode : String) (tag : Option String) :
    (t.relocate ip).checkinItem around barcode tag =
      (t.checkinItem around barcode tag).relocate ip := by
  simp only [checkinItem, act_relocate, branch_relocate]
  cases around.backend.checkin t.station.branch barcode with
  | ok item =>
    dsimp only
    rw [← toggle_relocate]
    rfl
  | error e =>
    simp only [tell_relocate, policy_relocate]
    split
    · rfl
    · rw [← toggle_relocate]
      rfl
    · rw [← order_relocate]

theorem checkoutItem_relocate (barcode : String) (tag : Option String) :
    (t.relocate ip).checkoutItem around barcode tag =
      (t.checkoutItem around barcode tag).relocate ip := by
  simp only [checkoutItem, act_relocate]
  cases around.backend.itemStatus barcode with
  | ok item =>
    dsimp only
    rw [← toggle_relocate]
    rfl
  | error e => rfl

theorem unreadableItem_relocate (mode : Mode) (barcode : String) (tag : Option String) :
    (t.relocate ip).unreadableItem around mode barcode tag =
      (t.unreadableItem around mode barcode tag).relocate ip := by
  simp only [unreadableItem, current_relocate, act_relocate]
  split
  · rw [← toggle_relocate]
    rfl
  · cases around.backend.itemStatus barcode with
    | ok item =>
      dsimp only
      rw [← toggle_relocate]
      rfl
    | error e => exact fail_relocate ..

theorem scan_relocate (mode : Mode) (r : Reader.Response) :
    (t.relocate ip).scan around mode r = (t.scan around mode r).relocate ip := by
  simp only [scan, enter_relocate]
  split
  · rfl
  · split
    · exact checkinItem_relocate ..
    · exact checkoutItem_relocate ..
    · exact unreadableItem_relocate ..

theorem alarmOutcome_relocate (alarm : Alarm) (mode : Mode) (barcode : String) (ok : Bool) :
    (t.relocate ip).alarmOutcome alarm mode barcode ok =
      (t.alarmOutcome alarm mode barcode ok).relocate ip := by
  simp only [alarmOutcome, pending_relocate]
  cases ok <;> cases t.station.pending.get? barcode <;> rfl

theorem alarmReply_relocate (alarm : Alarm) (mode : Mode) (barcode : String) (ok : Bool) :
    (t.relocate ip).alarmReply around alarm mode barcode ok =
      (t.alarmReply around alarm mode barcode ok).relocate ip := by
  simp only [alarmReply, alarmOutcome_relocate, endRequested_relocate]
  split
  · rw [← endBatch_relocate]
    rfl
  · rfl

theorem answer_relocate (p : Phase) (r : Reader.Response) :
    (t.relocate ip).answer around p r = (t.answer around p r).relocate ip := by
  cases p with
  | idle | awaitScanEnd | awaitWrite => rfl
  | awaitScanStart mode =>
    cases ok : r.ok with
    | true => simp only [answer, ok, if_true, enter_relocate]
    | false => simp only [answer, ok, Bool.false_eq_true, if_false, fail_relocate]
  | scanning mode => exact scan_relocate ..
  | awaitAlarm alarm mode barcode => exact alarmReply_relocate ..

end Turn

namespace Station

variable (around : Surroundings) (s : Station) (ip : String)

theorem heed_relocate (m : Message) :
    (s.relocate ip).heed around m = (s.heed around m).relocate ip := by
  have same : ({ station := s.relocate ip } : Turn) = Turn.relocate { station := s } ip := rfl
  have ended : (s.relocate ip).terminated = s.terminated := rfl
  simp only [heed, same, ended]
  split
  · rfl
  · cases m.action with
    | checkin | checkout => exact Turn.beginBatch_relocate ..
    | finish => exact Turn.endBatch_relocate ..
    | retryAlarmOn | retryAlarmOff => exact Turn.retryAlarm_relocate ..
    | itemInfo => exact Turn.lookUp_relocate ..
    | write => exact Turn.writeTag_relocate ..
    | connect => rfl

theorem hear_relocate (e : Reader.Event) :
    (s.relocate ip).hear around e = (s.hear around e).relocate ip := by
  have same : ({ station := s.relocate ip } : Turn) = Turn.relocate { station := s } ip := rfl
  have ended : (s.relocate ip).terminated = s.terminated := rfl
  have free : (s.relocate ip).inFlight = s.inFlight := rfl
  have phase : (s.relocate ip).phase = s.phase := rfl
  simp only [hear, same, ended, free, phase]
  split
  · rfl
  · cases e with
    | failed f => exact Turn.fail_relocate ..
    | response r =>
      dsimp only
      split
      · rfl
      · rw [← Turn.answer_relocate]
        rfl

/-- No turn looks at the address. -/
theorem step_relocate (i : Input) :
    (s.relocate ip).step around i = (s.step around i).relocate ip := by
  cases i with
  | message m => exact heed_relocate ..
  | event e => exact hear_relocate ..

end Station

/-- Two episodes do the same, and leave stations that differ at most in their address. -/
def Episode.SameButAddress (e₁ e₂ : Episode) : Prop :=
  e₁.turn.effects = e₂.turn.effects ∧ e₂.after = e₁.after.relocate e₂.after.ip

theorem Episode.sameButAddress_of_turn {e₁ e₂ : Episode} {ip : String}
    (turn : e₂.turn = e₁.turn.relocate ip) : e₁.SameButAddress e₂ := by
  refine ⟨?_, ?_⟩
  · rw [turn]
    rfl
  · rw [Episode.after, turn]
    rfl

namespace Station

/-- At another address, everything that follows is the same. -/
theorem history_relocate (s : Station) (ip : String) (inputs : List (Surroundings × Input)) :
    List.Forall₂ Episode.SameButAddress (s.history inputs) ((s.relocate ip).history inputs) := by
  induction inputs generalizing s with
  | nil => exact .nil
  | cons x rest ih =>
    obtain ⟨around, i⟩ := x
    have turn : (s.relocate ip).step around i = (s.step around i).relocate ip :=
      step_relocate around s ip i
    refine .cons (Episode.sameButAddress_of_turn turn) ?_
    rw [turn]
    exact ih _

/-! ### The opening of a batch -/

variable {around : Surroundings} {s s' : Station} {i : Input} {es : List Effect}
  {c : Reader.Command} {next : Phase} {m : Message} {mode : Mode}

/-- What an idle station holds is cleared when it opens a batch: it is then as one that has heard
nothing. -/
theorem renew_eq_renew_fresh (branch : String) (running : s.terminated = false)
    (idle : s.phase = .idle) (free : s.inFlight = none) :
    s.renew branch = (fresh s.ip s.policy).renew branch := by
  simp only [renew, fresh, running, idle, free]
  rfl

theorem step_of_idle (running : s.terminated = false) (idle : s.phase = .idle)
    (free : s.inFlight = none) (asked : m.action = mode.action) :
    s.step around (.message m) =
      Turn.order around ⟨s.renew (m.branch.getD ""), [.reset]⟩ .beginScan
        (.awaitScanStart mode) := by
  cases mode <;>
    simp [step, heed, Turn.beginBatch, running, idle, free, asked, Mode.action, Turn.act,
      Turn.update]

/-- An idle station opens a batch as one that has heard nothing. -/
theorem step_opening (running : s.terminated = false) (idle : s.phase = .idle)
    (free : s.inFlight = none) (asked : m.action = mode.action) :
    s.step around (.message m) = (fresh s.ip s.policy).step around (.message m) := by
  rw [step_of_idle running idle free asked, step_of_idle rfl rfl rfl asked,
    renew_eq_renew_fresh _ running idle free]

theorem Orders.policy (h : Orders around s c next s' es) : s'.policy = s.policy := by
  cases h <;> rfl

/-- No turn changes the policy. -/
theorem Course.policy (h : Course around s i s' es) : s'.policy = s.policy := by
  cases h with
  | opened _ _ _ h | ended _ _ _ h | writing _ _ _ _ h | aborted _ _ _ h => exact h.policy
  | @retried _ alarm _ _ _ _ _ _ _ h | @toggled _ _ alarm _ _ _ _ _ _ h =>
    refine h.policy.trans ?_
    cases alarm <;> rfl
  | @settled r => cases ok : r.ok <;> simp [settle]
  | @settledLast r _ _ _ _ _ _ _ _ h =>
    refine h.policy.trans ?_
    cases ok : r.ok <;> simp [settle]
  | _ => rfl

theorem policy_run (ip : String) (policy : FailurePolicy) (inputs : List (Surroundings × Input)) :
    ((fresh ip policy).run inputs).station.policy = policy := by
  refine run_invariant (P := fun s => s.policy = policy) (fun s around i old => ?_) rfl inputs
  cases running : s.terminated with
  | false => exact (course_step running i).policy.trans old
  | true => rwa [step_of_terminated running]

/-- Nothing leaks from one batch into the next. Two running stations with the same policy that are
idle, whatever they have heard so far, are told to open a batch by the same message and hear the
same from then on, with the same answers of the backend and the same willingness of the reader. Then
they tell the screen the same, make the same calls and send the same commands with the same numbers,
and after every turn they differ in nothing but the address. -/
theorem batches_begin_alike {ip₁ ip₂ : String} {policy : FailurePolicy}
    {past₁ past₂ : List (Surroundings × Input)}
    (running₁ : ((fresh ip₁ policy).run past₁).station.terminated = false)
    (running₂ : ((fresh ip₂ policy).run past₂).station.terminated = false)
    (idle₁ : ((fresh ip₁ policy).run past₁).station.phase = .idle)
    (idle₂ : ((fresh ip₂ policy).run past₂).station.phase = .idle)
    (asked : m.action = mode.action) (around : Surroundings) (rest : List (Surroundings × Input)) :
    let s₁ := ((fresh ip₁ policy).run past₁).station
    let s₂ := ((fresh ip₂ policy).run past₂).station
    List.Forall₂ Episode.SameButAddress (s₁.history ((around, .message m) :: rest))
      (s₂.history ((around, .message m) :: rest)) := by
  intro s₁ s₂
  have free {s : Station} (inStep : s.InStep) (idle : s.phase = .idle) : s.inFlight = none := by
    have awaits := inStep.awaits
    rwa [idle] at awaits
  have first₁ : s₁.step around (.message m) = (fresh s₁.ip policy).step around (.message m) := by
    rw [step_opening running₁ idle₁ (free (inStep_run ip₁ policy past₁) idle₁) asked, policy_run]
  have first₂ : s₂.step around (.message m) = (fresh s₂.ip policy).step around (.message m) := by
    rw [step_opening running₂ idle₂ (free (inStep_run ip₂ policy past₂) idle₂) asked, policy_run]
  -- Of two stations that have heard nothing, one is the other at another address.
  have moved : (fresh s₂.ip policy) = (fresh s₁.ip policy).relocate s₂.ip := rfl
  have turn : s₂.step around (.message m) = (s₁.step around (.message m)).relocate s₂.ip := by
    rw [first₂, moved, step_relocate, first₁]
  refine .cons (Episode.sameButAddress_of_turn turn) ?_
  rw [turn]
  exact history_relocate _ s₂.ip rest

/-- A checkin that is ended after the reader has failed to turn the alarm on. -/
def endedCheckin : List (Surroundings × Input) :=
  retriedCheckin.take 4 ++ [.message { action := .finish }, .event (.response { ok := true })].map
    fun i => ({ backend := .obliging }, i)

/-- The ended checkin leaves the station with an item, a report held back and a tag to be tried
again. The next checkin goes as if none of it were there. -/
theorem batches_begin_alike_endedCheckin :
    let s := ((fresh "10.0.0.7" .carryOn).run endedCheckin).station
    s.terminated = false ∧ s.phase = .idle ∧ s.current.isSome = true ∧ s.pending ≠ .empty ∧
      s.retryOn ≠ .empty ∧
      List.Forall₂ Episode.SameButAddress (s.history retriedCheckin)
        ((fresh "" .carryOn).history retriedCheckin) := by
  intro s
  have running : s.terminated = false := by decide
  have idle : s.phase = .idle := by decide
  have running' : ((fresh "" .carryOn).run []).station.terminated = false := rfl
  have idle' : ((fresh "" .carryOn).run []).station.phase = .idle := rfl
  have asked : ({ action := .checkin, branch := some "MAIN" } : Message).action =
    Mode.checkin.action := rfl
  exact ⟨running, idle, by decide, by decide, by decide,
    batches_begin_alike running running' idle idle' asked { backend := .obliging }
      retriedCheckin.tail⟩

end Station

end SelfCheck
