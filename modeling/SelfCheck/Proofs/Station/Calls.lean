import SelfCheck.Proofs.Station.Authority
import SelfCheck.Proofs.Station.Conservation

/-!
# The calls to the backend

A checkin is a transaction in another system and cannot be taken back, and nothing that the station
keeps shows that it was made twice. Which calls a run makes is therefore said exactly, and from the
outside: from the message that opened the batch, the responses heard while the reader scans, and
what the backend answered to the calls before. A scan makes at most one call, a look-up makes its
own, and nothing else makes any.

## Main definitions

* `Reader.Response.due?` — the call that a scan is due
* `Episode.lookUp?` — the call that a look-up is due
* `Episode.recorded?` — the barcode of the item that a scan has recorded from the backend's answer
* `lastRecorded` — the barcode of the item recorded last in the batch of a history

## Main results

* `Episode.asked_of_scan`, `Episode.asked_of_scan?_eq_none` — the calls of one turn
* `Station.lastRecorded_run` — the station keeps the item recorded last
* `Station.calls_made_as_due` — the calls of a run are those that are due, in order
-/

namespace SelfCheck

/-- The call that a scan is due in a batch, with the barcode of the item recorded last. A tag that
was not read in full needs a title, unless it is on the item recorded last. -/
def Reader.Response.due? (r : Reader.Response) (mode : Mode) (branch : String)
    (last : Option String) : Option Call :=
  match r.ok, mode with
  | true, .checkin => some (.checkin branch r.scanned)
  | true, .checkout => some (.itemStatus r.scanned)
  | false, _ => if last = some r.scanned then none else some (.itemStatus r.scanned)

namespace Station

variable {around : Surroundings} {s s' : Station} {i : Input} {es : List Effect}
  {c : Reader.Command} {next : Phase}

/-! ### The calls of a turn -/

theorem filter_current_eq_none_iff {barcode : String} :
    s.current.filter (·.barcode = barcode) = none ↔
      s.current.map (·.barcode) ≠ some barcode := by
  cases s.current <;> simp

/-- A scan makes the call that it is due. -/
theorem asked_inquiry (mode : Mode) (r : Reader.Response) :
    Effect.asked (s.inquiry around mode r.scanned r.ok) =
      (r.due? mode s.branch (s.current.map (·.barcode))).toList := by
  have ruling := ruling around s mode r.scanned r.ok
  generalize s.inquiry around mode r.scanned r.ok = es,
    s.verdict around mode r.scanned r.ok = v at ruling
  cases ruling with
  | returned read at_checkin | passedOver read at_checkin | released read at_checkin
  | brokenOff read at_checkin =>
    subst at_checkin
    simp [Reader.Response.due?, read]
  | lent read at_checkout | notLent read at_checkout =>
    subst at_checkout
    simp [Reader.Response.due?, read]
  | recalled unread current =>
    have same : s.current.map (·.barcode) = some r.scanned := by
      by_contra other
      rw [filter_current_eq_none_iff.mpr other] at current
      cases current
    simp [Reader.Response.due?, unread, same]
  | titled unread current | untitled unread current =>
    have other := filter_current_eq_none_iff.mp current
    simp [Reader.Response.due?, unread, other]

@[simp] theorem asked_lookUp {m : Message} :
    Effect.asked (lookUp around m) = (m.namedBarcode?.map .itemStatus).toList := by
  unfold lookUp
  cases m.namedBarcode? <;> rfl

/-- To give a command makes no call, whatever comes of it. -/
theorem Orders.asked (h : Orders around s c next s' es) : Effect.asked es = [] := by
  cases h <;> rfl

/-- To give a command records nothing, whatever comes of it. -/
theorem Orders.current (h : Orders around s c next s' es) : s'.current = s.current := by
  cases h <;> rfl

theorem current_remember {alarm : Alarm} {barcode : String} {tag : Option String} :
    (s.remember alarm barcode tag).current = s.current := by
  cases alarm <;> rfl

theorem current_settle {mode : Mode} {barcode : String} {ok : Bool} :
    (s.settle mode barcode ok).current = s.current := by
  cases ok <;> rfl

end Station

namespace Episode

variable {e : Episode} {mode : Mode} {r : Reader.Response}

/-- The call that a look-up is due: the screen names a barcode, and the station has not come to its
end. -/
def lookUp? (e : Episode) : Option Call :=
  match e.input with
  | .message m =>
    if e.before.terminated = false ∧ m.action = .itemInfo then m.namedBarcode?.map .itemStatus
    else none
  | .event _ => none

theorem lookUp?_of_message {m : Message} (running : e.before.terminated = false)
    (heard : e.input = .message m) :
    e.lookUp? = if m.action = .itemInfo then m.namedBarcode?.map .itemStatus else none := by
  simp [lookUp?, heard, running]

/-- A scan makes the call that it is due. -/
theorem asked_of_scan (scan : e.scan? = some (mode, r)) :
    e.asked = (r.due? mode e.before.branch (e.before.current.map (·.barcode))).toList := by
  obtain ⟨running, heard, phase, named⟩ := scan?_eq_some_iff.mp scan
  have course := course running
  rw [heard] at course
  obtain ⟨fs, done, comes⟩ := course.scanned phase named
  -- What follows upon the verdict asks nothing more.
  have silent : Effect.asked fs = [] := by
    cases decided : e.before.verdict e.around mode r.scanned r.ok with
    | toggle | abort =>
      rw [decided] at comes
      exact comes.asked
    | carryOn | giveUp =>
      rw [decided] at comes
      rw [comes.2]
      rfl
  rw [Episode.asked, done, Effect.asked_append, silent, List.append_nil, Station.asked_inquiry]

/-- Upon a message, only a look-up makes a call. -/
theorem asked_of_message {m : Message} (running : e.before.terminated = false)
    (heard : e.input = .message m) : e.asked = e.lookUp?.toList := by
  have course := course running
  rw [heard] at course
  rw [Episode.asked, lookUp?_of_message running heard]
  generalize e.after = s', e.turn.effects = es at course
  -- Every other course of a message is taken upon another action.
  have other {a : Action} (asked : m.action = a) (ne : a ≠ .itemInfo) :
      (if m.action = .itemInfo then m.namedBarcode?.map .itemStatus else none).toList =
        ([] : List Call) := by
    rw [if_neg (asked ▸ ne)]
    rfl
  cases course with
  | lookedUp asked => rw [if_pos asked, Station.asked_lookUp]
  | passed h =>
    have ne : m.action ≠ .itemInfo := by
      intro asked
      simp [Station.Passes, asked] at h
    exact (other rfl ne).symm
  | @opened _ mode _ _ asked _ _ h =>
    rw [Effect.asked_reset, h.asked, other asked (by cases mode <;> decide)]
  | @retried _ alarm _ _ _ _ _ asked _ h =>
    rw [h.asked, other asked (by cases alarm <;> decide)]
  | ended asked _ _ h | writing asked _ _ _ h => rw [h.asked, other asked (by decide)]
  | deferred asked | writeUnnamed asked => exact (other asked (by decide)).symm

/-- Upon an event of the reader, only a scan makes a call. -/
theorem asked_of_event {event : Reader.Event} (running : e.before.terminated = false)
    (heard : e.input = .event event) (scan : e.scan? = none) : e.asked = [] := by
  have unscanned {r : Reader.Response} {mode : Mode} (here : event = .response r)
      (phase : e.before.phase = .scanning mode) : r.scanned = "" := by
    rw [scan?_of_response running (here ▸ heard) phase] at scan
    by_contra named
    rw [if_pos named] at scan
    cases scan
  have course := course running
  rw [heard] at course
  rw [Episode.asked]
  generalize e.after = s', e.turn.effects = es at course
  cases course with
  | toggled phase named | unreported phase named | aborted phase named
  | gaveUp phase named => exact absurd (unscanned rfl phase) named
  | settledLast _ _ _ h => rw [Effect.asked_append, Effect.asked_map_tell, h.asked, List.nil_append]
  | settled => exact Effect.asked_map_tell _
  | passed | lost | started | notStarted | blank | closed | wrote | stray => rfl

/-- Only a look-up makes a call outside of a scan. -/
theorem asked_of_scan?_eq_none (scan : e.scan? = none) : e.asked = e.lookUp?.toList := by
  cases running : e.before.terminated with
  | true =>
    have quiet : e.asked = [] := by rw [Episode.asked, turn_of_terminated running]; rfl
    have unheard : e.lookUp? = none := by
      unfold lookUp?
      split <;> simp [running]
    rw [quiet, unheard]
    rfl
  | false =>
    cases heard : e.input with
    | message m => exact asked_of_message running heard
    | event event =>
      have unheard : e.lookUp? = none := by simp [lookUp?, heard]
      rw [asked_of_event running heard scan, unheard]
      rfl

/-! ### The item recorded last -/

/-- The barcode of the item that a scan has recorded from the backend's answer: that of the item
known, or the scanned one if the checkin failed and the tag is released all the same. A scan that
makes no call has the item recorded again that was recorded last. -/
def recorded? (e : Episode) : Option String :=
  match e.scan?, e.asked with
  | some (_, r), q :: _ =>
    match e.around.backend.answer q with
    | .ok item => some item.barcode
    | .error _ => if e.setsAlarm then some r.scanned else none
  | _, _ => none

theorem recorded?_of_scan?_eq_none (scan : e.scan? = none) : e.recorded? = none := by
  simp [recorded?, scan]

/-- What a scan makes pending is recorded: from the answer to its call, or once more. -/
theorem recorded?_of_toggle {alarm : Alarm} {item : Item} (scan : e.scan? = some (mode, r))
    (decided : e.before.verdict e.around mode r.scanned r.ok = .toggle alarm item)
    (sent : e.commands = [alarm.command r.tag])
    (calls : e.asked = Effect.asked (e.before.inquiry e.around mode r.scanned r.ok)) :
    e.recorded?.or (e.before.current.map (·.barcode)) = some item.barcode := by
  have ruling := Station.ruling e.around e.before mode r.scanned r.ok
  rw [decided] at ruling
  generalize e.before.inquiry e.around mode r.scanned r.ok = es at ruling calls
  cases ruling with
  | returned _ _ answer | lent _ _ answer | titled _ _ answer =>
    simp [recorded?, scan, calls, Backend.answer, answer]
  | released _ _ answer =>
    simp [recorded?, scan, calls, Backend.answer, answer, setsAlarm_of_alarm sent, Item.bare]
  | recalled _ current =>
    -- The item recorded last is taken again, under the barcode that it has.
    obtain ⟨known, -⟩ := Option.filter_eq_some_iff.mp current
    simp [recorded?, scan, calls, known]

/-- A scan that makes nothing pending records nothing. -/
theorem recorded?_of_forgone (scan : e.scan? = some (mode, r))
    (decided : e.before.verdict e.around mode r.scanned r.ok = .carryOn ∨
      e.before.verdict e.around mode r.scanned r.ok = .abort)
    (aside : e.Aside)
    (calls : e.asked = Effect.asked (e.before.inquiry e.around mode r.scanned r.ok)) :
    e.recorded? = none := by
  have ruling := Station.ruling e.around e.before mode r.scanned r.ok
  generalize e.before.verdict e.around mode r.scanned r.ok = v,
    e.before.inquiry e.around mode r.scanned r.ok = es at ruling calls decided
  cases ruling with
  | passedOver _ _ answer | brokenOff _ _ answer | notLent _ _ answer =>
    simp [recorded?, scan, calls, Backend.answer, answer, setsAlarm_of_aside aside]
  | returned | released | lent | recalled | titled | untitled =>
    obtain h | h := decided <;> cases h

/-- At the beginning of a batch nothing is recorded. -/
theorem current_of_opens (running : e.after.terminated = false) (opens : e.opens = true) :
    e.after.current = none := by
  have begun : Reader.Command.beginScan ∈ e.commands := by simpa [Episode.opens] using opens
  have course := course (running_of_after running)
  generalize ha : e.after = s', he : e.turn.effects = es at course running
  have commands : e.commands = Effect.commands es := by rw [← he]; rfl
  rw [commands] at begun
  generalize e.input = i at course
  cases course with
  | opened _ _ _ h => exact h.current
  | ended _ _ _ h | writing _ _ _ _ h => simp [(h.granted running).2.2.1] at begun
  | @retried _ alarm _ _ _ _ _ _ _ h | @toggled _ _ alarm _ _ _ _ _ _ h =>
    cases alarm <;> simp [(h.granted running).2.2.1, Alarm.command] at begun
  | aborted _ _ _ h | settledLast _ _ _ h => simp [(h.granted running).2.2.1] at begun
  | _ => simp at begun

/-- Outside of the scans, what was recorded last stays as it is while the batch goes on. -/
theorem current_of_scan?_eq_none (running : e.after.terminated = false) (opens : e.opens = false)
    (scan : e.scan? = none) : e.after.current = e.before.current := by
  have before := running_of_after running
  have course := course before
  generalize ha : e.after = s', he : e.turn.effects = es at course running
  generalize heard : e.input = i at course
  cases course with
  | opened _ _ _ h =>
    obtain ⟨-, -, sent, -⟩ := h.granted running
    simp [Episode.opens, Episode.commands, he, sent] at opens
  | toggled phase named | aborted phase named =>
    rw [scan?_of_response before heard phase, if_pos named] at scan
    cases scan
  | ended _ _ _ h | writing _ _ _ _ h => exact h.current
  | retried _ _ h => exact h.current.trans Station.current_remember
  | settled => exact Station.current_settle
  | settledLast _ _ _ h => exact h.current.trans Station.current_settle
  | lost | notStarted | gaveUp => cases running
  | passed | deferred | lookedUp | writeUnnamed | started | blank | unreported | closed | wrote
  | stray => rfl

/-- A scan leaves the barcode recorded last, unless it records another. -/
theorem current_of_scan (running : e.after.terminated = false)
    (scan : e.scan? = some (mode, r)) :
    e.after.current.map (·.barcode) = e.recorded?.or (e.before.current.map (·.barcode)) := by
  obtain ⟨before, heard, phase, named⟩ := scan?_eq_some_iff.mp scan
  have course := course before
  rw [heard] at course
  obtain ⟨fs, done, comes⟩ := course.scanned phase named
  have commands : e.commands = Effect.commands fs := by simp [Episode.commands, done]
  have calls : e.asked = Effect.asked (e.before.inquiry e.around mode r.scanned r.ok) := by
    rw [asked_of_scan scan, Station.asked_inquiry]
  cases decided : e.before.verdict e.around mode r.scanned r.ok with
  | toggle alarm item =>
    rw [decided] at comes
    have sent : e.commands = [alarm.command r.tag] := commands.trans (comes.granted running).2.2.1
    rw [comes.current, Station.current_remember]
    exact (recorded?_of_toggle scan decided sent calls).symm
  | carryOn =>
    rw [decided] at comes
    have aside : e.Aside := aside_of_nil (by rw [commands, comes.2]; rfl)
    rw [comes.1, recorded?_of_forgone scan (.inl decided) aside calls, Option.none_or]
  | abort =>
    rw [decided] at comes
    have sent : e.commands = [.endScan] := commands.trans (comes.granted running).2.2.1
    have aside : e.Aside := aside_of_single sent (.inl rfl)
    rw [comes.current, recorded?_of_forgone scan (.inr decided) aside calls, Option.none_or]
  | giveUp f =>
    rw [decided] at comes
    rw [comes.1] at running
    cases running

end Episode

/-- The barcode of the item recorded last in the batch of a history. -/
def lastRecorded (h : List Episode) : Option String :=
  ((scans h).filterMap (·.recorded?)).getLast?

section LastRecorded

variable {h : List Episode} {e : Episode}

theorem lastRecorded_concat_of_opens (ho : e.opens = true) : lastRecorded (h ++ [e]) = none := by
  simp [lastRecorded, scans_concat_of_opens ho]

theorem lastRecorded_concat (ho : e.opens = false) :
    lastRecorded (h ++ [e]) = e.recorded?.or (lastRecorded h) := by
  rw [lastRecorded, scans_concat ho, List.filterMap_append, List.getLast?_append, ← lastRecorded]
  cases scan : e.scan? with
  | none => simp [Episode.recorded?_of_scan?_eq_none scan]
  | some x => cases recorded : e.recorded? <;> simp [recorded]

end LastRecorded

namespace Station

/-- A running station keeps the item recorded last in its batch. -/
theorem lastRecorded_run (ip : String) (policy : FailurePolicy)
    (inputs : List (Surroundings × Input))
    (running : ((fresh ip policy).run inputs).station.terminated = false) :
    ((fresh ip policy).run inputs).station.current.map (·.barcode) =
      lastRecorded ((fresh ip policy).history inputs) := by
  refine history_induction (P := fun h s => s.terminated = false →
    s.current.map (·.barcode) = lastRecorded h) (fun _ => rfl) ?_ inputs running
  intro h e old running
  have before := old (Episode.running_of_after running)
  cases opens : e.opens with
  | true =>
    rw [Episode.current_of_opens running opens, lastRecorded_concat_of_opens opens]
    rfl
  | false =>
    rw [lastRecorded_concat opens, ← before]
    cases scan : e.scan? with
    | none =>
      rw [Episode.current_of_scan?_eq_none running opens scan,
        Episode.recorded?_of_scan?_eq_none scan, Option.none_or]
    | some x => exact Episode.current_of_scan running scan

/-- The calls of a run are exactly those that are due, in the order of its episodes and at most one
in each. A scan is due its call in the mode and at the branch of the message that opened the batch,
with regard to the item recorded last in the batch; a look-up is due the status of the item it
names; and nothing else makes a call, neither the answer to a command nor another try, the end of a
batch, the writing of a tag or a response that answers nothing. -/
theorem calls_made_as_due (ip : String) (policy : FailurePolicy)
    (inputs : List (Surroundings × Input)) :
    let h := (fresh ip policy).history inputs
    Effect.asked ((fresh ip policy).run inputs).effects = h.flatMap (·.asked) ∧
      ∀ before e after, h = before ++ e :: after →
        (e.scan? = none ∧ e.asked = e.lookUp?.toList) ∨
          ∃ mode r m, e.scan? = some (mode, r) ∧ OpenedBy before mode m ∧
            e.asked = (r.due? mode (m.branch.getD "") (lastRecorded before)).toList := by
  refine ⟨asked_run _ inputs, fun before e after split => ?_⟩
  cases scan : e.scan? with
  | none => exact .inl ⟨rfl, Episode.asked_of_scan?_eq_none scan⟩
  | some x =>
    obtain ⟨mode, r⟩ := x
    obtain ⟨running, -⟩ := Episode.scan?_eq_some_iff.mp scan
    -- The notes of the station before the scan agree with the history of its batch.
    obtain ⟨xs, -, hbefore, hrun, -⟩ := exists_history_split split
    have last := lastRecorded_run ip policy xs (by rw [hrun]; exact running)
    obtain ⟨owed, -, -, traced⟩ := traced_run ip policy xs (by rw [hrun]; exact running)
    rw [hbefore, hrun] at last traced
    obtain ⟨m, opened, branch⟩ := traced.opened mode (Episode.mode?_of_scan scan)
    refine .inr ⟨mode, r, m, rfl, opened, ?_⟩
    rw [← branch, ← last]
    exact Episode.asked_of_scan scan

/-- Another try repeats no checkin. -/
example : Effect.asked ((fresh "" .carryOn).run retriedCheckin).effects =
    [.checkin "MAIN" "A1"] := by decide

end Station

end SelfCheck
