import SelfCheck.Proofs.Station.Owed

/-!
# No item is lost

Every scan of a batch comes to one of two ends: its item is recorded and reported once its alarm is
set, or its call to the backend fails, which the screen is told at once. In between it is pending.
Toggles that fail, retries, a deferred end, look-ups and stray responses move nothing between these
three.

## Main definitions

* `reports`, `losses` — the messages on items of the batch that report success, or a failed call
* `said` — what the screen was told since the batch began
* `Episode.failed`, `Episode.forgone` — a call of the episode failed, and led to no toggle
* `Episode.report?` — the report that a scan leads to

## Main results

* `Episode.Move.balance` — a move turns what is scanned or pending into reports, in order
* `Station.items_conserved` — scans are the reports, the forgone scans and the pending reports
-/

namespace SelfCheck

/-- The messages that report an item of a batch without an error. -/
def reports (ms : List Message) : List Message := ms.filter fun m => m.concernsItem && !m.isError

/-- The messages that report a failed call about an item of a batch. -/
def losses (ms : List Message) : List Message := ms.filter fun m => m.concernsItem && m.sipError

/-- What the screen was told since the last batch began. -/
def said (h : List Episode) : List Message := (batch h).flatMap (·.told)

/-- The reports held back for what is owed. -/
def heldBack (owed : Option Toggle) : List Message := (owed.map (·.report)).toList

section Messages

variable {ms ns : List Message} {mode : Mode} {item : Item} {text : String}

@[simp] theorem reports_nil : reports [] = [] := rfl

@[simp] theorem reports_append : reports (ms ++ ns) = reports ms ++ reports ns :=
  List.filter_append ..

@[simp] theorem losses_nil : losses [] = [] := rfl

@[simp] theorem losses_append : losses (ms ++ ns) = losses ms ++ losses ns :=
  List.filter_append ..

theorem reports_failure :
    reports [(Message.backendFailure mode.action text).about item] = [] := by
  cases mode <;> rfl

theorem losses_failure :
    losses [(Message.backendFailure mode.action text).about item] =
      [(Message.backendFailure mode.action text).about item] := by
  cases mode <;> rfl

theorem reports_report (g : Toggle) : reports [g.report] = [g.report] := by
  obtain ⟨alarm, mode, barcode, tag, item⟩ := g
  cases mode <;> rfl

theorem losses_report (g : Toggle) : losses [g.report] = [] := by
  obtain ⟨alarm, mode, barcode, tag, item⟩ := g
  cases mode <;> rfl

/-- What is told of an item only because the reader failed is neither a report nor a loss. -/
theorem reports_and_losses_eq_nil
    (h : ∀ m ∈ ms, m.concernsItem = true → m.rfidError = true ∧ m.sipError = false) :
    reports ms = [] ∧ losses ms = [] := by
  constructor
  · refine List.filter_eq_nil_iff.mpr fun m hm => ?_
    have := h m hm
    simp only [Message.isError]
    grind
  · refine List.filter_eq_nil_iff.mpr fun m hm => ?_
    have := h m hm
    grind

end Messages

section Said

variable {h : List Episode} {e : Episode}

@[simp] theorem said_nil : said [] = [] := rfl

theorem said_concat_of_opens (ho : e.opens = true) : said (h ++ [e]) = [] := by
  simp [said, batch_concat_of_opens ho]

theorem said_concat (ho : e.opens = false) : said (h ++ [e]) = said h ++ e.told := by
  simp [said, batch_concat ho]

end Said

namespace Episode

variable {e : Episode} {owed owed' : Option Toggle} {mode : Mode} {r : Reader.Response}

/-- A call of the episode failed. -/
def failed (e : Episode) : Bool :=
  e.asked.any fun q => !(e.around.backend.answer q).isOk

/-- The episode sends an alarm command. -/
def setsAlarm (e : Episode) : Bool :=
  e.commands.any fun c => c.kind = .alarmOn || c.kind = .alarmOff

/-- A call of the episode failed and led to no toggle. -/
def forgone (e : Episode) : Bool := e.failed && !e.setsAlarm

/-- The report that a scan leads to, once the alarm of its tag is set. -/
def report? (e : Episode) : Option Message :=
  match e.scan? with
  | none => none
  | some (mode, r) =>
    match e.before.verdict e.around mode r.scanned r.ok with
    | .toggle _ item => some ((Message.plain mode.action).about item)
    | _ => none

theorem report?_of_scan?_eq_none (scan : e.scan? = none) : e.report? = none := by
  simp [report?, scan]

theorem setsAlarm_of_aside (aside : e.Aside) : e.setsAlarm = false := by
  refine List.any_eq_false.mpr fun c hc => ?_
  obtain h | h := aside c hc <;> simp [h]

theorem setsAlarm_of_alarm {alarm : Alarm} {tag : Option String}
    (sent : e.commands = [alarm.command tag]) : e.setsAlarm = true := by
  cases alarm <;> simp [setsAlarm, sent, Alarm.kind]

theorem failed_of_asked_ok {q : Call} {item : Item} (asked : e.asked = [q])
    (answer : e.around.backend.answer q = .ok item) : e.failed = false := by
  rw [failed, asked, List.any_cons, answer]
  rfl

theorem failed_of_asked_error {q : Call} {f : CallFailure} (asked : e.asked = [q])
    (answer : e.around.backend.answer q = .error f) : e.failed = true := by
  rw [failed, asked, List.any_cons, answer]
  rfl

/-- The screen is told of a scan if and only if its call failed, and then once. -/
theorem told_of_inquiry
    (told : e.told = Effect.told (e.before.inquiry e.around mode r.scanned r.ok))
    (calls : e.asked = Effect.asked (e.before.inquiry e.around mode r.scanned r.ok))
    (goesOn : ∀ f, e.before.verdict e.around mode r.scanned r.ok ≠ .giveUp f) :
    (e.failed = true ∧ ∃ text,
      e.told = [(Message.backendFailure mode.action text).about (.bare r.scanned)]) ∨
    (e.failed = false ∧ e.told = []) := by
  have ruling := Station.ruling e.around e.before mode r.scanned r.ok
  generalize e.before.verdict e.around mode r.scanned r.ok = v,
    e.before.inquiry e.around mode r.scanned r.ok = es at ruling told calls goesOn
  cases ruling with
  | returned _ _ answer | lent _ _ answer | titled _ _ answer =>
    exact .inr ⟨failed_of_asked_ok calls answer, told⟩
  | recalled => exact .inr ⟨by rw [failed, calls]; rfl, told⟩
  | @passedOver f _ at_checkin answer | @released f _ at_checkin answer
  | @brokenOff f _ at_checkin answer =>
    subst at_checkin
    exact .inl ⟨failed_of_asked_error calls answer, f.message, told⟩
  | @notLent f _ at_checkout answer =>
    subst at_checkout
    exact .inl ⟨failed_of_asked_error calls answer, f.message, told⟩
  -- A failed look-up of a title ends the station, which is excluded.
  | untitled => exact absurd rfl (goesOn _)

/-- Only a failed call keeps a scan from being recorded. -/
theorem failed_of_verdict
    (calls : e.asked = Effect.asked (e.before.inquiry e.around mode r.scanned r.ok))
    (decided : e.before.verdict e.around mode r.scanned r.ok = .carryOn ∨
      e.before.verdict e.around mode r.scanned r.ok = .abort) : e.failed = true := by
  have ruling := Station.ruling e.around e.before mode r.scanned r.ok
  generalize e.before.verdict e.around mode r.scanned r.ok = v,
    e.before.inquiry e.around mode r.scanned r.ok = es at ruling calls decided
  cases ruling with
  | passedOver _ _ answer | brokenOff _ _ answer | notLent _ _ answer =>
    exact failed_of_asked_error calls answer
  | returned | released | lent | recalled | titled | untitled =>
    obtain h | h := decided <;> cases h

/-- What a scan comes to: the screen is told of it at once if its call failed, and then once, and
it leads to no report just if the call failed and no alarm is set. -/
structure Accounted (e : Episode) : Prop where
  silent : e.failed = false → e.told = []
  candid : e.failed = true → ∃ mode r text, e.scan? = some (mode, r) ∧
    e.told = [(Message.backendFailure mode.action text).about (.bare r.scanned)]
  ends : e.forgone = e.report?.isNone

/-- Every scan that leaves the station running is accounted for. -/
theorem Move.accounted (move : e.Move owed owed') (scan : e.scan?.isSome = true) : e.Accounted := by
  cases move with
  | incurred own decided sent told calls =>
    have said := told_of_inquiry told calls (by simp [decided])
    refine ⟨?_, ?_, ?_⟩
    · grind
    · grind
    · simp [Episode.forgone, setsAlarm_of_alarm sent, report?, own, decided]
  | forgone own decided aside told calls =>
    have said := told_of_inquiry told calls (by rcases decided with h | h <;> simp [h])
    have failed := failed_of_verdict calls decided
    refine ⟨by simp [failed], ?_, ?_⟩
    · grind
    · rcases decided with h | h <;>
        simp [Episode.forgone, failed, setsAlarm_of_aside aside, report?, own, h]
  -- The other moves are no scans.
  | opened input => simp [scan?_of_message input] at scan
  | discharged none_scanned | retried none_scanned | kept none_scanned =>
    simp [none_scanned] at scan

theorem Accounted.reports_told (h : e.Accounted) : reports e.told = [] := by
  cases failed : e.failed with
  | false => simp [h.silent failed]
  | true =>
    obtain ⟨mode, r, text, -, told⟩ := h.candid failed
    rw [told, reports_failure]

theorem Accounted.losses_told (h : e.Accounted) :
    losses e.told = if e.failed then e.told else [] := by
  cases failed : e.failed with
  | false => simp [h.silent failed]
  | true =>
    obtain ⟨mode, r, text, -, told⟩ := h.candid failed
    rw [told, losses_failure, if_pos rfl]

/-- Nothing is owed at the beginning of a batch. -/
theorem Move.eq_none_of_opens (move : e.Move owed owed') (opens : e.opens = true) :
    owed' = none := by
  cases move with
  | opened | forgone | discharged => rfl
  | incurred _ _ sent | retried _ sent => simp [opens_of_alarm sent] at opens
  | kept _ aside => simp [opens_of_aside aside] at opens

/-- A move turns what is scanned or pending into reports, in order. -/
theorem Move.balance (move : e.Move owed owed') (opens : e.opens = false) :
    reports e.told ++ heldBack owed' = heldBack owed ++ e.report?.toList := by
  have accounted := move.accounted
  cases move with
  | opened _ _ begun => simp [Episode.opens, begun] at opens
  | incurred own decided =>
    rw [(accounted (by simp [own])).reports_told]
    simp [report?, own, decided, heldBack, Toggle.report]
  | forgone own decided =>
    rw [(accounted (by simp [own])).reports_told]
    rcases decided with h | h <;> simp [report?, own, h]
  | discharged scan _ told =>
    simp [told, report?_of_scan?_eq_none scan, reports_report, heldBack]
  | retried scan _ quiet => simp [quiet, report?_of_scan?_eq_none scan]
  | kept scan _ told =>
    simp [report?_of_scan?_eq_none scan, (reports_and_losses_eq_nil told).1]

/-- A move tells the screen of a failed call just if it is a scan whose call failed. -/
theorem Move.losses_told (move : e.Move owed owed') (opens : e.opens = false) :
    losses e.told = if e.scan?.isSome && e.failed then e.told else [] := by
  have accounted := move.accounted
  cases move with
  | opened _ _ begun => simp [Episode.opens, begun] at opens
  | incurred own | forgone own => simpa [own] using (accounted (by simp [own])).losses_told
  | discharged scan _ told => simp [told, scan, losses_report]
  | retried scan _ quiet => simp [quiet]
  | kept scan _ told => simp [scan, (reports_and_losses_eq_nil told).2]

end Episode

/-- The books of a batch: its reports and what is held back are the reports that its scans lead to,
in order; the screen is told of the failed calls of its scans and of no others; and every scan is
accounted for. -/
structure Balanced (h : List Episode) (owed : Option Toggle) : Prop where
  order : reports (said h) ++ heldBack owed = (scans h).filterMap (·.report?)
  lost : losses (said h) = ((scans h).filter (·.failed)).flatMap (·.told)
  each : ∀ e ∈ scans h, e.Accounted

section Balanced

variable {h : List Episode} {e : Episode} {owed owed' : Option Toggle}

theorem filterMap_report? :
    (if e.scan?.isSome then [e] else []).filterMap (·.report?) = e.report?.toList := by
  cases scan : e.scan? with
  | none => simp [Episode.report?_of_scan?_eq_none scan]
  | some x => cases report : e.report? <;> simp [report]

/-- Every move keeps the books of the longer history. -/
theorem Balanced.concat (old : Balanced h owed) (move : e.Move owed owed') :
    Balanced (h ++ [e]) owed' := by
  cases opens : e.opens with
  | true =>
    -- With a new batch the books begin anew, and nothing is carried over.
    obtain rfl := move.eq_none_of_opens opens
    refine ⟨?_, ?_, ?_⟩ <;> simp [said_concat_of_opens opens, scans_concat_of_opens opens, heldBack]
  | false =>
    refine ⟨?_, ?_, ?_⟩
    · calc reports (said (h ++ [e])) ++ heldBack owed'
          = reports (said h) ++ (reports e.told ++ heldBack owed') := by
            rw [said_concat opens, reports_append, List.append_assoc]
        _ = reports (said h) ++ heldBack owed ++ e.report?.toList := by
            rw [move.balance opens, List.append_assoc]
        _ = (scans h).filterMap (·.report?) ++ e.report?.toList := by rw [old.order]
        _ = (scans (h ++ [e])).filterMap (·.report?) := by
            rw [scans_concat opens, List.filterMap_append, filterMap_report?]
    · rw [said_concat opens, losses_append, old.lost, move.losses_told opens, scans_concat opens]
      cases scan : e.scan? <;> cases failed : e.failed <;> simp [failed]
    · intro e' he'
      rw [scans_concat opens, List.mem_append] at he'
      rcases he' with he' | he'
      · exact old.each e' he'
      · cases scan : e.scan? with
        | none => simp [scan] at he'
        | some x =>
          obtain rfl : e' = e := by simpa [scan] using he'
          exact move.accounted (by simp [scan])

/-- Every accounted scan leads to a report or is forgone. -/
theorem length_eq_of_accounted {es : List Episode} (each : ∀ e ∈ es, e.Accounted) :
    es.length = (es.filterMap (·.report?)).length + (es.filter (·.forgone)).length := by
  induction es with
  | nil => rfl
  | cons e es ih =>
    have rest := ih fun e' he' => each e' (List.mem_cons_of_mem e he')
    have ends := (each e List.mem_cons_self).ends
    cases report : e.report? with
    | none => simp [report, ends, rest, Nat.add_assoc]
    | some m =>
      simp [report, ends, rest]
      omega

end Balanced

namespace Station

/-- The books are balanced after every run that leaves the station running. -/
theorem balanced_run (ip : String) (policy : FailurePolicy) (inputs : List (Surroundings × Input))
    (running : ((fresh ip policy).run inputs).station.terminated = false) :
    ∃ owed, ((fresh ip policy).run inputs).station.Owes owed ∧
      Balanced ((fresh ip policy).history inputs) owed := by
  obtain ⟨owed, owes, -, balanced⟩ :=
    owed_induction (P := fun h _ owed => Balanced h owed) ⟨rfl, rfl, by simp [scans]⟩
      (fun h e owed owed' old _ move _ => old.concat move) inputs running
  exact ⟨owed, owes, balanced⟩

/-- No scanned item is lost or reported twice. In every run that leaves the station running, the
scans of its batch are as many as the items reported without an error, the scans whose call failed
and led to no toggle, and the at most one report that is pending. The reports come in the order of
the scans that lead to them; and each failed call of a scan is told once, about the barcode scanned,
and no other failed call is told of an item of the batch. -/
theorem items_conserved (ip : String) (policy : FailurePolicy)
    (inputs : List (Surroundings × Input))
    (running : ((fresh ip policy).run inputs).station.terminated = false) :
    let h := (fresh ip policy).history inputs
    let pending := ((fresh ip policy).run inputs).station.pending.entries
    (scans h).length =
      (reports (said h)).length + ((scans h).filter (·.forgone)).length + pending.length ∧
    pending.length ≤ 1 ∧
    reports (said h) ++ pending.map (·.2) = (scans h).filterMap (·.report?) ∧
    (∀ e ∈ scans h, e.failed = true → ∃ mode r text, e.scan? = some (mode, r) ∧
      e.told = [(Message.backendFailure mode.action text).about (.bare r.scanned)]) ∧
    losses (said h) = ((scans h).filter (·.failed)).flatMap (·.told) := by
  intro h pending
  obtain ⟨owed, owes, (balanced : Balanced h owed)⟩ := balanced_run ip policy inputs running
  have held : pending.map (·.2) = heldBack owed := by
    simp only [pending, owes.pending]
    cases owed <;> rfl
  -- The pending ledger holds the report of the toggle owed, so it counts it once.
  have one : pending.length = (heldBack owed).length := by rw [← held, List.length_map]
  have order := balanced.order
  refine ⟨?_, ?_, ?_, fun e he => (balanced.each e he).candid, balanced.lost⟩
  · rw [length_eq_of_accounted balanced.each, ← order, List.length_append, one]
    omega
  · rw [one]
    cases owed <;> simp [heldBack]
  · rw [held, order]

/-- In the sample run the only scan is pending. -/
theorem items_conserved_retriedCheckin :
    let h := (fresh "" .carryOn).history retriedCheckin
    ((fresh "" .carryOn).run retriedCheckin).station.terminated = false ∧
      (scans h).length = (reports (said h)).length + ((scans h).filter (·.forgone)).length + 1 :=
  ⟨by decide, (items_conserved "" .carryOn retriedCheckin (by decide)).1⟩

end Station

end SelfCheck
