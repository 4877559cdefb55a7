import SelfCheck.Proofs.Station.Outstanding

/-!
# What a station owes

The three ledgers of a station could hold many barcodes, and nothing that writes to one of them
clears the others. They are nevertheless the record of a single toggle: a tag whose alarm is still
to be set, with the item whose report waits for it. A station owes such a toggle from the scan that
incurs it until the reader confirms it, and every turn does one of six things to what is owed.

## Main definitions

* `Message.concernsItem` — the message is about an item of a batch
* `Toggle` — a tag whose alarm is to be set, and the item it belongs to
* `Station.Owes` — the ledgers record this toggle, or none
* `Phase.Allows` — what may be owed in a phase
* `Episode.Move` — what an episode does to what is owed

## Main results

* `Station.Owes.get?_retries` — a retry finds the owed toggle and nothing else
* `Episode.exists_move` — every episode that leaves the station running makes one of the moves
* `Station.owed_induction` — what every move preserves holds of every history
* `Station.owes_run` — what is owed after a run is what the phase allows
-/

namespace SelfCheck

/-- The message is about an item of a batch. -/
def Message.concernsItem (m : Message) : Bool := m.action = .checkin || m.action = .checkout

theorem Message.concernsItem_of_action {m : Message} {mode : Mode} (h : m.action = mode.action) :
    m.concernsItem = true := by
  cases mode <;> simp [concernsItem, h, Mode.action]

/-- A tag whose alarm is to be set, and the item whose report waits for it. -/
structure Toggle where
  alarm : Alarm
  mode : Mode
  barcode : String
  tag : Option String
  item : Item
deriving DecidableEq, Repr

namespace Toggle

/-- The report on the item, once the alarm is set. -/
def report (g : Toggle) : Message := (Message.plain g.mode.action).about g.item

/-- The command that sets the alarm. -/
def command (g : Toggle) : Reader.Command := g.alarm.command g.tag

end Toggle

theorem Ledger.insert_single {α : Type} (b : String) (a c : α) :
    (single b a).insert b c = single b c := by
  simp [insert, single, erase]

/-- What may be owed in a phase: nothing where the reader is about to scan, and in an alarm wait
the toggle that is waited for. -/
def Phase.Allows : Phase → Option Toggle → Prop
  | .awaitScanStart _, owed | .scanning _, owed => owed = none
  | .awaitAlarm alarm mode barcode, owed =>
    ∃ g, owed = some g ∧ g.alarm = alarm ∧ g.mode = mode ∧ g.barcode = barcode
  | .idle, _ | .awaitScanEnd, _ | .awaitWrite _, _ => True

namespace Station

/-- The ledgers record one toggle, or none. -/
structure Owes (s : Station) (owed : Option Toggle) : Prop where
  pending : s.pending = owed.elim .empty fun g => .single g.barcode g.report
  retries (alarm : Alarm) : s.retries alarm =
    owed.elim .empty fun g => if g.alarm = alarm then .single g.barcode g.tag else .empty

variable {around : Surroundings} {s s' : Station} {i : Input} {es : List Effect}
  {c : Reader.Command} {next : Phase} {owed : Option Toggle} {g : Toggle}

theorem owes_fresh (ip : String) (policy : FailurePolicy) : (fresh ip policy).Owes none :=
  ⟨rfl, fun alarm => by cases alarm <;> rfl⟩

theorem owes_renew (branch : String) : (s.renew branch).Owes none :=
  ⟨rfl, fun alarm => by cases alarm <;> rfl⟩

theorem Owes.ledgers_of_none (h : s.Owes none) :
    s.pending = .empty ∧ s.retryOn = .empty ∧ s.retryOff = .empty :=
  ⟨h.pending, h.retries .on, h.retries .off⟩

theorem Owes.retries_self (h : s.Owes (some g)) : s.retries g.alarm = .single g.barcode g.tag := by
  rw [h.retries, Option.elim_some, if_pos rfl]

theorem Owes.retries_other (h : s.Owes (some g)) {other : Alarm} (hne : other ≠ g.alarm) :
    s.retries other = .empty := by
  rw [h.retries, Option.elim_some, if_neg hne.symm]

/-- In an alarm wait, the tag of the toggle that is owed is the one tag noted for its setting. -/
theorem Owes.retries_of_phase (h : s.Owes owed) (allows : s.phase.Allows owed) {alarm : Alarm}
    {mode : Mode} {barcode : String} (phase : s.phase = .awaitAlarm alarm mode barcode) :
    ∃ tag, s.retries alarm = .single barcode tag := by
  rw [phase] at allows
  obtain ⟨g, rfl, rfl, rfl, rfl⟩ := allows
  exact ⟨g.tag, h.retries_self⟩

/-- A retry finds the owed toggle and nothing else. -/
theorem Owes.get?_retries (h : s.Owes owed) {alarm : Alarm} {barcode : String}
    {tag : Option String} (found : (s.retries alarm).get? barcode = some tag) :
    ∃ g, owed = some g ∧ g.alarm = alarm ∧ g.barcode = barcode ∧ g.tag = tag := by
  -- A ledger with an entry is that of the setting owed, and its one entry is for the tag owed.
  rw [h.retries] at found
  cases owed with
  | none => cases found
  | some g =>
    by_cases same : g.alarm = alarm
    · simp only [Option.elim_some, same, if_true] at found
      by_cases named : g.barcode = barcode
      · subst named
        exact ⟨g, rfl, same, rfl, by simpa using found⟩
      · rw [Ledger.get?_single_of_ne named] at found
        cases found
    · simp only [Option.elim_some, same, if_false] at found
      cases found

/-- A message that asks for another try, to a station that may be asked, names the owed toggle. -/
theorem Owes.of_retryable? (h : s.Owes owed) (allows : s.phase.Allows owed) {alarm : Alarm}
    {m : Message} {mode : Mode} {barcode : String} {tag : Option String}
    (found : s.retryable? alarm m = some (mode, barcode, tag)) :
    ∃ g, owed = some g ∧ g.alarm = alarm ∧ g.mode = mode ∧ g.barcode = barcode ∧ g.tag = tag := by
  obtain ⟨phase, -, -, kept⟩ := retryable?_eq_some_iff.mp found
  obtain ⟨g, rfl, halarm, hbarcode, htag⟩ := h.get?_retries kept
  refine ⟨g, rfl, halarm, ?_, hbarcode, htag⟩
  cases hp : s.phase <;> simp_all [Phase.Allows, Phase.scanMode?]

/-! ### How the ledgers change -/

/-- A scan that is recorded is owed, where nothing was. -/
theorem Owes.incur (h : s.Owes none) (g : Toggle) :
    ((s.record g.mode g.barcode g.item).remember g.alarm g.barcode g.tag).Owes (some g) := by
  obtain ⟨none_pending, none_on, none_off⟩ := h.ledgers_of_none
  refine ⟨?_, fun alarm => ?_⟩
  · cases hg : g.alarm <;> simp [remember, record, none_pending, Toggle.report]
  · cases hg : g.alarm <;> cases alarm <;>
      simp [remember, record, Station.retries, none_on, none_off, hg]

/-- To remember the owed tag again changes nothing. -/
theorem Owes.remember (h : s.Owes (some g)) :
    (s.remember g.alarm g.barcode g.tag).Owes (some g) := by
  have retries := h.retries
  have on := retries .on
  have off := retries .off
  refine ⟨?_, fun alarm => ?_⟩
  · rw [← h.pending]
    cases g.alarm <;> rfl
  · cases hg : g.alarm <;> cases alarm <;>
      simp_all [Station.remember, Station.retries, Ledger.insert_single]

/-- A confirmed toggle is no longer owed. -/
theorem Owes.settle_ok (h : s.Owes (some g)) (mode : Mode) :
    (s.settle mode g.barcode true).Owes none := by
  have retries := h.retries
  have pending := h.pending
  have on := retries .on
  have off := retries .off
  refine ⟨by simp [settle, pending], fun alarm => ?_⟩
  cases hg : g.alarm <;> cases alarm <;> simp_all [settle, Station.retries]

/-- A failed toggle is still owed. -/
theorem Owes.settle_failed (h : s.Owes owed) (mode : Mode) (barcode : String) :
    (s.settle mode barcode false).Owes owed := ⟨h.pending, h.retries⟩

/-- What the screen is told of an owed toggle when the reader answers it. -/
theorem Owes.outcome (h : s.Owes (some g)) (ok : Bool) :
    s.outcome g.alarm g.mode g.barcode ok =
      if ok then [g.report]
      else [(Message.readerFailure g.mode.action g.alarm.failure).about g.item] := by
  cases ok <;> simp [Station.outcome, h.pending, Toggle.report, Message.about]

/-- A command changes nothing that is owed. -/
theorem Orders.owes (h : Orders around s c next s' es) (old : s.Owes owed) : s'.Owes owed := by
  cases h with
  | taken => exact ⟨old.pending, old.retries⟩
  | refused => exact ⟨old.pending, old.retries⟩

/-- A look-up is answered under its own action. -/
theorem action_of_told_lookUp {m reply : Message} (h : reply ∈ Effect.told (lookUp around m)) :
    reply.action = .itemInfo := by
  unfold lookUp at h
  split at h
  · simp_all [Message.backendFailure]
  · next barcode _ =>
    cases known : around.backend.itemStatus barcode <;>
      simp_all [Message.backendFailure, Message.plain, Message.about]

end Station

/-! ### What an episode does to what is owed -/

namespace Episode

/-- An episode sends, if anything, a command that neither begins a batch nor sets an alarm. -/
def Aside (e : Episode) : Prop := ∀ c ∈ e.commands, c.kind = .endScan ∨ c.kind = .write

/-- What an episode does to what is owed, with all it sends and says of the items of the batch. -/
inductive Move (e : Episode) : Option Toggle → Option Toggle → Prop
  | opened {m : Message} {mode : Mode} {owed : Option Toggle} (input : e.input = .message m)
      (asked : m.action = mode.action) (begun : e.commands = [.beginScan])
      (phase : e.after.phase = .awaitScanStart mode) (branch : e.after.branch = m.branch.getD "")
      (quiet : e.told = []) : Move e owed none
  | incurred {mode : Mode} {r : Reader.Response} {alarm : Alarm} {item : Item}
      (scan : e.scan? = some (mode, r))
      (decided : e.before.verdict e.around mode r.scanned r.ok = .toggle alarm item)
      (sent : e.commands = [alarm.command r.tag])
      (told : e.told = Effect.told (e.before.inquiry e.around mode r.scanned r.ok))
      (calls : e.asked = Effect.asked (e.before.inquiry e.around mode r.scanned r.ok)) :
      Move e none (some ⟨alarm, mode, r.scanned, r.tag, item⟩)
  | forgone {mode : Mode} {r : Reader.Response} (scan : e.scan? = some (mode, r))
      (decided : e.before.verdict e.around mode r.scanned r.ok = .carryOn ∨
        e.before.verdict e.around mode r.scanned r.ok = .abort)
      (aside : e.Aside)
      (told : e.told = Effect.told (e.before.inquiry e.around mode r.scanned r.ok))
      (calls : e.asked = Effect.asked (e.before.inquiry e.around mode r.scanned r.ok)) :
      Move e none none
  | discharged {g : Toggle} (scan : e.scan? = none) (aside : e.Aside) (told : e.told = [g.report]) :
      Move e (some g) none
  | retried {g : Toggle} (scan : e.scan? = none) (sent : e.commands = [g.command])
      (quiet : e.told = []) : Move e (some g) (some g)
  | kept {owed : Option Toggle} (scan : e.scan? = none) (aside : e.Aside)
      (told : ∀ m ∈ e.told, m.concernsItem = true → m.rfidError = true ∧ m.sipError = false) :
      Move e owed owed

variable {e : Episode} {owed : Option Toggle}

theorem running_of_after (h : e.after.terminated = false) : e.before.terminated = false := by
  cases running : e.before.terminated with
  | false => rfl
  | true =>
    rw [after, turn_of_terminated running, running] at h
    cases h

theorem aside_of_nil (h : e.commands = []) : e.Aside := by
  simp [Aside, h]

theorem aside_of_single {c : Reader.Command} (h : e.commands = [c])
    (other : c.kind = .endScan ∨ c.kind = .write) : e.Aside := by
  simpa [Aside, h] using other

/-! ### Which episodes are scans -/

theorem scan?_of_message {m : Message} (heard : e.input = .message m) : e.scan? = none := by
  simp [scan?, heard]

theorem scan?_of_phase (phase : e.before.phase.isScanning = false) : e.scan? = none := by
  unfold scan?
  split
  · simp_all [Phase.isScanning]
  · rfl

theorem scan?_of_response {mode : Mode} {r : Reader.Response}
    (running : e.before.terminated = false) (heard : e.input = .event (.response r))
    (phase : e.before.phase = .scanning mode) :
    e.scan? = if r.scanned ≠ "" then some (mode, r) else none := by
  simp [scan?, heard, phase, running]

/-- The answer to an alarm command discharges what is owed, or leaves it owed. -/
private theorem exists_move_of_settle {alarm : Alarm} {mode : Mode} {barcode : String} {ok : Bool}
    (phase : e.before.phase = .awaitAlarm alarm mode barcode) (owes : e.before.Owes owed)
    (allows : e.before.phase.Allows owed) (aside : e.Aside)
    (told : e.told = e.before.outcome alarm mode barcode ok) :
    ∃ owed', (e.before.settle mode barcode ok).Owes owed' ∧
      (e.before.settle mode barcode ok).phase.Allows owed' ∧ e.Move owed owed' := by
  have scan : e.scan? = none := scan?_of_phase (by rw [phase]; rfl)
  rw [phase] at allows
  -- The toggle that is owed is the one that the phase waits for.
  obtain ⟨g, rfl, rfl, rfl, rfl⟩ := allows
  rw [owes.outcome] at told
  cases ok with
  | true => exact ⟨none, owes.settle_ok _, rfl, .discharged scan aside (by simpa using told)⟩
  | false =>
    refine ⟨some g, owes.settle_failed _ _, ?_, .kept scan aside ?_⟩
    · simpa [Station.settle, phase] using ⟨g, rfl, rfl, rfl, rfl⟩
    · simp [told, Message.readerFailure, Message.about]

/-- An episode on a message opens a batch, tries the owed toggle again, or keeps what is owed. -/
private theorem exists_move_of_message {m : Message} {s' : Station} {es : List Effect}
    (heard : e.input = .message m) (after : e.after = s') (done : e.turn.effects = es)
    (course : e.before.Course e.around (.message m) s' es) (running : s'.terminated = false)
    (owes : e.before.Owes owed) (allows : e.before.phase.Allows owed) :
    ∃ owed', s'.Owes owed' ∧ s'.phase.Allows owed' ∧ e.Move owed owed' := by
  have scan : e.scan? = none := scan?_of_message heard
  have commands : e.commands = Effect.commands es := by rw [Episode.commands, done]
  have told : e.told = Effect.told es := by rw [Episode.told, done]
  cases course with
  | passed => exact ⟨owed, owes, allows, .kept scan (aside_of_nil commands) (by simp [told])⟩
  | opened asked _ _ h =>
    obtain ⟨phase, branch, sent, quiet, -⟩ := h.granted running
    have owes' := h.owes (Station.owes_renew _)
    refine ⟨none, owes', by rw [phase]; rfl, ?_⟩
    refine .opened heard asked ?_ (after ▸ phase) (after ▸ branch) ?_
    · simpa [commands] using sent
    · simpa [told] using quiet
  | deferred =>
    exact ⟨owed, ⟨owes.pending, owes.retries⟩, allows,
      .kept scan (aside_of_nil commands) (by simp [told])⟩
  | ended _ _ _ h =>
    obtain ⟨phase, -, sent, quiet, -⟩ := h.granted running
    have owes' := h.owes ⟨owes.pending, owes.retries⟩
    have aside : e.Aside := aside_of_single (commands.trans sent) (.inl rfl)
    -- A failed toggle is still owed when the batch ends, so nothing is said of it here.
    exact ⟨owed, owes', by rw [phase]; trivial, .kept scan aside (by simp [told, quiet])⟩
  | retried _ found h =>
    obtain ⟨g, rfl, rfl, rfl, rfl, rfl⟩ := owes.of_retryable? allows found
    obtain ⟨phase, -, sent, quiet, -⟩ := h.granted running
    have owes' := h.owes owes.remember
    exact ⟨some g, owes', by rw [phase]; exact ⟨g, rfl, rfl, rfl, rfl⟩,
      .retried scan (commands.trans sent) (told.trans quiet)⟩
  | lookedUp =>
    refine ⟨owed, owes, allows, .kept scan (aside_of_nil (by simp [commands])) ?_⟩
    intro reply hreply item
    have action := Station.action_of_told_lookUp (told ▸ hreply)
    simp [Message.concernsItem, action] at item
  | writeUnnamed =>
    exact ⟨owed, owes, allows, .kept scan (aside_of_nil commands)
      (by simp [told, Message.readerFailure, Message.concernsItem])⟩
  | writing _ _ _ _ h =>
    obtain ⟨phase, -, sent, quiet, -⟩ := h.granted running
    have aside : e.Aside := aside_of_single (commands.trans sent) (.inr rfl)
    exact ⟨owed, h.owes owes, by rw [phase]; trivial, .kept scan aside (by simp [told, quiet])⟩

/-- An episode on a scan incurs a toggle where nothing is owed, or forgoes it. -/
private theorem exists_move_of_scan {mode : Mode} {r : Reader.Response} {s' : Station}
    {es : List Effect} (scan : e.scan? = some (mode, r)) (done : e.turn.effects = es)
    (course : e.before.Course e.around (.event (.response r)) s' es)
    (running : s'.terminated = false) (owes : e.before.Owes owed)
    (allows : e.before.phase.Allows owed) :
    ∃ owed', s'.Owes owed' ∧ s'.phase.Allows owed' ∧ e.Move owed owed' := by
  have commands : e.commands = Effect.commands es := by rw [Episode.commands, done]
  have told : e.told = Effect.told es := by rw [Episode.told, done]
  have calls : e.asked = Effect.asked es := by rw [Episode.asked, done]
  obtain ⟨-, -, phase, named⟩ := scan?_eq_some_iff.mp scan
  -- Nothing is owed while the reader scans, so the item of this scan is the only one there is.
  obtain rfl : owed = none := by rwa [phase] at allows
  have free : Station.Owes { e.before with inFlight := none } none := ⟨owes.pending, owes.retries⟩
  cases course with
  | passed h =>
    obtain ⟨-, other⟩ := h
    simp [phase, Phase.isScanning] at other
  | blank _ unnamed => exact absurd unnamed named
  | @toggled _ _ alarm item _ _ own _ decided h =>
    cases phase.symm.trans own
    obtain ⟨phase', -, sent, quiet, silent⟩ := h.granted running
    have owes' := h.owes (free.incur ⟨alarm, mode, r.scanned, r.tag, item⟩)
    refine ⟨_, owes', by rw [phase']; exact ⟨_, rfl, rfl, rfl, rfl⟩, ?_⟩
    refine .incurred scan decided ?_ ?_ ?_
    · simpa [commands] using sent
    · simp [told, quiet]
    · simp [calls, silent]
  | unreported own _ decided =>
    cases phase.symm.trans own
    exact ⟨none, free, allows,
      .forgone scan (.inl decided) (aside_of_nil (by simp [commands])) told calls⟩
  | aborted own _ decided h =>
    cases phase.symm.trans own
    obtain ⟨phase', -, sent, quiet, silent⟩ := h.granted running
    refine ⟨none, h.owes free, by rw [phase']; trivial, ?_⟩
    refine .forgone scan (.inr decided) (aside_of_single (c := .endScan) ?_ (.inl rfl)) ?_ ?_
    · simpa [commands] using sent
    · simp [told, quiet]
    · simp [calls, silent]
  | gaveUp => cases running
  | started own | notStarted own | settled own | settledLast own | closed own | wrote own
  | stray own => cases phase.symm.trans own

/-- An episode on any other response discharges what is owed, or keeps it. -/
private theorem exists_move_of_answer {r : Reader.Response} {s' : Station} {es : List Effect}
    (heard : e.input = .event (.response r)) (before : e.before.terminated = false)
    (scan : e.scan? = none) (done : e.turn.effects = es)
    (course : e.before.Course e.around (.event (.response r)) s' es)
    (running : s'.terminated = false) (owes : e.before.Owes owed)
    (allows : e.before.phase.Allows owed) :
    ∃ owed', s'.Owes owed' ∧ s'.phase.Allows owed' ∧ e.Move owed owed' := by
  have commands : e.commands = Effect.commands es := by rw [Episode.commands, done]
  have told : e.told = Effect.told es := by rw [Episode.told, done]
  have free (p : Phase) : Station.Owes { e.before with inFlight := none, phase := p } owed :=
    ⟨owes.pending, owes.retries⟩
  cases course with
  | passed => exact ⟨owed, owes, allows, .kept scan (aside_of_nil commands) (by simp [told])⟩
  | started phase =>
    rw [phase] at allows
    exact ⟨owed, free _, allows, .kept scan (aside_of_nil commands) (by simp [told])⟩
  | blank | stray =>
    exact ⟨owed, free _, allows, .kept scan (aside_of_nil commands) (by simp [told])⟩
  | toggled phase named | unreported phase named | aborted phase named =>
    rw [scan?_of_response before heard phase, if_pos named] at scan
    cases scan
  | settled phase =>
    have aside : e.Aside := aside_of_nil (by simp [commands])
    exact exists_move_of_settle phase owes allows aside (by simp [told])
  | @settledLast _ alarm mode barcode _ _ phase _ _ h =>
    obtain ⟨phase', -, sent, quiet, -⟩ := h.granted running
    have aside : e.Aside :=
      aside_of_single (c := .endScan) (by simpa [commands] using sent) (.inl rfl)
    have answered : e.told = e.before.outcome alarm mode barcode r.ok := by simp [told, quiet]
    -- The outcome is told first, and then the batch ends as it was asked to.
    obtain ⟨owed', settled, -, move⟩ := exists_move_of_settle phase owes allows aside answered
    exact ⟨owed', h.owes ⟨settled.pending, settled.retries⟩, by rw [phase']; trivial, move⟩
  | closed =>
    refine ⟨owed, free _, trivial, .kept scan (aside_of_nil commands) ?_⟩
    rw [told]
    split <;> simp [Message.plain, Message.readerFailure, Message.concernsItem]
  | wrote =>
    refine ⟨owed, free _, trivial, .kept scan (aside_of_nil commands) ?_⟩
    rw [told]
    split <;> simp [Message.plain, Message.readerFailure, Message.about, Message.concernsItem]
  | notStarted | gaveUp => cases running

/-- Every episode that leaves the station running makes one of the moves. -/
theorem exists_move (running : e.after.terminated = false) (owes : e.before.Owes owed)
    (allows : e.before.phase.Allows owed) :
    ∃ owed', e.after.Owes owed' ∧ e.after.phase.Allows owed' ∧ e.Move owed owed' := by
  have before := running_of_after running
  have course := course before
  cases heard : e.input with
  | message m =>
    rw [heard] at course
    exact exists_move_of_message heard rfl rfl course running owes allows
  | event event =>
    rw [heard] at course
    cases event with
    | failed f =>
      generalize e.after = s' at course running
      generalize e.turn.effects = es at course
      cases course with
      | passed h => cases h
      | lost => cases running
    | response r =>
      cases scan : e.scan? with
      | none => exact exists_move_of_answer heard before scan rfl course running owes allows
      | some x =>
        obtain ⟨mode, r'⟩ := x
        obtain ⟨-, own, -, -⟩ := scan?_eq_some_iff.mp scan
        cases heard.symm.trans own
        exact exists_move_of_scan scan rfl course running owes allows

/-! ### Which episodes begin a batch -/

theorem opens_of_aside (aside : e.Aside) : e.opens = false := by
  -- The command to scan is none of those that an episode may send aside.
  by_contra opens
  have begun : Reader.Command.beginScan ∈ e.commands := by simpa [Episode.opens] using opens
  obtain h | h := aside _ begun <;> cases h

theorem opens_of_alarm {alarm : Alarm} {tag : Option String}
    (sent : e.commands = [alarm.command tag]) : e.opens = false := by
  cases alarm <;> simp [Episode.opens, sent, Alarm.command]

theorem notMem_of_aside (aside : e.Aside) (alarm : Alarm) (tag : Option String) :
    alarm.command tag ∉ e.commands := by
  intro sent
  obtain h | h := aside _ sent <;> cases alarm <;> cases h

end Episode

/-- What every move preserves holds of every history that leaves the station running, together with
what the station owes after it. -/
theorem Station.owed_induction {P : List Episode → Station → Option Toggle → Prop} {ip : String}
    {policy : FailurePolicy} (nil : P [] (fresh ip policy) none)
    (snoc : ∀ (h : List Episode) (e : Episode) (owed owed' : Option Toggle), P h e.before owed →
      e.before.phase.Allows owed → e.Move owed owed' → e.after.terminated = false →
      P (h ++ [e]) e.after owed')
    (inputs : List (Surroundings × Input))
    (running : ((fresh ip policy).run inputs).station.terminated = false) :
    ∃ owed, ((fresh ip policy).run inputs).station.Owes owed ∧
      ((fresh ip policy).run inputs).station.phase.Allows owed ∧
      P ((fresh ip policy).history inputs) ((fresh ip policy).run inputs).station owed := by
  refine history_induction (P := fun h s => s.terminated = false →
    ∃ owed, s.Owes owed ∧ s.phase.Allows owed ∧ P h s owed) ?_ ?_ inputs running
  · exact fun _ => ⟨none, owes_fresh ip policy, trivial, nil⟩
  · intro h e old running
    obtain ⟨owed, owes, allows, hP⟩ := old (Episode.running_of_after running)
    obtain ⟨owed', owes', allows', move⟩ := Episode.exists_move running owes allows
    exact ⟨owed', owes', allows', snoc h e owed owed' hP allows move running⟩

/-- After every run that leaves the station running, its ledgers record what the phase allows. -/
theorem Station.owes_run (ip : String) (policy : FailurePolicy)
    (inputs : List (Surroundings × Input))
    (running : ((fresh ip policy).run inputs).station.terminated = false) :
    ∃ owed, ((fresh ip policy).run inputs).station.Owes owed ∧
      ((fresh ip policy).run inputs).station.phase.Allows owed := by
  obtain ⟨owed, owes, allows, -⟩ := owed_induction (P := fun _ _ _ => True) trivial
    (fun _ _ _ _ _ _ _ _ => trivial) inputs running
  exact ⟨owed, owes, allows⟩

end SelfCheck
