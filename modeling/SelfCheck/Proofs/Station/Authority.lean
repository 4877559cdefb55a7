import SelfCheck.Proofs.Station.Owed

/-!
# The authority of an alarm command

To set the security bit of a tag, or to clear it, is the one decision of a station that matters
outside the library. A retry repeats the decision from what the station noted when it was first
made. The notes of an earlier item, of the other setting or of an earlier batch must never speak
for a tag, so every alarm command, first attempt or retry, is traced back to one scan of its own
batch and to what the backend answered about that scan.

## Main definitions

* `OpenedBy` — the message that opened the batch of a history
* `Episode.Answered` — the backend answered a call of the episode
* `Episode.Warrants` — what a scan says of the alarm
* `Decides` — the last scan of the batch decided a toggle

## Main results

* `Station.traced_run` — the notes of a station agree with its history
* `Station.alarm_command_warranted` — every alarm command is warranted by that scan
-/

namespace SelfCheck

theorem Phase.mode?_of_scanMode? {p : Phase} {mode : Mode} (h : p.scanMode? = some mode) :
    p.mode? = some mode := by
  cases p <;> simp_all [Phase.scanMode?, Phase.mode?]

/-- The message opened the batch of a history, in the given mode. -/
def OpenedBy (h : List Episode) (mode : Mode) (m : Message) : Prop :=
  (opening? h).map (·.input) = some (.message m) ∧ m.action = mode.action

namespace Episode

/-- The episode made a call to which the backend answered with an item. -/
def Answered (e : Episode) (q : Call) (item : Item) : Prop :=
  q ∈ e.asked ∧ e.around.backend.answer q = .ok item

/-- What a scan says of the alarm. At checkin it is turned on if and only if the tag was read in
full and the backend has taken a known item back at the branch; at checkout it is turned off if and
only if the tag was read in full and the backend knows the item. -/
def Warrants (scan : Episode) (mode : Mode) (branch : String) (r : Reader.Response)
    (alarm : Alarm) : Prop :=
  match mode with
  | .checkin => alarm = .on ↔ r.ok = true ∧ ∃ item,
      scan.Answered (.checkin branch r.scanned) item ∧
        item.unknown = false ∧ item.transactionFailed = false
  | .checkout => alarm = .off ↔ r.ok = true ∧ ∃ item,
      scan.Answered (.itemStatus r.scanned) item ∧ item.unknown = false

variable {e : Episode} {mode : Mode} {r : Reader.Response} {alarm : Alarm} {item : Item}

/-- A tag that was not read in full is decided by the mode alone. -/
theorem warrants_of_unreadable {branch : String} (unread : r.ok = false)
    (halarm : alarm = Turn.unreadableAlarm mode) : e.Warrants mode branch r alarm := by
  cases mode <;> simp [Warrants, unread, halarm, Turn.unreadableAlarm]

theorem warrants_checkin_of_ok {branch : String} (read : r.ok = true)
    (answered : e.Answered (.checkin branch r.scanned) item)
    (halarm : alarm = if item.unknown = true ∨ item.transactionFailed = true then .off else .on) :
    e.Warrants .checkin branch r alarm := by
  have same {known : Item} (h : e.Answered (.checkin branch r.scanned) known) : known = item :=
    Except.ok.inj (h.2.symm.trans answered.2)
  constructor
  · intro on
    refine ⟨read, item, answered, ?_⟩
    rw [halarm] at on
    split at on
    · cases on
    · next good => simpa using good
  · rintro ⟨-, known, h, hu, hf⟩
    rw [same h] at hu hf
    simp [halarm, hu, hf]

theorem warrants_checkin_of_error {branch : String} {failure : CallFailure}
    (failed : e.around.backend.checkin branch r.scanned = .error failure) :
    e.Warrants .checkin branch r .off := by
  constructor
  · intro on
    cases on
  · rintro ⟨-, known, ⟨-, h⟩, -⟩
    rw [Backend.answer, failed] at h
    cases h

theorem warrants_checkout_of_ok {branch : String} (read : r.ok = true)
    (answered : e.Answered (.itemStatus r.scanned) item)
    (halarm : alarm = if item.unknown then .on else .off) :
    e.Warrants .checkout branch r alarm := by
  have same {known : Item} (h : e.Answered (.itemStatus r.scanned) known) : known = item :=
    Except.ok.inj (h.2.symm.trans answered.2)
  constructor
  · intro off
    refine ⟨read, item, answered, ?_⟩
    rw [halarm] at off
    split at off
    · cases off
    · next good => simpa using good
  · rintro ⟨-, known, h, hu⟩
    rw [same h] at hu
    simp [halarm, hu]

/-- A verdict to toggle is warranted by the answers to the calls that were made for it. -/
theorem warrants_of_verdict
    (decided : e.before.verdict e.around mode r.scanned r.ok = .toggle alarm item)
    (calls : e.asked = Effect.asked (e.before.inquiry e.around mode r.scanned r.ok)) :
    e.Warrants mode e.before.branch r alarm := by
  have ruling := Station.ruling e.around e.before mode r.scanned r.ok
  rw [decided] at ruling
  generalize e.before.inquiry e.around mode r.scanned r.ok = es at ruling calls
  cases ruling with
  | returned read at_checkin answer =>
    subst at_checkin
    exact warrants_checkin_of_ok read ⟨by simp [calls], answer⟩ (by simp)
  | released _ at_checkin answer =>
    -- Only the policy to release the tag goes on to a toggle when the checkin has failed.
    subst at_checkin
    exact warrants_checkin_of_error answer
  | lent read at_checkout answer =>
    subst at_checkout
    exact warrants_checkout_of_ok read ⟨by simp [calls], answer⟩ rfl
  | recalled unread | titled unread =>
    -- Whether the title is at hand or looked up, the setting is the same.
    exact warrants_of_unreadable unread rfl

theorem mode?_of_scan (scan : e.scan? = some (mode, r)) : e.before.phase.mode? = some mode := by
  obtain ⟨-, -, phase, -⟩ := scan?_eq_some_iff.mp scan
  rw [phase, Phase.mode?]

/-- An episode that begins no batch keeps the branch, and at most leaves the mode. -/
theorem branch_and_mode (running : e.after.terminated = false) (opens : e.opens = false) :
    e.after.branch = e.before.branch ∧
      ∀ mode, e.after.phase.mode? = some mode → e.before.phase.mode? = some mode := by
  have course := course (running_of_after running)
  generalize hi : e.input = i, ha : e.after = s', he : e.turn.effects = es at course
  have commands : e.commands = Effect.commands es := by rw [← he]; rfl
  rw [ha] at running
  cases course with
  | opened _ _ _ h =>
    obtain ⟨-, -, sent, -⟩ := h.granted running
    simp [Episode.opens, commands, sent] at opens
  | ended _ _ _ h | writing _ _ _ _ h | aborted _ _ _ h =>
    obtain ⟨phase, branch, -⟩ := h.granted running
    exact ⟨branch, by simp [phase, Phase.mode?]⟩
  | retried _ found h =>
    obtain ⟨phase, branch, -⟩ := h.granted running
    -- A retry is taken up only while the batch is scanning, in the mode of the batch.
    obtain ⟨found, -⟩ := Station.retryable?_eq_some_iff.mp found
    refine ⟨by simpa using branch, fun mode hmode => ?_⟩
    rw [phase] at hmode
    exact Phase.mode?_of_scanMode? (found.trans hmode)
  | toggled phase _ _ h =>
    obtain ⟨phase', branch, -⟩ := h.granted running
    refine ⟨by simpa [Station.record] using branch, fun mode hmode => ?_⟩
    rw [phase, Phase.mode?, ← hmode, phase', Phase.mode?]
  | @settled r alarm mode barcode phase =>
    refine ⟨by simp, fun mode' hmode => ?_⟩
    rw [phase, ← hmode]
    cases r.ok <;> simp [Station.settle, phase, Phase.mode?]
  | settledLast _ _ _ h =>
    obtain ⟨phase, branch, -⟩ := h.granted running
    exact ⟨by simpa using branch, by simp [phase, Phase.mode?]⟩
  | lost | notStarted | gaveUp => cases running
  | started phase => exact ⟨rfl, by simp [phase, Phase.mode?]⟩
  | closed | wrote => exact ⟨rfl, by simp [Phase.mode?]⟩
  | passed | deferred | lookedUp | writeUnnamed | blank | unreported | stray =>
    exact ⟨rfl, fun _ h => h⟩

/-- An alarm command is that of the toggle that is owed from then on. -/
theorem Move.owed_of_command {owed owed' : Option Toggle} {tag : Option String}
    (move : e.Move owed owed') (sent : alarm.command tag ∈ e.commands) :
    ∃ g, owed' = some g ∧ g.alarm = alarm ∧ g.tag = tag := by
  cases move with
  | opened _ _ begun => cases alarm <;> simp [begun, Alarm.command] at sent
  | incurred _ _ own =>
    obtain ⟨rfl, rfl⟩ := Alarm.command_inj (by simpa [own] using sent)
    exact ⟨_, rfl, rfl, rfl⟩
  | retried _ own =>
    obtain ⟨rfl, rfl⟩ := Alarm.command_inj (by simpa [own, Toggle.command] using sent)
    exact ⟨_, rfl, rfl, rfl⟩
  | forgone _ _ aside | discharged _ aside | kept _ aside =>
    exact absurd sent (notMem_of_aside aside alarm tag)

end Episode

/-- The last scan of the batch decided a toggle: its setting, its tag and the item it is about. -/
def Decides (h : List Episode) (g : Toggle) : Prop :=
  ∃ m scan r, OpenedBy h g.mode m ∧ (scans h).getLast? = some scan ∧
    scan.scan? = some (g.mode, r) ∧ g.tag = r.tag ∧
    scan.Warrants g.mode (m.branch.getD "") r g.alarm

/-- The notes of a running station agree with the history of its batch: mode and branch are those
of the message that opened it, and what is owed was decided by its last scan. -/
structure Traced (h : List Episode) (s : Station) (owed : Option Toggle) : Prop where
  opened (mode : Mode) : s.phase.mode? = some mode →
    ∃ m, OpenedBy h mode m ∧ s.branch = m.branch.getD ""
  decided (g : Toggle) : owed = some g → Decides h g

section Traced

variable {h : List Episode} {e : Episode} {g : Toggle} {mode : Mode} {m : Message}

theorem OpenedBy.concat (old : OpenedBy h mode m) (opens : e.opens = false) :
    OpenedBy (h ++ [e]) mode m := by
  simpa [OpenedBy, opening?_concat, opens] using old

theorem Decides.concat (old : Decides h g) (scan : e.scan? = none) (opens : e.opens = false) :
    Decides (h ++ [e]) g := by
  obtain ⟨m, last, r, opened, hlast, rest⟩ := old
  exact ⟨m, last, r, opened.concat opens, by simpa [scans_concat opens, scan] using hlast, rest⟩

/-- A move that begins no batch leaves the notes on mode and branch in agreement. -/
theorem Traced.opened_concat {owed : Option Toggle} (old : Traced h e.before owed)
    (running : e.after.terminated = false) (opens : e.opens = false) (mode : Mode)
    (phase : e.after.phase.mode? = some mode) :
    ∃ m, OpenedBy (h ++ [e]) mode m ∧ e.after.branch = m.branch.getD "" := by
  obtain ⟨same, keeps⟩ := e.branch_and_mode running opens
  obtain ⟨m, opened, branch⟩ := old.opened mode (keeps mode phase)
  exact ⟨m, opened.concat opens, same.trans branch⟩

/-- Every move leaves the notes in agreement with the longer history. -/
theorem Traced.concat {owed owed' : Option Toggle} (old : Traced h e.before owed)
    (move : e.Move owed owed') (running : e.after.terminated = false) : Traced (h ++ [e]) e.after owed' := by
  cases move with
  | @opened m mode _ input asked begun phase branch =>
    have opens : e.opens = true := by simp [Episode.opens, begun]
    refine ⟨fun mode' hmode => ⟨m, ⟨?_, ?_⟩, branch⟩, by simp⟩
    · simp [opening?_concat, opens, input]
    · rw [phase, Phase.mode?] at hmode
      cases hmode
      exact asked
  | @incurred mode r alarm item scan decided sent told calls =>
    have opens := Episode.opens_of_alarm sent
    refine ⟨old.opened_concat running opens, ?_⟩
    rintro _ ⟨rfl⟩
    -- The scan was heard in the mode that the opening set, at the branch that it named.
    obtain ⟨m, opened, branch⟩ := old.opened mode (Episode.mode?_of_scan scan)
    refine ⟨m, e, r, opened.concat opens, ?_, scan, rfl, branch ▸ ?_⟩
    · simp [scans_concat opens, scan]
    · exact Episode.warrants_of_verdict decided calls
  | forgone _ _ aside =>
    exact ⟨old.opened_concat running (Episode.opens_of_aside aside), by simp⟩
  | discharged _ aside =>
    exact ⟨old.opened_concat running (Episode.opens_of_aside aside), by simp⟩
  | retried scan sent =>
    have opens := Episode.opens_of_alarm sent
    exact ⟨old.opened_concat running opens, fun g hg => (old.decided g hg).concat scan opens⟩
  | kept scan aside =>
    have opens := Episode.opens_of_aside aside
    exact ⟨old.opened_concat running opens, fun g hg => (old.decided g hg).concat scan opens⟩

end Traced

namespace Station

/-- The notes of a station agree with its history after every run that leaves it running. -/
theorem traced_run (ip : String) (policy : FailurePolicy) (inputs : List (Surroundings × Input))
    (running : ((fresh ip policy).run inputs).station.terminated = false) :
    ∃ owed, ((fresh ip policy).run inputs).station.Owes owed ∧
      ((fresh ip policy).run inputs).station.phase.Allows owed ∧
      Traced ((fresh ip policy).history inputs) ((fresh ip policy).run inputs).station owed := by
  refine owed_induction ⟨by simp [fresh, Phase.mode?], by simp⟩ ?_ inputs running
  exact fun h e owed owed' old _ move running => old.concat move running

/-- Every alarm command that the reader takes, first attempt or retry, is for the tag of the last
scan of its batch and sets the alarm as the backend's answer about that scan warrants. -/
theorem alarm_command_warranted {ip : String} {policy : FailurePolicy}
    {inputs : List (Surroundings × Input)} {before after : List Episode} {e : Episode}
    {alarm : Alarm} {tag : Option String}
    (split : (fresh ip policy).history inputs = before ++ e :: after)
    (sent : alarm.command tag ∈ e.commands) :
    ∃ mode m scan r, OpenedBy (before ++ [e]) mode m ∧
      (scans (before ++ [e])).getLast? = some scan ∧ scan.scan? = some (mode, r) ∧
      tag = r.tag ∧ scan.Warrants mode (m.branch.getD "") r alarm := by
  obtain ⟨xs, -, hbefore, hrun, -⟩ := exists_history_split split
  obtain ⟨-, running⟩ := Episode.busy_of_commands_ne_nil (List.ne_nil_of_mem sent)
  have old := traced_run ip policy xs (by rw [hrun]; exact Episode.running_of_after running)
  rw [hbefore, hrun] at old
  obtain ⟨owed, owes, allows, traced⟩ := old
  obtain ⟨owed', -, -, move⟩ := Episode.exists_move running owes allows
  -- The command is that of the toggle owed after it, which the last scan decided.
  obtain ⟨g, rfl, rfl, rfl⟩ := move.owed_of_command sent
  obtain ⟨m, scan, r, decided⟩ := (traced.concat move running).decided g rfl
  exact ⟨g.mode, m, scan, r, decided⟩

/-- The retry of the sample run is warranted by its only scan. -/
theorem alarm_command_warranted_retriedCheckin :
    ∃ before e, (fresh "" .carryOn).history retriedCheckin = before ++ e :: [] ∧
      Alarm.command .on (some "T1") ∈ e.commands ∧
      ∃ mode m scan r, OpenedBy (before ++ [e]) mode m ∧
        (scans (before ++ [e])).getLast? = some scan ∧ scan.scan? = some (mode, r) ∧
        some "T1" = r.tag ∧ scan.Warrants mode (m.branch.getD "") r .on := by
  let retry : Episode :=
    { before := ((fresh "" .carryOn).run (retriedCheckin.take 4)).station
      around := { backend := .obliging }
      input := .message { action := .retryAlarmOn, item := some { barcode := "A1" } } }
  have split : (fresh "" .carryOn).history retriedCheckin =
      (fresh "" .carryOn).history (retriedCheckin.take 4) ++ retry :: [] := rfl
  have sent : Alarm.command .on (some "T1") ∈ retry.commands := by decide
  exact ⟨_, _, split, sent, alarm_command_warranted split sent⟩

end Station

end SelfCheck
