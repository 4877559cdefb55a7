import SelfCheck.Proofs.Station.BatchEnd
import SelfCheck.Proofs.Station.Calls
import SelfCheck.Proofs.Station.Inert

/-!
# Back to idle

A screen that has lost track of its station, or a person at the desk who wants to begin anew, has
one thing to do: ask for the end, let the reader answer, ask again and let it answer again.
Depending on the phase the same request is passed over, noted or carried out, and the same answer
starts a scan, settles an alarm, ends a session or is passed over. Whatever the phase, two rounds
are enough.

What decreases from round to round is the number of answers that lie between the station and its
idle phase. A request to end leaves that number alone but sees to it that the next answer counts; an
answer lowers it by one. No phase is more than two answers away.

## Main definitions

* `Station.answersToIdle` — how many answers lie between a station and its idle phase
* `Station.WindsDown` — the next response is no scan, and no alarm keeps the session open
* `Station.Subsides` — what may happen on the way: no call, and no command but the end of a session

## Main results

* `Station.Course.requested` — a request to end makes the next answer count
* `Station.Course.approached` — an answer brings the station nearer to its idle phase
* `Station.idle_after_two_rounds` — two rounds lead from every reachable state to the idle phase
-/

namespace SelfCheck.Station

/-- How many answers of the reader lie between a station that is asked to end and its idle phase:
that to the command in flight, and that to the end of a session that is still open. -/
def answersToIdle (s : Station) : Nat :=
  match s.phase, s.inFlight with
  | .idle, _ => 0
  | .awaitScanStart _, _ | .awaitAlarm _ _ _, some _ => 2
  | .awaitAlarm _ _ _, none | .scanning _, _ | .awaitScanEnd, _ | .awaitWrite _, _ => 1

/-- The command that ends the session, while one is open. -/
def closing (s : Station) : List Reader.Command := if s.phase.inSession then [.endScan] else []

/-- The station takes no response for a scan, and behind an alarm command the end is noted. -/
structure WindsDown (s : Station) : Prop where
  calm : s.phase.isScanning = false
  noted : ∀ alarm mode barcode, s.phase = .awaitAlarm alarm mode barcode → s.endRequested = true

/-- What may happen on the way to the idle phase: the station goes on in step and calls nobody, and
the end of an open session is sent or is still to be sent. -/
structure Subsides (s s' : Station) (es : List Effect) : Prop where
  running : s'.terminated = false
  inStep : s'.InStep
  uncalled : Effect.asked es = []
  sent : Effect.commands es ++ s'.closing = s.closing

variable {around : Surroundings} {s s' s'' : Station} {es fs : List Effect} {m : Message}
  {r : Reader.Response}

theorem Subsides.append (h : s.Subsides s' es) (h' : s'.Subsides s'' fs) :
    s.Subsides s'' (es ++ fs) where
  running := h'.running
  inStep := h'.inStep
  uncalled := by rw [Effect.asked_append, h.uncalled, h'.uncalled, List.append_nil]
  sent := by rw [Effect.commands_append, List.append_assoc, h'.sent, h.sent]

/-- A station that passes an input over stays as it is. -/
theorem Course.unmoved {i : Input} (h : Course around s i s' es) (running : s.terminated = false)
    (inStep : s.InStep) (inert : s.isInert i = true) (other : i.isLookUp = false) :
    s' = s ∧ s.Subsides s' es := by
  obtain ⟨rfl, quiet⟩ := h.of_inert inStep inert
  rw [quiet other]
  exact ⟨rfl, running, inStep, rfl, rfl⟩

/-! ### One round -/

/-- Whoever takes the command to end a session ends it. -/
theorem Orders.closed {t : Station} (h : Orders around t .endScan .awaitScanEnd s' es)
    (willing : around.refusal = none) (running : t.terminated = false) :
    s'.terminated = false ∧ s'.phase = .awaitScanEnd ∧ s'.inFlight = some .endScan ∧
      Effect.asked es = [] ∧ Effect.commands es = [.endScan] := by
  cases h with
  | refused f unwilling => simp [willing] at unwilling
  | taken => exact ⟨running, rfl, rfl, rfl, rfl⟩

/-- A request to end makes the next answer count: the end is given, or noted behind an alarm
command, unless there is nothing to end yet or any more. -/
theorem Course.requested (h : Course around s (.message m) s' es) (running : s.terminated = false)
    (inStep : s.InStep) (willing : around.refusal = none) (asked : m.action = .finish) :
    s.Subsides s' es ∧ s'.WindsDown ∧ s'.answersToIdle = s.answersToIdle := by
  have inStep' : s'.InStep := h.inStep inStep
  have awaits := inStep.awaits
  cases accepts : s.phase.acceptsEnd with
  | false =>
    have inert : s.isInert (.message m) = true := by simp [isInert, asked, accepts]
    obtain ⟨rfl, subsides⟩ := h.unmoved running inStep inert (by simp [Input.isLookUp, asked])
    -- A phase that does not accept the end is neither a scan nor an alarm wait.
    refine ⟨subsides, ⟨?_, ?_⟩, rfl⟩
    · cases phase : s'.phase <;> simp_all [Phase.acceptsEnd, Phase.scanMode?, Phase.isScanning]
    · intro alarm mode barcode phase
      simp [phase, Phase.acceptsEnd, Phase.scanMode?] at accepts
  | true =>
    have inSession := Phase.inSession_of_acceptsEnd accepts
    rcases h.askedToEnd asked accepts with ⟨free, orders⟩ | ⟨busy, rfl, rfl⟩
    · obtain ⟨running', phase', busy', uncalled, sent⟩ := orders.closed willing running
      refine ⟨⟨running', inStep', uncalled, ?_⟩, ⟨by rw [phase']; rfl, by simp [phase']⟩, ?_⟩
      · rw [closing, closing, if_pos inSession, phase', sent]
        rfl
      · cases phase : s.phase <;>
          simp_all [answersToIdle, Phase.acceptsEnd, Phase.scanMode?]
    · refine ⟨⟨running, inStep', rfl, rfl⟩, ⟨?_, fun _ _ _ _ => rfl⟩, rfl⟩
      -- While the reader scans nothing is in flight.
      cases phase : s.phase <;> simp_all [Phase.Awaits, Phase.isScanning]

/-- An answer brings a station that winds down nearer to its idle phase. If two answers are
missing, the first has to be an ok: a reader that does not begin to scan ends the station. -/
theorem Course.approached (h : Course around s (.event (.response r)) s' es)
    (running : s.terminated = false) (inStep : s.InStep) (willing : around.refusal = none)
    (down : s.WindsDown) (fit : r.ok = true ∨ s.answersToIdle ≤ 1) :
    s.Subsides s' es ∧ s'.answersToIdle = s.answersToIdle - 1 := by
  have inStep' : s'.InStep := h.inStep inStep
  have awaits := inStep.awaits
  cases phase : s.phase with
  | idle =>
    have free : s.inFlight = none := by simpa [phase, Phase.Awaits] using awaits
    have inert : s.isInert (.event (.response r)) = true := by
      simp [isInert, phase, free, Phase.isScanning]
    obtain ⟨rfl, subsides⟩ := h.unmoved running inStep inert rfl
    exact ⟨subsides, by simp [answersToIdle, phase]⟩
  | awaitScanStart mode =>
    rw [phase] at awaits
    have ok : r.ok = true := fit.resolve_right (by simp [answersToIdle, phase])
    have started := h.scanStarted phase (by rw [awaits]; rfl)
    rw [if_pos ok] at started
    obtain ⟨rfl, rfl⟩ := started
    exact ⟨⟨running, inStep', rfl, by simp [closing, phase, Phase.inSession]⟩,
      by simp [answersToIdle, phase]⟩
  | scanning mode =>
    -- A station that winds down does not scan.
    have calm := down.calm
    simp [phase, Phase.isScanning] at calm
  | awaitAlarm alarm mode barcode =>
    have noted := down.noted alarm mode barcode phase
    obtain ⟨_, _, _, _, busy⟩ := inStep.ending noted
    obtain ⟨fs, rfl, ⟨stays, -⟩ | ⟨-, orders⟩⟩ := h.answered phase (by rw [busy]; rfl)
    · rw [noted] at stays
      cases stays
    · obtain ⟨running', phase', -, uncalled, sent⟩ := orders.closed willing (by simpa using running)
      refine ⟨⟨running', inStep', by simp [uncalled], ?_⟩, ?_⟩
      · simp [closing, phase, phase', sent, Phase.inSession]
      · simp [answersToIdle, phase, phase', busy]
  | awaitScanEnd =>
    rw [phase] at awaits
    obtain ⟨rfl, rfl⟩ := h.scanEnded phase (by rw [awaits]; rfl)
    exact ⟨⟨running, inStep', rfl, by simp [closing, phase, Phase.inSession]⟩,
      by simp [answersToIdle, phase]⟩
  | awaitWrite barcode =>
    rw [phase] at awaits
    obtain ⟨rfl, rfl⟩ := h.tagWritten phase (by rw [awaits]; rfl)
    exact ⟨⟨running, inStep', rfl, by simp [closing, phase, Phase.inSession]⟩,
      by simp [answersToIdle, phase]⟩

/-- One round: the screen asks for the end and the reader answers. -/
def endRound (around around' : Surroundings) (m : Message) (r : Reader.Response) :
    List (Surroundings × Input) :=
  [(around, .message m), (around', .event (.response r))]

/-- A round brings the station one answer nearer to its idle phase. -/
theorem subsides_endRound {around' : Surroundings} (running : s.terminated = false)
    (inStep : s.InStep) (willing : around.refusal = none) (willing' : around'.refusal = none)
    (asked : m.action = .finish) (fit : r.ok = true ∨ s.answersToIdle ≤ 1) :
    let t := s.run (endRound around around' m r)
    s.Subsides t.station t.effects ∧ t.station.answersToIdle = s.answersToIdle - 1 := by
  obtain ⟨first, down, stays⟩ := (course_step running (.message m)).requested running inStep
    willing asked
  obtain ⟨second, nearer⟩ := (course_step first.running (.event (.response r))).approached
    first.running first.inStep willing' down (stays ▸ fit)
  rw [stays] at nearer
  simpa [endRound, run] using And.intro (first.append second) nearer

/-! ### Two rounds -/

theorem answersToIdle_le_two (s : Station) : s.answersToIdle ≤ 2 := by
  unfold answersToIdle
  split <;> decide

/-- Without an answer missing the station is idle. -/
theorem phase_of_answersToIdle (arrived : s.answersToIdle = 0) : s.phase = .idle := by
  unfold answersToIdle at arrived
  split at arrived
  · assumption
  all_goals cases arrived

/-- No reachable state is a dead end. While the reader takes every command, a screen that asks for
the end, gets an ok, asks again and gets any response has its station in the idle phase, with
nothing in flight and no end noted. On the way nobody is called, and what is sent is the end of the
session if one was open, and otherwise nothing. -/
theorem idle_after_two_rounds {ip : String} {policy : FailurePolicy}
    {inputs : List (Surroundings × Input)}
    (running : ((fresh ip policy).run inputs).station.terminated = false)
    {a a' b b' : Surroundings} (willing : ∀ x ∈ [a, a', b, b'], x.refusal = none)
    {m n : Message} (asked : m.action = .finish) (again : n.action = .finish)
    {r : Reader.Response} (ok : r.ok = true) (q : Reader.Response) :
    let s := ((fresh ip policy).run inputs).station
    let t := s.run (endRound a a' m r ++ endRound b b' n q)
    t.station.phase = .idle ∧ t.station.inFlight = none ∧ t.station.endRequested = false ∧
      t.station.terminated = false ∧ Effect.asked t.effects = [] ∧
      Effect.commands t.effects = if s.phase.inSession then [.endScan] else [] := by
  intro s t
  have inStep : s.InStep := inStep_run ip policy inputs
  obtain ⟨wa, wa', wb, wb'⟩ : a.refusal = none ∧ a'.refusal = none ∧ b.refusal = none ∧
      b'.refusal = none := by simpa using willing
  obtain ⟨first, near⟩ := subsides_endRound (s := s) running inStep wa wa' asked (.inl ok)
  -- At most one answer is missing after the first round, so the second takes any.
  have close := answersToIdle_le_two s
  obtain ⟨second, arrived⟩ := subsides_endRound (r := q) first.running first.inStep wb wb' again
    (.inr (by omega))
  have whole : t = ⟨_, _⟩ := run_append s (endRound a a' m r) (endRound b b' n q)
  have both := first.append second
  have idle := phase_of_answersToIdle (arrived.trans (by omega))
  rw [whole]
  refine ⟨idle, ?_, ?_, both.running, both.uncalled, ?_⟩
  · simpa [idle, Phase.Awaits] using both.inStep.awaits
  · exact both.inStep.quiet (by simp [idle])
  · simpa [closing, idle, Phase.inSession] using both.sent

/-- The sample run ends with an alarm command in flight. The first request is noted, and the answer
to the toggle sets off the end; the second request is passed over, and a scan that comes late is
taken for the answer to the end. -/
theorem idle_after_two_rounds_retriedCheckin :
    let around : Surroundings := { backend := .obliging }
    let s := ((fresh "" .carryOn).run retriedCheckin).station
    let t := s.run (endRound around around { action := .finish } { ok := true } ++
      endRound around around { action := .finish }
        { ok := false, barcode := some "10B2", tag := some "T2" })
    s.terminated = false ∧ s.inFlight = some .alarmOn ∧
      t.station.phase = .idle ∧ t.station.inFlight = none ∧ t.station.endRequested = false ∧
      t.station.terminated = false ∧ Effect.asked t.effects = [] ∧
      Effect.commands t.effects = [.endScan] := by
  intro around s t
  have running : s.terminated = false := by decide
  have willing : ∀ x ∈ [around, around, around, around], x.refusal = none := by simp [around]
  exact ⟨running, by decide, idle_after_two_rounds running willing rfl rfl rfl _⟩

end SelfCheck.Station
