import SelfCheck.Proofs.Station.Outstanding
import Mathlib.Computability.RegularExpressions

/-!
# The grammar of the commands

Between its answers a reader either scans or it does not. A station nowhere says which: each
handler tests the phase for itself, and some commands are given from inside the answer to another
one, when a checkin fails or when a deferred end falls due. What the reader takes is nevertheless
always the beginning of a word of one regular language. Outside of a scan session tags are written;
a session is begun, sets alarms and is ended; and the version is never announced again.

## Main definitions

* `Reader.Grammar.word` — the commands that a reader may take, in order
* `Reader.Grammar.Spoken` — a word, or a word and the beginning of a session
* `Reader.Grammar.Gives` — what one turn may add
* `Phase.inSession` — the reader has been told to scan and not yet to end

## Main results

* `Station.Course.gives` — every turn that leaves the station running keeps to the grammar
* `Station.commands_beginning_of_word` — so does every run
-/

namespace SelfCheck

namespace Reader.Grammar

open RegularExpression
open Command (Kind)
open scoped Computability

/-- A command that sets the alarm of a tag. -/
def setting : RegularExpression Kind := char .alarmOn + char .alarmOff

/-- A scan session, from its beginning to its end. -/
def session : RegularExpression Kind := char .beginScan * star setting * char .endScan

/-- What a reader may take: tags to write, and scan sessions, in any order. -/
def word : RegularExpression Kind := star (char .write + session)

/-- What has been taken so far, with or without a session left open. -/
inductive Spoken : Bool → List Kind → Prop
  | outside {w : List Kind} (h : w ∈ word.matches') : Spoken false w
  | inside {w sets : List Kind} (h : w ∈ word.matches') (hsets : sets ∈ setting.matches'∗) :
      Spoken true (w ++ .beginScan :: sets)

/-- What one turn may add, by whether a session is open before it and after it. -/
inductive Gives : Bool → Bool → List Kind → Prop
  | nothing {o : Bool} : Gives o o []
  | writes : Gives false false [.write]
  | begins : Gives false true [.beginScan]
  | sets (alarm : Alarm) : Gives true true [alarm.kind]
  | ends : Gives true false [.endScan]

/-! ### Words -/

theorem append_mem_kstar {l : Language Kind} {w v : List Kind} (hw : w ∈ l∗) (hv : v ∈ l) :
    w ++ v ∈ l∗ := by
  have : l∗ * l ≤ l∗ := kstar_mul_le_kstar
  exact this (Language.append_mem_mul hw hv)

theorem kind_mem_setting (alarm : Alarm) : [alarm.kind] ∈ setting.matches' := by
  cases alarm
  · exact .inl rfl
  · exact .inr rfl

theorem write_mem_word {w : List Kind} (hw : w ∈ word.matches') :
    w ++ [Kind.write] ∈ word.matches' :=
  append_mem_kstar hw (.inl rfl)

/-- A session that is begun after a word can be ended, and then makes a longer word. -/
theorem session_mem_word {w sets : List Kind} (hw : w ∈ word.matches')
    (hsets : sets ∈ setting.matches'∗) : (w ++ Kind.beginScan :: sets) ++ [Kind.endScan] ∈
      word.matches' := by
  have hbegun : [Kind.beginScan] ++ sets ∈ (char Kind.beginScan * star setting).matches' :=
    Language.append_mem_mul rfl hsets
  have hsession : ([Kind.beginScan] ++ sets) ++ [Kind.endScan] ∈ session.matches' :=
    Language.append_mem_mul hbegun rfl
  rw [List.append_assoc]
  exact append_mem_kstar hw (.inr hsession)

/-! ### What has been taken -/

variable {o o' : Bool} {w v : List Kind}

theorem spoken_nil : Spoken false [] := .outside (Language.nil_mem_kstar _)

/-- What one turn may add leads from what may have been taken before it to what may after it. -/
theorem Spoken.append (h : Spoken o w) (hv : Gives o o' v) : Spoken o' (w ++ v) := by
  cases hv with
  | nothing => rwa [List.append_nil]
  | writes =>
    obtain ⟨hw⟩ := h
    exact .outside (write_mem_word hw)
  | begins =>
    obtain ⟨hw⟩ := h
    exact .inside hw (Language.nil_mem_kstar _)
  | sets alarm =>
    obtain _ | ⟨hw, hsets⟩ := h
    rw [List.append_assoc, List.cons_append]
    exact .inside hw (append_mem_kstar hsets (kind_mem_setting alarm))
  | ends =>
    obtain _ | ⟨hw, hsets⟩ := h
    exact .outside (session_mem_word hw hsets)

/-- Whatever has been taken can be completed to a word. -/
theorem Spoken.exists_prefix (h : Spoken o w) : ∃ u ∈ word.matches', w <+: u := by
  cases h with
  | outside hw => exact ⟨w, hw, List.prefix_refl w⟩
  | inside hw hsets => exact ⟨_, session_mem_word hw hsets, List.prefix_append _ _⟩

end Reader.Grammar

open Reader.Grammar

/-- The reader has been told to scan, and not yet to end. -/
def Phase.inSession : Phase → Bool
  | .awaitScanStart _ | .scanning _ | .awaitAlarm _ _ _ => true
  | .idle | .awaitScanEnd | .awaitWrite _ => false

theorem Phase.inSession_of_scanMode? {p : Phase} {mode : Mode} (h : p.scanMode? = some mode) :
    p.inSession = true := by
  cases p <;> simp_all [scanMode?, inSession]

theorem Phase.inSession_of_acceptsEnd {p : Phase} (h : p.acceptsEnd = true) :
    p.inSession = true := by
  obtain ⟨mode, hmode⟩ := Option.isSome_iff_exists.mp h
  exact inSession_of_scanMode? hmode

/-- The kinds of the commands that the reader took, in order. -/
def Effect.kinds (es : List Effect) : List Reader.Command.Kind := (commands es).map (·.kind)

namespace Station

open Effect (kinds)

variable {around : Surroundings} {s s' : Station} {i : Input} {es : List Effect}

theorem inSession_settle {alarm : Alarm} {mode : Mode} {barcode : String} {ok : Bool}
    (phase : s.phase = .awaitAlarm alarm mode barcode) :
    (s.settle mode barcode ok).phase.inSession = true :=
  Phase.inSession_of_acceptsEnd (acceptsEnd_settle phase)

/-- Every turn that leaves the station running keeps to the grammar. -/
theorem Course.gives (h : Course around s i s' es) (running : s'.terminated = false) :
    Gives s.phase.inSession s'.phase.inSession (kinds es) := by
  cases h with
  | passed | deferred | writeUnnamed => exact .nothing
  | lookedUp =>
    rw [kinds, commands_lookUp]
    exact .nothing
  | opened _ idle _ h =>
    obtain ⟨phase, -, sent, -⟩ := h.granted running
    rw [idle, phase, kinds, Effect.commands_reset, sent]
    exact .begins
  | ended _ accepts _ h =>
    obtain ⟨phase, -, sent, -⟩ := h.granted running
    rw [Phase.inSession_of_acceptsEnd accepts, phase, kinds, sent]
    exact .ends
  | @retried m alarm mode barcode tag _ _ _ found h =>
    obtain ⟨phase, -, sent, -⟩ := h.granted running
    obtain ⟨scans, -⟩ := retryable?_eq_some_iff.mp found
    rw [Phase.inSession_of_scanMode? scans, phase, kinds, sent, List.map_singleton,
      Alarm.kind_command]
    exact .sets alarm
  | writing _ idle _ _ h =>
    obtain ⟨phase, -, sent, -⟩ := h.granted running
    rw [idle, phase, kinds, sent]
    exact .writes
  | started phase _ _ | blank phase _ =>
    rw [phase]
    exact .nothing
  | @toggled r mode alarm item _ _ phase _ _ h =>
    obtain ⟨phase', -, sent, -⟩ := h.granted running
    rw [phase, phase', kinds, Effect.commands_append, commands_inquiry, List.nil_append, sent,
      List.map_singleton, Alarm.kind_command]
    exact .sets alarm
  | unreported phase =>
    rw [kinds, commands_inquiry]
    exact .nothing
  | aborted phase _ _ h =>
    -- The batch ends from inside the scan, while the session is open.
    obtain ⟨phase', -, sent, -⟩ := h.granted running
    rw [phase, phase', kinds, Effect.commands_append, commands_inquiry, List.nil_append, sent]
    exact .ends
  | settled phase =>
    rw [inSession_settle phase, phase, kinds, Effect.commands_map_tell]
    exact .nothing
  | settledLast phase _ _ h =>
    -- The deferred end is sent from inside the answer, and either answer leaves the session open.
    obtain ⟨phase', -, sent, -⟩ := h.granted running
    rw [phase, phase', kinds, Effect.commands_append, Effect.commands_map_tell, List.nil_append,
      sent]
    exact .ends
  | closed phase | wrote phase | stray phase =>
    rw [phase]
    exact .nothing
  | lost | notStarted | gaveUp => cases running

/-- A turn that ends the station sends nothing. -/
theorem Course.commands_of_ended (h : Course around s i s' es) (running : s.terminated = false)
    (ended : s'.terminated = true) : Effect.commands es = [] := by
  obtain quiet | ⟨c, -, -, same⟩ := h.commands
  · exact quiet
  · rw [same, running] at ended
    cases ended

/-- As long as the station runs, its phase says whether a session is open in what the reader has
taken; and what the reader has taken stays the beginning of a word when the station ends. -/
theorem spoken_run (ip : String) (policy : FailurePolicy) (inputs : List (Surroundings × Input)) :
    let t := (fresh ip policy).run inputs
    ∃ o, Spoken o (kinds t.effects) ∧ (t.station.terminated = false → o = t.station.phase.inSession)
    := by
  intro t
  have hsent : kinds t.effects =
      (((fresh ip policy).history inputs).flatMap (·.commands)).map (·.kind) := by
    rw [kinds, commands_run]
  rw [hsent]
  refine history_induction (P := fun h s => ∃ o,
    Spoken o ((h.flatMap (·.commands)).map (·.kind)) ∧
      (s.terminated = false → o = s.phase.inSession)) ?_ ?_ inputs
  · exact ⟨false, spoken_nil, fun _ => rfl⟩
  rintro h e ⟨o, spoken, same⟩
  rw [List.flatMap_append, List.map_append, List.flatMap_singleton]
  -- A station that has ended sends nothing, nor does one in the turn in which it ends.
  cases running : e.before.terminated with
  | true =>
    rw [Episode.commands, Episode.after, Episode.turn_of_terminated running, Effect.commands_nil,
      List.map_nil, List.append_nil]
    exact ⟨o, spoken, fun h => by rw [running] at h; cases h⟩
  | false =>
    have course := Episode.course running
    cases running' : e.after.terminated with
    | false =>
      have gives := course.gives running'
      rw [← same running] at gives
      exact ⟨_, spoken.append gives, fun _ => rfl⟩
    | true =>
      have quiet : e.commands = [] := course.commands_of_ended running running'
      rw [quiet, List.map_nil, List.append_nil]
      exact ⟨o, spoken, fun h => by cases h⟩

/-- In every run, the commands that the reader takes are the beginning of a word of the grammar:
alarms are set only within a scan session, a session is ended before the next one begins, tags are
written only outside of one, and the version is not announced again. -/
theorem commands_beginning_of_word (ip : String) (policy : FailurePolicy)
    (inputs : List (Surroundings × Input)) :
    ∃ w ∈ word.matches',
      (Effect.commands ((fresh ip policy).run inputs).effects).map (·.kind) <+: w := by
  obtain ⟨o, spoken, -⟩ := spoken_run ip policy inputs
  exact spoken.exists_prefix

end Station

end SelfCheck
