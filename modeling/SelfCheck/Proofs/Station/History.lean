import SelfCheck.Proofs.Station.Course
import Mathlib.Data.List.DropRight
import Mathlib.Data.List.Induction

/-!
# The history of a station

A run keeps only what a station did. Its history also keeps what it heard, and in which state: one
episode for each turn. Where a statement about a station speaks of "the batch" or of "the last
scan", this is read off the history, from inputs, answers and effects, and not off the station's
own notes.

## Main definitions

* `Station.fresh` — a station that has heard nothing yet
* `Episode`, `Station.history` — one turn with what led to it, and the turns of a run
* `Effect.commands`, `Effect.told`, `Effect.asked` — what was sent, said and asked
* `batch`, `opening?`, `scans` — the open batch of a history, its opening and its scans

## Main results

* `Station.effects_run` — a run does what the episodes of its history do
* `Station.history_induction` — what every episode preserves holds of every history
* `Station.history_induction_of_run` — the same, with the run before each episode at hand
* `Station.run_invariant` — what every turn preserves holds after every run
-/

namespace SelfCheck

/-- What a backend answers to a call. -/
def Backend.answer (b : Backend) : Call → Except CallFailure Item
  | .checkin branch barcode => b.checkin branch barcode
  | .itemStatus barcode => b.itemStatus barcode

/-! ### What is done in a turn, by kind -/

namespace Effect

/-- The command that the reader took. -/
def command? : Effect → Option Reader.Command
  | send _ c => some c
  | _ => none

/-- The message to the screen. -/
def message? : Effect → Option Message
  | tell m => some m
  | _ => none

/-- The call to the backend. -/
def call? : Effect → Option Call
  | ask c => some c
  | _ => none

/-- The commands that the reader took, in order. -/
def commands (es : List Effect) : List Reader.Command := es.filterMap (·.command?)

/-- The messages to the screen, in order. -/
def told (es : List Effect) : List Message := es.filterMap (·.message?)

/-- The calls to the backend, in order. -/
def asked (es : List Effect) : List Call := es.filterMap (·.call?)

section Kinds

variable {es fs : List Effect} {n : UInt32} {c : Reader.Command} {m : Message} {q : Call}

@[simp] theorem commands_nil : commands [] = [] := rfl

@[simp] theorem commands_append : commands (es ++ fs) = commands es ++ commands fs :=
  List.filterMap_append

@[simp] theorem commands_send : commands (.send n c :: es) = c :: commands es := rfl

@[simp] theorem commands_tell : commands (.tell m :: es) = commands es := rfl

@[simp] theorem commands_ask : commands (.ask q :: es) = commands es := rfl

@[simp] theorem commands_reset : commands (.reset :: es) = commands es := rfl

@[simp] theorem commands_map_tell (ms : List Message) : commands (ms.map .tell) = [] := by
  induction ms with
  | nil => rfl
  | cons m ms ih => simpa using ih

@[simp] theorem told_nil : told [] = [] := rfl

@[simp] theorem told_append : told (es ++ fs) = told es ++ told fs := List.filterMap_append

@[simp] theorem told_send : told (.send n c :: es) = told es := rfl

@[simp] theorem told_tell : told (.tell m :: es) = m :: told es := rfl

@[simp] theorem told_ask : told (.ask q :: es) = told es := rfl

@[simp] theorem told_reset : told (.reset :: es) = told es := rfl

@[simp] theorem told_map_tell (ms : List Message) : told (ms.map .tell) = ms := by
  induction ms with
  | nil => rfl
  | cons m ms ih => simpa using ih

@[simp] theorem asked_nil : asked [] = [] := rfl

@[simp] theorem asked_append : asked (es ++ fs) = asked es ++ asked fs := List.filterMap_append

@[simp] theorem asked_send : asked (.send n c :: es) = asked es := rfl

@[simp] theorem asked_tell : asked (.tell m :: es) = asked es := rfl

@[simp] theorem asked_ask : asked (.ask q :: es) = q :: asked es := rfl

@[simp] theorem asked_reset : asked (.reset :: es) = asked es := rfl

@[simp] theorem asked_map_tell (ms : List Message) : asked (ms.map .tell) = [] := by
  induction ms with
  | nil => rfl
  | cons m ms ih => simpa using ih

end Kinds

end Effect

namespace Station

/-- A station that has heard nothing yet. -/
def fresh (ip : String) (policy : FailurePolicy) : Station := { ip, policy }

theorem run_append (s : Station) (xs ys : List (Surroundings × Input)) :
    s.run (xs ++ ys) =
      ⟨((s.run xs).station.run ys).station,
        (s.run xs).effects ++ ((s.run xs).station.run ys).effects⟩ := by
  induction xs generalizing s with
  | nil => rfl
  | cons x xs ih => simp [run, ih]

theorem run_invariant {P : Station → Prop}
    (step : ∀ s around i, P s → P (s.step around i).station) {s : Station} (h : P s)
    (inputs : List (Surroundings × Input)) : P (s.run inputs).station := by
  induction inputs generalizing s with
  | nil => exact h
  | cons x xs ih => exact ih (step s x.1 x.2 h)

end Station

/-- One turn of a run: the station before it, what lay outside, and what the station heard. -/
structure Episode where
  before : Station
  around : Surroundings
  input : Input

namespace Episode

variable (e : Episode)

/-- The turn of an episode. -/
def turn : Turn := e.before.step e.around e.input

/-- The station after an episode. -/
def after : Station := e.turn.station

/-- The commands that the reader took in an episode. -/
def commands : List Reader.Command := Effect.commands e.turn.effects

/-- What the screen was told in an episode. -/
def told : List Message := Effect.told e.turn.effects

/-- The calls made in an episode. -/
def asked : List Call := Effect.asked e.turn.effects

/-- A batch begins: the reader takes the command to scan. -/
def opens : Bool := e.commands.contains .beginScan

/-- The scan that is taken up: a response with a barcode, heard while the reader scans. -/
def scan? : Option (Mode × Reader.Response) :=
  match e.input, e.before.phase with
  | .event (.response r), .scanning mode =>
    if e.before.terminated = false ∧ r.scanned ≠ "" then some (mode, r) else none
  | _, _ => none

variable {e}

theorem scan?_eq_some_iff {mode : Mode} {r : Reader.Response} :
    e.scan? = some (mode, r) ↔ e.before.terminated = false ∧ e.input = .event (.response r) ∧
      e.before.phase = .scanning mode ∧ r.scanned ≠ "" := by
  unfold scan?
  split
  · next heard phase => rw [heard, phase]; split <;> grind
  · next other =>
    refine iff_of_false (by simp) ?_
    rintro ⟨-, heard, phase, -⟩
    exact other _ _ heard phase

end Episode

namespace Station

/-- The episodes of a run. -/
def history (s : Station) : List (Surroundings × Input) → List Episode
  | [] => []
  | (around, i) :: rest => ⟨s, around, i⟩ :: (s.step around i).station.history rest

theorem history_append (s : Station) (xs ys : List (Surroundings × Input)) :
    s.history (xs ++ ys) = s.history xs ++ (s.run xs).station.history ys := by
  induction xs generalizing s with
  | nil => rfl
  | cons x xs ih => simp [history, run, ih]

/-- The episodes of a run hear its inputs. -/
theorem map_heard_history (s : Station) (inputs : List (Surroundings × Input)) :
    (s.history inputs).map (fun e => (e.around, e.input)) = inputs := by
  induction inputs generalizing s with
  | nil => rfl
  | cons x xs ih => rw [history, List.map_cons, ih]

/-- What an episode of a run hears, and what lies outside in it, is what the run was given. -/
theorem heard_of_mem_history {s : Station} {inputs : List (Surroundings × Input)} {e : Episode}
    (h : e ∈ s.history inputs) : (e.around, e.input) ∈ inputs := by
  have heard := List.mem_map_of_mem (f := fun e : Episode => (e.around, e.input)) h
  rwa [map_heard_history] at heard

/-- A run does what the episodes of its history do. -/
theorem effects_run (s : Station) (inputs : List (Surroundings × Input)) :
    (s.run inputs).effects = (s.history inputs).flatMap (·.turn.effects) := by
  induction inputs generalizing s with
  | nil => rfl
  | cons x xs ih => simp [run, history, ih, Episode.turn]

/-- The commands that the reader took in a run are those of its episodes. -/
theorem commands_run (s : Station) (inputs : List (Surroundings × Input)) :
    Effect.commands (s.run inputs).effects = (s.history inputs).flatMap (·.commands) := by
  rw [effects_run, Effect.commands, List.filterMap_flatMap]
  rfl

/-- What the screen is told in a run is what it is told in its episodes. -/
theorem told_run (s : Station) (inputs : List (Surroundings × Input)) :
    Effect.told (s.run inputs).effects = (s.history inputs).flatMap (·.told) := by
  rw [effects_run, Effect.told, List.filterMap_flatMap]
  rfl

/-- The calls made in a run are those of its episodes. -/
theorem asked_run (s : Station) (inputs : List (Surroundings × Input)) :
    Effect.asked (s.run inputs).effects = (s.history inputs).flatMap (·.asked) := by
  rw [effects_run, Effect.asked, List.filterMap_flatMap]
  rfl

/-- What every episode preserves that begins where a run ends holds of every history and the
station after it. -/
theorem history_induction_of_run {P : List Episode → Station → Prop} {s : Station} (nil : P [] s)
    (snoc : ∀ (xs : List (Surroundings × Input)) (e : Episode), e.before = (s.run xs).station →
      P (s.history xs) e.before → P (s.history xs ++ [e]) e.after)
    (inputs : List (Surroundings × Input)) : P (s.history inputs) (s.run inputs).station := by
  -- The history grows at its end, where the station is the one that the run leaves.
  induction inputs using List.reverseRecOn with
  | nil => exact nil
  | append_singleton xs x ih =>
    have := snoc xs ⟨(s.run xs).station, x.1, x.2⟩ rfl ih
    simpa [history_append, run_append, history, run, Episode.after, Episode.turn] using this

/-- What every episode preserves holds of every history and the station after it. -/
theorem history_induction {P : List Episode → Station → Prop} {s : Station} (nil : P [] s)
    (snoc : ∀ (h : List Episode) (e : Episode), P h e.before → P (h ++ [e]) e.after)
    (inputs : List (Surroundings × Input)) : P (s.history inputs) (s.run inputs).station :=
  history_induction_of_run nil (fun xs e _ old => snoc (s.history xs) e old) inputs

/-- Around any of its episodes, a history splits into that of the run before it and that of the
station after it. -/
theorem exists_history_split {s : Station} {inputs : List (Surroundings × Input)}
    {before after : List Episode} {e : Episode} (h : s.history inputs = before ++ e :: after) :
    ∃ xs ys, s.history xs = before ∧ (s.run xs).station = e.before ∧
      e.after.history ys = after := by
  induction inputs generalizing s before with
  | nil => simp [history] at h
  | cons x rest ih =>
    -- The episode is the first of the history, or lies in the history of the next station.
    cases before with
    | nil =>
      obtain ⟨rfl, hafter⟩ := List.cons.inj h
      exact ⟨[], rest, rfl, rfl, hafter⟩
    | cons b before =>
      obtain ⟨rfl, hrest⟩ := List.cons.inj h
      obtain ⟨xs, ys, hxs, hrun, hys⟩ := ih hrest
      exact ⟨x :: xs, ys, by simp [history, hxs], by simpa [run] using hrun, hys⟩

end Station

/-! ### The batch of a history -/

/-- The episodes since the last batch began. -/
def batch (h : List Episode) : List Episode := h.rtakeWhile fun e => !e.opens

/-- The episode in which the last batch began. -/
def opening? (h : List Episode) : Option Episode := h.reverse.find? (·.opens)

/-- The scans since the last batch began. -/
def scans (h : List Episode) : List Episode := (batch h).filter (·.scan?.isSome)

section Batch

variable {h : List Episode} {e : Episode}

@[simp] theorem batch_nil : batch [] = [] := rfl

theorem batch_concat_of_opens (ho : e.opens = true) : batch (h ++ [e]) = [] := by
  simp [batch, ho]

theorem batch_concat (ho : e.opens = false) : batch (h ++ [e]) = batch h ++ [e] := by
  simp [batch, ho]

theorem opening?_concat :
    opening? (h ++ [e]) = if e.opens then some e else opening? h := by
  cases ho : e.opens <;> simp [opening?, ho]

theorem scans_concat_of_opens (ho : e.opens = true) : scans (h ++ [e]) = [] := by
  simp [scans, batch_concat_of_opens ho]

theorem scans_concat (ho : e.opens = false) :
    scans (h ++ [e]) = scans h ++ if e.scan?.isSome then [e] else [] := by
  cases hs : e.scan?.isSome <;> simp [scans, batch_concat ho, List.filter_append, hs]

end Batch

/-! ### A sample run -/

/-- A backend that knows every item and refuses nothing. -/
def Backend.obliging : Backend where
  checkin _ barcode := .ok { barcode }
  itemStatus barcode := .ok { barcode }

/-- A checkin whose alarm the reader fails to turn on, followed by another try. -/
def retriedCheckin : List (Surroundings × Input) :=
  [.message { action := .checkin, branch := some "MAIN" },
    .event (.response { ok := true }),
    .event (.response { ok := true, barcode := some "10A1", tag := some "T1" }),
    .event (.response { ok := false }),
    .message { action := .retryAlarmOn, item := some { barcode := "A1" } }].map
    fun i => ({ backend := .obliging }, i)

end SelfCheck
