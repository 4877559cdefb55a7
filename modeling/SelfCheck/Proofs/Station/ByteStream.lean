import SelfCheck.Message.Frame
import SelfCheck.Proofs.Reader.Frames
import SelfCheck.Proofs.Station.Authority

/-!
# The bytes to the reader

The reader takes what it gets line by line, so a text that brings a carriage return with it brings a
command of its own. Two kinds of text from outside reach the reader. The handle of a tag comes from
the reader itself, in a response that ended at its first carriage return; it is kept over failures
and other tries and never holds one. The barcode that a message wants written to a tag may hold any
character, and nothing on its way escapes or refuses a carriage return.

## Main definitions

* `Effect.written` — the bytes that the reader gets
* `Episode.HearsPlain`, `PlainTag` — the tags that are heard, and the tag that is owed, hold no
  carriage return

## Main results

* `Station.plain_alarm_tag` — no tag in an alarm command holds a carriage return
* `Station.lines_written_iff` — the reader gets one line for each command just if no barcode that is
  written holds a carriage return
-/

namespace SelfCheck

/-- The bytes that the reader gets: the frames of the commands that it takes. -/
def Effect.written (es : List Effect) : Bytes := (Effect.commands es).flatMap (·.frame)

/-- If the episode hears a response that names a tag, there is no carriage return in it. -/
def Episode.HearsPlain (e : Episode) : Prop :=
  ∀ r tag, e.input = .event (.response r) → r.tag = some tag → '\r' ∉ tag.toList

/-- Where only plain tags are heard, the tag that is owed is plain. -/
def PlainTag (h : List Episode) (owed : Option Toggle) : Prop :=
  (∀ e ∈ h, e.HearsPlain) → ∀ g tag, owed = some g → g.tag = some tag → '\r' ∉ tag.toList

/-- Every move leaves a plain tag owed. -/
theorem PlainTag.concat {h : List Episode} {e : Episode} {owed owed' : Option Toggle}
    (old : PlainTag h owed) (move : e.Move owed owed') : PlainTag (h ++ [e]) owed' := by
  intro plain
  have before := old fun d hd => plain d (List.mem_append_left _ hd)
  have here : e.HearsPlain := plain e (List.mem_append_right _ (.head _))
  cases move with
  | incurred scan =>
    rintro _ tag ⟨⟩ named
    obtain ⟨-, heard, -⟩ := Episode.scan?_eq_some_iff.mp scan
    exact here _ tag heard named
  | retried | kept => exact before
  | opened | forgone | discharged => exact nofun

namespace Station

variable {ip : String} {policy : FailurePolicy} {inputs : List (Surroundings × Input)}

/-- No tag in an alarm command holds a carriage return, first attempt or retry. -/
theorem plain_alarm_tag (plain : ∀ e ∈ (fresh ip policy).history inputs, e.HearsPlain)
    {e : Episode} {alarm : Alarm} {tag : String} (episode : e ∈ (fresh ip policy).history inputs)
    (sent : alarm.command (some tag) ∈ e.commands) : '\r' ∉ tag.toList := by
  obtain ⟨before, after, split⟩ := List.append_of_mem episode
  obtain ⟨xs, -, hbefore, hrun, -⟩ := exists_history_split split
  obtain ⟨-, running⟩ := Episode.busy_of_commands_ne_nil (List.ne_nil_of_mem sent)
  have running' := Episode.running_of_after running
  obtain ⟨owed, owes, allows, old⟩ := owed_induction (P := fun h _ owed => PlainTag h owed)
    (fun _ => nofun) (fun _ _ _ _ old _ move _ => old.concat move) xs (by rw [hrun]; exact running')
  rw [hbefore] at old
  rw [hrun] at owes allows
  -- The command is that of the toggle owed after it.
  obtain ⟨owed', -, -, move⟩ := Episode.exists_move running owes allows
  obtain ⟨g, hg, -, htag⟩ := move.owed_of_command sent
  refine old.concat move (fun d hd => plain d ?_) g tag hg htag
  rw [split, List.append_cons]
  exact List.mem_append_left after hd

/-- The reader gets the pieces of the commands sent, in order, and nothing else. It gets one line
for each command, which is not empty, just if no barcode that is written holds a carriage return;
no tag can add a line. The frame of a command determines it, up to an empty tag. -/
theorem lines_written_iff
    (read : ∀ around r, (around, .event (.response r)) ∈ inputs →
      ∃ ended arrived rest, Reader.read ended arrived = .response r rest) :
    let es := ((fresh ip policy).run inputs).effects
    let cs := Effect.commands es
    Wire.lines (Effect.written es) = (cs.flatMap (·.pieces), []) ∧
      (Wire.lines (Effect.written es) = (cs.map fun c => Bytes.ofText c.text, []) ↔
        ∀ barcode, .write barcode ∈ cs → '\r' ∉ barcode.toList) ∧
      ∀ c ∈ cs, c.text ≠ "" ∧ ∀ d ∈ cs, c.frame = d.frame ↔ c.canonical = d.canonical := by
  intro es cs
  -- A tag has come in a frame, and no frame holds a carriage return but at its end. So of what a
  -- command holds only the barcode to write, which the screen names, can hold one.
  have plain : ∀ e ∈ (fresh ip policy).history inputs, e.HearsPlain := by
    intro e he r tag heard named
    have given := heard_of_mem_history he
    rw [heard] at given
    obtain ⟨ended, arrived, rest, from_stream⟩ := read e.around r given
    exact Reader.plain_tag_of_read from_stream named
  have alarms (alarm : Alarm) (tag : String) (sent : alarm.command (some tag) ∈ cs) :
      '\r' ∉ tag.toList := by
    rw [show cs = _ from commands_run _ inputs] at sent
    obtain ⟨e, he, sent⟩ := List.mem_flatMap.mp sent
    exact plain_alarm_tag plain he sent
  refine ⟨Reader.lines_frames cs, Reader.lines_frames_eq_iff.trans ?_,
    fun c _ => ⟨c.text_ne_empty, fun d _ => Reader.Command.frame_eq_iff⟩⟩
  refine ⟨fun all barcode sent => all (.write barcode) sent, fun writes c sent => ?_⟩
  cases c with
  | announce | beginScan | endScan => exact List.not_mem_nil
  | write barcode => exact writes barcode sent
  | alarmOn tag =>
    cases tag with
    | none => exact List.not_mem_nil
    | some tag => exact alarms .on tag sent
  | alarmOff tag =>
    cases tag with
    | none => exact List.not_mem_nil
    | some tag => exact alarms .off tag sent

/-- The sample run writes no barcode, and its tag comes from a response; the reader gets three
lines. -/
theorem lines_written_iff_retriedCheckin :
    let es := ((fresh "" .carryOn).run retriedCheckin).effects
    (∀ around r, (around, .event (.response r)) ∈ retriedCheckin →
      ∃ ended arrived rest, Reader.read ended arrived = .response r rest) ∧
    Wire.lines (Effect.written es) =
      ([Bytes.ofText "BEG", Bytes.ofText "ACT|T1", Bytes.ofText "ACT|T1"], []) := by
  intro es
  have read : ∀ around r, (around, .event (.response r)) ∈ retriedCheckin →
      ∃ ended arrived rest, Reader.read ended arrived = .response r rest := by
    intro around r heard
    simp only [retriedCheckin, List.map_cons, List.map_nil, List.mem_cons, Prod.mk.injEq,
      Input.event.injEq, Reader.Event.response.injEq, reduceCtorEq, and_false, false_or,
      List.not_mem_nil, or_false] at heard
    rcases heard with ⟨-, rfl⟩ | ⟨-, rfl⟩ | ⟨-, rfl⟩
    · exact ⟨false, Bytes.ofText "OK\r", [], by decide +kernel⟩
    · exact ⟨false, Bytes.ofText "OK|10A1|T1\r", [], by decide +kernel⟩
    · exact ⟨false, Bytes.ofText "NOK\r", [], by decide +kernel⟩
  have commands :
      Effect.commands es = [.beginScan, .alarmOn (some "T1"), .alarmOn (some "T1")] := by decide
  obtain ⟨-, single, -⟩ := @lines_written_iff "" .carryOn retriedCheckin read
  have lines := single.mpr (by rw [commands]; simp)
  refine ⟨read, lines.trans ?_⟩
  rw [commands]
  rfl

/-- A browser wants a barcode written that holds a carriage return, which it may write as an escape.
The one command that is sent reaches the reader as two: the second disarms the tags in its field. -/
theorem not_one_line_each_write :
    let frame := Bytes.ofText
      "\x7b\"action\":\"WRITE\",\"item\":\x7b\"barcode\":\"A1\\rDAC\"\x7d\x7d"
    let m : Message := { action := .write, item := some { barcode := "A1\rDAC" } }
    let es := ((fresh "" .carryOn).run [({ backend := .obliging }, .message m)]).effects
    let disarm : Reader.Command := .alarmOff none
    Message.decodeFrame 512 frame = some m ∧ Effect.commands es = [.write "10A1\rDAC"] ∧
      Wire.lines (Effect.written es) = ([Bytes.ofText "WRT|10A1", Bytes.ofText disarm.text], []) ∧
      Wire.lines (Effect.written es) ≠
        ((Effect.commands es).map fun c => Bytes.ofText c.text, []) := by
  decide +kernel

end Station

end SelfCheck
