import SelfCheck.Proofs.Sip.OwnReplies
import SelfCheck.Proofs.Sip.ReplyParts
import SelfCheck.Proofs.Station.Fatal

/-!
# When the tag of a returned item is armed

Whether a tag leaves the desk armed is decided in two places. The reader of replies finds a byte, a
field and a title in a line, and the station weighs what it has found. Between them an item that the
server refused must not pass for one that it took back. Here the command that follows upon a scan is
read off the line that the server sent.

## Main definitions

* `Sip.Client.backend` — a client as the backend of a station
* `Sip.TakesBack` — a line says that a known item was taken back
* `FailurePolicy.commands` — the commands that follow upon a failed checkin

## Main results

* `Sip.checkedIn_of_wellFormed`, `Sip.checkedIn_of_not_wellFormed` — what a line says of the item
* `Station.armed_iff_takesBack` — a tag is armed just if the line says so
-/

namespace SelfCheck

namespace Sip

variable {σ : Type} {raw barcode : String} {fixed rest : List Char} {r : Reply}

/-- A client as the backend of a station, for a call at the moment `now`. -/
def Client.backend (server : Server σ) (now : String) (client : Client σ) : Backend where
  checkin branch barcode := (client.checkin server now branch barcode).1
  itemStatus barcode := (client.itemStatus server now barcode).1

/-- A checkin that is replied to comes to what the reply says. -/
theorem Client.checkin_backend {server : Server σ} {now branch reply : String} {client : Client σ}
    (replied : (client.exchange server (Request.checkin now branch client.settings.institution
      barcode client.settings.terminalPassword).text).1 = .ok reply) :
    (client.backend server now).checkin branch barcode =
      (checkedIn reply barcode).mapError Fault.callFailure := by
  have brought := congrArg Prod.fst (place_eq server client (now, .checkin branch barcode))
  rw [request, replied] at brought
  exact brought

/-! ### The line of a reply to a checkin -/

/-- The first segment with the code of a title holds more than blanks. -/
def Titled (rest : List Char) : Prop :=
  ∃ title, Reply.segmentOf? "AJ" rest = some ("AJ".toList ++ title) ∧
    ∃ c ∈ title, Text.isBlank c = false

/-- The line of a reply to a checkin says that a known item was taken back: it can be cut into its
parts, its third byte is the digit one, and there is a title. -/
def TakesBack (line : List Char) : Prop :=
  ∃ fixed rest, Reply.Cut "10" 24 line fixed rest ∧
    (Bytes.ofChars line)[2]? = some '1'.toUInt8 ∧ Titled rest

/-- An item is known if the reply has a title. -/
theorem Reply.unknown_item_iff {number : String} {fixedLength : Nat} (barcode : String)
    (cut : Cut number fixedLength (chomp raw) fixed rest)
    (read : parse number fixedLength raw = .ok r) :
    (r.item barcode).unknown = false ↔ Titled rest := by
  have two : Text.byteLength "AJ".toList = 2 := by decide
  have field := field?_of_parse cut read two
  have title (value : List Char) (own : (r.field? "AJ").getD "" = String.ofList value) :
      (r.item barcode).unknown = false ↔ ∃ c ∈ value, Text.isBlank c = false := by
    simp [item, own, String.ofList_eq_empty_iff, Text.trim_eq_nil_iff]
  cases found : segmentOf? "AJ" rest with
  | none =>
    rw [found, Option.map_none] at field
    have own : (r.field? "AJ").getD "" = String.ofList [] := by rw [field]; rfl
    rw [title [] own]
    simp [Titled, found]
  | some segment =>
    obtain ⟨value, rfl⟩ := List.isPrefixOf_iff_prefix.mp (List.find?_some found)
    rw [found, Option.map_some, ← String.length_toList, List.drop_left] at field
    have own : (r.field? "AJ").getD "" = String.ofList value := by rw [field]; rfl
    rw [title value own]
    simp [Titled, found]

/-- A line that can be cut speaks of an item, which is known and was taken back if it says so. -/
theorem checkedIn_of_wellFormed (barcode : String)
    (h : Reply.WellFormed "10" 24 (Reply.chomp raw)) :
    ∃ item, checkedIn raw barcode = .ok item ∧
      ((item.unknown || item.transactionFailed) = false ↔ TakesBack (Reply.chomp raw)) := by
  obtain ⟨fixed, rest, cut⟩ := h
  obtain ⟨r, read, -⟩ := cut.parse
  have said : checkedIn raw barcode =
      .ok { r.item barcode with transactionFailed := !r.granted } := by
    rw [checkedIn, checkinFixedLength, read]
    rfl
  refine ⟨_, said, ?_⟩
  have granted : r.granted = true ↔ (Bytes.ofChars (Reply.chomp raw))[2]? = some '1'.toUInt8 := by
    rw [Reply.granted, Reply.flag?_of_parse read (by decide), decide_eq_true_iff]
  have known := Reply.unknown_item_iff barcode cut read
  rw [Bool.or_eq_false_iff, Bool.not_eq_false', known, granted]
  constructor
  · rintro ⟨titled, one⟩
    exact ⟨fixed, rest, cut, one, titled⟩
  · rintro ⟨fixed', rest', cut', one, titled⟩
    -- There is one way to cut the line, so the title stands in the part that was read.
    obtain ⟨-, rfl⟩ := cut.unique cut'
    exact ⟨titled, one⟩

/-- A line that cannot be cut says nothing of an item. -/
theorem checkedIn_of_not_wellFormed (barcode : String)
    (h : ¬ Reply.WellFormed "10" 24 (Reply.chomp raw)) :
    ∃ what, checkedIn raw barcode = .error (.malformed what) := by
  obtain ⟨what, failed⟩ := Reply.parse_eq_error_iff.mpr h
  refine ⟨what, ?_⟩
  rw [checkedIn, checkinFixedLength, failed]
  rfl

end Sip

/-- The commands that follow upon a failed checkin. -/
def FailurePolicy.commands (tag : Option String) : FailurePolicy → List Reader.Command
  | carryOn => []
  | release => [.alarmOff tag]
  | abort => [.endScan]

namespace Station

variable {around : Surroundings} {s : Station} {r : Reader.Response} {mode : Mode}

/-- A willing reader takes the command that follows upon the verdict of a scan. -/
theorem commands_scan (running : s.terminated = false) (phase : s.phase = .scanning mode)
    (willing : around.refusal = none) (named : r.scanned ≠ "") :
    Effect.commands (s.step around (.event (.response r))).effects =
      ((s.verdict around mode r.scanned r.ok).given? r.tag).toList := by
  have demanded : s.given? around (.event (.response r)) =
      (s.verdict around mode r.scanned r.ok).given? r.tag := by
    simp only [given?, phase, if_neg named]
  rw [commands_step running, if_pos willing, demanded]

/-- All that is said upon a scan that was read in full, with a willing reader, is that a call
failed. -/
theorem told_scan (running : s.terminated = false) (phase : s.phase = .scanning mode)
    (willing : around.refusal = none) (read : r.ok = true) (named : r.scanned ≠ "") :
    Effect.told (s.step around (.event (.response r))).effects =
      Effect.told (s.inquiry around mode r.scanned r.ok) := by
  have course : s.Course around (.event (.response r)) _ _ := course_step running _
  obtain ⟨fs, done, comes⟩ := course.scanned phase named
  have silent : Effect.told fs = [] := by
    cases decided : s.verdict around mode r.scanned r.ok with
    | toggle | abort =>
      rw [decided] at comes
      rw [comes.told, willing]
      rfl
    | carryOn =>
      rw [decided] at comes
      rw [comes.2]
      rfl
    | giveUp e =>
      have unread := (giveUp_iff.mp decided).1
      rw [read] at unread
      cases unread
  rw [done, Effect.told_append, silent, List.append_nil]

variable {σ : Type} {server : Sip.Server σ} {client : Sip.Client σ} {now reply : String}

/-- Upon a scan in a checkin batch, read in full, the tag is armed just if the line that the server
sends in reply to the checkin, as the connection hands it over and without the line ends behind it,
says that a known item was taken back. If a line that can be cut into its parts does not say so, the
alarm is turned off; and one that cannot be cut is reported once, and the policy decides. -/
theorem armed_iff_takesBack (running : s.terminated = false)
    (phase : s.phase = .scanning .checkin) (willing : around.refusal = none)
    (adapter : around.backend = client.backend server now) (read : r.ok = true)
    (named : r.scanned ≠ "")
    (replied : (client.exchange server (Sip.Request.checkin now s.branch
      client.settings.institution r.scanned client.settings.terminalPassword).text).1 = .ok reply) :
    let line := reply.toList.rdropWhile fun c => c = '\r' || c = '\n'
    let es := (s.step around (.event (.response r))).effects
    (Effect.commands es = [.alarmOn r.tag] ↔ Sip.TakesBack line) ∧
      (Sip.Reply.WellFormed "10" 24 line → ¬ Sip.TakesBack line →
        Effect.commands es = [.alarmOff r.tag]) ∧
      (¬ Sip.Reply.WellFormed "10" 24 line →
        (∃ what, Effect.told es = [(Message.backendFailure .checkin
          (Sip.Fault.malformed what).message).about (.bare r.scanned)]) ∧
        Effect.commands es = s.policy.commands r.tag) := by
  intro line es
  have chomped : Sip.Reply.chomp reply = line := rfl
  have commands := commands_scan running phase willing named
  have answer : around.backend.checkin s.branch r.scanned =
      (Sip.checkedIn reply r.scanned).mapError Sip.Fault.callFailure := by
    rw [adapter, Sip.Client.checkin_backend replied]
  have told := told_scan running phase willing read named
  rw [read] at commands told
  -- The policy is asked only where the line cannot be cut.
  by_cases wellFormed : Sip.Reply.WellFormed "10" 24 line
  · obtain ⟨item, said, known⟩ := Sip.checkedIn_of_wellFormed r.scanned wellFormed
    rw [chomped] at known
    have sent : Effect.commands es =
        [(if item.unknown || item.transactionFailed then Alarm.off else .on).command r.tag] := by
      rw [commands, verdict, answer, said]
      rfl
    refine ⟨?_, fun _ refused => ?_, fun malformed => absurd wellFormed malformed⟩
    · rw [sent, ← known]
      cases item.unknown || item.transactionFailed <;> simp [Alarm.command]
    · rw [sent, if_pos ((Bool.not_eq_false _).mp (mt known.mp refused))]
      rfl
  · obtain ⟨what, said⟩ := Sip.checkedIn_of_not_wellFormed r.scanned wellFormed
    have sent : Effect.commands es = s.policy.commands r.tag := by
      rw [commands, verdict, answer, said]
      cases s.policy <;> rfl
    refine ⟨?_, fun cut => absurd cut wellFormed, fun _ => ⟨⟨what, ?_⟩, sent⟩⟩
    · -- No policy arms a tag, and a line that cannot be cut takes nothing back.
      refine iff_of_false ?_ ?_
      · rw [sent]
        cases s.policy <;> simp [FailurePolicy.commands]
      · rintro ⟨fixed, rest, cut, -⟩
        exact wellFormed ⟨fixed, rest, cut⟩
    · rw [told, inquiry, answer, said]
      rfl

/-- Of several titles the first counts: the server takes the item back under a title and repeats the
field without one. -/
theorem armed_iff_takesBack_repeatedTitle :
    let server := Sip.Server.scripted fun t =>
      if t = 0 then "941" else "101YNN20240101    120000AJDune|AJ|"
    let client := Sip.Client.begun server {} 0 false
    let s := ((fresh "" .carryOn).run (retriedCheckin.take 2)).station
    let r : Reader.Response := { ok := true, barcode := some "10A1", tag := some "T1" }
    Effect.commands (s.step { backend := client.backend server "" } (.event (.response r))).effects =
      [.alarmOn (some "T1")] := by
  intro server client s r
  have running : s.terminated = false := by decide
  have phase : s.phase = .scanning .checkin := by decide
  have named : r.scanned ≠ "" := by decide
  have replied : (client.exchange server (Sip.Request.checkin "" s.branch
      client.settings.institution r.scanned client.settings.terminalPassword).text).1 =
      .ok "101YNN20240101    120000AJDune|AJ|" := by decide +kernel
  let around : Surroundings := { backend := client.backend server "" }
  have willing : around.refusal = none := rfl
  have adapter : around.backend = client.backend server "" := rfl
  have takesBack : Sip.TakesBack "101YNN20240101    120000AJDune|AJ|".toList := by
    refine ⟨"101YNN20240101    120000".toList, "AJDune|AJ|".toList, ?_, ?_, ?_⟩
    · exact ⟨by decide, by decide, by decide⟩
    · decide
    · exact ⟨"Dune".toList, by decide, 'D', by decide, by decide⟩
  have armed := armed_iff_takesBack running phase willing adapter rfl named replied
  exact armed.1.mpr takesBack

end Station

end SelfCheck
