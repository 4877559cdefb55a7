import SelfCheck.Proofs.Station.Calls

/-!
# The item that a scan records

What the screen will be told of a scanned item is fixed when it is scanned: the backend's own record
of it, or a bare one where a failed checkin has its tag released. For a tag that was not read in
full the record is only for display, so the item recorded last is taken again if it is the same one.
From then on the record waits with the toggle, through any number of failures and further tries.

## Main definitions

* `Episode.found?` — the item that the backend gave for the call of an episode
* `Episode.records?` — the item that a scan records
* `lastItem` — the item recorded last in the batch of a history
* `Stems` — the last scan of the batch is the one that a toggle is owed for

## Main results

* `Episode.records?_eq` — a scan records an item just if its verdict is to toggle
* `Station.stems_run` — a station keeps the item recorded last, and a toggle is owed for the last
  scan and with the item that it recorded
-/

namespace SelfCheck

/-- The item, counted as failed. -/
def Item.failed (item : Item) : Item := { item with transactionFailed := true }

namespace Episode

variable {e : Episode} {mode : Mode} {r : Reader.Response}

/-- The item that the backend gave for the call of the episode. -/
def found? (e : Episode) : Option Item :=
  e.asked.head?.bind fun q => (e.around.backend.answer q).toOption

/-- The item that a scan records. If the tag was read in full, it is the one that the backend gave,
or else, if a failed checkin has the tag released, a bare one that counts as failed. Otherwise it is
the item recorded last, if that is the one scanned, or else the one just looked up, and it counts as
failed. -/
def records? (e : Episode) (last : Option Item) : Option Item :=
  match e.scan? with
  | none => none
  | some (mode, r) =>
    if r.ok then
      e.found?.or
        (if mode = .checkin ∧ e.before.policy = .release then some (Item.bare r.scanned).failed
          else none)
    else ((last.filter (·.barcode = r.scanned)).or e.found?).map (·.failed)

theorem records?_of_scan?_eq_none (scan : e.scan? = none) (last : Option Item) :
    e.records? last = none := by
  rw [records?, scan]

/-- A scan records an item just if its verdict is to toggle, and then the item of the verdict. -/
theorem records?_eq (scan : e.scan? = some (mode, r)) :
    e.records? e.before.current =
      match e.before.verdict e.around mode r.scanned r.ok with
      | .toggle _ item => some item
      | _ => none := by
  have calls : e.asked = Effect.asked (e.before.inquiry e.around mode r.scanned r.ok) := by
    rw [asked_of_scan scan, Station.asked_inquiry]
  have ruling := Station.ruling e.around e.before mode r.scanned r.ok
  rw [records?, scan, found?, calls]
  generalize e.before.verdict e.around mode r.scanned r.ok = v,
    e.before.inquiry e.around mode r.scanned r.ok = es at ruling
  cases ruling with
  | returned read _ answer | lent read _ answer =>
    simp [read, Backend.answer, answer, Except.toOption]
  | passedOver read at_checkin answer policy | brokenOff read at_checkin answer policy
  | released read at_checkin answer policy =>
    simp [read, at_checkin, Backend.answer, answer, Except.toOption, policy, Item.failed]
  | notLent read at_checkout answer =>
    simp [read, at_checkout, Backend.answer, answer, Except.toOption]
  | recalled unread current => simp [unread, current, Item.failed]
  | titled unread current answer | untitled unread current answer =>
    simp [unread, current, Backend.answer, answer, Except.toOption, Item.failed]

/-- Where the batch goes on, an episode leaves the item recorded last, unless it is a scan that
records another. -/
theorem current_after (running : e.after.terminated = false) (opens : e.opens = false) :
    e.after.current = (e.records? e.before.current).or e.before.current := by
  cases scan : e.scan? with
  | none =>
    rw [current_of_scan?_eq_none running opens scan, records?_of_scan?_eq_none scan, Option.none_or]
  | some x =>
    obtain ⟨mode, r⟩ := x
    obtain ⟨before, heard, phase, named⟩ := scan?_eq_some_iff.mp scan
    have course := course before
    rw [heard] at course
    obtain ⟨fs, -, comes⟩ := course.scanned phase named
    rw [records?_eq scan]
    cases decided : e.before.verdict e.around mode r.scanned r.ok with
    | toggle alarm item =>
      rw [decided] at comes
      rw [comes.current, Station.current_remember]
      rfl
    | carryOn =>
      rw [decided] at comes
      rw [comes.1, Option.none_or]
    | abort =>
      rw [decided] at comes
      rw [comes.current, Option.none_or]
    | giveUp f =>
      rw [decided] at comes
      rw [comes.1] at running
      cases running

end Episode

/-- The item recorded last in the batch of a history. -/
def lastItem (h : List Episode) : Option Item :=
  (scans h).foldl (fun last e => (e.records? last).or last) none

/-- The last scan of the batch of a history is the one that a toggle is owed for: its barcode and
its tag, in its mode, and the item that it recorded. -/
def Stems (h : List Episode) (g : Toggle) : Prop :=
  ∃ past scan later r, h = past ++ scan :: later ∧
    (∀ d ∈ later, d.scan? = none ∧ d.opens = false) ∧
    scan.scan? = some (g.mode, r) ∧ g.barcode = r.scanned ∧ g.tag = r.tag ∧
    scan.records? (lastItem past) = some g.item

section Batch

variable {h : List Episode} {e : Episode} {g : Toggle}

theorem lastItem_concat_of_opens (ho : e.opens = true) : lastItem (h ++ [e]) = none := by
  rw [lastItem, scans_concat_of_opens ho, List.foldl_nil]

theorem lastItem_concat (ho : e.opens = false) :
    lastItem (h ++ [e]) = (e.records? (lastItem h)).or (lastItem h) := by
  rw [lastItem, scans_concat ho, List.foldl_append, ← lastItem]
  cases scan : e.scan? with
  | none => simp [Episode.records?_of_scan?_eq_none scan]
  | some x => simp

/-- An episode that is no scan and begins no batch leaves the last scan the last. -/
theorem Stems.concat (old : Stems h g) (scan : e.scan? = none) (opens : e.opens = false) :
    Stems (h ++ [e]) g := by
  obtain ⟨past, last, later, r, rfl, quiet, rest⟩ := old
  refine ⟨past, last, later ++ [e], r, by simp, ?_, rest⟩
  intro d hd
  rcases List.mem_append.mp hd with hd | hd
  · exact quiet d hd
  · obtain rfl := List.mem_singleton.mp hd
    exact ⟨scan, opens⟩

end Batch

namespace Station

/-- A running station keeps the item recorded last in its batch, and what it owes it owes for the
last scan, with the item that this recorded. -/
theorem stems_run (ip : String) (policy : FailurePolicy) (inputs : List (Surroundings × Input))
    (running : ((fresh ip policy).run inputs).station.terminated = false) :
    ∃ owed, ((fresh ip policy).run inputs).station.Owes owed ∧
      ((fresh ip policy).run inputs).station.phase.Allows owed ∧
      ((fresh ip policy).run inputs).station.current =
        lastItem ((fresh ip policy).history inputs) ∧
      ∀ g, owed = some g → Stems ((fresh ip policy).history inputs) g := by
  refine owed_induction (P := fun h s owed => s.current = lastItem h ∧
    ∀ g, owed = some g → Stems h g) ⟨rfl, by simp⟩ ?_ inputs running
  rintro h e owed owed' ⟨current, stems⟩ - move running
  have kept (opens : e.opens = false) : e.after.current = lastItem (h ++ [e]) := by
    rw [Episode.current_after running opens, lastItem_concat opens, current]
  -- Only a new batch forgets the last item; what incurs a toggle has just recorded one.
  cases move with
  | opened _ _ begun =>
    have opens : e.opens = true := by simp [Episode.opens, begun]
    refine ⟨?_, by simp⟩
    rw [Episode.current_of_opens running opens, lastItem_concat_of_opens opens]
  | @incurred mode r alarm item scan decided sent =>
    refine ⟨kept (Episode.opens_of_alarm sent), ?_⟩
    rintro _ ⟨rfl⟩
    refine ⟨h, e, [], r, rfl, List.forall_mem_nil _, scan, rfl, rfl, ?_⟩
    rw [← current, Episode.records?_eq scan, decided]
  | forgone _ _ aside | discharged _ aside =>
    exact ⟨kept (Episode.opens_of_aside aside), by simp⟩
  | retried scan sent =>
    have opens := Episode.opens_of_alarm sent
    exact ⟨kept opens, fun g hg => (stems g hg).concat scan opens⟩
  | kept scan aside =>
    have opens := Episode.opens_of_aside aside
    exact ⟨kept opens, fun g hg => (stems g hg).concat scan opens⟩

end Station

end SelfCheck
