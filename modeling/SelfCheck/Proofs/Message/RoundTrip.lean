import SelfCheck.Message.Frame
import SelfCheck.Proofs.Json.RoundTrip

/-!
# What is told in a message arrives

A message is written as a record whose absent members are left out, and a member that is left out is
read as absent. So a message is read back as it was, whatever its texts hold, from every frame that
is large enough for it.

## Main definitions

* `Item.fields`, `Message.fields` — the fields of an item and of a message, as they are written and
  as they are meant

## Main results

* `Message.ofJson?_record` — the record of a message holds the message
* `Message.parse?_render` — the text of a message is read as its record
* `Message.decodeFrame_render` — a message arrives, just if frames may be long enough for it
-/

namespace SelfCheck

open Json

namespace Item

/-- The fields of an item. -/
def fields (item : Item) : List Field :=
  [("barcode", some (Printer.quote item.barcode, .string (some item.barcode))),
    ("title", some (Printer.quote item.title, .string (some item.title))),
    ("unknown", some (Printer.bool item.unknown, .bool item.unknown)),
    ("transactionFailed",
      some (Printer.bool item.transactionFailed, .bool item.transactionFailed))]

theorem render_eq (item : Item) : item.render = Field.written item.fields := rfl

theorem spells_render (item : Item) : Spells 6 item.render (Field.record item.fields) := by
  refine @Field.spells_record 1 item.fields fun f mem text value here => ?_
  simp only [fields, List.mem_cons, List.not_mem_nil, or_false] at mem
  rcases mem with rfl | rfl | rfl | rfl <;> cases here
  · exact spells_quote item.barcode
  · exact spells_quote item.title
  · exact spells_bool item.unknown
  · exact spells_bool item.transactionFailed

theorem ofJson?_record (item : Item) : ofJson? (Field.record item.fields) = some item := by
  have values := @fields?_record item.fields (by simp [fields])
  change fields? ["barcode", "title", "unknown", "transactionFailed"] _ = _ at values
  rw [ofJson?, values]
  rfl

end Item

namespace Message

/-- The fields of a message. -/
def fields (m : Message) : List Field :=
  [("action", some (Printer.quote m.action.name, .string (some m.action.name))),
    ("branch", m.branch.map fun branch => (Printer.quote branch, .string (some branch))),
    ("item", m.item.map fun item => (item.render, Field.record item.fields)),
    ("rfidError", if m.rfidError then some (Printer.bool true, .bool true) else none),
    ("sipError", if m.sipError then some (Printer.bool true, .bool true) else none),
    ("errorMessage", m.errorMessage.map fun text => (Printer.quote text, .string (some text)))]

/-- A message is written as its fields are, the absent ones left out. -/
theorem members_eq (m : Message) : m.members = (m.fields.filterMap Field.member?).map Member.text := by
  rcases m with ⟨action, _ | branch, _ | item, _ | _, _ | _, _ | text⟩ <;> rfl

theorem render_eq (m : Message) : m.render = String.ofList (Field.written m.fields) := by
  rw [render, members_eq]
  rfl

theorem spells_render (m : Message) :
    Spells 13 (Field.written m.fields) (Field.record m.fields) := by
  refine @Field.spells_record 6 m.fields fun f mem text value here => ?_
  have quoted (s : String) : Spells 6 (Printer.quote s) (.string (some s)) :=
    (spells_quote s).mono (by decide)
  have raised : Spells 6 (Printer.bool true) (.bool true) := (spells_bool true).mono (by decide)
  simp only [fields, List.mem_cons, List.not_mem_nil, or_false] at mem
  rcases mem with rfl | rfl | rfl | rfl | rfl | rfl
  · cases here
    exact quoted m.action.name
  · obtain ⟨branch, -, same⟩ := Option.map_eq_some_iff.1 here
    cases same
    exact quoted branch
  · obtain ⟨item, -, same⟩ := Option.map_eq_some_iff.1 here
    cases same
    exact item.spells_render
  · dsimp only at here
    split_ifs at here
    cases here
    exact raised
  · dsimp only at here
    split_ifs at here
    cases here
    exact raised
  · obtain ⟨text, -, same⟩ := Option.map_eq_some_iff.1 here
    cases same
    exact quoted text

/-- What was written of a value that may be absent is read back, as it is never `null`. -/
theorem read_optional {α : Type} {read : Json → Option α} {written : α → List Char × Json}
    (meant : ∀ a, optional? read (written a).2 = some (some a)) (o : Option α) :
    (((o.map written).map Prod.snd).map (optional? read)).getD (some none) = some o := by
  cases o with
  | none => rfl
  | some a => exact meant a

/-- What was written of a flag is read back, as an absent one is not raised. -/
theorem read_flag (b : Bool) :
    (((if b then some (Printer.bool true, Json.bool true) else none).map Prod.snd).map
      bool?).getD (some false) = some b := by
  cases b <;> rfl

theorem ofJson?_of_fields {m : Message} {j action : Json}
    {branch item rfidError sipError errorMessage : Option Json}
    (values : j.fields? ["action", "branch", "item", "rfidError", "sipError", "errorMessage"] =
      some [some action, branch, item, rfidError, sipError, errorMessage])
    (ofAction : action.choice?.bind Action.ofName? = some m.action)
    (ofBranch : (branch.map (optional? text?)).getD (some none) = some m.branch)
    (ofItem : (item.map (optional? Item.ofJson?)).getD (some none) = some m.item)
    (ofRfid : (rfidError.map bool?).getD (some false) = some m.rfidError)
    (ofSip : (sipError.map bool?).getD (some false) = some m.sipError)
    (ofText : (errorMessage.map (optional? text?)).getD (some none) = some m.errorMessage) :
    ofJson? j = some m := by
  rw [ofJson?, values]
  simp only [bind, ofAction, ofBranch, ofItem, ofRfid, ofSip, ofText, Option.bind_some]
  rfl

/-- The record of a message holds the message. -/
theorem ofJson?_record (m : Message) : ofJson? (Field.record m.fields) = some m := by
  refine ofJson?_of_fields (fields?_record (by simp [fields])) ?_ ?_ ?_ ?_ ?_ ?_
  · exact Action.ofName?_name m.action
  · exact read_optional (fun _ => rfl) m.branch
  · refine read_optional (fun item => ?_) m.item
    exact congrArg (Option.map some) item.ofJson?_record
  · exact read_flag m.rfidError
  · exact read_flag m.sipError
  · exact read_optional (fun _ => rfl) m.errorMessage

/-- The text of a message is read as its record. -/
theorem parse?_render (m : Message) :
    parse? (Bytes.ofText m.render) = some (Field.record m.fields) := by
  have text : Bytes.ofText m.render = Bytes.ofChars (Field.written m.fields) := by
    rw [render_eq, Bytes.ofText, String.toList_ofList]
  -- Even the beginning of a message is long enough for its depth.
  obtain ⟨value, others, long⟩ : ∃ value others, Field.written m.fields =
      '\x7b' :: Printer.quote "action" ++ value ++ others ++ ['\x7d'] := ⟨_, _, rfl⟩
  have fuel : 13 ≤ 2 * (Bytes.ofText m.render).length + 2 := by
    have head : (Bytes.ofChars ('\x7b' :: Printer.quote "action")).length = 9 := by decide
    simp only [text, long, Bytes.ofChars_append, List.length_append, head]
    omega
  have read := m.spells_render _ fuel []
  rw [List.append_nil, ← text] at read
  rw [parse?, read]
  rfl

/-- Whatever its texts hold and whichever of its members are absent, a message is read back from its
own text as it was, just if frames may be that long. So whatever form of frame a message was read
from, its own text says the same. -/
theorem decodeFrame_render (limit : Nat) :
    (∀ m, decodeFrame limit (Bytes.ofText m.render) =
      if (Bytes.ofText m.render).length ≤ limit then some m else none) ∧
    ∀ received frame m, decodeFrame received frame = some m →
      (Bytes.ofText m.render).length ≤ limit → decodeFrame limit (Bytes.ofText m.render) = some m := by
  have arrives (m : Message) : decodeFrame limit (Bytes.ofText m.render) =
      if (Bytes.ofText m.render).length ≤ limit then some m else none := by
    rw [decodeFrame, parse?_render]
    split_ifs with long fits
    · omega
    · rfl
    · exact ofJson?_record m
    · omega
  refine ⟨arrives, fun _ _ m _ fits => ?_⟩
  rw [arrives, if_pos fits]

end Message

end SelfCheck
