import SelfCheck.Message.Frame
import SelfCheck.Proofs.Json.Grammar
import SelfCheck.Proofs.Json.Members

/-!
# Messages however they are written

A browser may write the members of a message in any order, with blanks wherever it likes, and with
members of its own among them, whatever these hold; and so it may with the members of the item. The
message is the same, and what is no message in one form is none in another: an action that is
missing, a member that is repeated or one with a value of a wrong kind is found wherever it stands.

## Main definitions

* `Item.schema`, `Message.schema` — the members that are read, with the kinds of their values
* `Message.Rearranged` — the same members, up to their order and to others
* `Message.Rejected` — there is no message in these members

## Main results

* `Item.ofJson?_object`, `Message.ofJson?_object` — what is read of the members
* `Message.decodeFrame_rearranged` — a message does not depend on how it is written
-/

namespace SelfCheck

open Json

variable {ms ns : List (Option String × Json)}

theorem Action.name_of_ofName? {name : String} {a : Action} (h : Action.ofName? name = some a) :
    a.name = name := by
  have named := List.find?_some (show Action.all.find? (fun a => a.name = name) = some a from h)
  exact of_decide_eq_true named

namespace Item

/-- The members of an item that are read. -/
def schema : Schema :=
  [("barcode", [.string]), ("title", [.string]), ("unknown", [.bool]),
    ("transactionFailed", [.bool])]

/-- The members of an item are read one by one. -/
theorem ofJson?_object (h : Named ms) : ofJson? (.object ms) = do
    let barcode ← reading "barcode" text? (some "") ms
    let title ← reading "title" text? (some "") ms
    let unknown ← reading "unknown" bool? (some false) ms
    let transactionFailed ← reading "transactionFailed" bool? (some false) ms
    return { barcode, title, unknown, transactionFailed } := by
  rw [ofJson?, fields?_of_named h]
  simp only [List.mapM_cons, List.mapM_nil, reading]
  -- A member that cannot be found ends both readings; the next is looked at only behind it.
  rcases member? "barcode" ms with _ | barcode
  · rfl
  rcases member? "title" ms with _ | title
  · simp
  rcases member? "unknown" ms with _ | unknown
  · simp
  rcases member? "transactionFailed" ms with _ | transactionFailed
  · simp
  rfl

/-- In an item that is read no member has a flaw. -/
theorem not_flawed {item : Item} (h : ofJson? (.object ms) = some item) : ¬ Flawed schema ms := by
  obtain ⟨values, found, -⟩ := Option.bind_eq_some_iff.mp h
  rw [ofJson?_object (named_of_fields? found)] at h
  simp only [Option.bind_eq_bind, Option.bind_eq_some_iff] at h
  obtain ⟨barcode, ofBarcode, title, ofTitle, unknown, ofUnknown, failed, ofFailed, -⟩ := h
  refine not_flawed_of_reads fun field mem => ?_
  simp only [schema, List.mem_cons, List.not_mem_nil, or_false] at mem
  rcases mem with rfl | rfl | rfl | rfl
  · exact ⟨_, _, _, _, ofBarcode, fun j text read => by simp [kind_of_text? read]⟩
  · exact ⟨_, _, _, _, ofTitle, fun j text read => by simp [kind_of_text? read]⟩
  · exact ⟨_, _, _, _, ofUnknown, fun j b read => by simp [kind_of_bool? read]⟩
  · exact ⟨_, _, _, _, ofFailed, fun j b read => by simp [kind_of_bool? read]⟩

/-- Two objects are the same item, up to the order of the members and to others. -/
inductive Rearranged : Json → Json → Prop
  | object {ms ns : List (Option String × Json)} (first : Named ms) (second : Named ns)
      (same : Corresponds (fun _ => Eq) (schema.map Prod.fst) ms ns) :
      Rearranged (.object ms) (.object ns)

theorem Rearranged.ofJson?_eq {j k : Json} (h : Rearranged j k) : ofJson? j = ofJson? k := by
  cases h with
  | object first second same =>
    have alike {α : Type} {name : String} (read : Json → Option α) (absent : Option α)
        (mem : name ∈ schema.map Prod.fst) :
        reading name read absent _ = reading name read absent _ :=
      reading_eq_of_corresponds same mem (congrArg read)
    rw [ofJson?_object first, ofJson?_object second, alike text? (some "") (by decide),
      alike text? (some "") (by decide), alike bool? (some false) (by decide),
      alike bool? (some false) (by decide)]

end Item

namespace Message

/-- The members of a message that are read. -/
def schema : Schema :=
  [("action", [.string, .object]), ("branch", [.null, .string]),
    ("item", [.null, .array, .object]), ("rfidError", [.bool]), ("sipError", [.bool]),
    ("errorMessage", [.null, .string])]

/-- The action that a value chooses. -/
def action? (j : Json) : Option Action := j.choice?.bind Action.ofName?

/-- The members of a message are read one by one. -/
theorem ofJson?_object (h : Named ms) : ofJson? (.object ms) = do
    let action ← reading "action" action? none ms
    let branch ← reading "branch" (optional? text?) (some none) ms
    let item ← reading "item" (optional? Item.ofJson?) (some none) ms
    let rfidError ← reading "rfidError" bool? (some false) ms
    let sipError ← reading "sipError" bool? (some false) ms
    let errorMessage ← reading "errorMessage" (optional? text?) (some none) ms
    return { action, branch, item, rfidError, sipError, errorMessage } := by
  rw [ofJson?, fields?_of_named h]
  simp only [List.mapM_cons, List.mapM_nil, reading]
  -- A member that cannot be found ends both readings; the next is looked at only behind it.
  rcases member? "action" ms with _ | _ | action
  · rfl
  · simp [Option.bind_assoc]
  rcases member? "branch" ms with _ | branch
  · simp
  rcases member? "item" ms with _ | item
  · simp
  rcases member? "rfidError" ms with _ | rfidError
  · simp
  rcases member? "sipError" ms with _ | sipError
  · simp
  rcases member? "errorMessage" ms with _ | errorMessage
  · simp
  rfl

/-- What is read of the members of a message. -/
theorem readings {m : Message} (h : ofJson? (.object ms) = some m) :
    reading "action" action? none ms = some m.action ∧
      reading "branch" (optional? text?) (some none) ms = some m.branch ∧
      reading "item" (optional? Item.ofJson?) (some none) ms = some m.item ∧
      reading "rfidError" bool? (some false) ms = some m.rfidError ∧
      reading "sipError" bool? (some false) ms = some m.sipError ∧
      reading "errorMessage" (optional? text?) (some none) ms = some m.errorMessage := by
  obtain ⟨values, found, -⟩ := Option.bind_eq_some_iff.mp h
  rw [ofJson?_object (named_of_fields? found)] at h
  simp only [Option.bind_eq_bind, Option.bind_eq_some_iff] at h
  obtain ⟨action, ofAction, branch, ofBranch, item, ofItem, rfidError, ofRfid, sipError, ofSip,
    errorMessage, ofText, ⟨⟩⟩ := h
  exact ⟨ofAction, ofBranch, ofItem, ofRfid, ofSip, ofText⟩

/-- In a message that is read no member has a flaw. -/
theorem not_flawed {m : Message} (h : ofJson? (.object ms) = some m) : ¬ Flawed schema ms := by
  obtain ⟨ofAction, ofBranch, ofItem, ofRfid, ofSip, ofText⟩ := readings h
  have optionalText (j : Json) (text : Option String) (read : optional? text? j = some text) :
      j.kind ∈ [Kind.null, Kind.string] := by
    rcases kind_of_optional? read with null | ⟨text, read⟩
    · simp [null]
    · simp [kind_of_text? read]
  refine not_flawed_of_reads fun field mem => ?_
  simp only [schema, List.mem_cons, List.not_mem_nil, or_false] at mem
  rcases mem with rfl | rfl | rfl | rfl | rfl | rfl
  · refine ⟨_, _, _, _, ofAction, fun j action read => ?_⟩
    obtain ⟨name, chosen, -⟩ := Option.bind_eq_some_iff.mp read
    rcases kind_of_choice? chosen with string | object
    · simp [string]
    · simp [object]
  · exact ⟨_, _, _, _, ofBranch, optionalText⟩
  · refine ⟨_, _, _, _, ofItem, fun j item read => ?_⟩
    rcases kind_of_optional? read with null | ⟨item, read⟩
    · simp [null]
    · obtain ⟨values, found, -⟩ := Option.bind_eq_some_iff.mp read
      rcases kind_of_fields? found with array | object
      · simp [array]
      · simp [object]
  · exact ⟨_, _, _, _, ofRfid, fun j b read => by simp [kind_of_bool? read]⟩
  · exact ⟨_, _, _, _, ofSip, fun j b read => by simp [kind_of_bool? read]⟩
  · exact ⟨_, _, _, _, ofText, optionalText⟩

/-- Two values of a member of a message are the same, or they are the same item. -/
def Alike (name : String) (j k : Json) : Prop := j = k ∨ name = "item" ∧ Item.Rearranged j k

/-- Two objects have the same members of a message, up to their order and to others, and likewise
for the item. -/
structure Rearranged (ms ns : List (Option String × Json)) : Prop where
  first : Named ms
  second : Named ns
  same : Corresponds Alike (schema.map Prod.fst) ms ns

theorem Rearranged.ofJson?_eq (h : Rearranged ms ns) :
    ofJson? (.object ms) = ofJson? (.object ns) := by
  have alike {α : Type} {name : String} (read : Json → Option α) (absent : Option α)
      (mem : name ∈ schema.map Prod.fst) (other : name ≠ "item") :
      reading name read absent ms = reading name read absent ns := by
    refine reading_eq_of_corresponds h.same mem fun like => ?_
    rcases like with same | ⟨item, -⟩
    · exact congrArg read same
    · exact absurd item other
  have items : reading "item" (optional? Item.ofJson?) (some none) ms =
      reading "item" (optional? Item.ofJson?) (some none) ns := by
    refine reading_eq_of_corresponds h.same (by decide) fun like => ?_
    rcases like with same | ⟨-, rearranged⟩
    · exact congrArg _ same
    · have same := rearranged.ofJson?_eq
      -- Neither is `null`.
      cases rearranged
      exact congrArg (Option.map some) same
  rw [ofJson?_object h.first, ofJson?_object h.second, items,
    alike action? none (by decide) (by decide),
    alike (optional? text?) (some none) (by decide) (by decide),
    alike bool? (some false) (by decide) (by decide),
    alike bool? (some false) (by decide) (by decide),
    alike (optional? text?) (some none) (by decide) (by decide)]

/-- There is no message in these members. -/
inductive Rejected (ms : List (Option String × Json)) : Prop
  | noAction (missing : ∀ m ∈ ms, m.1 ≠ some "action")
  | otherAction {j : Json} (mem : (some "action", j) ∈ ms)
      (other : ∀ a : Action, j.choice? ≠ some a.name)
  | flawed (flaw : Flawed schema ms)
  | flawedItem {item : List (Option String × Json)} (mem : (some "item", .object item) ∈ ms)
      (flaw : Flawed Item.schema item)

theorem Rejected.ofJson?_eq_none (h : Rejected ms) : ofJson? (.object ms) = none := by
  rw [Option.eq_none_iff_forall_ne_some]
  intro m read
  obtain ⟨ofAction, -, ofItem, -⟩ := readings read
  cases h with
  | noAction missing =>
    rw [reading_of_absent missing] at ofAction
    cases ofAction
  | otherAction mem other =>
    obtain ⟨name, chosen, named⟩ := Option.bind_eq_some_iff.mp (read_of_reading ofAction mem)
    exact other m.action (chosen.trans (congrArg some (Action.name_of_ofName? named).symm))
  | flawed flaw => exact not_flawed read flaw
  | flawedItem mem flaw =>
    obtain ⟨item, here, -⟩ := Option.map_eq_some_iff.mp (read_of_reading ofItem mem)
    exact Item.not_flawed here flaw

/-- A message does not depend on how it is written. Two frames with the same members, up to their
order, to the blanks and to other members, and likewise for the item, hold the same message or none;
and there is none where the action is missing or not known, or where a member is repeated or has a
value of another kind, wherever it stands. -/
theorem decodeFrame_rearranged (limit : Nat) {frame : Bytes} (text : IsText frame (.object ms))
    (fits : frame.length ≤ limit) :
    (∀ frame' ns, IsText frame' (.object ns) → frame'.length ≤ limit → Rearranged ms ns →
      decodeFrame limit frame = decodeFrame limit frame') ∧
    (Rejected ms → decodeFrame limit frame = none) := by
  have decoded {frame : Bytes} {ms : List (Option String × Json)} (text : IsText frame (.object ms))
      (fits : frame.length ≤ limit) : decodeFrame limit frame = ofJson? (.object ms) := by
    rw [decodeFrame, if_neg (Nat.not_lt.mpr fits), parse?_eq_some_iff.mpr text]
    rfl
  refine ⟨fun frame' ns text' fits' rearranged => ?_, fun rejected => ?_⟩
  · rw [decoded text fits, decoded text' fits', rearranged.ofJson?_eq]
  · rw [decoded text fits, rejected.ofJson?_eq_none]

/-- A checkin with an item. -/
def plainCheckin : Document where
  before := .none
  tree := .object .none
    (.more (.ofText "action" (by decide)) .none .none (.string (.ofText "CHECKIN" (by decide)))
      .none .none
    (.last (.ofText "item" (by decide)) .none .none
      (.object .none
        (.last (.ofText "barcode" (by decide)) .none .none
          (.string (.ofText "A1" (by decide))) .none))
      .none))
  after := .none

/-- The number -1.5. -/
def lessThanNothing : Numeral where
  negative := true
  whole := ⟨[0x31], by simp [isDigit]⟩
  single_of_zero := by simp
  fraction := some ⟨[0x35], by simp [isDigit]⟩
  exponent := none

/-- The same in another order, with a blank here and there and other members on both levels. -/
def strewnCheckin : Document where
  before := .none
  tree := .object space
    (.more (.ofText "item" (by decide)) .none space
      (.object .none
        (.more (.ofText "shelf" (by decide)) .none .none
          (.array .none (.last (.number lessThanNothing) .none)) .none space
        (.last (.ofText "barcode" (by decide)) .none .none
          (.string (.ofText "A1" (by decide))) .none)))
      .none .none
    (.more (.ofText "note" (by decide)) .none .none
      (.object .none (.last (.ofText "action" (by decide)) .none .none .null .none)) .none .none
    (.last (.ofText "action" (by decide)) space space (.string (.ofText "CHECKIN" (by decide)))
      .none)))
  after := space
where
  space : Blanks := ⟨[0x20], by simp [isSpace]⟩

/-- A checkin of which the action is repeated. -/
def repeatedCheckin : Document where
  before := .none
  tree := .object .none
    (.more (.ofText "action" (by decide)) .none .none (.string (.ofText "CHECKIN" (by decide)))
      .none .none
    (.last (.ofText "action" (by decide)) .none .none (.string (.ofText "CHECKIN" (by decide)))
      .none))
  after := .none

/-- The two forms of a checkin hold the same message. Where its action is repeated there is none. -/
theorem decodeFrame_rearranged_checkins :
    let frame := Bytes.ofText
      "\x7b\"action\":\"CHECKIN\",\"item\":\x7b\"barcode\":\"A1\"\x7d\x7d"
    let strewn := Bytes.ofText ("\x7b \"item\": \x7b\"shelf\":[-1.5], \"barcode\":\"A1\"\x7d" ++
      ",\"note\":\x7b\"action\":null\x7d,\"action\" : \"CHECKIN\"\x7d ")
    let repeated := Bytes.ofText "\x7b\"action\":\"CHECKIN\",\"action\":\"CHECKIN\"\x7d"
    decodeFrame 512 frame = some { action := .checkin, item := some { barcode := "A1" } } ∧
      decodeFrame 512 frame = decodeFrame 512 strewn ∧ decodeFrame 512 repeated = none := by
  intro frame strewn repeated
  let barcode : Option String × Json := (some "barcode", .string (some "A1"))
  let action : Option String × Json := (some "action", .string (some "CHECKIN"))
  let ms := [action, (some "item", .object [barcode])]
  let ns := [(some "item", .object [(some "shelf", .array [.number]), barcode]),
    (some "note", .object [(some "action", .null)]), action]
  have text : IsText frame (.object ms) := ⟨plainCheckin, by decide +kernel, by
    simp [plainCheckin, Tree.value, Members.values, ms, action, barcode]⟩
  have text' : IsText strewn (.object ns) := ⟨strewnCheckin, by decide +kernel, by
    simp [strewnCheckin, Tree.value, Members.values, Elements.values, ns, action, barcode]⟩
  have text'' : IsText repeated (.object [action, action]) :=
    ⟨repeatedCheckin, by decide +kernel, by
      simp [repeatedCheckin, Tree.value, Members.values, action]⟩
  have item : Item.Rearranged (.object [barcode])
      (.object [(some "shelf", .array [.number]), barcode]) :=
    .object (by simp [Named, barcode]) (by simp [Named, barcode])
      ⟨[barcode], .refl _, .cons ⟨rfl, fun _ _ => rfl⟩ .nil⟩
  have same : Rearranged ms ns := {
    first := by simp [Named, ms, action]
    second := by simp [Named, ns, action]
    same := ⟨[(some "item", .object [barcode]), action], .swap _ _ _,
      .cons ⟨rfl, fun name named => .inr ⟨(Option.some.inj named).symm, item⟩⟩
        (.cons ⟨rfl, fun _ _ => .inl rfl⟩ .nil)⟩ }
  have twice : Rejected [action, action] :=
    .flawed ⟨("action", [.string, .object]), .head _, .inl (by decide)⟩
  exact ⟨by decide +kernel,
    (decodeFrame_rearranged 512 text (by decide +kernel)).1 strewn ns text' (by decide +kernel)
      same,
    (decodeFrame_rearranged 512 text'' (by decide +kernel)).2 twice⟩

end Message

end SelfCheck
