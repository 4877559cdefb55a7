import SelfCheck.Sip.Reply
import SelfCheck.Proofs.Text.Boundaries
import Mathlib.Data.List.TakeWhile

/-!
# What a reply is cut into

The offsets of a reply count bytes, its text may hold any characters, and its fields come in any
order, repeated, empty or cut short. What the reader makes of all that is said here of the line
itself: where its fixed part ends, and which of the segments behind it is the field of a code.

## Main definitions

* `Sip.Reply.Cut` — a line begins with its number, and is its fixed part and the rest
* `Sip.Reply.WellFormed` — a line can be cut so
* `Sip.Reply.segmentOf?` — the first segment with a code

## Main results

* `Sip.Reply.parse_eq_ok_iff` — a reply is read just as its line is cut
* `Sip.Reply.parse_eq_error_iff` — it is malformed just if the line cannot be cut
* `Sip.Reply.field?_of_parse` — the field of a code is the first segment with it
* `Sip.Reply.flag?_of_parse` — a byte of the fixed part is that of the line
-/

namespace SelfCheck

/-- Nothing is left of a text at whose ends characters are removed just if it has no other ones. -/
theorem Text.trim_eq_nil_iff {p : Char → Bool} {cs : List Char} :
    Text.trim p cs = [] ↔ ∀ c ∈ cs, p c = true := by
  rw [Text.trim, Text.trimEnd, List.reverse_eq_nil_iff, List.dropWhile_eq_nil_iff]
  constructor
  · intro h
    rw [← List.dropWhile_eq_nil_iff]
    -- What `dropWhile` leaves begins with a character of another class.
    by_contra some
    have first := List.head_dropWhile_not p some
    rw [h _ (List.mem_reverse.mpr (List.head_mem some))] at first
    cases first
  · intro h c hc
    exact h c ((List.dropWhile_sublist p).subset (List.mem_reverse.mp hc))

namespace Sip.Reply

/-- A line begins with its number, and is its fixed part, of so many bytes, and what stands behind
it. -/
structure Cut (number : String) (fixedLength : Nat) (line fixed rest : List Char) : Prop where
  begins : number.toList <+: line
  whole : line = fixed ++ rest
  long : Text.byteLength fixed = fixedLength

/-- A line begins with its number, and a character ends where its fixed part does. -/
def WellFormed (number : String) (fixedLength : Nat) (line : List Char) : Prop :=
  ∃ fixed rest, Cut number fixedLength line fixed rest

/-- The first of the segments behind the fixed part that begins with a code. -/
def segmentOf? (code : String) (rest : List Char) : Option (List Char) :=
  (Text.splitOn '|' rest).find? fun segment => code.toList.isPrefixOf segment

variable {number raw code value : String} {fixedLength offset : Nat}
  {line fixed rest segment : List Char} {r : Reply}

theorem cutAt?_iff (begins : number.toList <+: line) :
    Text.cutAt? fixedLength line = some (fixed, rest) ↔ Cut number fixedLength line fixed rest := by
  rw [Text.cutAt?_eq_some_iff]
  exact ⟨fun ⟨whole, long⟩ => ⟨begins, whole, long⟩, fun h => ⟨h.whole, h.long⟩⟩

/-- A line can be cut in one way. -/
theorem Cut.unique {fixed' rest' : List Char} (h : Cut number fixedLength line fixed rest)
    (h' : Cut number fixedLength line fixed' rest') : fixed = fixed' ∧ rest = rest' := by
  have same := ((cutAt?_iff h.begins).mpr h).symm.trans ((cutAt?_iff h.begins).mpr h')
  exact Prod.mk.inj (Option.some.inj same)

/-- A reply is read just as its line is cut. -/
theorem parse_eq_ok_iff :
    parse number fixedLength raw = .ok r ↔
      ∃ rest, Cut number fixedLength (chomp raw) r.fixed.toList rest ∧
        r.fields = firsts ((Text.splitOn '|' rest).filterMap segment?) := by
  unfold parse
  dsimp only
  by_cases begins : number.toList.isPrefixOf (chomp raw) = true
  · rw [if_pos begins]
    rw [List.isPrefixOf_iff_prefix] at begins
    constructor
    · intro h
      split at h
      · cases h
      · next fixed rest cut =>
        cases h
        exact ⟨rest, by simpa using (cutAt?_iff begins).mp cut, rfl⟩
    · rintro ⟨rest, cut, fields⟩
      rw [(cutAt?_iff begins).mpr cut]
      dsimp only
      rw [← fields, String.ofList_toList]
  · rw [if_neg begins]
    rw [List.isPrefixOf_iff_prefix] at begins
    refine iff_of_false (by simp) ?_
    rintro ⟨_, cut, -⟩
    exact begins cut.begins

/-- A line that can be cut is read. -/
theorem Cut.parse (cut : Cut number fixedLength (chomp raw) fixed rest) :
    ∃ r, parse number fixedLength raw = .ok r ∧ r.fixed.toList = fixed :=
  ⟨⟨String.ofList fixed, _⟩, parse_eq_ok_iff.mpr ⟨rest, by simpa using cut, rfl⟩, by simp⟩

/-- A reply is malformed just if its line cannot be cut. -/
theorem parse_eq_error_iff :
    (∃ what, parse number fixedLength raw = .error (.malformed what)) ↔
      ¬ WellFormed number fixedLength (chomp raw) := by
  constructor
  · rintro ⟨what, failed⟩ ⟨fixed, rest, cut⟩
    obtain ⟨r, read, -⟩ := cut.parse
    rw [failed] at read
    cases read
  · intro uncut
    cases read : parse number fixedLength raw with
    | ok r =>
      obtain ⟨rest, cut, -⟩ := parse_eq_ok_iff.mp read
      exact absurd ⟨_, rest, cut⟩ uncut
    | error f =>
      -- Both faults of the reader are of this kind.
      unfold parse at read
      dsimp only at read
      split at read
      · split at read
        · cases read
          exact ⟨_, rfl⟩
        · cases read
      · cases read
        exact ⟨_, rfl⟩

/-- A byte of the fixed part is the byte of the line at the same offset. -/
theorem flag?_of_parse (read : parse number fixedLength raw = .ok r) (inside : offset < fixedLength) :
    r.flag? offset = (Bytes.ofChars (chomp raw))[offset]? := by
  obtain ⟨rest, cut, -⟩ := parse_eq_ok_iff.mp read
  rw [flag?, Bytes.ofText, cut.whole, Bytes.ofChars_append, List.getElem?_append_left]
  rwa [Bytes.length_ofChars, cut.long]

/-! ### Fields -/

theorem segment?_eq_some_iff :
    segment? segment = some (code, value) ↔
      segment = code.toList ++ value.toList ∧ Text.byteLength code.toList = 2 := by
  unfold segment?
  rw [Option.map_eq_some_iff]
  constructor
  · rintro ⟨⟨before, after⟩, cut, same⟩
    cases same
    simpa using Text.cutAt?_eq_some_iff.mp cut
  · rintro ⟨rfl, two⟩
    exact ⟨_, Text.cutAt?_eq_some_iff.mpr ⟨rfl, two⟩, by simp⟩

/-- The segments that hold the field of a two-byte code are those that begin with it. -/
theorem code_segment?_iff (two : Text.byteLength code.toList = 2) :
    (segment? segment).any (fun f => f.1 = code) = code.toList.isPrefixOf segment := by
  rw [Bool.eq_iff_iff, Option.any_eq_true, List.isPrefixOf_iff_prefix]
  constructor
  · rintro ⟨⟨_, value⟩, held, same⟩
    obtain rfl := of_decide_eq_true same
    exact ⟨value.toList, (segment?_eq_some_iff.mp held).1.symm⟩
  · rintro ⟨value, rfl⟩
    exact ⟨(code, String.ofList value), segment?_eq_some_iff.mpr ⟨by simp, two⟩, by simp⟩

/-- Of the fields with one code the first is kept. -/
theorem find?_firsts (fields : List (String × String)) :
    (firsts fields).find? (fun f => f.1 = code) = fields.find? (fun f => f.1 = code) := by
  induction fields with
  | nil => rfl
  | cons f fields ih =>
    rw [firsts, List.find?_cons, List.find?_cons]
    split
    · rfl
    · next other =>
      -- The filter removes no field with the code, for that of `f` is another one.
      rw [List.find?_filter, ← ih]
      congr 1
      funext g
      grind

/-- The field of a two-byte code is the first segment that begins with it, without the code. -/
theorem field?_of_parse (cut : Cut number fixedLength (chomp raw) fixed rest)
    (read : parse number fixedLength raw = .ok r) (two : Text.byteLength code.toList = 2) :
    r.field? code =
      (segmentOf? code rest).map fun segment => String.ofList (segment.drop code.length) := by
  obtain ⟨rest', cut', fields⟩ := parse_eq_ok_iff.mp read
  obtain ⟨-, rfl⟩ := cut.unique cut'
  rw [field?, fields, find?_firsts, List.find?_filterMap]
  simp only [code_segment?_iff two]
  rw [← segmentOf?]
  cases found : segmentOf? code rest with
  | none => rfl
  | some segment =>
    obtain ⟨value, rfl⟩ := List.isPrefixOf_iff_prefix.mp (List.find?_some found)
    have held : segment? (code.toList ++ value) = some (code, String.ofList value) :=
      segment?_eq_some_iff.mpr ⟨by rw [String.toList_ofList], two⟩
    rw [Option.bind_some, held, Option.map_some, Option.map_some, ← String.length_toList,
      List.drop_left]

end Sip.Reply

end SelfCheck
