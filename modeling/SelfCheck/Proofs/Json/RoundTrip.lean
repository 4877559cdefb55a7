import SelfCheck.Json.Parser
import SelfCheck.Json.Printer
import Mathlib.Data.List.Basic
import Mathlib.Tactic.Common

/-!
# What is written in JSON is read as it was meant

A string literal is read piece by piece: a byte that stands for itself, or an escape. Each
character is written in pieces that spell just its own bytes, so a literal spells the text that it
was written for, and a reader stops behind its closing quote whatever follows. The same goes for a
truth value and, member by member, for an object of values for which it goes. Members that are left
out of a record leave their fields empty.

## Main definitions

* `Json.Renders` — what is written for some bytes in a string literal spells just these
* `Json.Spells` — some written characters are read as a value, whatever follows them
* `Json.Field` — a field of a record, which may be left out

## Main results

* `Json.string?_quote` — a quoted text is read as the text
* `Json.spells_object` — an object is read member by member
* `Json.fields?_record` — the fields of a record are read back from its members
-/

namespace SelfCheck

namespace Json

open Printer

/-! ### String literals -/

/-- What is written for some bytes in a string literal is read as pieces that spell just these. -/
structure Renders (written bytes : Bytes) (pieces : List Piece) : Prop where
  read : ∀ seen more, literal? seen (written ++ more) = literal? (pieces.reverse ++ seen) more
  spelled : ∀ seen others,
    assemble? seen (pieces ++ others) = assemble? (bytes.reverse ++ seen) others

/-- A byte that stands for itself in a string literal. -/
def IsPlain (b : UInt8) : Prop := b ≠ '"'.toUInt8 ∧ b ≠ '\\'.toUInt8 ∧ ¬ b < 0x20

theorem literal?_plain {b : UInt8} (plain : IsPlain b) (seen : List Piece) (more : Bytes) :
    literal? seen (b :: more) = literal? (.plain b :: seen) more := by
  obtain ⟨quote, backslash, control⟩ := plain
  rw [literal?.eq_def]
  simp only [if_neg quote, if_neg backslash, if_neg control]

theorem literal?_escaped {e p : UInt8} (letter : e ≠ 'u'.toUInt8) (h : escaped? e = some p)
    (seen : List Piece) (more : Bytes) :
    literal? seen ('\\'.toUInt8 :: e :: more) = literal? (.plain p :: seen) more := by
  rw [literal?.eq_def]
  simp only [if_neg (show '\\'.toUInt8 ≠ '"'.toUInt8 by decide), if_pos, if_neg letter, h]

theorem literal?_unit {a b c d : UInt8} {u : Nat} (h : unit? a b c d = some u)
    (seen : List Piece) (more : Bytes) :
    literal? seen ('\\'.toUInt8 :: 'u'.toUInt8 :: a :: b :: c :: d :: more) =
      literal? (.unit u :: seen) more := by
  rw [literal?.eq_def]
  simp only [if_neg (show '\\'.toUInt8 ≠ '"'.toUInt8 by decide), if_pos, h]

/-- A code unit that is no surrogate spells its character, whatever comes next. -/
theorem assemble?_unit {u : Nat} (alone : u < 0xD800) (seen : Bytes) (others : List Piece) :
    assemble? seen (.unit u :: others) =
      assemble? ((String.utf8EncodeChar (Char.ofNat u)).reverse ++ seen) others := by
  have opens : opensPair u = false := by
    simp [opensPair]
    omega
  have closes : closesPair u = false := by
    simp [closesPair]
    omega
  rw [assemble?.eq_def]
  split <;> simp_all

theorem Renders.nil : Renders [] [] [] := ⟨fun _ _ => rfl, fun _ _ => rfl⟩

theorem Renders.append {ws vs bs cs : Bytes} {ps qs : List Piece} (h : Renders ws bs ps)
    (h' : Renders vs cs qs) : Renders (ws ++ vs) (bs ++ cs) (ps ++ qs) where
  read seen more := by
    rw [List.append_assoc, h.read, h'.read, List.reverse_append, List.append_assoc]
  spelled seen others := by
    rw [List.append_assoc, h.spelled, h'.spelled, List.reverse_append, List.append_assoc]

theorem renders_plain {bs : Bytes} (plain : ∀ b ∈ bs, IsPlain b) :
    Renders bs bs (bs.map .plain) := by
  induction bs with
  | nil => exact .nil
  | cons b bs ih =>
    have first : Renders [b] [b] [.plain b] :=
      ⟨literal?_plain (plain b List.mem_cons_self), fun _ _ => rfl⟩
    exact first.append (ih fun b' h => plain b' (List.mem_cons_of_mem b h))

theorem renders_letter {c letter : Char} (one : String.utf8EncodeChar c = [c.toUInt8])
    (small : String.utf8EncodeChar letter = [letter.toUInt8])
    (other : letter.toUInt8 ≠ 'u'.toUInt8) (h : escaped? letter.toUInt8 = some c.toUInt8) :
    Renders (Bytes.ofChars ['\\', letter]) (String.utf8EncodeChar c) [.plain c.toUInt8] := by
  rw [one]
  refine ⟨fun seen more => ?_, fun _ _ => rfl⟩
  rw [Bytes.ofChars_cons, Bytes.ofChars_cons, small]
  exact literal?_escaped other h seen more

/-- The number of a control character is read back from its digits. -/
theorem unit?_hexDigit : ∀ n < 0x20,
    Bytes.ofChars [hexDigit (n / 16), hexDigit (n % 16)] =
      [(hexDigit (n / 16)).toUInt8, (hexDigit (n % 16)).toUInt8] ∧
    unit? '0'.toUInt8 '0'.toUInt8 (hexDigit (n / 16)).toUInt8 (hexDigit (n % 16)).toUInt8 =
      some n := by
  decide

theorem renders_control {c : Char} (control : c.toNat < 0x20) :
    Renders (Bytes.ofChars
        ['\\', 'u', '0', '0', hexDigit (c.toNat / 16), hexDigit (c.toNat % 16)])
      (String.utf8EncodeChar c) [.unit c.toNat] := by
  obtain ⟨digits, number⟩ := unit?_hexDigit c.toNat control
  refine ⟨fun seen more => ?_, fun seen others => ?_⟩
  · have written : Bytes.ofChars
        ['\\', 'u', '0', '0', hexDigit (c.toNat / 16), hexDigit (c.toNat % 16)] =
        ['\\'.toUInt8, 'u'.toUInt8, '0'.toUInt8, '0'.toUInt8] ++
          Bytes.ofChars [hexDigit (c.toNat / 16), hexDigit (c.toNat % 16)] := rfl
    rw [written, digits]
    exact literal?_unit number seen more
  · have alone := assemble?_unit (show c.toNat < 0xD800 by omega) seen others
    rwa [Char.ofNat_toNat] at alone

/-- Every character is written in pieces that spell just its own bytes. -/
theorem exists_renders_escape (c : Char) :
    ∃ pieces, Renders (Bytes.ofChars (escape c)) (String.utf8EncodeChar c) pieces := by
  unfold escape
  split_ifs with quote backslash _ _ _ _ _ control
  -- The seven characters that are escaped by a letter.
  iterate 7
    · subst c
      exact ⟨_, renders_letter (by decide) (by decide) (by decide) (by decide)⟩
  · exact ⟨_, renders_control control⟩
  · -- The bytes of a character beyond ASCII are too great to be taken for an escaped character.
    rw [Bytes.ofChars_cons, Bytes.ofChars_nil, List.append_nil]
    refine ⟨_, renders_plain fun b h => ⟨?_, ?_, fun small => ?_⟩⟩
    · rintro rfl
      exact quote (Char.toNat_inj.1 (Bytes.toNat_eq_of_mem_utf8EncodeChar (by decide) h))
    · rintro rfl
      exact backslash (Char.toNat_inj.1 (Bytes.toNat_eq_of_mem_utf8EncodeChar (by decide) h))
    · have below : b.toNat < 0x20 := UInt8.lt_iff_toNat_lt.1 small
      exact control (Bytes.toNat_eq_of_mem_utf8EncodeChar (by omega) h ▸ below)

theorem exists_renders_text (cs : List Char) :
    ∃ pieces, Renders (Bytes.ofChars (cs.flatMap escape)) (Bytes.ofChars cs) pieces := by
  induction cs with
  | nil => exact ⟨[], .nil⟩
  | cons c cs ih =>
    obtain ⟨first, hfirst⟩ := exists_renders_escape c
    obtain ⟨more, hmore⟩ := ih
    refine ⟨first ++ more, ?_⟩
    rw [List.flatMap_cons, Bytes.ofChars_append]
    exact hfirst.append hmore

/-- A quoted text is read as the text, and what follows its closing quote is left. -/
theorem string?_quote (s : String) (rest : Bytes) :
    string? (Bytes.ofChars (s.toList.flatMap escape ++ ['"']) ++ rest) = some (some s, rest) := by
  obtain ⟨pieces, read, spelled⟩ := exists_renders_text s.toList
  have literal : literal? [] (Bytes.ofChars (s.toList.flatMap escape ++ ['"']) ++ rest) =
      some (pieces, rest) := by
    rw [Bytes.ofChars_append, List.append_assoc, read, List.append_nil]
    change literal? pieces.reverse ('"'.toUInt8 :: rest) = _
    rw [literal?.eq_def]
    simp
  have assembled : assemble? [] pieces = some (Bytes.ofText s) := by
    rw [← List.append_nil pieces, spelled, List.append_nil, assemble?, List.reverse_reverse]
    rfl
  rw [string?, literal, Option.map_some]
  dsimp only
  rw [assembled]
  exact congrArg (fun text => some (text, rest)) (Bytes.text?_ofText s)

/-! ### Values -/

/-- Some written characters are read as a value with a given fuel or more, and whatever follows them
is left. -/
def Spells (fuel : Nat) (written : List Char) (j : Json) : Prop :=
  ∀ more, fuel ≤ more → ∀ rest, value? more (Bytes.ofChars written ++ rest) = some (j, rest)

theorem Spells.mono {fuel more : Nat} {written : List Char} {j : Json} (h : Spells fuel written j)
    (le : fuel ≤ more) : Spells more written j :=
  fun most hmost => h most (Nat.le_trans le hmost)

theorem skipSpace_cons {b : UInt8} (h : isSpace b = false) (bs : Bytes) :
    skipSpace (b :: bs) = b :: bs := by
  rw [skipSpace, List.dropWhile_cons, h]
  rfl

theorem spells_quote (s : String) : Spells 1 (quote s) (.string (some s)) := by
  intro more le rest
  obtain ⟨more, rfl⟩ := Nat.exists_eq_add_of_le' le
  have written : Bytes.ofChars (quote s) ++ rest =
      '"'.toUInt8 :: (Bytes.ofChars (s.toList.flatMap escape ++ ['"']) ++ rest) := rfl
  rw [written, value?, skipSpace_cons (by decide)]
  dsimp only
  rw [if_pos rfl, string?_quote]
  rfl

theorem word?_append (word : String) (rest : Bytes) :
    word? word (Bytes.ofText word ++ rest) = some rest := by
  have here : (Bytes.ofText word).isPrefixOf (Bytes.ofText word ++ rest) = true :=
    List.isPrefixOf_iff_prefix.2 (List.prefix_append _ _)
  rw [word?, if_pos here, List.drop_left]

theorem spells_bool (b : Bool) : Spells 1 (Printer.bool b) (.bool b) := by
  intro more le rest
  obtain ⟨more, rfl⟩ := Nat.exists_eq_add_of_le' le
  cases b with
  | false =>
    have first : Bytes.ofChars (Printer.bool false) ++ rest =
      'f'.toUInt8 :: (Bytes.ofText "alse" ++ rest) := rfl
    have word := word?_append "false" rest
    rw [first, value?, skipSpace_cons (by decide)]
    dsimp only
    rw [if_neg (by decide), if_neg (by decide), if_neg (by decide), if_neg (by decide),
      if_neg (by decide), if_pos rfl]
    change (word? "false" (Bytes.ofText "false" ++ rest)).map _ = _
    rw [word]
    rfl
  | true =>
    have first : Bytes.ofChars (Printer.bool true) ++ rest =
      't'.toUInt8 :: (Bytes.ofText "rue" ++ rest) := rfl
    have word := word?_append "true" rest
    rw [first, value?, skipSpace_cons (by decide)]
    dsimp only
    rw [if_neg (by decide), if_neg (by decide), if_neg (by decide), if_neg (by decide), if_pos rfl]
    change (word? "true" (Bytes.ofText "true" ++ rest)).map _ = _
    rw [word]
    rfl

/-! ### Records -/

/-- A member of an object: how it is written, and the value that is meant. -/
structure Member where
  name : String
  written : List Char
  value : Json

namespace Member

/-- The member as it is written. -/
def text (m : Member) : String × List Char := (m.name, m.written)

/-- The member as it is read. -/
def meaning (m : Member) : Option String × Json := (some m.name, m.value)

end Member

variable {fuel : Nat}

/-- One member is read, and what follows it says whether there is another. -/
theorem members?_member {m : Member} (spelled : Spells fuel m.written m.value) {more : Nat}
    (le : fuel ≤ more) (tail : Bytes) :
    members? (more + 1) (Bytes.ofChars (quote m.name ++ ':' :: m.written) ++ tail) =
      match skipSpace tail with
      | [] => none
      | d :: rest =>
        if d = '}'.toUInt8 then some ([m.meaning], rest)
        else if d = ','.toUInt8 then
          (members? more rest).map fun (members, rest) => (m.meaning :: members, rest)
        else none := by
  have text : Bytes.ofChars (quote m.name ++ ':' :: m.written) ++ tail =
      '"'.toUInt8 :: (Bytes.ofChars (m.name.toList.flatMap escape ++ ['"']) ++
        ':'.toUInt8 :: (Bytes.ofChars m.written ++ tail)) := by
    rw [Bytes.ofChars_append, List.append_assoc]
    rfl
  rw [text, members?, skipSpace_cons (by decide)]
  dsimp only
  rw [if_pos rfl, string?_quote]
  dsimp only
  rw [skipSpace_cons (by decide)]
  dsimp only
  rw [if_pos rfl, spelled more le]
  rfl

/-- The members of an object are read one by one, to the closing brace. -/
theorem members?_spells {m : Member} {ms : List Member}
    (spelled : ∀ m' ∈ m :: ms, Spells fuel m'.written m'.value) {more : Nat}
    (le : fuel + (m :: ms).length ≤ more) (rest : Bytes) :
    members? more (Bytes.ofChars (quote m.name ++ ':' :: m.written ++
        Printer.members (ms.map Member.text) ++ ['}']) ++ rest) =
      some ((m :: ms).map Member.meaning, rest) := by
  -- By recursion on the members; each takes one of the fuel before the next is read.
  obtain ⟨more, rfl⟩ := Nat.exists_eq_add_of_le' le
  have first := members?_member (spelled m List.mem_cons_self)
    (show fuel ≤ more + (fuel + ms.length) by omega)
  cases ms with
  | nil =>
    rw [List.map_nil, Printer.members, List.append_nil, Bytes.ofChars_append, List.append_assoc]
    refine (first _).trans ?_
    change (match skipSpace ('}'.toUInt8 :: rest) with | [] => none | d :: rest => _) = _
    rw [skipSpace_cons (by decide)]
    rfl
  | cons next ms =>
    have later := members?_spells (fun m' h => spelled m' (List.mem_cons_of_mem m h))
      (show fuel + (next :: ms).length ≤ more + (fuel + (next :: ms).length) by omega) rest
    rw [List.append_assoc, Bytes.ofChars_append, List.append_assoc]
    refine (first _).trans ?_
    have comma : Bytes.ofChars (Printer.members ((next :: ms).map Member.text) ++ ['}']) ++ rest =
        ','.toUInt8 :: (Bytes.ofChars (quote next.name ++ ':' :: next.written ++
          Printer.members (ms.map Member.text) ++ ['}']) ++ rest) := rfl
    rw [comma, skipSpace_cons (by decide)]
    dsimp only
    rw [if_neg (by decide), if_pos rfl, later]
    rfl

/-- An object is read member by member. -/
theorem spells_object {ms : List Member} (spelled : ∀ m ∈ ms, Spells fuel m.written m.value) :
    Spells (fuel + ms.length + 1) (Printer.object (ms.map Member.text))
      (.object (ms.map Member.meaning)) := by
  intro more le rest
  obtain ⟨more, rfl⟩ := Nat.exists_eq_add_of_le' le
  cases ms with
  | nil =>
    have text : Bytes.ofChars (Printer.object []) ++ rest =
      '{'.toUInt8 :: '}'.toUInt8 :: rest := rfl
    rw [List.map_nil, text, ← Nat.add_assoc, value?, skipSpace_cons (by decide)]
    dsimp only
    rw [if_neg (by decide), if_neg (by decide), if_pos rfl, skipSpace_cons (by decide)]
    rfl
  | cons m ms =>
    have members := members?_spells spelled (Nat.le_add_left _ more) rest
    have text : Bytes.ofChars (Printer.object ((m :: ms).map Member.text)) ++ rest =
      '{'.toUInt8 :: (Bytes.ofChars (quote m.name ++ ':' :: m.written ++
        Printer.members (ms.map Member.text) ++ ['}']) ++ rest) := rfl
    obtain ⟨tail, quoted⟩ : ∃ tail, Bytes.ofChars (quote m.name ++ ':' :: m.written ++
        Printer.members (ms.map Member.text) ++ ['}']) ++ rest = '"'.toUInt8 :: tail := ⟨_, rfl⟩
    rw [quoted] at members
    rw [text, quoted, ← Nat.add_assoc, value?, skipSpace_cons (by decide)]
    dsimp only
    rw [if_neg (by decide), if_neg (by decide), if_pos rfl, skipSpace_cons (by decide)]
    dsimp only
    rw [if_neg (by decide), members]
    rfl

/-! ### Fields that may be left out -/

/-- A field of a record: its name, and how it is written with the value that is meant, unless it is
left out. -/
abbrev Field := String × Option (List Char × Json)

namespace Field

/-- The member that is written for a field. -/
def member? (f : Field) : Option Member := f.2.map fun (written, value) => ⟨f.1, written, value⟩

/-- The value of a field, if it is not left out. -/
def value? (f : Field) : Option Json := f.2.map Prod.snd

/-- A record as it is written. -/
def written (fs : List Field) : List Char :=
  Printer.object ((fs.filterMap member?).map Member.text)

/-- A record as it is read. -/
def record (fs : List Field) : Json := .object ((fs.filterMap member?).map Member.meaning)

/-- A record is read if the values of its fields are. -/
theorem spells_record {fs : List Field}
    (spelled : ∀ f ∈ fs, ∀ text value, f.2 = some (text, value) → Spells fuel text value) :
    Spells (fuel + fs.length + 1) (written fs) (record fs) := by
  have members : ∀ m ∈ fs.filterMap member?, Spells fuel m.written m.value := by
    intro m hm
    obtain ⟨f, mem, here⟩ := List.mem_filterMap.1 hm
    obtain ⟨⟨text, value⟩, some, rfl⟩ := Option.map_eq_some_iff.1 here
    exact spelled f mem text value some
  refine (spells_object members).mono ?_
  have fewer := List.length_filterMap_le member? fs
  omega

end Field

theorem filter_name_eq {fs : List Field} (nodup : (fs.map Prod.fst).Nodup) {f : Field}
    (mem : f ∈ fs) : fs.filter (fun g => g.1 = f.1) = [f] := by
  induction fs with
  | nil => cases mem
  | cons g gs ih =>
    rw [List.map_cons, List.nodup_cons] at nodup
    rcases List.mem_cons.1 mem with rfl | later
    · have others : gs.filter (fun g => g.1 = f.1) = [] := by
        rw [List.filter_eq_nil_iff]
        intro g hg same
        exact nodup.1 (of_decide_eq_true same ▸ List.mem_map_of_mem hg)
      rw [List.filter_cons, if_pos (decide_eq_true rfl), others]
    · have other : g.1 ≠ f.1 := fun same => nodup.1 (same ▸ List.mem_map_of_mem later)
      rw [List.filter_cons, if_neg (by simpa using other), ih nodup.2 later]

/-- The members under a name are those of the fields of that name. -/
theorem filter_meaning (fs : List Field) (name : String) :
    ((fs.filterMap Field.member?).map Member.meaning).filter (fun m => m.1 = some name) =
      ((fs.filter fun g => g.1 = name).filterMap Field.member?).map Member.meaning := by
  rw [List.filter_map, List.filter_filterMap, List.filterMap_filter]
  refine congrArg (List.map Member.meaning) (List.filterMap_congr fun f _ => ?_)
  obtain ⟨name', _ | ⟨written, value⟩⟩ := f
  · simp [Field.member?]
  · by_cases same : name' = name <;> simp [Field.member?, Member.meaning, same]

/-- The value of a field is found among the members that are written. -/
theorem member?_of_mem {fs : List Field} (nodup : (fs.map Prod.fst).Nodup) {f : Field}
    (mem : f ∈ fs) :
    member? f.1 ((fs.filterMap Field.member?).map Member.meaning) = some f.value? := by
  rw [member?, filter_meaning, filter_name_eq nodup mem]
  obtain ⟨name, _ | ⟨written, value⟩⟩ := f <;> rfl

/-- The fields of a record are read back from its members. -/
theorem fields?_record {fs : List Field} (nodup : (fs.map Prod.fst).Nodup) :
    fields? (fs.map Prod.fst) (Field.record fs) = some (fs.map Field.value?) := by
  have named : ((fs.filterMap Field.member?).map Member.meaning).all (·.1.isSome) = true := by
    rw [List.all_map, List.all_eq_true]
    exact fun _ _ => rfl
  have found : ∀ f ∈ fs, member? f.1 ((fs.filterMap Field.member?).map Member.meaning) =
      some f.value? := fun f => member?_of_mem nodup
  rw [Field.record, fields?, if_pos named]
  generalize (fs.filterMap Field.member?).map Member.meaning = members at found
  clear nodup named
  induction fs with
  | nil => rfl
  | cons f fs ih =>
    rw [List.map_cons, List.mapM_cons, found f List.mem_cons_self,
      ih fun g h => found g (List.mem_cons_of_mem f h)]
    rfl

end Json

end SelfCheck
