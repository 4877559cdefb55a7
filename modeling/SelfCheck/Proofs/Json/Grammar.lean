import SelfCheck.Proofs.Json.Tokens

/-!
# The texts of a JSON value

A value has many texts. Here a text is taken apart into a tree of all that its writer has chosen,
the blanks around every value and mark included, and put together again; the value that is meant
does not look at the choices. The parser accepts just the texts that can be put together in this
way, and reads the value that is meant.

## Main definitions

* `Json.Tree` — a value with all that its writer has chosen
* `Json.Document` — a whole text
* `Json.IsText` — some bytes are a text of a value

## Main results

* `Json.Tree.value?_append` — a tree is read as its value, whatever may follow it
* `Json.exists_trees` — what is read as a value is the text of a tree
* `Json.parse?_eq_some_iff` — the parser accepts the texts of a value and nothing else
-/

namespace SelfCheck.Json

/-! ### Values -/

mutual

/-- A value with all that its writer has chosen. -/
inductive Tree where
  | null
  | bool (b : Bool)
  | number (n : Numeral)
  | string (l : Literal)
  | emptyArray (inner : Blanks)
  | array (inner : Blanks) (elements : Elements)
  | emptyObject (inner : Blanks)
  | object (inner : Blanks) (members : Members)

/-- The elements of an array, at least one: each has blanks behind it and, if another one follows,
blanks behind the comma. -/
inductive Elements where
  | last (t : Tree) (after : Blanks)
  | more (t : Tree) (after before : Blanks) (others : Elements)

/-- The members of an object, at least one: each has a name, blanks on either side of its colon, a
value and blanks behind it and, if another one follows, blanks behind the comma. -/
inductive Members where
  | last (name : Literal) (left right : Blanks) (t : Tree) (after : Blanks)
  | more (name : Literal) (left right : Blanks) (t : Tree) (after before : Blanks)
    (others : Members)

end

mutual

/-- The bytes of a value. -/
def Tree.bytes : Tree → Bytes
  | .null => Bytes.ofText "null"
  | .bool true => Bytes.ofText "true"
  | .bool false => Bytes.ofText "false"
  | .number n => n.bytes
  | .string l => '"'.toUInt8 :: l.bytes
  | .emptyArray inner => '['.toUInt8 :: (inner.1 ++ [']'.toUInt8])
  | .array inner es => '['.toUInt8 :: (inner.1 ++ es.bytes)
  | .emptyObject inner => '{'.toUInt8 :: (inner.1 ++ ['}'.toUInt8])
  | .object inner ms => '{'.toUInt8 :: (inner.1 ++ ms.bytes)

/-- The bytes of elements, to the closing bracket. -/
def Elements.bytes : Elements → Bytes
  | .last t after => t.bytes ++ (after.1 ++ [']'.toUInt8])
  | .more t after before es => t.bytes ++ (after.1 ++ ','.toUInt8 :: (before.1 ++ es.bytes))

/-- The bytes of members, to the closing brace. -/
def Members.bytes : Members → Bytes
  | .last name left right t after =>
    '"'.toUInt8 :: (name.bytes ++ (left.1 ++ ':'.toUInt8 :: (right.1 ++
      (t.bytes ++ (after.1 ++ ['}'.toUInt8])))))
  | .more name left right t after before ms =>
    '"'.toUInt8 :: (name.bytes ++ (left.1 ++ ':'.toUInt8 :: (right.1 ++
      (t.bytes ++ (after.1 ++ ','.toUInt8 :: (before.1 ++ ms.bytes))))))

end

mutual

/-- The value that is meant. -/
def Tree.value : Tree → Json
  | .null => .null
  | .bool b => .bool b
  | .number _ => .number
  | .string l => .string l.text?
  | .emptyArray _ => .array []
  | .array _ es => .array es.values
  | .emptyObject _ => .object []
  | .object _ ms => .object ms.values

/-- The values of elements. -/
def Elements.values : Elements → List Json
  | .last t _ => [t.value]
  | .more t _ _ es => t.value :: es.values

/-- The names and values of members. -/
def Members.values : Members → List (Option String × Json)
  | .last name _ _ t _ => [(name.text?, t.value)]
  | .more name _ _ t _ _ ms => (name.text?, t.value) :: ms.values

end

/-! ### Reading a value that was put together -/

section

variable {fuel : Nat} {rest bs : Bytes} {j : Json}

theorem ends_nil : Ends [] := nofun

theorem ends_mark {c : UInt8} (mark : c = ','.toUInt8 ∨ c = ']'.toUInt8 ∨ c = '}'.toUInt8)
    (rest : Bytes) : Ends (c :: rest) := by
  rintro b ⟨⟩
  rcases mark with rfl | rfl | rfl <;> decide

/-- A blank belongs to no number. -/
theorem Blanks.ends_append (bl : Blanks) (ends : Ends bs) : Ends (bl.1 ++ bs) := by
  obtain ⟨_ | ⟨b, bl⟩, blank⟩ := bl
  · exact ends
  · rintro b' ⟨⟩
    have space := blank b List.mem_cons_self
    simp only [isSpace, Bool.or_eq_true, decide_eq_true_eq] at space
    rcases space with ((rfl | rfl) | rfl) | rfl <;> decide

/-- The bytes that a number begins with begin no other value, and neither blanks nor a mark. -/
theorem solid_of_number {b : UInt8} (first : b = '-'.toUInt8 ∨ isDigit b = true) :
    isSpace b = false ∧ b ≠ ']'.toUInt8 ∧ b ≠ '"'.toUInt8 ∧ b ≠ '['.toUInt8 ∧ b ≠ '{'.toUInt8 ∧
      b ≠ 'n'.toUInt8 ∧ b ≠ 't'.toUInt8 ∧ b ≠ 'f'.toUInt8 := by
  have other {c : UInt8} (minus : c ≠ '-'.toUInt8) (digit : isDigit c = false) : b ≠ c := by
    rintro rfl
    rcases first with rfl | first
    · exact minus rfl
    · exact Bool.false_ne_true (digit.symm.trans first)
  have blank : isSpace b = false := by
    simp only [isSpace, Bool.or_eq_false_iff, decide_eq_false_iff_not]
    exact ⟨⟨⟨other (by decide) (by decide), other (by decide) (by decide)⟩,
      other (by decide) (by decide)⟩, other (by decide) (by decide)⟩
  exact ⟨blank, other (by decide) (by decide), other (by decide) (by decide),
    other (by decide) (by decide), other (by decide) (by decide), other (by decide) (by decide),
    other (by decide) (by decide), other (by decide) (by decide)⟩

/-- A value begins with no blank, and not with the bracket that would close an array. -/
theorem Tree.exists_bytes_eq_cons (t : Tree) :
    ∃ b bs, t.bytes = b :: bs ∧ isSpace b = false ∧ b ≠ ']'.toUInt8 := by
  cases t with
  | number n =>
    obtain ⟨b, bs, spelled, first⟩ := n.exists_bytes_eq_cons
    obtain ⟨solid, open_, -⟩ := solid_of_number first
    exact ⟨b, bs, by rw [Tree.bytes, spelled], solid, open_⟩
  | bool b => cases b <;> exact ⟨_, _, by rw [Tree.bytes]; rfl, by decide, by decide⟩
  | null => exact ⟨_, _, by rw [Tree.bytes]; rfl, by decide, by decide⟩
  | string | emptyArray | array | emptyObject | object =>
    exact ⟨_, _, by rw [Tree.bytes], by decide, by decide⟩

theorem Tree.length_bytes_pos (t : Tree) : 0 < t.bytes.length := by
  obtain ⟨b, bs, spelled, -⟩ := t.exists_bytes_eq_cons
  rw [spelled]
  exact Nat.succ_pos _

theorem Elements.exists_bytes_eq_cons (es : Elements) :
    ∃ b bs, es.bytes = b :: bs ∧ isSpace b = false ∧ b ≠ ']'.toUInt8 := by
  cases es with
  | last t | more t =>
    obtain ⟨b, bs, spelled, solid, open_⟩ := t.exists_bytes_eq_cons
    exact ⟨b, _, by rw [Elements.bytes, spelled]; rfl, solid, open_⟩

theorem Members.exists_bytes_eq_cons (ms : Members) : ∃ bs, ms.bytes = '"'.toUInt8 :: bs := by
  cases ms <;> exact ⟨_, by rw [Members.bytes]⟩

/-- Blanks in front of a value are skipped. -/
theorem Blanks.value?_append (bl : Blanks) (fuel : Nat) (bs : Bytes) :
    value? fuel (bl.1 ++ bs) = value? fuel bs := by
  cases fuel with
  | zero => rw [value?, value?]
  | succ fuel => rw [value?, value?, bl.skipSpace_append]

theorem Blanks.elements?_append (bl : Blanks) (fuel : Nat) (bs : Bytes) :
    elements? fuel (bl.1 ++ bs) = elements? fuel bs := by
  cases fuel with
  | zero => rw [elements?, elements?]
  | succ fuel => rw [elements?, elements?, bl.value?_append]

theorem Blanks.members?_append (bl : Blanks) (fuel : Nat) (bs : Bytes) :
    members? fuel (bl.1 ++ bs) = members? fuel bs := by
  cases fuel with
  | zero => rw [members?, members?]
  | succ fuel => rw [members?, members?, bl.skipSpace_append]

theorem value?_null : value? (fuel + 1) (Bytes.ofText "null" ++ rest) = some (.null, rest) := by
  have word := word?_append "null" rest
  have first : Bytes.ofText "null" ++ rest = 'n'.toUInt8 :: (Bytes.ofText "ull" ++ rest) := rfl
  rw [first] at word ⊢
  rw [value?, skipSpace_cons (by decide)]
  dsimp only
  rw [if_neg (by decide), if_neg (by decide), if_neg (by decide), if_pos rfl, word]
  rfl

theorem value?_bool (b : Bool) :
    value? (fuel + 1) ((Tree.bool b).bytes ++ rest) = some (.bool b, rest) := by
  have read := spells_bool b (fuel + 1) (Nat.le_add_left 1 fuel) rest
  cases b with
  | true | false =>
    rw [Tree.bytes]
    exact read

theorem value?_number (n : Numeral) (ends : Ends rest) :
    value? (fuel + 1) (n.bytes ++ rest) = some (.number, rest) := by
  have read := n.number?_append ends
  obtain ⟨b, bs, spelled, first⟩ := n.exists_bytes_eq_cons
  obtain ⟨solid, -, quote, bracket, brace, null, true_, false_⟩ := solid_of_number first
  rw [spelled, List.cons_append] at read ⊢
  rw [value?, skipSpace_cons solid]
  dsimp only
  rw [if_neg quote, if_neg bracket, if_neg brace, if_neg null, if_neg true_, if_neg false_, read]
  rfl

theorem value?_string (l : Literal) :
    value? (fuel + 1) ('"'.toUInt8 :: (l.bytes ++ rest)) = some (.string l.text?, rest) := by
  rw [value?, skipSpace_cons (by decide)]
  dsimp only
  rw [if_pos rfl, l.string?_append]
  rfl

theorem value?_emptyArray (inner : Blanks) :
    value? (fuel + 1) ('['.toUInt8 :: (inner.1 ++ ']'.toUInt8 :: rest)) =
      some (.array [], rest) := by
  rw [value?, skipSpace_cons (by decide)]
  dsimp only
  rw [if_neg (by decide), if_pos rfl, inner.skipSpace_cons (by decide)]
  dsimp only
  rw [if_pos rfl]

theorem value?_emptyObject (inner : Blanks) :
    value? (fuel + 1) ('{'.toUInt8 :: (inner.1 ++ '}'.toUInt8 :: rest)) =
      some (.object [], rest) := by
  rw [value?, skipSpace_cons (by decide)]
  dsimp only
  rw [if_neg (by decide), if_neg (by decide), if_pos rfl, inner.skipSpace_cons (by decide)]
  dsimp only
  rw [if_pos rfl]

/-- An array is read if its elements are. -/
theorem value?_array {es : Elements} (inner : Blanks)
    (read : elements? fuel (es.bytes ++ rest) = some (es.values, rest)) :
    value? (fuel + 1) ('['.toUInt8 :: (inner.1 ++ (es.bytes ++ rest))) =
      some (.array es.values, rest) := by
  obtain ⟨b, bs, spelled, solid, open_⟩ := es.exists_bytes_eq_cons
  rw [spelled, List.cons_append] at read ⊢
  rw [value?, skipSpace_cons (by decide)]
  dsimp only
  rw [if_neg (by decide), if_pos rfl, inner.skipSpace_cons solid]
  dsimp only
  rw [if_neg open_, read]
  rfl

/-- An object is read if its members are. -/
theorem value?_object {ms : Members} (inner : Blanks)
    (read : members? fuel (ms.bytes ++ rest) = some (ms.values, rest)) :
    value? (fuel + 1) ('{'.toUInt8 :: (inner.1 ++ (ms.bytes ++ rest))) =
      some (.object ms.values, rest) := by
  obtain ⟨bs, spelled⟩ := ms.exists_bytes_eq_cons
  rw [spelled, List.cons_append] at read ⊢
  rw [value?, skipSpace_cons (by decide)]
  dsimp only
  rw [if_neg (by decide), if_neg (by decide), if_pos rfl, inner.skipSpace_cons (by decide)]
  dsimp only
  rw [if_neg (by decide), read]
  rfl

/-- One element is read, and the mark behind it says whether there is another. -/
theorem elements?_step {c : UInt8} {after : Blanks} (solid : isSpace c = false)
    (read : value? fuel bs = some (j, after.1 ++ c :: rest)) :
    elements? (fuel + 1) bs =
      if c = ']'.toUInt8 then some ([j], rest)
      else if c = ','.toUInt8 then
        (elements? fuel rest).map fun (elements, rest) => (j :: elements, rest)
      else none := by
  rw [elements?, read]
  dsimp only
  rw [after.skipSpace_cons solid]

/-- One member is read, and the mark behind it says whether there is another. -/
theorem members?_step {c : UInt8} {left right after : Blanks} {name : Literal}
    (solid : isSpace c = false) (read : value? fuel bs = some (j, after.1 ++ c :: rest)) :
    members? (fuel + 1)
        ('"'.toUInt8 :: (name.bytes ++ (left.1 ++ ':'.toUInt8 :: (right.1 ++ bs)))) =
      if c = '}'.toUInt8 then some ([(name.text?, j)], rest)
      else if c = ','.toUInt8 then
        (members? fuel rest).map fun (members, rest) => ((name.text?, j) :: members, rest)
      else none := by
  rw [members?, skipSpace_cons (by decide)]
  dsimp only
  rw [if_pos rfl, name.string?_append]
  dsimp only
  rw [left.skipSpace_cons (by decide)]
  dsimp only
  rw [if_pos rfl, right.value?_append, read]
  dsimp only
  rw [after.skipSpace_cons solid]

end

mutual

/-- A value is read as it is meant, whatever follows that does not go on with a number. -/
theorem Tree.value?_append (t : Tree) {fuel : Nat} {rest : Bytes}
    (enough : 2 * t.bytes.length ≤ fuel) (ends : Ends rest) :
    value? fuel (t.bytes ++ rest) = some (t.value, rest) := by
  -- A bracket costs two units of fuel, one for the value and one for its first element.
  have long : 0 < t.bytes.length := t.length_bytes_pos
  obtain ⟨fuel, rfl⟩ := Nat.exists_eq_add_of_le' (show 1 ≤ fuel by omega)
  cases t with
  | null =>
    rw [Tree.bytes, Tree.value]
    exact value?_null
  | bool b => exact value?_bool b
  | number n =>
    rw [Tree.bytes, Tree.value]
    exact value?_number n ends
  | string l =>
    rw [Tree.bytes, Tree.value]
    exact value?_string l
  | emptyArray inner =>
    rw [Tree.bytes, Tree.value, List.cons_append, List.append_assoc]
    exact value?_emptyArray inner
  | array inner es =>
    rw [Tree.bytes, List.length_cons, List.length_append] at enough
    have read := es.elements?_append rest (show 2 * es.bytes.length ≤ fuel by omega)
    rw [Tree.bytes, Tree.value, List.cons_append, List.append_assoc]
    exact value?_array inner read
  | emptyObject inner =>
    rw [Tree.bytes, Tree.value, List.cons_append, List.append_assoc]
    exact value?_emptyObject inner
  | object inner ms =>
    rw [Tree.bytes, List.length_cons, List.length_append] at enough
    have read := ms.members?_append rest (show 2 * ms.bytes.length ≤ fuel by omega)
    rw [Tree.bytes, Tree.value, List.cons_append, List.append_assoc]
    exact value?_object inner read

/-- Elements are read one by one, to the closing bracket. -/
theorem Elements.elements?_append (es : Elements) {fuel : Nat} (rest : Bytes)
    (enough : 2 * es.bytes.length ≤ fuel) :
    elements? fuel (es.bytes ++ rest) = some (es.values, rest) := by
  cases es with
  | last t after =>
    simp only [Elements.bytes, List.length_append, List.length_singleton] at enough
    obtain ⟨fuel, rfl⟩ := Nat.exists_eq_add_of_le' (show 1 ≤ fuel by omega)
    have read := t.value?_append (show 2 * t.bytes.length ≤ fuel by omega)
      (after.ends_append (ends_mark (.inr (.inl rfl)) rest))
    simp only [Elements.bytes, Elements.values, List.append_assoc]
    exact (elements?_step (by decide) read).trans (if_pos rfl)
  | more t after between es =>
    simp only [Elements.bytes, List.length_append, List.length_cons] at enough
    obtain ⟨fuel, rfl⟩ := Nat.exists_eq_add_of_le' (show 1 ≤ fuel by omega)
    have read := t.value?_append (show 2 * t.bytes.length ≤ fuel by omega)
      (after.ends_append (ends_mark (.inl rfl) (between.1 ++ (es.bytes ++ rest))))
    have others := es.elements?_append rest (show 2 * es.bytes.length ≤ fuel by omega)
    simp only [Elements.bytes, Elements.values, List.append_assoc, List.cons_append]
    refine (elements?_step (by decide) read).trans ?_
    rw [if_neg (by decide), if_pos rfl, between.elements?_append, others]
    rfl

/-- Members are read one by one, to the closing brace. -/
theorem Members.members?_append (ms : Members) {fuel : Nat} (rest : Bytes)
    (enough : 2 * ms.bytes.length ≤ fuel) :
    members? fuel (ms.bytes ++ rest) = some (ms.values, rest) := by
  cases ms with
  | last name left right t after =>
    simp only [Members.bytes, List.length_append, List.length_cons] at enough
    obtain ⟨fuel, rfl⟩ := Nat.exists_eq_add_of_le' (show 1 ≤ fuel by omega)
    have read := t.value?_append (show 2 * t.bytes.length ≤ fuel by omega)
      (after.ends_append (ends_mark (.inr (.inr rfl)) rest))
    simp only [Members.bytes, Members.values, List.append_assoc, List.cons_append]
    exact (members?_step (by decide) read).trans (if_pos rfl)
  | more name left right t after between ms =>
    simp only [Members.bytes, List.length_append, List.length_cons] at enough
    obtain ⟨fuel, rfl⟩ := Nat.exists_eq_add_of_le' (show 1 ≤ fuel by omega)
    have read := t.value?_append (show 2 * t.bytes.length ≤ fuel by omega)
      (after.ends_append (ends_mark (.inl rfl) (between.1 ++ (ms.bytes ++ rest))))
    have others := ms.members?_append rest (show 2 * ms.bytes.length ≤ fuel by omega)
    simp only [Members.bytes, Members.values, List.append_assoc, List.cons_append]
    refine (members?_step (by decide) read).trans ?_
    rw [if_neg (by decide), if_pos rfl, between.members?_append, others]
    rfl

end

/-! ### Taking apart what is read -/

/-- Some bytes begin with a text of a value, blanks in front of it allowed. -/
def TreeAt (bs : Bytes) (j : Json) (rest : Bytes) : Prop :=
  ∃ (before : Blanks) (t : Tree), bs = before.1 ++ (t.bytes ++ rest) ∧ t.value = j

/-- Some bytes begin with texts of elements, blanks in front of them allowed. -/
def ElementsAt (bs : Bytes) (js : List Json) (rest : Bytes) : Prop :=
  ∃ (before : Blanks) (es : Elements), bs = before.1 ++ (es.bytes ++ rest) ∧ es.values = js

/-- Some bytes begin with texts of members, blanks in front of them allowed. -/
def MembersAt (bs : Bytes) (ms : List (Option String × Json)) (rest : Bytes) : Prop :=
  ∃ (before : Blanks) (tree : Members), bs = before.1 ++ (tree.bytes ++ rest) ∧ tree.values = ms

section

variable {fuel : Nat} {bs rest : Bytes} {j : Json} {js : List Json}
  {ms : List (Option String × Json)}

theorem eq_of_word? {word : String} (h : word? word bs = some rest) :
    bs = Bytes.ofText word ++ rest := by
  unfold word? at h
  dsimp only at h
  split_ifs at h with here
  cases h
  exact (List.prefix_iff_eq_append.mp (List.isPrefixOf_iff_prefix.mp here)).symm

/-- What is read behind an opening bracket is an array. -/
theorem exists_array {b : UInt8} (before : Blanks) (bracket : b = '['.toUInt8)
    (elements : ∀ {bs js rest}, elements? fuel bs = some (js, rest) → ElementsAt bs js rest)
    (h : (match skipSpace bs with
      | [] => none
      | c :: more =>
        if c = ']'.toUInt8 then some (array [], more)
        else (elements? fuel (c :: more)).map fun (elements, rest) => (array elements, rest)) =
      some (j, rest)) : TreeAt (before.1 ++ b :: bs) j rest := by
  obtain ⟨inner, split⟩ := exists_blanks bs
  split at h
  · cases h
  next c more skipped =>
  rw [skipped] at split
  subst split
  split_ifs at h with close
  · cases h
    exact ⟨before, .emptyArray inner, by simp [Tree.bytes, bracket, close], by rw [Tree.value]⟩
  · obtain ⟨⟨js, rest⟩, read, ⟨⟩⟩ := Option.map_eq_some_iff.mp h
    obtain ⟨more', es, spelled, rfl⟩ := elements read
    refine ⟨before, .array (inner.append more') es, ?_, by rw [Tree.value]⟩
    simp [Tree.bytes, Blanks.append, bracket, spelled]

/-- What is read behind an opening brace is an object. -/
theorem exists_object {b : UInt8} (before : Blanks) (brace : b = '{'.toUInt8)
    (members : ∀ {bs ms rest}, members? fuel bs = some (ms, rest) → MembersAt bs ms rest)
    (h : (match skipSpace bs with
      | [] => none
      | c :: more =>
        if c = '}'.toUInt8 then some (object [], more)
        else (members? fuel (c :: more)).map fun (members, rest) => (object members, rest)) =
      some (j, rest)) : TreeAt (before.1 ++ b :: bs) j rest := by
  obtain ⟨inner, split⟩ := exists_blanks bs
  split at h
  · cases h
  next c more skipped =>
  rw [skipped] at split
  subst split
  split_ifs at h with close
  · cases h
    exact ⟨before, .emptyObject inner, by simp [Tree.bytes, brace, close], by rw [Tree.value]⟩
  · obtain ⟨⟨ms, rest⟩, read, ⟨⟩⟩ := Option.map_eq_some_iff.mp h
    obtain ⟨more', tree, spelled, rfl⟩ := members read
    refine ⟨before, .object (inner.append more') tree, ?_, by rw [Tree.value]⟩
    simp [Tree.bytes, Blanks.append, brace, spelled]

theorem exists_tree_succ
    (elements : ∀ {bs js rest}, elements? fuel bs = some (js, rest) → ElementsAt bs js rest)
    (members : ∀ {bs ms rest}, members? fuel bs = some (ms, rest) → MembersAt bs ms rest)
    (h : value? (fuel + 1) bs = some (j, rest)) : TreeAt bs j rest := by
  obtain ⟨before, split⟩ := exists_blanks bs
  rw [value?] at h
  split at h
  · cases h
  · next b more skipped =>
    rw [skipped] at split
    subst split
    split_ifs at h with quote bracket brace null true_ false_
    · obtain ⟨⟨text, rest⟩, read, ⟨⟩⟩ := Option.map_eq_some_iff.mp h
      obtain ⟨l, rfl, rfl⟩ := exists_string read
      exact ⟨before, .string l, by rw [Tree.bytes, quote]; rfl, by rw [Tree.value]⟩
    · exact exists_array before bracket elements h
    · exact exists_object before brace members h
    · obtain ⟨rest, read, ⟨⟩⟩ := Option.map_eq_some_iff.mp h
      exact ⟨before, .null, by rw [Tree.bytes, eq_of_word? read], by rw [Tree.value]⟩
    · obtain ⟨rest, read, ⟨⟩⟩ := Option.map_eq_some_iff.mp h
      exact ⟨before, .bool true, by rw [Tree.bytes, eq_of_word? read], by rw [Tree.value]⟩
    · obtain ⟨rest, read, ⟨⟩⟩ := Option.map_eq_some_iff.mp h
      exact ⟨before, .bool false, by rw [Tree.bytes, eq_of_word? read], by rw [Tree.value]⟩
    · obtain ⟨rest, read, ⟨⟩⟩ := Option.map_eq_some_iff.mp h
      obtain ⟨n, spelled⟩ := exists_numeral read
      exact ⟨before, .number n, by rw [Tree.bytes, spelled], by rw [Tree.value]⟩

theorem exists_elements_succ
    (value : ∀ {bs j rest}, value? fuel bs = some (j, rest) → TreeAt bs j rest)
    (elements : ∀ {bs js rest}, elements? fuel bs = some (js, rest) → ElementsAt bs js rest)
    (h : elements? (fuel + 1) bs = some (js, rest)) : ElementsAt bs js rest := by
  rw [elements?] at h
  split at h
  · cases h
  · next j more read =>
    obtain ⟨before, t, rfl, rfl⟩ := value read
    obtain ⟨after, split⟩ := exists_blanks more
    split at h
    · cases h
    · next c more' skipped =>
      rw [skipped] at split
      subst split
      split_ifs at h with bracket comma
      · cases h
        refine ⟨before, .last t after, ?_, by rw [Elements.values]⟩
        simp [Elements.bytes, bracket]
      · obtain ⟨⟨js, rest⟩, read', ⟨⟩⟩ := Option.map_eq_some_iff.mp h
        obtain ⟨between, es, rfl, rfl⟩ := elements read'
        refine ⟨before, .more t after between es, ?_, by rw [Elements.values]⟩
        simp [Elements.bytes, comma]

theorem exists_members_succ
    (value : ∀ {bs j rest}, value? fuel bs = some (j, rest) → TreeAt bs j rest)
    (members : ∀ {bs ms rest}, members? fuel bs = some (ms, rest) → MembersAt bs ms rest)
    (h : members? (fuel + 1) bs = some (ms, rest)) : MembersAt bs ms rest := by
  -- Along the reader: the quote, the name, the colon, the value and the mark behind it.
  obtain ⟨before, split⟩ := exists_blanks bs
  rw [members?] at h
  split at h
  · cases h
  next b more skipped =>
  rw [skipped] at split
  subst split
  split_ifs at h with quote
  split at h
  · cases h
  next name more' named =>
  obtain ⟨l, rfl, rfl⟩ := exists_string named
  obtain ⟨left, split⟩ := exists_blanks more'
  split at h
  · cases h
  next c behind skipped' =>
  rw [skipped'] at split
  subst split
  split_ifs at h with colon
  split at h
  · cases h
  next j end_ read =>
  obtain ⟨right, t, rfl, rfl⟩ := value read
  obtain ⟨after, split⟩ := exists_blanks end_
  split at h
  · cases h
  next d others skipped'' =>
  rw [skipped''] at split
  subst split
  split_ifs at h with close comma
  · cases h
    refine ⟨before, .last l left right t after, ?_, by rw [Members.values]⟩
    simp [Members.bytes, quote, colon, close]
  · obtain ⟨⟨ms, rest⟩, read', ⟨⟩⟩ := Option.map_eq_some_iff.mp h
    obtain ⟨between, tree, rfl, rfl⟩ := members read'
    refine ⟨before, .more l left right t after between tree, ?_, by rw [Members.values]⟩
    simp [Members.bytes, quote, colon, comma]

/-- What is read as a value is the text of a tree, and so for elements and members. -/
theorem exists_trees (fuel : Nat) :
    (∀ {bs j rest}, value? fuel bs = some (j, rest) → TreeAt bs j rest) ∧
    (∀ {bs js rest}, elements? fuel bs = some (js, rest) → ElementsAt bs js rest) ∧
    (∀ {bs ms rest}, members? fuel bs = some (ms, rest) → MembersAt bs ms rest) := by
  induction fuel with
  | zero =>
    refine ⟨fun h => ?_, fun h => ?_, fun h => ?_⟩
    · rw [value?] at h
      cases h
    · rw [elements?] at h
      cases h
    · rw [members?] at h
      cases h
  | succ fuel ih =>
    obtain ⟨value, elements, members⟩ := ih
    exact ⟨exists_tree_succ elements members, exists_elements_succ value elements,
      exists_members_succ value members⟩

end

/-! ### Whole texts -/

/-- A whole text: a value with blanks around it. -/
structure Document where
  before : Blanks
  tree : Tree
  after : Blanks

/-- The bytes of a text. -/
def Document.bytes (d : Document) : Bytes := d.before.1 ++ (d.tree.bytes ++ d.after.1)

/-- Some bytes are a text of a value. -/
def IsText (bs : Bytes) (j : Json) : Prop := ∃ d : Document, d.bytes = bs ∧ d.tree.value = j

/-- The parser accepts the texts of a value and nothing else. -/
theorem parse?_eq_some_iff {bs : Bytes} {j : Json} : parse? bs = some j ↔ IsText bs j := by
  constructor
  · intro h
    unfold parse? at h
    split at h
    · next j' rest read =>
      split_ifs at h with done
      cases h
      obtain ⟨before, t, rfl, rfl⟩ := (exists_trees _).1 read
      obtain ⟨after, split⟩ := exists_blanks rest
      rw [List.isEmpty_iff.mp done, List.append_nil] at split
      exact ⟨⟨before, t, after⟩, by rw [Document.bytes, ← split], rfl⟩
    · cases h
  · rintro ⟨⟨before, t, after⟩, rfl, rfl⟩
    have enough : 2 * t.bytes.length ≤ 2 * (Document.mk before t after).bytes.length + 2 := by
      simp only [Document.bytes, List.length_append]
      omega
    have ends : Ends after.1 := by
      simpa using after.ends_append ends_nil
    have blank : skipSpace after.1 = [] := List.dropWhile_eq_nil_iff.mpr after.2
    have read := t.value?_append enough ends
    rw [← before.value?_append] at read
    unfold parse?
    rw [Document.bytes] at read ⊢
    rw [read]
    simp [blank]

end SelfCheck.Json
