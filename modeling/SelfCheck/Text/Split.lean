/-!
# Cutting text

The line protocols of a desk put fields side by side, separated by one character, behind a part of
fixed length in bytes. This module cuts characters at a separator, at a byte offset, and at the
ends.

## Main definitions

* `Text.splitOn` — the fields between the occurrences of a separator
* `Text.joinWith` — fields put side by side with a separator between them
* `Text.cutAt?` — the characters before and after a byte offset, when a character starts there
* `Text.trimEnd`, `Text.trim` — text without the characters of a class at its end, or both ends
* `Text.occurs` — a word occurs in a text

## Main results

* `Text.length_splitOn` — there is one field more than there are separators
* `Text.joinWith_splitOn`, `Text.splitOn_joinWith` — cutting and joining undo each other
* `Text.cutAt?_eq_some_iff` — a cut gives back the text, its first part as long as asked
-/

namespace SelfCheck.Text

/-! ### Fields -/

/-- The fields between the occurrences of `sep`; text without it is one field. -/
def splitOn (sep : Char) : List Char → List (List Char)
  | [] => [[]]
  | c :: cs =>
    if c = sep then [] :: splitOn sep cs
    else match splitOn sep cs with
      | [] => [[c]]
      | field :: fields => (c :: field) :: fields

/-- Fields put side by side with `sep` between them. -/
def joinWith (sep : Char) : List (List Char) → List Char
  | [] => []
  | [field] => field
  | field :: fields => field ++ sep :: joinWith sep fields

theorem splitOn_ne_nil (sep : Char) (cs : List Char) : splitOn sep cs ≠ [] := by
  cases cs with
  | nil => simp [splitOn]
  | cons c cs =>
    unfold splitOn
    split
    · simp
    · split <;> simp

/-- There is one field more than there are separators. -/
theorem length_splitOn (sep : Char) (cs : List Char) :
    (splitOn sep cs).length = cs.count sep + 1 := by
  induction cs with
  | nil => rfl
  | cons c cs ih =>
    unfold splitOn
    split
    · next h => simp [h, ih]
    · next h =>
      split
      · next h' => exact absurd h' (splitOn_ne_nil sep cs)
      · next h' =>
        rw [h'] at ih
        simpa [List.count_cons, h] using ih

/-- No field holds a separator. -/
theorem not_mem_of_mem_splitOn {sep : Char} {cs field : List Char}
    (h : field ∈ splitOn sep cs) : sep ∉ field := by
  induction cs generalizing field with
  | nil =>
    simp only [splitOn, List.mem_singleton] at h
    simp [h]
  | cons c cs ih =>
    unfold splitOn at h
    split at h
    · rcases List.mem_cons.1 h with rfl | h
      · simp
      · exact ih h
    · next hc =>
      split at h
      · next h' => exact absurd h' (splitOn_ne_nil sep cs)
      · next f fs h' =>
        rcases List.mem_cons.1 h with rfl | h
        · have : sep ∉ f := ih (h' ▸ List.mem_cons_self)
          simp [this, Ne.symm hc]
        · exact ih (h' ▸ List.mem_cons_of_mem _ h)

/-- A field holds only what stands in the text. -/
theorem mem_of_mem_splitOn {sep c : Char} {cs field : List Char} (h : field ∈ splitOn sep cs)
    (hc : c ∈ field) : c ∈ cs := by
  induction cs generalizing field with
  | nil =>
    simp only [splitOn, List.mem_singleton] at h
    rwa [h] at hc
  | cons d cs ih =>
    unfold splitOn at h
    split at h
    · rcases List.mem_cons.1 h with rfl | h
      · cases hc
      · exact List.mem_cons_of_mem d (ih h hc)
    · split at h
      · next h' => exact absurd h' (splitOn_ne_nil sep cs)
      · next f fs h' =>
        rcases List.mem_cons.1 h with rfl | h
        · rcases List.mem_cons.1 hc with rfl | hc
          · exact List.mem_cons_self
          · exact List.mem_cons_of_mem d (ih (h' ▸ List.mem_cons_self) hc)
        · exact List.mem_cons_of_mem d (ih (h' ▸ List.mem_cons_of_mem _ h) hc)

theorem joinWith_splitOn (sep : Char) (cs : List Char) : joinWith sep (splitOn sep cs) = cs := by
  induction cs with
  | nil => rfl
  | cons c cs ih =>
    unfold splitOn
    split
    · next h =>
      cases hs : splitOn sep cs with
      | nil => exact absurd hs (splitOn_ne_nil sep cs)
      | cons f fs => rw [hs] at ih; simp [joinWith, ih, h]
    · split
      · next h' => exact absurd h' (splitOn_ne_nil sep cs)
      · next f fs h' =>
        rw [h'] at ih
        cases fs with
        | nil => simpa [joinWith] using ih
        | cons g gs => simpa [joinWith] using ih

private theorem splitOn_append_sep {sep : Char} {field : List Char} (rest : List Char)
    (h : sep ∉ field) : splitOn sep (field ++ sep :: rest) = field :: splitOn sep rest := by
  induction field with
  | nil => simp [splitOn]
  | cons c field ih =>
    rw [List.mem_cons, not_or] at h
    simp [splitOn, Ne.symm h.1, ih h.2]

private theorem splitOn_of_not_mem {sep : Char} {field : List Char} (h : sep ∉ field) :
    splitOn sep field = [field] := by
  induction field with
  | nil => rfl
  | cons c field ih =>
    rw [List.mem_cons, not_or] at h
    simp [splitOn, Ne.symm h.1, ih h.2]

theorem splitOn_joinWith {sep : Char} {fields : List (List Char)} (hne : fields ≠ [])
    (h : ∀ field ∈ fields, sep ∉ field) : splitOn sep (joinWith sep fields) = fields := by
  induction fields with
  | nil => exact absurd rfl hne
  | cons f fs ih =>
    cases fs with
    | nil => exact splitOn_of_not_mem (h f List.mem_cons_self)
    | cons g gs =>
      simp only [joinWith]
      rw [splitOn_append_sep _ (h f List.mem_cons_self),
        ih (by simp) fun x hx => h x (List.mem_cons_of_mem _ hx)]

/-! ### Byte offsets -/

/-- How many bytes some characters take in UTF-8. -/
def byteLength : List Char → Nat
  | [] => 0
  | c :: cs => c.utf8Size + byteLength cs

/-- The characters before and after byte `n`; `none` past the end of the text and inside a
character. -/
def cutAt? : Nat → List Char → Option (List Char × List Char)
  | 0, cs => some ([], cs)
  | _ + 1, [] => none
  | n + 1, c :: cs =>
    if c.utf8Size ≤ n + 1 then (cutAt? (n + 1 - c.utf8Size) cs).map fun p => (c :: p.1, p.2)
    else none

@[simp] theorem byteLength_append (cs ds : List Char) :
    byteLength (cs ++ ds) = byteLength cs + byteLength ds := by
  induction cs with
  | nil => simp [byteLength]
  | cons c cs ih => simp [byteLength, ih, Nat.add_assoc]

/-- A cut gives back the text, its first part as many bytes long as asked. -/
theorem cutAt?_eq_some_iff {n : Nat} {cs before after : List Char} :
    cutAt? n cs = some (before, after) ↔ cs = before ++ after ∧ byteLength before = n := by
  induction cs generalizing n before with
  | nil =>
    cases n with
    | zero => cases before <;> simp [cutAt?, byteLength, eq_comm]
    | succ n => cases before <;> simp [cutAt?, byteLength]
  | cons c cs ih =>
    have hc := c.utf8Size_pos
    cases n with
    | zero =>
      cases before with
      | nil => simp [cutAt?, byteLength, eq_comm]
      | cons d ds => have := d.utf8Size_pos; simp [cutAt?, byteLength]; omega
    | succ n =>
      unfold cutAt?
      cases before with
      | nil => split <;> simp [byteLength]
      | cons d ds =>
        split
        · simp only [Option.map_eq_some_iff, Prod.mk.injEq, List.cons.injEq, byteLength,
            List.cons_append, Prod.exists]
          constructor
          · rintro ⟨b, a, h, ⟨rfl, rfl⟩, rfl⟩
            obtain ⟨h₁, h₂⟩ := ih.1 h
            exact ⟨⟨rfl, h₁⟩, by omega⟩
          · rintro ⟨⟨rfl, h₁⟩, h₂⟩
            exact ⟨ds, after, ih.2 ⟨h₁, by omega⟩, ⟨rfl, rfl⟩, rfl⟩
        · simp only [byteLength, List.cons_append, List.cons.injEq, reduceCtorEq, false_iff]
          rintro ⟨⟨rfl, -⟩, h⟩
          omega

/-! ### Ends -/

/-- Text without the characters of class `p` at its end. -/
def trimEnd (p : Char → Bool) (cs : List Char) : List Char :=
  (cs.reverse.dropWhile p).reverse

/-- Text without the characters of class `p` at either end. -/
def trim (p : Char → Bool) (cs : List Char) : List Char := trimEnd p (cs.dropWhile p)

/-- A carriage return or a line feed. -/
def isLineEnd (c : Char) : Bool := c = '\r' || c = '\n'

/-! ### Words -/

/-- A word occurs somewhere in a text. -/
def occurs (word : List Char) : List Char → Bool
  | [] => word.isEmpty
  | c :: cs => word.isPrefixOf (c :: cs) || occurs word cs

/-- A word occurs in a text if the text is that word with something before and behind it. -/
theorem occurs_iff {word cs : List Char} : occurs word cs = true ↔ word <:+: cs := by
  induction cs with
  | nil => simp [occurs]
  | cons c cs ih => simp [occurs, ih, List.infix_cons_iff]

end SelfCheck.Text
