import SelfCheck.Proofs.Toml.Integers
import Mathlib.Data.List.Nodup
import Mathlib.Tactic.Common

/-!
# Written documents are read back

A document that is written has one table after the other, each with its name in brackets on a line
of its own and then one line for each entry. It is read line by line, and the lines of a table put
its entries into it as long as no two of its names are the same.

## Main definitions

* `Toml.Spells` — some characters at the end of a line are read as a value
* `Toml.Says` — some lines are read as statements, whatever follows them
* `Toml.tableStatements` — the statements that write a table

## Main results

* `Toml.spells_string`, `Toml.spells_toDigits` — written values are read back
* `Toml.Says.append` — lines are read one after the other
* `Toml.parse?_of_says` — a document of lines that introduce tables is read as these tables
-/

namespace SelfCheck.Toml

/-! ### Values -/

/-- Some characters at the end of a line are read as a value. -/
structure Spells (written : List Char) (value : Toml) : Prop where
  tight : ∀ more, skipSpace (written ++ more) = written ++ more
  read : ∀ more, value? maxDepth (written ++ '\n' :: more) = some (value, '\n' :: more)

theorem skipSpace_cons {c : Char} (h : isSpace c = false) (cs : List Char) :
    skipSpace (c :: cs) = c :: cs := by
  rw [skipSpace, List.dropWhile_cons_of_neg (by simp [h])]

/-- A value that opens no bracket and no brace holds no others. -/
theorem spells_of_scalar? {c : Char} {cs : List Char} {value : Toml} (space : isSpace c = false)
    (bracket : c ≠ '[') (brace : c ≠ '{')
    (read : ∀ more, scalar? (c :: cs ++ '\n' :: more) = some (value, '\n' :: more)) :
    Spells (c :: cs) value where
  tight more := skipSpace_cons space _
  read more := by
    have read := read more
    rw [List.cons_append] at read ⊢
    rw [maxDepth, value?]
    · exact read
    · exact fun _ _ h => bracket (List.cons.inj h).1
    · exact fun _ _ h => brace (List.cons.inj h).1
    · exact fun _ _ _ h => bracket (List.cons.inj h).1
    · exact fun _ _ _ h => brace (List.cons.inj h).1

/-- A written string is read as the text. -/
theorem spells_string (text : String) : Spells (Printer.string text) (.string text) := by
  have read (more : List Char) : string? (Printer.string text ++ '\n' :: more) =
      some (text.toList, '\n' :: more) := string?_string text (by simp [Avoids]) (by simp [Avoids])
  obtain ⟨quote, body, written, mark⟩ : ∃ quote body, Printer.string text = quote :: body ∧
      (quote = '"' ∨ quote = '\'') := by
    rw [Printer.string]
    split
    · exact ⟨_, _, rfl, .inl rfl⟩
    · exact ⟨_, _, rfl, .inr rfl⟩
    · exact ⟨_, _, rfl, .inl rfl⟩
    · exact ⟨_, _, rfl, .inr rfl⟩
  rw [written] at read ⊢
  have other {c : Char} (h : c ≠ '"' ∧ c ≠ '\'') : quote ≠ c := by
    rintro rfl
    exact mark.elim h.1 h.2
  refine spells_of_scalar? ?_ (other (by decide)) (other (by decide)) fun more => ?_
  · rcases mark with rfl | rfl <;> rfl
  · have read := read more
    rw [List.cons_append] at read ⊢
    rw [scalar?, read]
    · simp only [String.ofList_toList]
    all_goals exact fun _ h => other (by decide) (List.cons.inj h).1

/-- A written number is read as the number. -/
theorem spells_toDigits {n : Nat} (fits : n < Nat.pow 2 63) :
    Spells (Nat.toDigits 10 n) (.integer n) := by
  have read := @scalar?_toDigits n
  obtain ⟨d, ds, written, digits, -⟩ := exists_toDigits n
  rw [written] at read ⊢
  have other {c : Char} (h : c.isDigit = false) : d ≠ c :=
    ne_of_isDigit (digits d List.mem_cons_self) h
  refine spells_of_scalar? ?_ (other (by decide)) (other (by decide)) fun more => read more fits
  simp [isSpace, @other ' ' (by decide), @other '\t' (by decide)]

/-! ### Lines -/

/-- A name that stands in a document without quotes. -/
def IsName (name : String) : Prop := name.toList ≠ [] ∧ name.toList.all isKey = true

instance (name : String) : Decidable (IsName name) := inferInstanceAs (Decidable (_ ∧ _))

/-- Some lines are read as statements, whatever follows them. -/
def Says (written : List Char) (ss : List Statement) : Prop :=
  ∃ lines, lines ≤ written.length ∧ ∀ fuel rest,
    statements? (fuel + lines) (written ++ rest) = (statements? fuel rest).map (ss ++ ·)

theorem Says.append {written written' : List Char} {ss ss' : List Statement}
    (h : Says written ss) (h' : Says written' ss') : Says (written ++ written') (ss ++ ss') := by
  obtain ⟨lines, few, read⟩ := h
  obtain ⟨lines', few', read'⟩ := h'
  refine ⟨lines' + lines, by simp; omega, fun fuel rest => ?_⟩
  rw [← Nat.add_assoc, List.append_assoc, read, read', Option.map_map]
  simp [Function.comp_def]

theorem says_nil : Says [] [] :=
  ⟨0, Nat.le_refl 0, fun fuel rest => by simp⟩

/-- One after the other, lines say what each of them says. -/
theorem Says.flatMap {α : Type} {text : α → List Char} {statements : α → List Statement}
    {items : List α} (h : ∀ a ∈ items, Says (text a) (statements a)) :
    Says (items.flatMap text) (items.flatMap statements) := by
  induction items with
  | nil => exact says_nil
  | cons a items ih =>
    obtain ⟨first, others⟩ := List.forall_mem_cons.1 h
    exact first.append (ih others)

/-- An empty line says nothing. -/
theorem says_feed : Says ['\n'] [] := by
  refine ⟨1, by decide, fun fuel rest => ?_⟩
  have line : lineEnd? ('\n' :: rest) = some rest := rfl
  rw [List.singleton_append, statements?, skipSpace_cons rfl]
  dsimp only
  rw [if_pos (by decide), line, Option.bind_some]
  simp

/-- Empty lines between them do not change what lines say. -/
theorem Says.intersperse {α : Type} {text : α → List Char} {statements : α → List Statement}
    {items : List α} (h : ∀ a ∈ items, Says (text a) (statements a)) :
    Says ((items.map text).intersperse ['\n']).flatten (items.flatMap statements) := by
  induction items with
  | nil => exact says_nil
  | cons a items ih =>
    obtain ⟨first, others⟩ := List.forall_mem_cons.1 h
    cases items with
    | nil => simpa using first
    | cons b items => simpa using first.append (says_feed.append (ih others))

/-- A line that begins with something is read as a statement. -/
theorem says_of_statement? {c : Char} {cs : List Char} {s : Statement} (space : isSpace c = false)
    (blank : (c = '#' || c = '\r' || c = '\n') = false)
    (read : ∀ rest, statement? (c :: cs ++ rest) = some (s, rest)) : Says (c :: cs) [s] := by
  refine ⟨1, by simp, fun fuel rest => ?_⟩
  have read := read rest
  rw [List.cons_append] at read ⊢
  rw [statements?, skipSpace_cons space]
  dsimp only
  rw [blank, if_neg (by decide), read, Option.bind_eq_bind, Option.bind_some, Option.map_eq_bind]
  rfl

section

variable {name : String}

theorem skipSpace_append {blanks : List Char} (blank : ∀ b ∈ blanks, isSpace b = true) {c : Char}
    (space : isSpace c = false) (rest : List Char) :
    skipSpace (blanks ++ c :: rest) = c :: rest := by
  rw [skipSpace, List.dropWhile_append_of_pos blank]
  exact skipSpace_cons space rest

theorem exists_name (h : IsName name) : ∃ c cs, name.toList = c :: cs ∧ isKey c = true := by
  obtain ⟨some_, key⟩ := h
  cases written : name.toList with
  | nil => exact absurd written some_
  | cons c cs =>
    exact ⟨c, cs, rfl, List.all_eq_true.1 key c (written ▸ List.mem_cons_self)⟩

theorem ne_of_isKey {c d : Char} (h : isKey c = true) (other : isKey d = false) : c ≠ d := by
  rintro rfl
  cases h.symm.trans other

theorem ne_of_isSpace {c d : Char} (h : isSpace c = true) (key : isKey d = true) : c ≠ d := by
  rintro rfl
  simp only [isSpace, Bool.or_eq_true, decide_eq_true_eq] at h
  rcases h with rfl | rfl <;> cases key

theorem isSpace_of_isKey {c : Char} (h : isKey c = true) : isSpace c = false :=
  Bool.eq_false_iff.2 fun space => ne_of_isSpace space h rfl

/-- A name is read as a key of one part, and the blanks behind it are passed over. -/
theorem path?_name (h : IsName name) {blanks : List Char} (blank : ∀ b ∈ blanks, isSpace b = true)
    {c : Char} (ends : isKey c = false ∧ isSpace c = false ∧ c ≠ '.') (rest : List Char) :
    path? maxDepth (name.toList ++ (blanks ++ c :: rest)) = some ([name], c :: rest) := by
  obtain ⟨d, ds, written, key⟩ := exists_name h
  obtain ⟨ends, space, point⟩ := ends
  have others := List.all_eq_true.1 h.2
  rw [written] at others
  -- The first blank ends the name, or what comes next if there is none.
  have stops : (blanks ++ c :: rest).takeWhile isKey = [] ∧
      (blanks ++ c :: rest).dropWhile isKey = blanks ++ c :: rest := by
    cases blanks with
    | nil => simp [ends]
    | cons b blanks =>
      have noKey : isKey b = false :=
        Bool.eq_false_iff.2 fun key => ne_of_isSpace (blank b List.mem_cons_self) key rfl
      simp [noKey]
  have read : key? (d :: ds ++ (blanks ++ c :: rest)) = some (d :: ds, blanks ++ c :: rest) := by
    rw [List.cons_append, key?]
    · rw [← List.cons_append, List.takeWhile_append_of_pos others,
        List.dropWhile_append_of_pos others, stops.1, stops.2, List.append_nil]
      rfl
    · exact fun _ h => ne_of_isKey key (by decide) (List.cons.inj h).1
    · exact fun _ h => ne_of_isKey key (by decide) (List.cons.inj h).1
  rw [written, maxDepth, path?, List.cons_append, skipSpace_cons (isSpace_of_isKey key),
    ← List.cons_append, read, Option.bind_eq_bind, Option.bind_some]
  dsimp only
  rw [skipSpace_append blank space]
  split
  · next h => exact absurd (List.cons.inj h).1 point
  · rw [← written, String.ofList_toList]

/-- The line that introduces a table. -/
theorem says_header (h : IsName name) :
    Says ('[' :: (name.toList ++ [']', '\n'])) [.header [name]] := by
  refine says_of_statement? rfl rfl fun rest => ?_
  obtain ⟨c, cs, written, key⟩ := exists_name h
  have path := @path?_name name h [] (List.forall_mem_nil _) ']' ⟨rfl, rfl, by decide⟩
    ('\n' :: rest)
  have line : lineEnd? ('\n' :: rest) = some rest := rfl
  rw [written] at path ⊢
  simp only [List.cons_append, List.append_assoc, List.nil_append] at path ⊢
  rw [statement?, path]
  · simp [after?, line]
  · exact fun _ h => ne_of_isKey key (by decide) (List.cons.inj h).1

/-- The line of an entry. -/
theorem says_entry (h : IsName name) {written : List Char} {value : Toml}
    (spells : Spells written value) :
    Says (name.toList ++ ' ' :: '=' :: ' ' :: written ++ ['\n']) [.entry ⟨[name], value⟩] := by
  have line (rest : List Char) : lineEnd? ('\n' :: rest) = some rest := rfl
  have entry (rest : List Char) : keyValue? (value? maxDepth)
      (name.toList ++ ([' '] ++ '=' :: (' ' :: written ++ '\n' :: rest))) =
        some (⟨[name], value⟩, '\n' :: rest) := by
    have tight : skipSpace (' ' :: (written ++ '\n' :: rest)) = written ++ '\n' :: rest :=
      spells.tight _
    have path := @path?_name name h [' '] (List.forall_mem_singleton.2 rfl) '=' ⟨rfl, rfl, by decide⟩
      (' ' :: written ++ '\n' :: rest)
    rw [keyValue?, path]
    simp [after?, tight, spells.read]
  obtain ⟨c, cs, shown, key⟩ := exists_name h
  have other {d : Char} (h : isKey d = false) : c ≠ d := ne_of_isKey key h
  rw [shown] at entry ⊢
  rw [List.cons_append, List.cons_append]
  refine says_of_statement? (isSpace_of_isKey key) ?_ fun rest => ?_
  · simp [@other '#' (by decide), @other '\r' (by decide), @other '\n' (by decide)]
  · have entry := entry rest
    simp only [List.cons_append, List.append_assoc, List.nil_append] at entry ⊢
    rw [statement?, entry]
    · simp [line]
    · exact fun _ h => other (by decide) (List.cons.inj h).1
    · exact fun _ h => other (by decide) (List.cons.inj h).1

end

/-! ### Tables -/

section

variable {name : String} {t t' : Toml} {es : Entries}

theorem valueOf?_eq_none (h : name ∉ es.map Prod.fst) : valueOf? name es = none := by
  rw [valueOf?, Option.map_eq_none_iff, List.find?_eq_none]
  intro e mem same
  exact h (List.mem_map.2 ⟨e, mem, by simpa using same⟩)

theorem valueOf?_concat (h : name ∉ es.map Prod.fst) :
    valueOf? name (es ++ [(name, t)]) = some t := by
  have before : es.find? (fun e => decide (e.1 = name)) = none :=
    Option.map_eq_none_iff.1 (valueOf?_eq_none h)
  rw [valueOf?, List.find?_append, before]
  simp

theorem replace_concat (h : name ∉ es.map Prod.fst) :
    replace name t' (es ++ [(name, t)]) = es ++ [(name, t')] := by
  have before : es.map (fun e => if e.1 = name then (name, t') else e) = es := by
    refine (List.map_congr_left fun e mem => if_neg ?_).trans (List.map_id es)
    rintro rfl
    exact h (List.mem_map_of_mem mem)
  rw [replace, List.map_append, before]
  simp

/-- The statements that write a table with its name. -/
def tableStatements (group : String × Entries) : List Statement :=
  .header [group.1] :: group.2.map fun e => .entry ⟨[e.1], e.2⟩

/-- A header with a new name opens a table. -/
theorem add?_header {place : List String} (new : name ∉ es.map Prod.fst) :
    Draft.add? ⟨place, es⟩ (.header [name]) =
      some ⟨[name], es ++ [(name, .table .header [])]⟩ := by
  rw [Draft.add?, open?]
  simp [within?, valueOf?_eq_none new]

/-- An entry with a new name goes into the table that was opened last. -/
theorem add?_entry {inner : Entries} {key : String} (new : name ∉ es.map Prod.fst)
    (fresh : key ∉ inner.map Prod.fst) :
    Draft.add? ⟨[name], es ++ [(name, .table .header inner)]⟩ (.entry ⟨[key], t⟩) =
      some ⟨[name], es ++ [(name, .table .header (inner ++ [(key, t)]))]⟩ := by
  have place : insert? ⟨[key], t⟩ inner = some (inner ++ [(key, t)]) := by
    rw [insert?]
    simp [put?, valueOf?_eq_none fresh]
  rw [Draft.add?, within?, valueOf?_concat new]
  simp [enterable, within?, place, replace_concat new]

/-- The statements that write a table make it. -/
theorem foldlM_entries {inner : Entries} (more : Entries) (new : name ∉ es.map Prod.fst)
    (nodup : ((inner ++ more).map Prod.fst).Nodup) :
    (more.map fun e => Statement.entry ⟨[e.1], e.2⟩).foldlM Draft.add?
        ⟨[name], es ++ [(name, .table .header inner)]⟩ =
      some ⟨[name], es ++ [(name, .table .header (inner ++ more))]⟩ := by
  induction more generalizing inner with
  | nil => rw [List.append_nil]; rfl
  | cons e more ih =>
    have fresh : e.1 ∉ inner.map Prod.fst := by
      rw [List.map_append, List.map_cons, List.nodup_middle, List.nodup_cons] at nodup
      exact fun mem => nodup.1 (List.mem_append_left _ mem)
    rw [List.map_cons, List.foldlM_cons, add?_entry new fresh]
    have rest := @ih (inner ++ [e]) (by simpa using nodup)
    simpa using rest

/-- Several tables with different names, each without a name given twice, are made by the statements
that write them. -/
theorem foldlM_tables (groups : List (String × Entries)) {place : List String}
    (nodup : (es.map Prod.fst ++ groups.map Prod.fst).Nodup)
    (inside : ∀ g ∈ groups, (g.2.map Prod.fst).Nodup) :
    ∃ place', (groups.flatMap tableStatements).foldlM Draft.add? ⟨place, es⟩ =
      some ⟨place', es ++ groups.map fun g => (g.1, .table .header g.2)⟩ := by
  induction groups generalizing es place with
  | nil => exact ⟨place, by rw [List.map_nil, List.append_nil]; rfl⟩
  | cons g groups ih =>
    obtain ⟨first, inside⟩ := List.forall_mem_cons.1 inside
    have new : g.1 ∉ es.map Prod.fst := by
      rw [List.map_cons, List.nodup_middle, List.nodup_cons] at nodup
      exact fun mem => nodup.1 (List.mem_append_left _ mem)
    obtain ⟨place', rest⟩ :=
      @ih (es ++ [(g.1, .table .header g.2)]) [g.1] (by simpa using nodup) inside
    have table := @foldlM_entries g.1 es [] g.2 new first
    refine ⟨place', ?_⟩
    rw [List.flatMap_cons, tableStatements, List.cons_append, List.foldlM_cons, add?_header new,
      Option.bind_eq_bind, Option.bind_some, List.foldlM_append, table, List.nil_append,
      Option.bind_eq_bind, Option.bind_some, rest]
    simp

/-- A document whose lines say some tables is read as these tables. -/
theorem parse?_of_says {text : String} {groups : List (String × Entries)}
    (lines : Says text.toList (groups.flatMap tableStatements))
    (plain : text.toList.head? ≠ some '\uFEFF') (nodup : (groups.map Prod.fst).Nodup)
    (inside : ∀ g ∈ groups, (g.2.map Prod.fst).Nodup) :
    parse? text = some (groups.map fun g => (g.1, .table .header g.2)) := by
  obtain ⟨count, few, read⟩ := lines
  obtain ⟨place, made⟩ := @foldlM_tables [] groups [] nodup inside
  -- No line is empty, so the length of the text is fuel enough for its lines.
  have statements : statements? (text.toList.length + 1) text.toList =
      some (groups.flatMap tableStatements) := by
    have read := read (text.toList.length - count + 1) []
    rw [List.append_nil, show text.toList.length - count + 1 + count = text.toList.length + 1 by
      omega] at read
    rw [read]
    simp [statements?, skipSpace]
  rw [parse?]
  split
  · next marked => exact absurd (congrArg List.head? marked) plain
  · rw [statements, Option.bind_eq_bind, Option.bind_some, made]
    rfl

end

end SelfCheck.Toml
