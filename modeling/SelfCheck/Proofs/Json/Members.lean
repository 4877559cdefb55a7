import SelfCheck.Json.Basic
import Mathlib.Data.List.Forall2
import Mathlib.Data.List.Basic

/-!
# Members of an object

A reader of a record looks for a few members by name. It does not see where they stand, nor any
member of another name; a member that is there twice it reads no better than one whose value it
cannot read.

## Main definitions

* `Json.reading` — what a reader makes of the member of a name
* `Json.Corresponds` — the same members under some names, up to their order
* `Json.Schema`, `Json.Flawed` — the kinds of values that are read, and members that are not

## Main results

* `Json.reading_eq_of_corresponds` — corresponding members are read alike
* `Json.not_flawed_of_reads` — members that are read are as they should be
-/

namespace SelfCheck.Json

variable {α : Type} {name : String} {names : List String} {read : Json → Option α}
  {absent : Option α} {ms ns ls : List (Option String × Json)} {j : Json} {a : α}

/-! ### Reading by name -/

/-- What a reader makes of the member of a name: nothing if it is repeated, and a given value if
there is none. -/
def reading (name : String) (read : Json → Option α) (absent : Option α)
    (ms : List (Option String × Json)) : Option α :=
  (member? name ms).bind fun value => (value.map read).getD absent

/-- The members of a name. -/
def named (name : String) (ms : List (Option String × Json)) : List (Option String × Json) :=
  ms.filter fun m => m.1 = some name

theorem reading_of_named_nil (h : named name ms = []) : reading name read absent ms = absent := by
  have found : member? name ms = some none := by
    unfold member?
    rw [show ms.filter _ = [] from h]
  rw [reading, found]
  rfl

theorem reading_of_named_singleton {m : Option String × Json} (h : named name ms = [m]) :
    reading name read absent ms = read m.2 := by
  have found : member? name ms = some (some m.2) := by
    unfold member?
    rw [show ms.filter _ = [m] from h]
  rw [reading, found]
  rfl

theorem reading_of_named_cons_cons {m n : Option String × Json}
    {more : List (Option String × Json)} (h : named name ms = m :: n :: more) :
    reading name read absent ms = none := by
  have found : member? name ms = none := by
    unfold member?
    rw [show ms.filter _ = m :: n :: more from h]
  rw [reading, found]
  rfl

/-- A member that is not there is read as absent. -/
theorem reading_of_absent (h : ∀ m ∈ ms, m.1 ≠ some name) :
    reading name read absent ms = absent :=
  reading_of_named_nil (List.filter_eq_nil_iff.mpr fun m hm => by simpa using h m hm)

/-- A member that is read is the only one of its name. -/
theorem named_eq_of_reading (h : reading name read absent ms = some a)
    (mem : (some name, j) ∈ ms) : named name ms = [(some name, j)] := by
  have here : (some name, j) ∈ named name ms := List.mem_filter.mpr ⟨mem, by simp⟩
  rcases all : named name ms with _ | ⟨m, _ | ⟨n, more⟩⟩
  · rw [all] at here
    cases here
  · rw [all, List.mem_singleton] at here
    rw [here]
  · rw [reading_of_named_cons_cons all] at h
    cases h

theorem read_of_reading (h : reading name read absent ms = some a) (mem : (some name, j) ∈ ms) :
    read j = some a := by
  rw [reading_of_named_singleton (named_eq_of_reading h mem)] at h
  exact h

theorem length_named_le_of_reading (h : reading name read absent ms = some a) :
    (named name ms).length ≤ 1 := by
  rcases all : named name ms with _ | ⟨m, _ | ⟨n, more⟩⟩
  · exact Nat.zero_le 1
  · exact Nat.le_refl 1
  · rw [reading_of_named_cons_cons all] at h
    cases h

/-- Every name is a Unicode text. -/
def Named (ms : List (Option String × Json)) : Prop := ∀ m ∈ ms, m.1.isSome = true

theorem fields?_of_named (h : Named ms) (names : List String) :
    (object ms).fields? names = names.mapM fun name => member? name ms :=
  if_pos (List.all_eq_true.mpr h)

theorem named_of_fields? {values : List (Option Json)}
    (h : (object ms).fields? names = some values) : Named ms := by
  rw [fields?] at h
  split_ifs at h with all
  exact List.all_eq_true.mp all

/-! ### The same members -/

/-- The members of some names. -/
def known (names : List String) (ms : List (Option String × Json)) : List (Option String × Json) :=
  ms.filter fun m => m.1.any (· ∈ names)

/-- Two objects have the same members of some names, up to their order. What it is for two values to
be the same depends on the name. -/
def Corresponds (alike : String → Json → Json → Prop) (names : List String)
    (ms ns : List (Option String × Json)) : Prop :=
  ∃ ls, (known names ms).Perm ls ∧
    List.Forall₂ (fun m n => m.1 = n.1 ∧ ∀ name, m.1 = some name → alike name m.2 n.2) ls
      (known names ns)

/-- The members of a known name are among those of known names. -/
theorem named_known (h : name ∈ names) (ms : List (Option String × Json)) :
    named name (known names ms) = named name ms := by
  rw [named, known, List.filter_filter]
  refine List.filter_congr fun m _ => ?_
  by_cases same : m.1 = some name
  · simp [same, h]
  · simp [same]

/-- Neither the order of the members of a name nor anything that the reader does not see of their
values makes a difference. -/
theorem reading_eq_of_named (perm : (named name ms).Perm ls)
    (same : List.Forall₂ (fun m n => read m.2 = read n.2) ls (named name ns)) :
    reading name read absent ms = reading name read absent ns := by
  -- By the number of the members: none, one, or more.
  rcases there : named name ns with _ | ⟨n, _ | ⟨n', more⟩⟩ <;> rw [there] at same
  · obtain rfl := List.forall₂_nil_right_iff.mp same
    rw [reading_of_named_nil (List.perm_nil.mp perm), reading_of_named_nil there]
  · obtain ⟨m, ms', like, rest, rfl⟩ := List.forall₂_cons_right_iff.mp same
    obtain rfl := List.forall₂_nil_right_iff.mp rest
    rw [reading_of_named_singleton (List.perm_singleton.mp perm),
      reading_of_named_singleton there, like]
  · have size : 2 ≤ (named name ms).length := by
      rw [perm.length_eq, same.length_eq]
      simp
    rcases here : named name ms with _ | ⟨m, _ | ⟨m', more'⟩⟩
    · simp [here] at size
    · simp [here] at size
    · rw [reading_of_named_cons_cons here, reading_of_named_cons_cons there]

/-- Members that correspond are read alike, if values that are alike are. -/
theorem reading_eq_of_corresponds {alike : String → Json → Json → Prop}
    (h : Corresponds alike names ms ns) (mem : name ∈ names)
    (respects : ∀ {j k}, alike name j k → read j = read k) :
    reading name read absent ms = reading name read absent ns := by
  obtain ⟨ls, perm, same⟩ := h
  have perm' : (named name ms).Perm (named name ls) := by
    rw [← named_known mem]
    exact perm.filter _
  have same' : List.Forall₂
      (fun m n => m.1 = n.1 ∧ ∀ name, m.1 = some name → alike name m.2 n.2)
      (named name ls) (named name ns) := by
    rw [← named_known mem ns]
    exact List.rel_filter (fun {m n} like => by simp [like.1]) same
  have isNamed : ∀ m ∈ named name ls, m.1 = some name :=
    fun m hm => of_decide_eq_true (List.mem_filter.mp hm).2
  exact reading_eq_of_named perm' <| ((List.forall₂_and_left _ _).mpr ⟨isNamed, same'⟩).imp
    fun m n like => respects (like.2.2 name like.1)

/-! ### What is not read -/

/-- The kinds of values that message fields hold. -/
inductive Kind where
  | null
  | bool
  | number
  | string
  | array
  | object
deriving DecidableEq, Repr

/-- The kind of a value. -/
def kind : Json → Kind
  | null => .null
  | bool _ => .bool
  | number => .number
  | string _ => .string
  | array _ => .array
  | object _ => .object

/-- The names that a reader looks for, each with the kinds of values that it reads there. -/
abbrev Schema := List (String × List Kind)

/-- A member that a reader looks for is repeated, or has a value of another kind. -/
def Flawed (schema : Schema) (ms : List (Option String × Json)) : Prop :=
  ∃ field ∈ schema, 1 < (named field.1 ms).length ∨
    ∃ j, (some field.1, j) ∈ ms ∧ j.kind ∉ field.2

/-- Members that are read, and only where their values are of the right kinds, have no flaw. -/
theorem not_flawed_of_reads {schema : Schema}
    (reads : ∀ field ∈ schema, ∃ (α : Type) (read : Json → Option α) (absent : Option α) (a : α),
      reading field.1 read absent ms = some a ∧ ∀ j a, read j = some a → j.kind ∈ field.2) :
    ¬ Flawed schema ms := by
  rintro ⟨field, mem, repeated | ⟨j, here, other⟩⟩
  · obtain ⟨α, read, absent, a, h, -⟩ := reads field mem
    exact absurd (length_named_le_of_reading h) (Nat.not_le.mpr repeated)
  · obtain ⟨α, read, absent, a, h, kinds⟩ := reads field mem
    exact other (kinds j a (read_of_reading h here))

theorem kind_of_text? {text : String} (h : j.text? = some text) : j.kind = .string := by
  cases j with
  | string => rfl
  | null | bool | number | array | object => cases h

theorem kind_of_bool? {b : Bool} (h : j.bool? = some b) : j.kind = .bool := by
  cases j with
  | bool => rfl
  | null | string | number | array | object => cases h

theorem kind_of_choice? {text : String} (h : j.choice? = some text) :
    j.kind = .string ∨ j.kind = .object := by
  cases j with
  | string => exact .inl rfl
  | object => exact .inr rfl
  | null | bool | number | array => cases h

theorem kind_of_fields? {values : List (Option Json)} (h : j.fields? names = some values) :
    j.kind = .array ∨ j.kind = .object := by
  cases j with
  | array => exact .inl rfl
  | object => exact .inr rfl
  | null | bool | number | string => cases h

theorem kind_of_optional? {o : Option α} (h : optional? read j = some o) :
    j.kind = .null ∨ ∃ a, read j = some a := by
  cases j with
  | null => exact .inl rfl
  | bool | string | number | array | object =>
    obtain ⟨a, here, -⟩ := Option.map_eq_some_iff.mp h
    exact .inr ⟨a, here⟩

end SelfCheck.Json
