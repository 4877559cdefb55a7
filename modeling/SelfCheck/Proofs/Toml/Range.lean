import SelfCheck.Toml.Parser
import Mathlib.Data.List.Basic
import Mathlib.Tactic.Common

/-!
# The range of the numbers in a document

No reader of a number yields one that has more than 64 bits with its sign, and nothing that is done
to the tables of a document makes other numbers. So whatever a document says, the numbers in it can
be written again.

## Main definitions

* `Toml.Fits` — all numbers in a value have at most 64 bits

## Main results

* `Toml.fits_value?` — a value that has been read fits
* `Toml.fits_parse?` — so do all values of a document
-/

namespace SelfCheck.Toml

/-- All whole numbers in a value have at most 64 bits with their sign. -/
inductive Fits : Toml → Prop where
  | string (text : String) : Fits (.string text)
  | integer (n : Int) (least : -(Nat.pow 2 63 : Int) ≤ n) (most : n < (Nat.pow 2 63 : Int)) :
    Fits (.integer n)
  | float : Fits .float
  | bool (b : Bool) : Fits (.bool b)
  | moment : Fits .moment
  | array (elements : List Toml) (fit : ∀ t ∈ elements, Fits t) : Fits (.array elements)
  | table (origin : Origin) (entries : Entries) (fit : ∀ e ∈ entries, Fits e.2) :
    Fits (.table origin entries)
  | tables (elements : List Entries) (fit : ∀ entries ∈ elements, ∀ e ∈ entries, Fits e.2) :
    Fits (.tables elements)

/-- All values of a table fit. -/
def AllFit (entries : Entries) : Prop := ∀ e ∈ entries, Fits e.2

/-! ### Numbers -/

section

variable {cs rest : List Char} {t : Toml}

theorem fits_integer? {negative : Bool} {size : Nat} (h : integer? negative size = some t) :
    Fits t := by
  have power : Nat.pow 2 63 = 9223372036854775808 := rfl
  rw [integer?] at h
  split_ifs at h with _ small small
  all_goals
    cases h
    rw [power] at small
    refine .integer _ ?_ ?_
    all_goals
      rw [power]
      omega

theorem fits_scaled? {negative : Bool} {digits : List Char} {exponent : Int}
    (h : scaled? negative digits exponent = some t) : Fits t := by
  obtain ⟨size, -, h⟩ := Option.bind_eq_some_iff.1 h
  split_ifs at h
  cases h
  exact .float

theorem fits_based? {base : Nat} (h : based? base cs = some (t, rest)) : Fits t := by
  obtain ⟨_, -, h⟩ := Option.bind_eq_some_iff.1 h
  obtain ⟨_, -, h⟩ := Option.bind_eq_some_iff.1 h
  obtain ⟨_, whole, h⟩ := Option.bind_eq_some_iff.1 h
  cases h
  exact fits_integer? whole

theorem fits_decimal? {negative : Bool} (h : decimal? negative cs = some (t, rest)) : Fits t := by
  obtain ⟨⟨whole, more⟩, -, h⟩ := Option.bind_eq_some_iff.1 h
  dsimp only at h
  split at h
  · obtain ⟨_, scaled, h⟩ := Option.bind_eq_some_iff.1 h
    cases h
    exact fits_scaled? scaled
  · split at h
    · obtain ⟨_, scaled, h⟩ := Option.bind_eq_some_iff.1 h
      cases h
      exact fits_scaled? scaled
    · obtain ⟨_, -, h⟩ := Option.bind_eq_some_iff.1 h
      obtain ⟨_, whole, h⟩ := Option.bind_eq_some_iff.1 h
      cases h
      exact fits_integer? whole

theorem fits_number? (h : number? cs = some (t, rest)) : Fits t := by
  unfold number? at h
  split at h
  · exact fits_based? h
  · exact fits_based? h
  · exact fits_based? h
  · dsimp only at h
    split at h
    · cases h
      exact .float
    · cases h
      exact .float
    · exact fits_decimal? h

theorem fits_scalar? (h : scalar? cs = some (t, rest)) : Fits t := by
  unfold scalar? at h
  split at h
  · cases h
    exact .bool true
  · cases h
    exact .bool false
  · split at h
    · cases h
      exact .string _
    · split at h
      · cases h
        exact .moment
      · exact fits_number? h

end

/-! ### Tables -/

section

variable {key : String} {value : Toml} {es es' : Entries}

theorem AllFit.append (fit : AllFit es) (new : Fits value) :
    AllFit (es ++ [(key, value)]) := by
  intro e h
  rcases List.mem_append.1 h with h | h
  · exact fit e h
  · rw [List.mem_singleton.1 h]
    exact new

theorem AllFit.replace (fit : AllFit es) (new : Fits value) :
    AllFit (Toml.replace key value es) := by
  intro e h
  obtain ⟨old, mem, rfl⟩ := List.mem_map.1 h
  split_ifs
  · exact new
  · exact fit old mem

theorem AllFit.valueOf? (fit : AllFit es) (h : Toml.valueOf? key es = some value) :
    Fits value := by
  obtain ⟨e, found, rfl⟩ := Option.map_eq_some_iff.1 h
  exact fit e (List.mem_of_find?_eq_some found)

theorem Fits.entries {origin : Origin} (h : Fits (.table origin es)) : AllFit es := by
  cases h with
  | table _ _ fit => exact fit

theorem Fits.elements {elements : List Entries} (h : Fits (.tables elements)) :
    ∀ inner ∈ elements, AllFit inner := by
  cases h with
  | tables _ fit => exact fit

/-- A change at the end of a path keeps what it keeps there. -/
theorem AllFit.within? {dotted : Bool} {f : Origin → Entries → Option Entries}
    (keeps : ∀ origin inner inner', AllFit inner → f origin inner = some inner' → AllFit inner')
    {path : List String} {origin : Origin} (fit : AllFit es)
    (h : within? dotted f path origin es = some es') : AllFit es' := by
  induction path generalizing origin es es' with
  | nil => exact keeps origin es es' fit h
  | cons key path ih =>
    rw [Toml.within?] at h
    split at h
    · -- The key is new, and everything below it.
      obtain ⟨inner, changed, rfl⟩ := Option.map_eq_some_iff.1 h
      exact fit.append (.table _ _ (ih (List.forall_mem_nil _) changed))
    · next origin' inner found =>
      split_ifs at h
      obtain ⟨inner', changed, rfl⟩ := Option.map_eq_some_iff.1 h
      exact fit.replace (.table _ _ (ih (fit.valueOf? found).entries changed))
    · next elements found =>
      split at h
      · cases h
      · next last final =>
        -- Of several tables, the path goes through the last.
        obtain ⟨inner', changed, rfl⟩ := Option.map_eq_some_iff.1 h
        have inside := (fit.valueOf? found).elements
        refine fit.replace (.tables _ fun inner mem => ?_)
        rcases List.mem_append.1 mem with mem | mem
        · exact inside inner ((List.dropLast_sublist elements).mem mem)
        · rw [List.mem_singleton.1 mem]
          exact ih (inside last (List.mem_of_getLast? final)) changed
    · cases h

theorem AllFit.put? (fit : AllFit es) (new : Fits value)
    (h : put? key value es = some es') : AllFit es' := by
  rw [Toml.put?] at h
  split_ifs at h
  cases h
  exact fit.append new

theorem AllFit.insert? {e : Entry} (fit : AllFit es) (new : Fits e.value)
    (h : insert? e es = some es') : AllFit es' := by
  unfold Toml.insert? at h
  split at h
  · cases h
  · exact fit.put? new h
  · refine fit.within? (fun origin inner inner' fit h => ?_) h
    split_ifs at h
    exact fit.put? new h

theorem AllFit.open? {path : List String} (fit : AllFit es)
    (h : open? path es = some es') : AllFit es' := by
  unfold Toml.open? at h
  split at h
  · cases h
  · refine fit.within? (fun origin inner inner' fit h => ?_) h
    split at h
    · cases h
      exact fit.append (.table _ _ (List.forall_mem_nil _))
    · next found =>
      cases h
      exact fit.replace (.table _ _ (fit.valueOf? found).entries)
    · cases h

theorem AllFit.append? {path : List String} (fit : AllFit es)
    (h : append? path es = some es') : AllFit es' := by
  unfold Toml.append? at h
  split at h
  · cases h
  · refine fit.within? (fun origin inner inner' fit h => ?_) h
    split at h
    · cases h
      exact fit.append (.tables _ (by simp))
    · next found =>
      cases h
      refine fit.replace (.tables _ fun inner mem => ?_)
      rcases List.mem_append.1 mem with mem | mem
      · exact (fit.valueOf? found).elements inner mem
      · rw [List.mem_singleton.1 mem]
        exact List.forall_mem_nil _
    · cases h

end

/-! ### Values -/

/-- What every step keeps, a fold keeps. -/
theorem foldlM_invariant {α β : Type} {P : β → Prop} {f : β → α → Option β} {as : List α}
    (keeps : ∀ b a b', a ∈ as → P b → f b a = some b' → P b') {b b' : β} (before : P b)
    (h : as.foldlM f b = some b') : P b' := by
  induction as generalizing b with
  | nil =>
    cases h
    exact before
  | cons a as ih =>
    obtain ⟨next, step, h⟩ := Option.bind_eq_some_iff.1 h
    exact ih (fun b a b' mem => keeps b a b' (List.mem_cons_of_mem _ mem))
      (keeps b a next List.mem_cons_self before step) h

section

variable {value : List Char → Option (Toml × List Char)}
  (fits : ∀ cs t rest, value cs = some (t, rest) → Fits t)

include fits

theorem fits_elements? {fuel : Nat} {cs rest : List Char} {ts : List Toml}
    (h : elements? value fuel cs = some (ts, rest)) : ∀ t ∈ ts, Fits t := by
  induction fuel generalizing cs ts rest with
  | zero => cases h
  | succ fuel ih =>
    rw [elements?] at h
    split at h
    · cases h
      exact List.forall_mem_nil _
    · obtain ⟨⟨element, more⟩, read, h⟩ := Option.bind_eq_some_iff.1 h
      have first := fits _ _ _ read
      dsimp only at h
      split at h
      · cases h
        exact List.forall_mem_singleton.2 first
      · obtain ⟨⟨elements, more⟩, others, h⟩ := Option.bind_eq_some_iff.1 h
        cases h
        exact List.forall_mem_cons.2 ⟨first, ih others⟩
      · cases h

theorem fits_keyValue? {cs rest : List Char} {e : Entry}
    (h : keyValue? value cs = some (e, rest)) : Fits e.value := by
  obtain ⟨_, -, h⟩ := Option.bind_eq_some_iff.1 h
  obtain ⟨_, -, h⟩ := Option.bind_eq_some_iff.1 h
  obtain ⟨_, read, h⟩ := Option.bind_eq_some_iff.1 h
  cases h
  exact fits _ _ _ read

theorem fits_entries? {fuel : Nat} {cs rest : List Char} {es : List Entry}
    (h : entries? value fuel cs = some (es, rest)) : ∀ e ∈ es, Fits e.value := by
  induction fuel generalizing cs es rest with
  | zero => cases h
  | succ fuel ih =>
    obtain ⟨⟨e, more⟩, read, h⟩ := Option.bind_eq_some_iff.1 h
    have first := fits_keyValue? fits read
    dsimp only at h
    split at h
    · cases h
      exact List.forall_mem_singleton.2 first
    · obtain ⟨⟨others, more⟩, read, h⟩ := Option.bind_eq_some_iff.1 h
      cases h
      exact List.forall_mem_cons.2 ⟨first, ih read⟩
    · cases h

theorem fits_braces? {cs rest : List Char} {t : Toml} (h : braces? value cs = some (t, rest)) :
    Fits t := by
  unfold braces? at h
  split at h
  · cases h
    exact .table _ _ (List.forall_mem_nil _)
  · obtain ⟨⟨es, more⟩, read, h⟩ := Option.bind_eq_some_iff.1 h
    obtain ⟨entries, inserted, h⟩ := Option.bind_eq_some_iff.1 h
    cases h
    have fit := fits_entries? fits read
    exact .table _ _ (foldlM_invariant (P := AllFit)
      (fun _ e _ mem before => before.insert? (fit e mem)) (List.forall_mem_nil _) inserted)

end

/-- A value that has been read fits. -/
theorem fits_value? {depth : Nat} {cs rest : List Char} {t : Toml}
    (h : value? depth cs = some (t, rest)) : Fits t := by
  induction depth generalizing cs t rest with
  | zero =>
    -- So deep inside no bracket is opened, and what is read is a scalar.
    unfold value? at h
    split at h
    · cases h
    · cases h
    · next scalar => cases scalar
    · next scalar => cases scalar
    · exact fits_scalar? h
  | succ depth ih =>
    unfold value? at h
    split at h
    · next closed => cases closed
    · next closed => cases closed
    · next nested =>
      cases nested
      obtain ⟨⟨elements, more⟩, read, h⟩ := Option.map_eq_some_iff.1 h
      cases h
      exact .array _ (fits_elements? (fun _ _ _ => ih) read)
    · next nested =>
      cases nested
      exact fits_braces? (fun _ _ _ => ih) h
    · exact fits_scalar? h

/-! ### Documents -/

/-- The value of an entry fits. -/
def Statement.Fits : Statement → Prop
  | .entry e => Toml.Fits e.value
  | _ => True

theorem fits_statement? {cs rest : List Char} {s : Statement}
    (h : statement? cs = some (s, rest)) : s.Fits := by
  unfold statement? at h
  split at h
  · obtain ⟨_, -, h⟩ := Option.bind_eq_some_iff.1 h
    obtain ⟨_, -, h⟩ := Option.bind_eq_some_iff.1 h
    obtain ⟨_, -, h⟩ := Option.bind_eq_some_iff.1 h
    obtain ⟨_, -, h⟩ := Option.bind_eq_some_iff.1 h
    cases h
    exact trivial
  · obtain ⟨_, -, h⟩ := Option.bind_eq_some_iff.1 h
    obtain ⟨_, -, h⟩ := Option.bind_eq_some_iff.1 h
    obtain ⟨_, -, h⟩ := Option.bind_eq_some_iff.1 h
    cases h
    exact trivial
  · obtain ⟨⟨e, more⟩, read, h⟩ := Option.bind_eq_some_iff.1 h
    obtain ⟨_, -, h⟩ := Option.bind_eq_some_iff.1 h
    cases h
    exact fits_keyValue? (fun _ _ _ => fits_value?) read

theorem fits_statements? {fuel : Nat} {cs : List Char} {ss : List Statement}
    (h : statements? fuel cs = some ss) : ∀ s ∈ ss, s.Fits := by
  induction fuel generalizing cs ss with
  | zero => cases h
  | succ fuel ih =>
    rw [statements?] at h
    split at h
    · cases h
      exact List.forall_mem_nil _
    · split_ifs at h
      · obtain ⟨_, -, h⟩ := Option.bind_eq_some_iff.1 h
        exact ih h
      · obtain ⟨⟨s, more⟩, read, h⟩ := Option.bind_eq_some_iff.1 h
        obtain ⟨others, rest, h⟩ := Option.bind_eq_some_iff.1 h
        cases h
        exact List.forall_mem_cons.2 ⟨fits_statement? read, ih rest⟩

theorem allFit_add? {d d' : Draft} {s : Statement} (new : s.Fits) (fit : AllFit d.root)
    (h : d.add? s = some d') : AllFit d'.root := by
  cases s with
  | header path =>
    obtain ⟨root, opened, rfl⟩ := Option.map_eq_some_iff.1 h
    exact fit.open? opened
  | element path =>
    obtain ⟨root, opened, rfl⟩ := Option.map_eq_some_iff.1 h
    exact fit.append? opened
  | entry e =>
    obtain ⟨root, inserted, rfl⟩ := Option.map_eq_some_iff.1 h
    exact fit.within? (fun _ _ _ fit => fit.insert? new) inserted

/-- All values of a document fit. -/
theorem fits_parse? {text : String} {es : Entries} (h : parse? text = some es) : AllFit es := by
  obtain ⟨statements, read, h⟩ := Option.bind_eq_some_iff.1 h
  obtain ⟨draft, added, h⟩ := Option.bind_eq_some_iff.1 h
  cases h
  have fit := fits_statements? read
  have empty : AllFit ({} : Draft).root := List.forall_mem_nil _
  exact foldlM_invariant (P := fun d : Draft => AllFit d.root)
    (fun _ s _ mem => allFit_add? (fit s mem)) empty added

end SelfCheck.Toml
