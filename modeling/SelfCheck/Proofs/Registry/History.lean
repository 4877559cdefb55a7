import SelfCheck.Proofs.Text.ByteOrder
import SelfCheck.Registry
import Mathlib.Data.Finset.Card
import Mathlib.Data.List.Induction

/-!
# The registry and its history

The registry keeps one entry for each address. Which one that is can be told from the history alone:
the latest registration of the address, unless the connection has been unregistered since. The
clean-up of an earlier connection may come at any time after that and finds an entry that is not its
own, so it changes nothing.

## Main definitions

* `Registry.Deed`, `Registry.run` — what may be done to a registry, and the registry after a history
* `Registry.registrations` — how many connections have registered in a history
* `Registry.Current` — the connection of an address, as the history tells it

## Main results

* `Registry.connection?_run` — the registry knows an address by its current connection
* `Registry.ordered_run` — the stations are listed by address, each once
* `Registry.stations_as_registered` — the registry is the one that its history tells
-/

namespace SelfCheck

namespace Registry

/-- What may be done to a registry. -/
inductive Deed where
  | register (address : String)
  | unregister (address : String) (connection : Nat)
  | stopAll
deriving DecidableEq, Repr

/-- The registry after a deed. -/
def after (r : Registry) : Deed → Registry
  | .register address => (r.register address).2
  | .unregister address connection => (r.unregister address connection).2
  | .stopAll => r.stopAll

/-- The registry after a history. -/
def run (history : List Deed) : Registry := history.foldl after {}

/-- The deed is a registration. -/
def Deed.registers : Deed → Bool
  | .register _ => true
  | _ => false

/-- How many connections have registered, which is the number that the next will get. -/
def registrations (history : List Deed) : Nat := history.countP Deed.registers

/-- The connection of an address, as the history tells it: its latest registration, if that has not
been unregistered since. -/
def Current (history : List Deed) (address : String) (connection : Nat) : Prop :=
  ∃ before later, history = before ++ .register address :: later ∧
    connection = registrations before ∧ .register address ∉ later ∧
    .unregister address connection ∉ later

/-- The registry has no stations. -/
def isEmpty (r : Registry) : Bool := r.stations.isEmpty

variable {history : List Deed} {deed : Deed} {address other : String} {connection : Nat}

theorem run_concat (history : List Deed) (deed : Deed) :
    run (history ++ [deed]) = (run history).after deed := by
  rw [run, List.foldl_append]
  rfl

theorem registrations_concat (history : List Deed) (deed : Deed) :
    registrations (history ++ [deed]) =
      registrations history + if deed.registers then 1 else 0 := by
  rw [registrations, List.countP_append, List.countP_singleton]
  rfl

/-! ### The current connection -/

/-- A deed of a longer history is its last one or stands in the history before. -/
theorem concat_eq_append_cons {before later : List Deed} {d : Deed}
    (h : history ++ [deed] = before ++ d :: later) :
    (later = [] ∧ before = history ∧ d = deed) ∨
      ∃ between, later = between ++ [deed] ∧ history = before ++ d :: between := by
  rcases List.eq_nil_or_concat later with rfl | ⟨between, last, rfl⟩
  · obtain ⟨rfl, same⟩ := List.append_inj' h rfl
    exact .inl ⟨rfl, rfl, (List.head_eq_of_cons_eq same).symm⟩
  · rw [List.concat_eq_append, ← List.cons_append, ← List.append_assoc] at h
    obtain ⟨rfl, same⟩ := List.append_inj' h rfl
    obtain rfl := List.head_eq_of_cons_eq same
    exact .inr ⟨between, List.concat_eq_append, rfl⟩

/-- A deed makes a connection current, or leaves it so. -/
theorem current_concat : Current (history ++ [deed]) address connection ↔
    deed = .register address ∧ connection = registrations history ∨
      Current history address connection ∧ deed ≠ .register address ∧
        deed ≠ .unregister address connection := by
  constructor
  · rintro ⟨before, later, split, number, latest, kept⟩
    rcases concat_eq_append_cons split with ⟨rfl, rfl, rfl⟩ | ⟨between, rfl, earlier⟩
    · exact .inl ⟨rfl, number⟩
    · simp only [List.mem_append, List.mem_singleton, not_or] at latest kept
      exact .inr ⟨⟨before, between, earlier, number, latest.1, kept.1⟩, Ne.symm latest.2,
        Ne.symm kept.2⟩
  · rintro (⟨rfl, number⟩ | ⟨⟨before, later, rfl, number, latest, kept⟩, other, stays⟩)
    · exact ⟨history, [], rfl, number, List.not_mem_nil, List.not_mem_nil⟩
    · refine ⟨before, later ++ [deed], by simp, number, ?_, ?_⟩ <;>
        simp only [List.mem_append, List.mem_singleton, not_or]
      · exact ⟨latest, Ne.symm other⟩
      · exact ⟨kept, Ne.symm stays⟩

theorem not_current_nil : ¬ Current [] address connection := by
  rintro ⟨before, later, split, -⟩
  exact List.append_ne_nil_of_right_ne_nil before (List.cons_ne_nil _ later) split.symm

/-- Connections are numbered in the order in which they register. -/
theorem issued_run (history : List Deed) : (run history).issued = registrations history := by
  induction history using List.reverseRecOn with
  | nil => rfl
  | append_singleton history deed ih =>
    rw [run_concat, registrations_concat, ← ih]
    cases deed with
    | register address => rfl
    | unregister address connection => rw [after, unregister]; split <;> rfl
    | stopAll => rfl

/-- The registry knows an address by its current connection. -/
theorem connection?_run :
    (run history).connection? address = some connection ↔ Current history address connection := by
  induction history using List.reverseRecOn with
  | nil => exact iff_of_false (by simp [run, connection?, lookup]) not_current_nil
  | append_singleton history deed ih =>
    rw [run_concat, current_concat, ← ih]
    cases deed with
    | register other =>
      rw [after, connection?_register, issued_run]
      by_cases same : address = other
      · subst same
        simp [eq_comm]
      · simp [same, Ne.symm same]
    | unregister other number =>
      rw [after, connection?_unregister]
      by_cases same : address = other
      · subst same
        -- Only its own clean-up takes a connection away.
        by_cases own : (run history).connection? address = some number
        · simp [own]
        · simp only [own, and_false, if_false]
          grind
      · simp [same, Ne.symm same]
    | stopAll => simp [after, stopAll, connection?]

/-! ### The list of stations -/

/-- Entries in the order of their addresses, no two with the same. -/
def Ordered (entries : List (String × Nat)) : Prop := entries.Pairwise fun d e => d.1 < e.1

variable {entries : List (String × Nat)}

theorem mem_place {e : String × Nat} (h : e ∈ place address connection entries) :
    e = (address, connection) ∨ e ∈ entries := by
  induction entries with
  | nil => exact .inl (List.mem_singleton.1 h)
  | cons d entries ih =>
    rw [place] at h
    split_ifs at h <;> grind

theorem Ordered.place (ordered : Ordered entries) (address : String) (connection : Nat) :
    Ordered (place address connection entries) := by
  induction entries with
  | nil => exact List.pairwise_singleton _ _
  | cons e entries ih =>
    obtain ⟨first, rest⟩ := List.pairwise_cons.1 ordered
    rw [Registry.place]
    split_ifs with same less
    · exact List.pairwise_cons.2 ⟨fun d hd => same ▸ first d hd, rest⟩
    · -- The place is further on, behind the first entry.
      refine List.pairwise_cons.2 ⟨fun d hd => ?_, ih rest⟩
      rcases mem_place hd with rfl | hd
      · exact less
      · exact first d hd
    · have greater : address < e.1 := lt_of_le_of_ne (not_lt.1 less) (Ne.symm same)
      refine List.pairwise_cons.2 ⟨fun d hd => ?_, ordered⟩
      rcases List.mem_cons.1 hd with rfl | hd
      · exact greater
      · exact greater.trans (first d hd)

theorem Ordered.filter (ordered : Ordered entries) (p : String × Nat → Bool) :
    Ordered (entries.filter p) :=
  List.Pairwise.filter p ordered

/-- Every entry of ordered entries is the one that is found for its address. -/
theorem Ordered.mem_iff (ordered : Ordered entries) :
    (address, connection) ∈ entries ↔ lookup address entries = some connection := by
  induction entries with
  | nil => simp [lookup]
  | cons e entries ih =>
    obtain ⟨first, rest⟩ := List.pairwise_cons.1 ordered
    rw [lookup, List.mem_cons]
    split_ifs with same
    · have once : (address, connection) ∉ entries := fun h => absurd same (first _ h).ne
      subst same
      simp [once, Prod.ext_iff, eq_comm]
    · have other : (address, connection) ≠ e := fun h => same (congrArg Prod.fst h).symm
      simp [other, ih rest]

theorem ordered_run (history : List Deed) : Ordered (run history).stations := by
  induction history using List.reverseRecOn with
  | nil => exact .nil
  | append_singleton history deed ih =>
    rw [run_concat]
    cases deed with
    | register address => exact ih.place address _
    | unregister address connection =>
      rw [after, unregister]
      split
      · exact ih.filter _
      · exact ih
    | stopAll => exact ih

/-- The stations are the current connections. -/
theorem mem_stations_run :
    (address, connection) ∈ (run history).stations ↔ Current history address connection :=
  (ordered_run history).mem_iff.trans connection?_run

theorem isSome_connection?_run :
    ((run history).connection? address).isSome = true ↔
      ∃ connection, Current history address connection := by
  simp only [Option.isSome_iff_exists, connection?_run]

/-- There are as many stations as addresses that have one. -/
theorem exists_addresses_run (history : List Deed) :
    ∃ addresses : Finset String,
      (∀ address, address ∈ addresses ↔ ∃ connection, Current history address connection) ∧
        (run history).size = addresses.card := by
  have nodup : ((run history).stations.map (·.1)).Nodup :=
    List.pairwise_map.2 ((ordered_run history).imp LT.lt.ne)
  refine ⟨((run history).stations.map (·.1)).toFinset, fun address => ?_, ?_⟩
  · simp [← mem_stations_run]
  · rw [List.toFinset_card_of_nodup nodup, List.length_map]
    rfl

/-! ### The registry that a history tells -/

/-- The registry is the one that a history tells. -/
structure Reflects (r : Registry) (history : List Deed) : Prop where
  /-- An address has its latest registration, unless that has been unregistered. -/
  connection : ∀ address connection,
    r.connection? address = some connection ↔ Current history address connection
  /-- A new connection gets a number that no earlier one has. -/
  number : ∀ address, (r.register address).1 = registrations history
  /-- A connection that is unregistered is removed just if it is current. -/
  removed : ∀ address connection,
    (r.unregister address connection).1 = true ↔ Current history address connection
  /-- Otherwise all stays as it is. -/
  unchanged : ∀ address connection,
    (r.unregister address connection).1 = false → (r.unregister address connection).2 = r
  /-- The stations are the current connections. -/
  listed : ∀ address connection,
    (address, connection) ∈ r.stations ↔ Current history address connection
  /-- They stand in the order of the bytes of their addresses, each address once. -/
  ordered : r.stations.Pairwise fun d e => Bytes.ofText d.1 < Bytes.ofText e.1
  /-- There are as many as addresses that have a current connection. -/
  size : ∃ addresses : Finset String,
    (∀ address, address ∈ addresses ↔ ∃ connection, Current history address connection) ∧
      r.size = addresses.card
  isEmpty : r.isEmpty = true ↔ ∀ address connection, ¬ Current history address connection
  contains : ∀ address,
    r.contains address = true ↔ ∃ connection, Current history address connection
  /-- When every connection has been unregistered, in whatever order, there are no stations. -/
  cleared : (∀ before address later, history = before ++ .register address :: later →
    .unregister address (registrations before) ∈ later) → r.isEmpty = true
  /-- The newest connection of an address is listed until it is unregistered. -/
  newest : ∀ before address later, history = before ++ .register address :: later →
    .register address ∉ later → .unregister address (registrations before) ∉ later →
      (address, registrations before) ∈ r.stations

theorem isEmpty_run :
    (run history).isEmpty = true ↔ ∀ address connection, ¬ Current history address connection := by
  simp only [isEmpty, List.isEmpty_iff, List.eq_nil_iff_forall_not_mem, Prod.forall,
    mem_stations_run]

theorem unregister_run :
    ((run history).unregister address connection).1 = true ↔
      Current history address connection := by
  rw [← connection?_run, unregister]
  split <;> simp_all

/-- After every history, the registry is the one that the history tells. -/
theorem stations_as_registered (history : List Deed) : (run history).Reflects history where
  connection _ _ := connection?_run
  number _ := issued_run history
  removed _ _ := unregister_run
  unchanged address connection kept := by
    rw [unregister] at kept ⊢
    split at kept
    · cases kept
    · next other => rw [if_neg other]
  listed _ _ := mem_stations_run
  ordered := (ordered_run history).imp Bytes.ofText_lt_ofText
  size := exists_addresses_run history
  isEmpty := isEmpty_run
  contains _ := isSome_connection?_run
  cleared everyone := isEmpty_run.2 fun address connection current => by
    obtain ⟨before, later, split, rfl, -, kept⟩ := current
    exact kept (everyone before address later split)
  newest before address later split latest kept :=
    mem_stations_run.2 ⟨before, later, split, rfl, latest, kept⟩

end Registry

end SelfCheck
