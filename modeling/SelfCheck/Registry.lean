/-!
# The registry of stations

A station is known by the address of its screen. Each connection of a screen registers under a new
number; if the address already has a station, the older connection is told to stop and the new one
takes its place. A connection that ends removes its own entry, but not that of its successor. The
moment at which a connection registered is not kept here, since nothing is decided by it.

## Main definitions

* `Registry` — the stations, and which connections were told to stop
* `Registry.register`, `Registry.unregister`, `Registry.stopAll` — the operations
* `Registry.connection?` — the connection of an address

## Main results

* `Registry.connection?_register`, `Registry.connection?_unregister` — what the operations do to it
-/

namespace SelfCheck

/-- The stations, and which connections were told to stop. -/
structure Registry where
  /-- How many connections have registered; the next gets this number. -/
  issued : Nat := 0
  /-- The connection of each address, ordered by address. -/
  stations : List (String × Nat) := []
  /-- The connections that were told to stop. -/
  stopped : List Nat := []
deriving DecidableEq, Repr

namespace Registry

/-- Entries ordered by address, with a new one in place of an older one of its address. -/
def place (address : String) (connection : Nat) : List (String × Nat) → List (String × Nat)
  | [] => [(address, connection)]
  | e :: es =>
    if e.1 = address then (address, connection) :: es
    else if e.1 < address then e :: place address connection es
    else (address, connection) :: e :: es

/-- The connection that entries give for an address. -/
def lookup (address : String) : List (String × Nat) → Option Nat
  | [] => none
  | e :: es => if e.1 = address then some e.2 else lookup address es

/-- The connection of an address. -/
def connection? (r : Registry) (address : String) : Option Nat := lookup address r.stations

/-- The address has a station. -/
def contains (r : Registry) (address : String) : Bool := (r.connection? address).isSome

/-- The number of stations. -/
def size (r : Registry) : Nat := r.stations.length

/-- The connection was told to stop. -/
def isStopped (r : Registry) (connection : Nat) : Bool := r.stopped.contains connection

/-- Registers a new connection, and tells the one that it replaces to stop. -/
def register (r : Registry) (address : String) : Nat × Registry :=
  (r.issued, {
    issued := r.issued + 1
    stations := place address r.issued r.stations
    stopped := r.stopped ++ (r.connection? address).toList })

/-- Removes the station of an address if it still belongs to the connection, and says whether it
did. -/
def unregister (r : Registry) (address : String) (connection : Nat) : Bool × Registry :=
  if r.connection? address = some connection then
    (true, { r with stations := r.stations.filter fun e => e.1 ≠ address })
  else (false, r)

/-- Tells every station to stop. -/
def stopAll (r : Registry) : Registry := { r with stopped := r.stopped ++ r.stations.map (·.2) }

theorem lookup_place (address other : String) (connection : Nat) (entries : List (String × Nat)) :
    lookup other (place address connection entries) =
      if other = address then some connection else lookup other entries := by
  induction entries with
  | nil => grind [place, lookup]
  | cons e es ih => grind [place, lookup]

theorem lookup_filter (address other : String) (entries : List (String × Nat)) :
    lookup other (entries.filter fun e => e.1 ≠ address) =
      if other = address then none else lookup other entries := by
  induction entries with
  | nil => simp [lookup]
  | cons e es ih => grind [lookup]

/-- A registration changes the connection of its own address only. -/
theorem connection?_register (r : Registry) (address other : String) :
    (r.register address).2.connection? other =
      if other = address then some r.issued else r.connection? other :=
  lookup_place address other r.issued r.stations

/-- Only the current connection of an address can remove it. -/
theorem connection?_unregister (r : Registry) (address other : String) (connection : Nat) :
    (r.unregister address connection).2.connection? other =
      if other = address ∧ r.connection? address = some connection then none
      else r.connection? other := by
  unfold unregister
  split
  · next h =>
    simp only [h, and_true]
    exact lookup_filter address other r.stations
  · next h => simp [h]

end Registry

end SelfCheck
