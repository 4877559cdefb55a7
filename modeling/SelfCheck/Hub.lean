import SelfCheck.Message.Frame
import SelfCheck.Registry
import SelfCheck.Station.Session

/-!
# The hub

Every screen that connects gets a station of its own, registered under the address of the screen. A
frame of the screen is a message to the station, and what the station tells goes back to the screen.
When the station comes to its end the screen is closed, and when the screen is gone the station
ends.

## Main definitions

* `Desk` — a screen and its station
* `Hub` — the registry and all desks that there have been
* `Hub.arrive`, `Hub.step`, `Hub.shutDown` — a new screen, something at a desk, the end
-/

namespace SelfCheck

/-- How the connection of a screen ended. -/
inductive Desk.End where
  /-- The hub closed it. -/
  | closed
  /-- The screen closed it. -/
  | left
  /-- It broke off. -/
  | lost
deriving DecidableEq, Repr

/-- A screen and its station. -/
structure Desk where
  address : String
  session : Session
  /-- How the connection of the screen ended, if it did. -/
  ended : Option Desk.End := none

namespace Desk

/-- What may happen at a desk. -/
inductive Happening where
  /-- A frame of the screen. -/
  | frame (bytes : Bytes)
  /-- The screen closes its connection. -/
  | leave
  /-- The screen gives no sign of life for too long. -/
  | silence
  /-- Something occurs to the station. -/
  | occur (o : Session.Occurrence)

/-- A frame longer than this breaks the connection, unless longer ones are accepted. -/
def transportLimit : Nat := 64 * 1024

/-- The desk after something has occurred to its station, whose end closes the screen. -/
def occur (around : Surroundings) (o : Session.Occurrence) (d : Desk) : Desk × List Effect :=
  let (session, effects) := d.session.step around o
  let ended := match session with
    | .over _ => d.ended <|> some .closed
    | _ => d.ended
  ({ d with session, ended }, effects)

/-- The desk after the connection of its screen has ended. -/
def finish (around : Surroundings) (how : Desk.End) (d : Desk) : Desk × List Effect :=
  { d with ended := some how }.occur around .screenEnd

/-- The desk after something has happened. A frame that is too long or no message is passed over,
and nothing more comes of a screen whose connection has ended. `limit` is the largest frame
accepted. -/
def step (around : Surroundings) (limit : Nat) (d : Desk) : Happening → Desk × List Effect
  | .occur o => d.occur around o
  | .frame bytes =>
    if d.ended.isSome then (d, [])
    else if max transportLimit limit < bytes.length then d.finish around .lost
    else match Message.decodeFrame limit bytes with
      | none => (d, [])
      | some m => d.occur around (.message m)
  | .leave => if d.ended.isSome then (d, []) else d.finish around .left
  | .silence => if d.ended.isSome then (d, []) else d.finish around .lost

/-- The station has come to its end. -/
def isOver (d : Desk) : Bool := d.session matches .over _

end Desk

/-- The registry and all desks that there have been, each under the number of its connection. -/
structure Hub where
  registry : Registry := {}
  desks : List Desk := []

namespace Hub

variable (around : Surroundings)

/-- Removes the stations that have come to their end from the registry. -/
def settle (hub : Hub) : Hub :=
  { hub with
    registry := (hub.desks.zipIdx.filter (·.1.isOver)).foldl
      (fun r (d, n) => (r.unregister d.address n).2) hub.registry }

/-- The desks, each changed under its number, with what they do. -/
def update (f : Nat → Desk → Desk × List Effect) (hub : Hub) : Hub × List (Nat × Effect) :=
  let changed : List (Nat × Desk × List Effect) :=
    hub.desks.zipIdx.map fun (d, n) => (n, f n d)
  let desks := changed.map fun (_, d, _) => d
  ({ hub with desks }.settle, changed.flatMap fun (n, _, effects) => effects.map (n, ·))

/-- The stations that were told to stop do so. -/
def obey (hub : Hub) : Hub × List (Nat × Effect) :=
  hub.update fun n d => if hub.registry.isStopped n then d.occur around .stop else (d, [])

/-- Something happens at a desk. -/
def step (limit number : Nat) (h : Desk.Happening) (hub : Hub) : Hub × List (Nat × Effect) :=
  hub.update fun n d => if n = number then d.step around limit h else (d, [])

/-- A screen connects from an address, and takes the place of an earlier one from there. -/
def arrive (policy : FailurePolicy) (address : String) (hub : Hub) : Hub × List (Nat × Effect) :=
  let (_, registry) := hub.registry.register address
  let desk : Desk := { address, session := .connecting { ip := address, policy } [] false }
  { hub with registry, desks := hub.desks ++ [desk] }.obey around

/-- All stations are told to stop. -/
def shutDown (hub : Hub) : Hub × List (Nat × Effect) :=
  { hub with registry := hub.registry.stopAll }.obey around

end Hub

end SelfCheck
