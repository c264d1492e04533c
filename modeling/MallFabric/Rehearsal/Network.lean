import MallFabric.Connection.Dialler
import MallFabric.Registry.Registrar
import MallFabric.Rehearsal.Cue

/-!
# A rehearsed network

Addresses come from cues or from a registry, and dials go as their cues say.
Every connection is labelled by the dial that opened it.
-/

namespace MallFabric.Rehearsal

open Registry (Registrar)

/-- A connection of a rehearsal. -/
structure Line where
  name : String
  address : String
  /-- How many dials of the name came before. -/
  serial : Nat
deriving DecidableEq, Repr, Inhabited

namespace Line

def label (line : Line) : String := s!"{line.name}@{line.address}#{line.serial}"

end Line

/-- What the peers of a dialler do. -/
structure Network where
  dials : Cues DialCue
  /-- How often each name was dialled. -/
  attempts : Assoc String Nat
  lookups : Cues LookupCue
  /-- The registry that discovery asks, in the place of cues. -/
  registrar : Option Registrar

namespace Network

def new (dials : Cues DialCue) (lookups : Cues LookupCue) (registrar : Option Registrar) :
    Network :=
  ⟨dials, [], lookups, registrar⟩

/-- How many dials there have been. -/
def dialCount (network : Network) : Nat :=
  (network.attempts.map Prod.snd).foldl (· + ·) 0

/-- Discover the address of a name. -/
def discover (network : Network) (now : Instant) (name : String) :
    Except Fault String × Network :=
  match network.registrar with
  | some registrar =>
      let (result, asked) := registrar.resolve now name
      (result, { network with registrar := some asked })
  | none =>
      let (cue, lookups) := network.lookups.take name
      let asked := { network with lookups }
      match cue with
      | some (.address address) => (.ok address, asked)
      | some (.fault fault) => (.error fault, asked)
      | some .missing => (.error (.notFound "no script"), asked)
      | none => (.error (.notFound "no script"), asked)

/-- Dial an endpoint as its cue says. -/
def connect (network : Network) (now : Instant) (endpoint : Endpoint) :
    Timed (Except Fault Line) × Network :=
  let serial := (network.attempts.find? endpoint.name).getD 0
  let (cue, dials) := network.dials.take endpoint.name
  let dialled :=
    { network with dials, attempts := network.attempts.insert endpoint.name (serial + 1) }
  let delay := (cue.map DialCue.delay).getD 0
  match cue.bind DialCue.fault with
  | some fault => (⟨dueAfter now delay, .error fault⟩, dialled)
  | none => (⟨dueAfter now delay, .ok ⟨endpoint.name, endpoint.address, serial⟩⟩, dialled)

/-- The dialler over this network. -/
def dialler (discovers : Bool) : Dialler Line Network where
  discover :=
    if discovers then some fun now name network => network.discover now name else none
  connect := fun now endpoint network => network.connect now endpoint

end Network

end MallFabric.Rehearsal
