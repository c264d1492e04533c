import MallFabric.Connection.Pool
import MallFabric.Timed

/-!
# Dialling

To dial a service, its address is taken from what is known beforehand or else
discovered, and then a connection to the address is opened.
-/

namespace MallFabric

/-- How addresses are discovered and connections opened among the given peers. -/
structure Dialler (Conn Peers : Type) where
  /-- The address of a name; none if nothing is ever discovered. -/
  discover : Option (Instant -> String -> Peers -> Except Fault String × Peers)
  connect : Instant -> Endpoint -> Peers -> Timed (Except Fault Conn) × Peers

namespace Dialler

variable {Conn Peers : Type}

/-- What a caller is told when discovery fails.  A name without an address is
not known at all. -/
def discoveryFault (name : String) : Fault -> Fault
  | .notFound _ => .unknownService name
  | fault => .connection name s!"discovery failed: {fault.message}"

/-- Dial a service. -/
def dial (dialler : Dialler Conn Peers) (pool : Pool Conn) (now : Instant) (name : String)
    (peers : Peers) : Timed (Except Fault Conn) × Peers :=
  match pool.endpoint? name, dialler.discover with
  | some endpoint, _ => dialler.connect now endpoint peers
  | none, none => (⟨now, .error (.unknownService name)⟩, peers)
  | none, some discover =>
      match discover now name peers with
      | (.ok address, found) => dialler.connect now ⟨name, address⟩ found
      | (.error fault, missed) => (⟨now, .error (discoveryFault name fault)⟩, missed)

end Dialler

end MallFabric
