import MallFabric.Rehearsal.Network
import MallFabric.Schedule

/-!
# Rehearsing the connection pool

Callers of a pool run as tasks of a schedule over a rehearsed network, beside
the renewals of its registry.
-/

namespace MallFabric.Rehearsal

open Registry (Lease)

/-- A task of the rehearsal. -/
inductive PoolTask where
  | caller (id : CallerId)
  | renewal (lease : LeaseId)
deriving DecidableEq, Repr

/-- A pool with its network. -/
structure PoolState where
  pool : Pool Line
  dialler : Dialler Line Network
  dials : Assoc CallerId (Timed (Except Fault Line))
  network : Network
  /-- The caller that everything else waits for, if there is one. -/
  foreground : Option CallerId
  nextCaller : CallerId

namespace PoolState

def wakeup (state : PoolState) (due : Instant) (id : CallerId) (timer : Bool) : Wakeup PoolTask :=
  ⟨due, .caller id, timer && state.foreground = some id⟩

/-- End the dial of a caller if it is due. -/
def finishDial (state : PoolState) (now : Instant) (id : CallerId) :
    PoolState × List (Wakeup PoolTask) :=
  match state.dials.find? id with
  | none => (state, [])
  | some dial =>
      if dial.due ≤ now then
        let (pool, woken) := state.pool.finishDial id dial.result
        ({ state with pool, dials := state.dials.erase id },
          woken.map fun other => state.wakeup now other false)
      else (state, [state.wakeup dial.due id true])

/-- Let a caller go on. -/
def wakeCaller (now : Instant) (id : CallerId) (state : PoolState) :
    PoolState × List (Wakeup PoolTask) :=
  let (state, woken) := state.finishDial now id
  match state.pool.advance id Pool.stepBound with
  | (pool, none) => ({ state with pool }, woken)
  | (pool, some name) =>
      let (dial, network) := state.dialler.dial pool now name state.network
      let dialling := { state with pool, network, dials := state.dials.insert id dial }
      let (finished, others) := dialling.finishDial now id
      (finished, woken ++ others)

/-- Let a renewal go on. -/
def wakeRenewal (now : Instant) (lease : LeaseId) (state : PoolState) :
    PoolState × List (Wakeup PoolTask) :=
  match state.network.registrar with
  | none => (state, [])
  | some registrar =>
      let (renewed, next) := registrar.wake now lease
      ({ state with network := { state.network with registrar := some renewed } },
        next.toList.map fun due => ⟨due, .renewal lease, false⟩)

def wake : Wake PoolState PoolTask
  | now, .caller id, state => state.wakeCaller now id
  | now, .renewal lease, state => state.wakeRenewal now lease

end PoolState

/-- A rehearsal of a pool. -/
abbrev PoolRehearsal := Schedule PoolState PoolTask

namespace PoolRehearsal

def start (endpoints : List Endpoint) (discovers : Bool) (network : Network) : PoolRehearsal :=
  Schedule.start ⟨Pool.new endpoints discovers, Network.dialler discovers, [], network, none, 0⟩

def settle (rehearsal : PoolRehearsal) : PoolRehearsal :=
  Schedule.settle PoolState.wake rehearsal

def sleep (span : Duration) (rehearsal : PoolRehearsal) : PoolRehearsal :=
  Schedule.sleep PoolState.wake span rehearsal

/-- Begin a caller for a name. -/
def arrive (name : String) (foreground : Bool) (rehearsal : PoolRehearsal) :
    CallerId × PoolRehearsal :=
  let id := rehearsal.state.nextCaller
  (id, rehearsal.advance fun _ state =>
    ({ state with
        pool := state.pool.arrive id name
        nextCaller := id + 1
        foreground := if foreground then some id else state.foreground }, []))

/-- Wait for the result of a caller, and forget the caller. -/
def collect (id : CallerId) (rehearsal : PoolRehearsal) :
    Option (Except Fault Line) × PoolRehearsal :=
  let waited := Schedule.waitFor PoolState.wake
    (fun state => (state.pool.result? id).isSome) rehearsal
  (waited.state.pool.result? id,
    waited.advance fun _ state =>
      ({ state with pool := (state.pool.abort id).1, foreground := none }, []))

/-- Get the connection of a name and wait for it. -/
def get (name : String) (rehearsal : PoolRehearsal) :
    Option (Except Fault Line) × PoolRehearsal :=
  let (id, begun) := arrive name true rehearsal
  collect id (begun.advance fun now state => state.wakeCaller now id)

/-- Get the connection of a name in the background. -/
def spawn (name : String) (rehearsal : PoolRehearsal) : CallerId × PoolRehearsal :=
  let (id, begun) := arrive name false rehearsal
  (id, begun.advance fun now state => (state, [state.wakeup now id false]))

/-- Give a caller up. -/
def abort (id : CallerId) (rehearsal : PoolRehearsal) : PoolRehearsal :=
  rehearsal.advance fun now state =>
    let (pool, woken) := state.pool.abort id
    ({ state with pool, dials := state.dials.erase id },
      woken.map fun other => state.wakeup now other false)

/-- Get the connections of the given names, up to the first one that fails. -/
def getAll : List String -> PoolRehearsal -> Except Fault Unit × PoolRehearsal
  | [], rehearsal => (.ok (), rehearsal)
  | name :: rest, rehearsal =>
      match get name rehearsal with
      | (some (.error fault), after) => (.error fault, after)
      | (_, after) => getAll rest after

/-- Dial everything that is known beforehand. -/
def connectAll (rehearsal : PoolRehearsal) : Except Fault Unit × PoolRehearsal :=
  getAll rehearsal.state.pool.endpoints.keys rehearsal

def close (rehearsal : PoolRehearsal) : PoolRehearsal :=
  rehearsal.advance fun _ state => ({ state with pool := state.pool.close }, [])

/-- Replace the cues of the dials of a name. -/
def cueDials (name : String) (cues : List DialCue) (rehearsal : PoolRehearsal) : PoolRehearsal :=
  rehearsal.advance fun _ state =>
    ({ state with network := { state.network with
        dials := state.network.dials.insert name cues } }, [])

/-- Register a service and begin its renewal. -/
def register (name address : String) (span : Duration) (rehearsal : PoolRehearsal) :
    Except Fault Lease × PoolRehearsal :=
  match rehearsal.state.network.registrar with
  | none => (.error (.registration "no registry"), rehearsal)
  | some registrar =>
      let (result, changed) := registrar.register rehearsal.clock name address span
      (result, rehearsal.advance fun now state =>
        ({ state with network := { state.network with registrar := some changed } },
          match result with
          | .ok lease =>
              [⟨Instant.timer (now + Registry.Registrar.renewalPeriod span),
                .renewal lease.id, false⟩]
          | .error _ => []))

/-- End a registration. -/
def deregister (lease : Lease) (rehearsal : PoolRehearsal) : Except Fault Unit × PoolRehearsal :=
  match rehearsal.state.network.registrar with
  | none => (.ok (), rehearsal)
  | some registrar =>
      let (result, changed) := registrar.deregister lease
      (result, rehearsal.advance fun _ state =>
        ({ state with network := { state.network with registrar := some changed } }, []))

end PoolRehearsal

end MallFabric.Rehearsal
