import MallFabric.Assoc
import MallFabric.Fault

/-!
# The connection pool

A pool keeps one connection for each service name.  The table maps a name to
a cell; the callers of a name meet at its cell, where one of them at a time
has the turn to dial.  A connection that is dialled stays in the cell for
everyone; a dial that fails or is given up passes the turn to the caller that
has waited longest.

Callers go on in small steps, between which other callers may come.
-/

namespace MallFabric

abbrev CallerId := Nat

abbrev CellId := Nat

/-- The place where the callers of one name meet. -/
structure Cell (Conn : Type) where
  value : Option Conn
  /-- The caller that dials, or that has been given the turn to. -/
  turn : Option CallerId
  /-- The callers that wait for the turn, longest first. -/
  queue : List CallerId
deriving Repr

namespace Cell

variable {Conn : Type}

def empty : Cell Conn := ⟨none, none, []⟩

/-- Give the turn to the caller that has waited longest. -/
def passTurn (cell : Cell Conn) : Cell Conn :=
  match cell.queue with
  | [] => { cell with turn := none }
  | next :: rest => { cell with turn := some next, queue := rest }

/-- Keep a connection.  Nobody needs the turn any more. -/
def fill (_cell : Cell Conn) (conn : Conn) : Cell Conn := ⟨some conn, none, []⟩

end Cell

/-- How far a caller has come. -/
inductive CallerPhase (Conn : Type) where
  /-- It has not yet looked whether the pool is closed. -/
  | arriving
  /-- It has not yet looked its name up. -/
  | admitted
  /-- Its name has no cell. -/
  | unlisted
  | joining (cell : CellId)
  /-- It waits for a connection or for the turn. -/
  | waiting (cell : CellId)
  | dialling (cell : CellId)
  | finished (result : Except Fault Conn)
deriving Repr

/-- A caller and the name whose connection it wants. -/
structure Caller (Conn : Type) where
  name : String
  phase : CallerPhase Conn
deriving Repr

/-- The connections of one process, and the callers that want one. -/
structure Pool (Conn : Type) where
  /-- The addresses that are known beforehand. -/
  endpoints : Assoc String String
  /-- Whether other names can be discovered. -/
  discovers : Bool
  closed : Bool
  table : Assoc String CellId
  cells : Assoc CellId (Cell Conn)
  nextCell : CellId
  callers : Assoc CallerId (Caller Conn)
deriving Repr

namespace Pool

variable {Conn : Type}

def new (endpoints : List Endpoint) (discovers : Bool) : Pool Conn where
  endpoints := endpoints.foldl (fun known endpoint => known.insert endpoint.name endpoint.address) []
  discovers := discovers
  closed := false
  table := []
  cells := []
  nextCell := 0
  callers := []

def endpoint? (pool : Pool Conn) (name : String) : Option Endpoint :=
  (pool.endpoints.find? name).map fun address => ⟨name, address⟩

def cell (pool : Pool Conn) (id : CellId) : Cell Conn :=
  (pool.cells.find? id).getD Cell.empty

def setCell (pool : Pool Conn) (id : CellId) (cell : Cell Conn) : Pool Conn :=
  { pool with cells := pool.cells.insert id cell }

def setPhase (pool : Pool Conn) (id : CallerId) (name : String) (phase : CallerPhase Conn) :
    Pool Conn :=
  { pool with callers := pool.callers.insert id ⟨name, phase⟩ }

/-- A new caller for the connection of a name. -/
def arrive (pool : Pool Conn) (id : CallerId) (name : String) : Pool Conn :=
  pool.setPhase id name .arriving

def closedFault (name : String) : Fault := .connection name "connection manager closed"

/-- What a step of a caller came to. -/
inductive Progress where
  | moved
  /-- The caller begins to dial. -/
  | dial (name : String)
  /-- The caller waits for another one. -/
  | blocked
deriving DecidableEq, Repr

/-- Join the callers at a cell. -/
def join (pool : Pool Conn) (id : CallerId) (name : String) (cellId : CellId) :
    Pool Conn × Progress :=
  let cell := pool.cell cellId
  match cell.value, cell.turn with
  | some conn, _ => (pool.setPhase id name (.finished (.ok conn)), .moved)
  | none, none =>
      ((pool.setCell cellId { cell with turn := some id }).setPhase id name (.dialling cellId),
        .dial name)
  | none, some _ =>
      ((pool.setCell cellId { cell with queue := cell.queue ++ [id] }).setPhase id name
        (.waiting cellId), .blocked)

/-- Go on after a wait. -/
def resume (pool : Pool Conn) (id : CallerId) (name : String) (cellId : CellId) :
    Pool Conn × Progress :=
  let cell := pool.cell cellId
  match cell.value with
  | some conn => (pool.setPhase id name (.finished (.ok conn)), .moved)
  | none =>
      if cell.turn = some id then (pool.setPhase id name (.dialling cellId), .dial name)
      else (pool, .blocked)

/-- The next step of a caller. -/
def step (pool : Pool Conn) (id : CallerId) : Pool Conn × Progress :=
  match pool.callers.find? id with
  | none => (pool, .blocked)
  | some ⟨name, phase⟩ =>
      match phase with
      | .arriving =>
          if pool.closed then (pool.setPhase id name (.finished (.error (closedFault name))), .moved)
          else (pool.setPhase id name .admitted, .moved)
      | .admitted =>
          match pool.table.find? name with
          | some cellId => (pool.setPhase id name (.joining cellId), .moved)
          | none =>
              if !pool.endpoints.contains name && !pool.discovers then
                (pool.setPhase id name (.finished (.error (.unknownService name))), .moved)
              else (pool.setPhase id name .unlisted, .moved)
      | .unlisted =>
          match pool.table.find? name with
          | some cellId => (pool.setPhase id name (.joining cellId), .moved)
          | none =>
              let listed := { pool with
                table := pool.table.insert name pool.nextCell
                cells := pool.cells.insert pool.nextCell Cell.empty
                nextCell := pool.nextCell + 1 }
              (listed.setPhase id name (.joining pool.nextCell), .moved)
      | .joining cellId => pool.join id name cellId
      | .waiting cellId => pool.resume id name cellId
      | .dialling _ => (pool, .blocked)
      | .finished _ => (pool, .blocked)

/-- End the dial of a caller, and tell who can go on because of it. -/
def finishDial (pool : Pool Conn) (id : CallerId) (result : Except Fault Conn) :
    Pool Conn × List CallerId :=
  match pool.callers.find? id with
  | some ⟨name, .dialling cellId⟩ =>
      let cell := pool.cell cellId
      match result with
      | .ok conn =>
          ((pool.setCell cellId (cell.fill conn)).setPhase id name (.finished result), cell.queue)
      | .error _ =>
          let passed := cell.passTurn
          ((pool.setCell cellId passed).setPhase id name (.finished result), passed.turn.toList)
  | _ => (pool, [])

/-- Forget a caller.  If it had the turn, the turn passes on; the callers that
can go on because of that are told. -/
def abort (pool : Pool Conn) (id : CallerId) : Pool Conn × List CallerId :=
  let forgotten := { pool with callers := pool.callers.erase id }
  let leave := fun cellId : CellId =>
    let cell := pool.cell cellId
    if cell.turn = some id then
      let passed := cell.passTurn
      (forgotten.setCell cellId passed, passed.turn.toList)
    else
      (forgotten.setCell cellId { cell with queue := cell.queue.filter (· ≠ id) }, [])
  match pool.callers.find? id with
  | some ⟨_, .waiting cellId⟩ => leave cellId
  | some ⟨_, .dialling cellId⟩ => leave cellId
  | _ => (forgotten, [])

/-- The result of a caller, if it has one. -/
def result? (pool : Pool Conn) (id : CallerId) : Option (Except Fault Conn) :=
  match pool.callers.find? id with
  | some ⟨_, .finished result⟩ => some result
  | _ => none

/-- First step of closing: nobody who arrives from now on is let in. -/
def markClosed (pool : Pool Conn) : Pool Conn := { pool with closed := true }

/-- Second step of closing: let go of every connection. -/
def clearTable (pool : Pool Conn) : Pool Conn := { pool with table := [] }

/-- Close the pool at once.  A pool that is closed already is left as it is. -/
def close (pool : Pool Conn) : Pool Conn :=
  if pool.closed then pool else pool.markClosed.clearTable

/-- The names that have a connection, in order. -/
def connected (pool : Pool Conn) : List String :=
  ((pool.table.filter fun entry => (pool.cell entry.2).value.isSome).map Prod.fst).mergeSort
    fun left right => left ≤ right

/-- A bound on the steps that a caller makes before it waits or ends. -/
def stepBound : Nat := 8

/-- Let a caller go on until it waits, dials or has its result. -/
def advance (id : CallerId) : (fuel : Nat) -> Pool Conn -> Pool Conn × Option String
  | 0, pool => (pool, none)
  | fuel + 1, pool =>
      match pool.step id with
      | (next, .moved) => advance id fuel next
      | (next, .dial name) => (next, some name)
      | (next, .blocked) => (next, none)

end Pool

end MallFabric
