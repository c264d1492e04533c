import MallFabric.Connection.Pool

/-!
# Runs of a pool

The callers of a pool go on in any order, dials end in any way and at any
time, and callers are forgotten at any moment.  A run is a list of such events,
and every step of a caller is one of few moves.
-/

namespace MallFabric

variable {Conn : Type}

namespace CallerPhase

/-- The cell at which a caller waits or dials. -/
def place? : CallerPhase Conn -> Option CellId
  | .waiting cellId => some cellId
  | .dialling cellId => some cellId
  | _ => none

/-- The cell that a caller has come to. -/
def cell? : CallerPhase Conn -> Option CellId
  | .joining cellId => some cellId
  | phase => phase.place?

theorem cell?_of_place?
    {phase : CallerPhase Conn}
    {cellId : CellId}
    (placed : phase.place? = some cellId) :
    phase.cell? = some cellId := by
  cases phase with
  | waiting cell => exact placed
  | dialling cell => exact placed
  | _ => cases placed

end CallerPhase

/-- A caller waits at a cell. -/
def Waits (callers : Assoc CallerId (Caller Conn)) (id : CallerId) (cellId : CellId) : Prop :=
  ∃ name, callers.find? id = some ⟨name, .waiting cellId⟩

/-- A caller dials for a cell. -/
def Dials (callers : Assoc CallerId (Caller Conn)) (id : CallerId) (cellId : CellId) : Prop :=
  ∃ name, callers.find? id = some ⟨name, .dialling cellId⟩

section Callers

variable {callers later : Assoc CallerId (Caller Conn)} {id other : CallerId} {cellId : CellId}

theorem Dials.of_eq
    (dials : Dials later id cellId)
    (same : later.find? id = callers.find? id) :
    Dials callers id cellId := by
  obtain ⟨name, found⟩ := dials
  exact ⟨name, same ▸ found⟩

theorem Waits.of_eq
    (waits : Waits later id cellId)
    (same : later.find? id = callers.find? id) :
    Waits callers id cellId := by
  obtain ⟨name, found⟩ := waits
  exact ⟨name, same ▸ found⟩

/-- A caller that is not at a cell is none of those that dial for it. -/
theorem Dials.ne
    (dials : Dials callers other cellId)
    (unplaced : ∀ caller, callers.find? id = some caller -> caller.phase.place? ≠ some cellId) :
    other ≠ id := by
  rintro rfl
  obtain ⟨name, found⟩ := dials
  exact unplaced _ found rfl

/-- A caller that is not at a cell is none of those that wait there. -/
theorem Waits.ne
    (waits : Waits callers other cellId)
    (unplaced : ∀ caller, callers.find? id = some caller -> caller.phase.place? ≠ some cellId) :
    other ≠ id := by
  rintro rfl
  obtain ⟨name, found⟩ := waits
  exact unplaced _ found rfl

/-- A caller that is found in no place is in none. -/
theorem unplaced_of_find?
    {caller : Caller Conn}
    (found : callers.find? id = some caller)
    (nowhere : caller.phase.place? = none) :
    ∀ again, callers.find? id = some again -> again.phase.place? = none := by
  intro again refound
  rw [found, Option.some.injEq] at refound
  rw [← refound]
  exact nowhere

theorem place?_ne_of_find?
    {caller : Caller Conn}
    (found : callers.find? id = some caller)
    (nowhere : caller.phase.place? = none)
    (cellId : CellId) :
    ∀ again, callers.find? id = some again -> again.phase.place? ≠ some cellId := by
  intro again refound placed
  cases (unplaced_of_find? found nowhere again refound).symm.trans placed

end Callers

/-- What may happen to a pool next. -/
inductive PoolEvent (Conn : Type) where
  /-- A new caller asks for the connection of a name. -/
  | arrive (id : CallerId) (name : String)
  /-- A caller takes its next step. -/
  | step (id : CallerId)
  /-- The dial of a caller ends. -/
  | finish (id : CallerId) (result : Except Fault Conn)
  /-- A caller is forgotten, whatever it is doing. -/
  | abort (id : CallerId)
  | markClosed
  | clearTable
deriving Repr

/-- Whether an event is part of closing the pool. -/
def PoolEvent.closes : PoolEvent Conn -> Bool
  | .markClosed => true
  | .clearTable => true
  | _ => false

/-- The connection that the end of a dial adds, with the name it is for. -/
def Pool.opens (pool : Pool Conn) (id : CallerId) (result : Except Fault Conn) :
    List (String × Conn) :=
  match pool.callers.find? id, result with
  | some ⟨name, .dialling _⟩, .ok conn => [(name, conn)]
  | _, _ => []

/-- A pool in use. -/
structure PoolRun (Conn : Type) where
  pool : Pool Conn
  /-- The dials that have succeeded, in order. -/
  opened : List (String × Conn)
deriving Repr

namespace PoolRun

/-- A pool that nobody has used. -/
def start (endpoints : List Endpoint) (discovers : Bool) : PoolRun Conn :=
  ⟨Pool.new endpoints discovers, []⟩

/-- Carry out an event.  A caller comes only once. -/
def step (run : PoolRun Conn) : PoolEvent Conn -> PoolRun Conn
  | .arrive id name =>
      if run.pool.callers.contains id then run else { run with pool := run.pool.arrive id name }
  | .step id => { run with pool := (run.pool.step id).1 }
  | .finish id result =>
      ⟨(run.pool.finishDial id result).1, run.opened ++ run.pool.opens id result⟩
  | .abort id => { run with pool := (run.pool.abort id).1 }
  | .markClosed => { run with pool := run.pool.markClosed }
  | .clearTable => { run with pool := run.pool.clearTable }

/-- The pool after a run of events. -/
def after (endpoints : List Endpoint) (discovers : Bool) (events : List (PoolEvent Conn)) :
    PoolRun Conn :=
  events.foldl step (start endpoints discovers)

end PoolRun

namespace Pool

@[simp] theorem cell_setPhase
    (pool : Pool Conn)
    (id : CallerId)
    (name : String)
    (phase : CallerPhase Conn)
    (cellId : CellId) :
    (pool.setPhase id name phase).cell cellId = pool.cell cellId := rfl

@[simp] theorem cell_setCell_self
    (pool : Pool Conn)
    (cellId : CellId)
    (cell : Cell Conn) :
    (pool.setCell cellId cell).cell cellId = cell := by
  simp [setCell, Pool.cell, Assoc.find?_insert_self]

theorem cell_setCell_of_ne
    (pool : Pool Conn)
    {cellId other : CellId}
    (different : other ≠ cellId)
    (cell : Cell Conn) :
    (pool.setCell cellId cell).cell other = pool.cell other := by
  simp [setCell, Pool.cell, Assoc.find?_insert_of_ne _ _ different]

@[simp] theorem find?_setPhase_self
    (pool : Pool Conn)
    (id : CallerId)
    (name : String)
    (phase : CallerPhase Conn) :
    (pool.setPhase id name phase).callers.find? id = some ⟨name, phase⟩ :=
  Assoc.find?_insert_self _ _ _

theorem find?_setPhase_of_ne
    (pool : Pool Conn)
    {id other : CallerId}
    (different : other ≠ id)
    (name : String)
    (phase : CallerPhase Conn) :
    (pool.setPhase id name phase).callers.find? other = pool.callers.find? other :=
  Assoc.find?_insert_of_ne _ _ different

theorem phase_of_find?_setPhase
    {pool : Pool Conn}
    {id : CallerId}
    {name : String}
    {phase : CallerPhase Conn}
    {caller : Caller Conn}
    (found : (pool.setPhase id name phase).callers.find? id = some caller) :
    caller.phase = phase := by
  rw [find?_setPhase_self, Option.some.injEq] at found
  rw [← found]

/-- A pool with a new cell for a name. -/
def list (pool : Pool Conn) (name : String) : Pool Conn :=
  { pool with
    table := pool.table.insert name pool.nextCell
    cells := pool.cells.insert pool.nextCell Cell.empty
    nextCell := pool.nextCell + 1 }

/-- Everything that a step of a caller can do. -/
inductive Move (pool : Pool Conn) (id : CallerId) : Pool Conn -> Progress -> Prop where
  | stay : Move pool id pool .blocked
  | reject {name}
      (found : pool.callers.find? id = some ⟨name, .arriving⟩)
      (isClosed : pool.closed = true) :
      Move pool id (pool.setPhase id name (.finished (.error (closedFault name)))) .moved
  | enter {name}
      (found : pool.callers.find? id = some ⟨name, .arriving⟩)
      (isOpen : pool.closed = false) :
      Move pool id (pool.setPhase id name .admitted) .moved
  | unknown {name}
      (found : pool.callers.find? id = some ⟨name, .admitted⟩)
      (missing : pool.table.find? name = none)
      (unreachable : pool.endpoints.contains name = false ∧ pool.discovers = false) :
      Move pool id (pool.setPhase id name (.finished (.error (.unknownService name)))) .moved
  | miss {name}
      (found : pool.callers.find? id = some ⟨name, .admitted⟩)
      (missing : pool.table.find? name = none)
      (reachable : pool.endpoints.contains name = true ∨ pool.discovers = true) :
      Move pool id (pool.setPhase id name .unlisted) .moved
  | find {name phase cellId}
      (found : pool.callers.find? id = some ⟨name, phase⟩)
      (looking : phase = .admitted ∨ phase = .unlisted)
      (listed : pool.table.find? name = some cellId) :
      Move pool id (pool.setPhase id name (.joining cellId)) .moved
  | list {name}
      (found : pool.callers.find? id = some ⟨name, .unlisted⟩)
      (missing : pool.table.find? name = none) :
      Move pool id ((pool.list name).setPhase id name (.joining pool.nextCell)) .moved
  | take {name phase cellId conn}
      (found : pool.callers.find? id = some ⟨name, phase⟩)
      (present : phase = .joining cellId ∨ phase = .waiting cellId)
      (full : (pool.cell cellId).value = some conn) :
      Move pool id (pool.setPhase id name (.finished (.ok conn))) .moved
  | begin {name cellId}
      (found : pool.callers.find? id = some ⟨name, .joining cellId⟩)
      (vacant : (pool.cell cellId).value = none)
      (free : (pool.cell cellId).turn = none) :
      Move pool id
        ((pool.setCell cellId { pool.cell cellId with turn := some id }).setPhase id name
          (.dialling cellId))
        (.dial name)
  | queue {name cellId holder}
      (found : pool.callers.find? id = some ⟨name, .joining cellId⟩)
      (vacant : (pool.cell cellId).value = none)
      (held : (pool.cell cellId).turn = some holder) :
      Move pool id
        ((pool.setCell cellId
          { pool.cell cellId with queue := (pool.cell cellId).queue ++ [id] }).setPhase id name
          (.waiting cellId))
        .blocked
  | resume {name cellId}
      (found : pool.callers.find? id = some ⟨name, .waiting cellId⟩)
      (vacant : (pool.cell cellId).value = none)
      (own : (pool.cell cellId).turn = some id) :
      Move pool id (pool.setPhase id name (.dialling cellId)) (.dial name)

theorem move_join
    {pool : Pool Conn}
    {id : CallerId}
    {name : String}
    {cellId : CellId}
    (found : pool.callers.find? id = some ⟨name, .joining cellId⟩) :
    Move pool id (pool.join id name cellId).1 (pool.join id name cellId).2 := by
  cases full : (pool.cell cellId).value with
  | some conn => simpa [join, full] using Move.take found (Or.inl rfl) full
  | none =>
      cases held : (pool.cell cellId).turn with
      | none => simpa [join, full, held] using Move.begin found full held
      | some holder => simpa [join, full, held] using Move.queue found full held

theorem move_resume
    {pool : Pool Conn}
    {id : CallerId}
    {name : String}
    {cellId : CellId}
    (found : pool.callers.find? id = some ⟨name, .waiting cellId⟩) :
    Move pool id (pool.resume id name cellId).1 (pool.resume id name cellId).2 := by
  cases full : (pool.cell cellId).value with
  | some conn => simpa [resume, full] using Move.take found (Or.inr rfl) full
  | none =>
      by_cases own : (pool.cell cellId).turn = some id
      · simpa [resume, full, own] using Move.resume found full own
      · simpa [resume, full, own] using Move.stay

/-- A step of a caller is one of its moves. -/
theorem move_step
    (pool : Pool Conn)
    (id : CallerId) :
    Move pool id (pool.step id).1 (pool.step id).2 := by
  unfold step
  cases found : pool.callers.find? id with
  | none => exact .stay
  | some caller =>
      obtain ⟨name, phase⟩ := caller
      cases phase with
      | arriving =>
          cases closed : pool.closed with
          | true => exact .reject found closed
          | false => exact .enter found closed
      | admitted =>
          cases listed : pool.table.find? name with
          | some cellId => simpa [listed] using Move.find found (Or.inl rfl) listed
          | none =>
              cases known : pool.endpoints.contains name with
              | true => simpa [listed, known] using Move.miss found listed (Or.inl known)
              | false =>
                  cases discovers : pool.discovers with
                  | true =>
                      simpa [listed, known, discovers] using
                        Move.miss found listed (Or.inr discovers)
                  | false =>
                      simpa [listed, known, discovers] using
                        Move.unknown found listed ⟨known, discovers⟩
      | unlisted =>
          cases listed : pool.table.find? name with
          | some cellId => simpa [listed] using Move.find found (Or.inr rfl) listed
          | none => simpa [listed, Pool.list] using Move.list found listed
      | joining cellId => exact move_join found
      | waiting cellId => exact move_resume found
      | dialling cellId => exact .stay
      | finished result => exact .stay

/-- A pool changes in nothing but one caller and one cell. -/
structure ChangedAt (pool later : Pool Conn) (id : CallerId) (cellId : CellId) : Prop where
  closed : later.closed = pool.closed
  table : later.table = pool.table
  nextCell : later.nextCell = pool.nextCell
  others : ∀ other, other ≠ id -> later.callers.find? other = pool.callers.find? other
  cells : ∀ other, other ≠ cellId -> later.cell other = pool.cell other

theorem changedAt_setPhase
    (pool : Pool Conn)
    (id : CallerId)
    (name : String)
    (phase : CallerPhase Conn)
    (cellId : CellId) :
    pool.ChangedAt (pool.setPhase id name phase) id cellId :=
  ⟨rfl, rfl, rfl, fun _ different => find?_setPhase_of_ne _ different _ _, fun _ _ => rfl⟩

theorem changedAt_setCell_setPhase
    (pool : Pool Conn)
    (id : CallerId)
    (name : String)
    (phase : CallerPhase Conn)
    (cellId : CellId)
    (cell : Cell Conn) :
    pool.ChangedAt ((pool.setCell cellId cell).setPhase id name phase) id cellId where
  closed := rfl
  table := rfl
  nextCell := rfl
  others := fun _ different => find?_setPhase_of_ne _ different _ _
  cells := fun _ different => pool.cell_setCell_of_ne different cell

/-- A pool without one of its callers. -/
def forget (pool : Pool Conn) (id : CallerId) : Pool Conn :=
  { pool with callers := pool.callers.erase id }

@[simp] theorem find?_forget_self
    (pool : Pool Conn)
    (id : CallerId) :
    (pool.forget id).callers.find? id = none :=
  Assoc.find?_erase_self _ _

theorem changedAt_forget
    (pool : Pool Conn)
    (id : CallerId)
    (cellId : CellId) :
    pool.ChangedAt (pool.forget id) id cellId :=
  ⟨rfl, rfl, rfl, fun _ different => Assoc.find?_erase_of_ne _ different, fun _ _ => rfl⟩

theorem changedAt_forget_setCell
    (pool : Pool Conn)
    (id : CallerId)
    (cellId : CellId)
    (cell : Cell Conn) :
    pool.ChangedAt ((pool.forget id).setCell cellId cell) id cellId where
  closed := rfl
  table := rfl
  nextCell := rfl
  others := fun _ different => Assoc.find?_erase_of_ne _ different
  cells := fun _ different => (pool.forget id).cell_setCell_of_ne different cell

/-- Everything that the end of a dial can do. -/
inductive DialEnd (pool : Pool Conn) (id : CallerId) :
    Except Fault Conn -> Pool Conn -> List CallerId -> Prop where
  | stay {result}
      (idle : ∀ name cellId, pool.callers.find? id ≠ some ⟨name, .dialling cellId⟩) :
      DialEnd pool id result pool []
  | succeed {name cellId conn}
      (found : pool.callers.find? id = some ⟨name, .dialling cellId⟩) :
      DialEnd pool id (.ok conn)
        ((pool.setCell cellId ((pool.cell cellId).fill conn)).setPhase id name
          (.finished (.ok conn)))
        (pool.cell cellId).queue
  | fail {name cellId fault}
      (found : pool.callers.find? id = some ⟨name, .dialling cellId⟩) :
      DialEnd pool id (.error fault)
        ((pool.setCell cellId (pool.cell cellId).passTurn).setPhase id name
          (.finished (.error fault)))
        (pool.cell cellId).passTurn.turn.toList

theorem dialEnd_finishDial
    (pool : Pool Conn)
    (id : CallerId)
    (result : Except Fault Conn) :
    DialEnd pool id result (pool.finishDial id result).1 (pool.finishDial id result).2 := by
  unfold finishDial
  split
  · next name cellId found =>
      cases result with
      | ok conn => exact .succeed found
      | error fault => exact .fail found
  · next idle => exact .stay fun name cellId found => idle name cellId found

/-- Everything that forgetting a caller can do. -/
inductive Departure (pool : Pool Conn) (id : CallerId) : Pool Conn -> List CallerId -> Prop where
  | away
      (unplaced : ∀ caller, pool.callers.find? id = some caller -> caller.phase.place? = none) :
      Departure pool id (pool.forget id) []
  | pass {caller cellId}
      (found : pool.callers.find? id = some caller)
      (placed : caller.phase.place? = some cellId)
      (own : (pool.cell cellId).turn = some id) :
      Departure pool id ((pool.forget id).setCell cellId (pool.cell cellId).passTurn)
        (pool.cell cellId).passTurn.turn.toList
  | withdraw {caller cellId}
      (found : pool.callers.find? id = some caller)
      (placed : caller.phase.place? = some cellId)
      (foreign : (pool.cell cellId).turn ≠ some id) :
      Departure pool id
        ((pool.forget id).setCell cellId
          { pool.cell cellId with queue := (pool.cell cellId).queue.filter (· ≠ id) })
        []

theorem departure_abort
    (pool : Pool Conn)
    (id : CallerId) :
    Departure pool id (pool.abort id).1 (pool.abort id).2 := by
  unfold abort
  cases found : pool.callers.find? id with
  | none => exact .away fun caller present => by cases found.symm.trans present
  | some caller =>
      obtain ⟨name, phase⟩ := caller
      cases phase with
      | waiting cellId =>
          by_cases own : (pool.cell cellId).turn = some id
          · simpa [forget, own] using Departure.pass found rfl own
          · simpa [forget, own] using Departure.withdraw found rfl own
      | dialling cellId =>
          by_cases own : (pool.cell cellId).turn = some id
          · simpa [forget, own] using Departure.pass found rfl own
          · simpa [forget, own] using Departure.withdraw found rfl own
      | _ =>
          refine .away fun caller present => ?_
          rw [found, Option.some.injEq] at present
          rw [← present]
          rfl

/-! ## Callers and what they are told -/

section Callers

variable {pool later : Pool Conn} {id other : CallerId}

/-- A step of a caller leaves the others as they are. -/
theorem Move.others
    {progress : Progress}
    (moved : pool.Move id later progress)
    (different : other ≠ id) :
    later.callers.find? other = pool.callers.find? other := by
  cases moved with
  | stay => rfl
  | _ => exact find?_setPhase_of_ne _ different _ _

theorem DialEnd.others
    {result : Except Fault Conn}
    {woken : List CallerId}
    (ended : pool.DialEnd id result later woken)
    (different : other ≠ id) :
    later.callers.find? other = pool.callers.find? other := by
  cases ended with
  | stay idle => rfl
  | _ => exact find?_setPhase_of_ne _ different _ _

theorem Departure.callers
    {woken : List CallerId}
    (departed : pool.Departure id later woken) :
    later.callers = pool.callers.erase id := by
  cases departed with
  | _ => rfl

theorem find?_callers_abort_self
    (pool : Pool Conn)
    (id : CallerId) :
    (pool.abort id).1.callers.find? id = none := by
  rw [(pool.departure_abort id).callers]
  exact Assoc.find?_erase_self _ _

theorem find?_callers_abort_of_ne
    (pool : Pool Conn)
    (different : id ≠ other) :
    (pool.abort other).1.callers.find? id = pool.callers.find? id := by
  rw [(pool.departure_abort other).callers]
  exact Assoc.find?_erase_of_ne _ different

theorem result?_congr
    (same : later.callers.find? id = pool.callers.find? id) :
    later.result? id = pool.result? id := by
  rw [result?, result?, same]

/-- A caller is told something just when it has finished with it. -/
theorem eq_finished_of_told
    {name : String}
    {phase : CallerPhase Conn}
    {result : Except Fault Conn}
    (told : (pool.setPhase id name phase).result? id = some result) :
    phase = .finished result := by
  rw [result?, find?_setPhase_self] at told
  cases phase with
  | finished final => exact congrArg CallerPhase.finished (Option.some.inj told)
  | _ => cases told

theorem name_of_find?_setPhase
    {name : String}
    {phase : CallerPhase Conn}
    {caller : Caller Conn}
    (found : (pool.setPhase id name phase).callers.find? id = some caller) :
    caller.name = name := by
  rw [find?_setPhase_self, Option.some.injEq] at found
  rw [← found]

/-- A step of a caller leaves its name. -/
theorem Move.name
    {progress : Progress}
    (move : pool.Move id later progress)
    {caller : Caller Conn}
    (present : later.callers.find? id = some caller) :
    ∃ former, pool.callers.find? id = some former ∧ caller.name = former.name := by
  cases move with
  | stay => exact ⟨caller, present, rfl⟩
  | reject found isClosed => exact ⟨_, found, name_of_find?_setPhase present⟩
  | enter found isOpen => exact ⟨_, found, name_of_find?_setPhase present⟩
  | unknown found missing unreachable => exact ⟨_, found, name_of_find?_setPhase present⟩
  | miss found missing reachable => exact ⟨_, found, name_of_find?_setPhase present⟩
  | find found looking listed => exact ⟨_, found, name_of_find?_setPhase present⟩
  | list found missing => exact ⟨_, found, name_of_find?_setPhase present⟩
  | take found waits full => exact ⟨_, found, name_of_find?_setPhase present⟩
  | begin found vacant free => exact ⟨_, found, name_of_find?_setPhase present⟩
  | queue found vacant held => exact ⟨_, found, name_of_find?_setPhase present⟩
  | resume found vacant own => exact ⟨_, found, name_of_find?_setPhase present⟩

/-- A caller that begins to dial dials for its name. -/
theorem Move.dials
    {name : String}
    (move : pool.Move id later (.dial name)) :
    ∃ caller, pool.callers.find? id = some caller ∧ caller.name = name := by
  cases move with
  | begin found vacant free => exact ⟨_, found, rfl⟩
  | resume found vacant own => exact ⟨_, found, rfl⟩

/-- A step of a caller refuses it only because the pool is closed or because its name is not
known. -/
theorem Move.refused
    {progress : Progress}
    (move : pool.Move id later progress)
    {fault : Fault}
    (told : later.result? id = some (.error fault)) :
    pool.result? id = some (.error fault) ∨
      ∃ caller, pool.callers.find? id = some caller ∧
        (fault = closedFault caller.name ∨ fault = .unknownService caller.name) := by
  cases move with
  | stay => exact .inl told
  | reject found isClosed =>
      cases eq_finished_of_told told
      exact .inr ⟨_, found, .inl rfl⟩
  | unknown found missing unreachable =>
      cases eq_finished_of_told told
      exact .inr ⟨_, found, .inr rfl⟩
  | _ => cases eq_finished_of_told told

/-- The end of a dial leaves the name of its caller. -/
theorem DialEnd.name
    {result : Except Fault Conn}
    {woken : List CallerId}
    (ends : pool.DialEnd id result later woken)
    {caller : Caller Conn}
    (present : later.callers.find? id = some caller) :
    ∃ former, pool.callers.find? id = some former ∧ caller.name = former.name := by
  cases ends with
  | stay idle => exact ⟨caller, present, rfl⟩
  | succeed found => exact ⟨_, found, name_of_find?_setPhase present⟩
  | fail found => exact ⟨_, found, name_of_find?_setPhase present⟩

/-- The end of a dial tells its caller how it ended. -/
theorem DialEnd.told
    {result final : Except Fault Conn}
    {woken : List CallerId}
    (ends : pool.DialEnd id result later woken)
    (told : later.result? id = some final) :
    pool.result? id = some final ∨ final = result := by
  cases ends with
  | stay idle => exact .inl told
  | succeed found =>
      cases eq_finished_of_told told
      exact .inr rfl
  | fail found =>
      cases eq_finished_of_told told
      exact .inr rfl

@[simp] theorem callers_close (pool : Pool Conn) : pool.close.callers = pool.callers := by
  unfold close
  split
  · rfl
  · rfl

end Callers

end Pool

end MallFabric
