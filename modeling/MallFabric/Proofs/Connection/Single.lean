import MallFabric.Proofs.Connection.Turn
import MallFabric.Proofs.Assoc

/-!
# One connection for each name

Until a pool is closed, the callers of a name all meet at one cell.  One of
them at a time dials, one dial at most succeeds, and everybody who gets a
connection gets that one.  A dial that fails or is given up costs only its
caller: the caller that has waited longest dials next, or whoever comes later.
-/

namespace MallFabric

variable {Conn : Type}

namespace Pool

/-- A caller dials for a name. -/
def DialsFor (pool : Pool Conn) (id : CallerId) (name : String) : Prop :=
  ∃ cellId, pool.callers.find? id = some ⟨name, .dialling cellId⟩

/-- A caller waits for the connection of a name. -/
def WaitsFor (pool : Pool Conn) (id : CallerId) (name : String) : Prop :=
  ∃ cellId, pool.callers.find? id = some ⟨name, .waiting cellId⟩

/-- The callers that stand in line for a name, longest first. -/
def waiters (pool : Pool Conn) (name : String) : List CallerId :=
  match pool.table.find? name with
  | some cellId => (pool.cell cellId).line
  | none => []

/-- Whoever is next for a name dials anew: the first in line, and if nobody is in
line every caller that has no result yet. -/
structure Redials (pool : Pool Conn) (name : String) : Prop where
  waiters : ∀ id, pool.WaitsFor id name ↔ id ∈ pool.waiters name
  first : ∀ next, (pool.waiters name).head? = some next -> (pool.step next).2 = .dial name
  newcomer : pool.waiters name = [] -> ∀ id phase,
    pool.callers.find? id = some ⟨name, phase⟩ -> (∀ result, phase ≠ .finished result) ->
      (advance id stepBound pool).2 = some name

section Newcomer

variable {pool : Pool Conn} {id : CallerId} {name : String} {cellId : CellId}

/-- A caller at a cell that is free and empty dials. -/
theorem advance_joining
    (fuel : Nat)
    (found : pool.callers.find? id = some ⟨name, .joining cellId⟩)
    (empty : (pool.cell cellId).value = none)
    (free : (pool.cell cellId).turn = none) :
    (advance id (fuel + 1) pool).2 = some name := by
  simp [advance, step, found, join, empty, free]

theorem advance_looking
    (fuel : Nat)
    {phase : CallerPhase Conn}
    (found : pool.callers.find? id = some ⟨name, phase⟩)
    (looking : phase = .admitted ∨ phase = .unlisted)
    (listed : pool.table.find? name = some cellId)
    (empty : (pool.cell cellId).value = none)
    (free : (pool.cell cellId).turn = none) :
    (advance id (fuel + 2) pool).2 = some name := by
  have came : pool.step id = (pool.setPhase id name (.joining cellId), .moved) := by
    rcases looking with rfl | rfl
    · simp [step, found, listed]
    · simp [step, found, listed]
  rw [advance, came]
  exact advance_joining fuel (find?_setPhase_self ..) empty free

theorem advance_arriving
    (fuel : Nat)
    (isOpen : pool.closed = false)
    (found : pool.callers.find? id = some ⟨name, .arriving⟩)
    (listed : pool.table.find? name = some cellId)
    (empty : (pool.cell cellId).value = none)
    (free : (pool.cell cellId).turn = none) :
    (advance id (fuel + 3) pool).2 = some name := by
  have came : pool.step id = (pool.setPhase id name .admitted, .moved) := by
    simp [step, found, isOpen]
  rw [advance, came]
  exact advance_looking fuel (find?_setPhase_self ..) (Or.inl rfl) listed empty free

end Newcomer

end Pool

namespace PoolRun

/-- Callers have met for a name, but nobody dials for it and nothing was opened. -/
structure Vacant (run : PoolRun Conn) (name : String) : Prop where
  listed : run.pool.table.contains name = true
  unopened : name ∉ run.opened.map Prod.fst
  undialled : ∀ id, ¬ run.pool.DialsFor id name

/-- A caller is where its name leads to, and has what was opened for it. -/
def Placed (run : PoolRun Conn) (caller : Caller Conn) : Prop :=
  (∀ cellId, caller.phase.cell? = some cellId ->
      run.pool.table.find? caller.name = some cellId) ∧
    ∀ conn, caller.phase = .finished (.ok conn) -> (caller.name, conn) ∈ run.opened

theorem placed_elsewhere
    {run : PoolRun Conn}
    {name : String}
    {phase : CallerPhase Conn}
    (nowhere : phase.cell? = none)
    (unserved : ∀ conn, phase ≠ .finished (.ok conn)) :
    run.Placed ⟨name, phase⟩ := by
  refine ⟨fun cellId reached => ?_, fun conn done => absurd done (unserved conn)⟩
  cases nowhere.symm.trans reached

/-- Each name has one cell, and what was opened for it is there. -/
structure Single (run : PoolRun Conn) : Prop where
  orderly : run.pool.Orderly
  isOpen : run.pool.closed = false
  table_injective : ∀ name other cellId, run.pool.table.find? name = some cellId ->
    run.pool.table.find? other = some cellId -> name = other
  placed : ∀ id caller, run.pool.callers.find? id = some caller -> run.Placed caller
  opened_iff : ∀ name conn, (name, conn) ∈ run.opened ↔
    ∃ cellId, run.pool.table.find? name = some cellId ∧
      (run.pool.cell cellId).value = some conn
  opened_nodup : (run.opened.map Prod.fst).Nodup

namespace Single

variable {run : PoolRun Conn} {id : CallerId} {later : Pool Conn}

theorem start (endpoints : List Endpoint) (discovers : Bool) :
    (PoolRun.start endpoints discovers : PoolRun Conn).Single where
  orderly := Pool.Orderly.new endpoints discovers
  isOpen := rfl
  table_injective := fun _ _ _ listed => by cases listed
  placed := fun _ _ found => by cases found
  opened_iff := by
    intro name conn
    constructor
    · exact fun present => by cases present
    · rintro ⟨cellId, listed, -⟩
      cases listed
  opened_nodup := List.nodup_nil

/-- A change that gives no connection and takes none away. -/
theorem keep
    (single : run.Single)
    (orderly : later.Orderly)
    {cellId : CellId}
    (changed : run.pool.ChangedAt later id cellId)
    (value : (later.cell cellId).value = (run.pool.cell cellId).value)
    (own : ∀ caller, later.callers.find? id = some caller -> run.Placed caller) :
    Single { run with pool := later } := by
  have values : ∀ other, (later.cell other).value = (run.pool.cell other).value := by
    intro other
    by_cases same : other = cellId
    · rw [same, value]
    · rw [changed.cells other same]
  refine ⟨orderly, changed.closed.trans single.isOpen, ?_, ?_, ?_, single.opened_nodup⟩
  · intro name other again listed otherListed
    rw [changed.table] at listed otherListed
    exact single.table_injective name other again listed otherListed
  · intro other caller found
    have placed : run.Placed caller := by
      by_cases same : other = id
      · exact own caller (same ▸ found)
      · exact single.placed other caller (changed.others other same ▸ found)
    refine ⟨fun again reached => ?_, placed.2⟩
    rw [changed.table]
    exact placed.1 again reached
  · intro name conn
    simp only [changed.table, values]
    exact single.opened_iff name conn

/-- A name without a cell gets one of its own. -/
theorem list
    (single : run.Single)
    {name : String}
    (missing : run.pool.table.find? name = none) :
    Single { run with pool := run.pool.list name } := by
  have orderly := single.orderly
  have listed : ∀ other cellId, (run.pool.list name).table.find? other = some cellId ↔
      (other = name ∧ cellId = run.pool.nextCell) ∨
        run.pool.table.find? other = some cellId := by
    intro other cellId
    by_cases same : other = name
    · simp [Pool.list, same, Assoc.find?_insert_self, missing, eq_comm]
    · simp [Pool.list, same, Assoc.find?_insert_of_ne _ _ same]
  refine ⟨orderly.list name, single.isOpen, ?_, ?_, ?_, single.opened_nodup⟩
  · intro first second cellId firstListed secondListed
    rw [listed] at firstListed secondListed
    rcases firstListed with ⟨rfl, rfl⟩ | firstOld
    · rcases secondListed with ⟨rfl, -⟩ | secondOld
      · rfl
      · exact absurd (orderly.listed_lt second _ secondOld) (Nat.lt_irrefl _)
    · rcases secondListed with ⟨rfl, rfl⟩ | secondOld
      · exact absurd (orderly.listed_lt first _ firstOld) (Nat.lt_irrefl _)
      · exact single.table_injective first second cellId firstOld secondOld
  · intro id caller found
    have placed := single.placed id caller found
    refine ⟨fun cellId reached => ?_, placed.2⟩
    rw [listed]
    exact Or.inr (placed.1 cellId reached)
  · intro other conn
    rw [single.opened_iff]
    constructor
    · rintro ⟨cellId, old, full⟩
      exact ⟨cellId, (listed other cellId).mpr (Or.inr old), orderly.cell_list name cellId ▸ full⟩
    · rintro ⟨cellId, listedNow, full⟩
      rw [orderly.cell_list] at full
      rcases (listed other cellId).mp listedNow with ⟨-, rfl⟩ | old
      · rw [orderly.beyond _ (Nat.le_refl _)] at full
        cases full
      · exact ⟨cellId, old, full⟩

/-- A caller that goes on without a connection. -/
theorem setPhase
    (single : run.Single)
    {name : String}
    {phase : CallerPhase Conn}
    (orderly : (run.pool.setPhase id name phase).Orderly)
    (placed : run.Placed ⟨name, phase⟩) :
    Single { run with pool := run.pool.setPhase id name phase } := by
  refine single.keep orderly (run.pool.changedAt_setPhase id name phase 0) rfl ?_
  intro caller found
  rw [Pool.find?_setPhase_self, Option.some.injEq] at found
  exact found ▸ placed

/-- A caller that goes on without a connection and leaves that of a cell alone. -/
theorem setCell_setPhase
    (single : run.Single)
    {name : String}
    {phase : CallerPhase Conn}
    {cellId : CellId}
    {cell : Cell Conn}
    (orderly : ((run.pool.setCell cellId cell).setPhase id name phase).Orderly)
    (value : cell.value = (run.pool.cell cellId).value)
    (placed : run.Placed ⟨name, phase⟩) :
    Single { run with pool := (run.pool.setCell cellId cell).setPhase id name phase } := by
  refine single.keep orderly (run.pool.changedAt_setCell_setPhase ..) ?_ ?_
  · rw [Pool.cell_setPhase, Pool.cell_setCell_self, value]
  · intro caller found
    rw [Pool.find?_setPhase_self, Option.some.injEq] at found
    exact found ▸ placed

/-- A step of a caller keeps to one connection. -/
theorem move
    (single : run.Single)
    {progress : Pool.Progress}
    (moved : run.pool.Move id later progress) :
    Single { run with pool := later } := by
  have orderly := single.orderly.move moved
  cases moved with
  | stay => exact single
  | reject found isClosed =>
      exact single.setPhase orderly (placed_elsewhere rfl fun _ done => by cases done)
  | enter found isOpen =>
      exact single.setPhase orderly (placed_elsewhere rfl fun _ done => by cases done)
  | unknown found missing unreachable =>
      exact single.setPhase orderly (placed_elsewhere rfl fun _ done => by cases done)
  | miss found missing reachable =>
      exact single.setPhase orderly (placed_elsewhere rfl fun _ done => by cases done)
  | find found looking listed =>
      refine single.setPhase orderly ⟨fun other reached => ?_, fun _ done => by cases done⟩
      cases reached
      exact listed
  | @list name found missing =>
      refine (single.list missing).setPhase orderly
        ⟨fun other reached => ?_, fun _ done => by cases done⟩
      cases reached
      exact Assoc.find?_insert_self _ _ _
  | @take name phase cellId conn found present full =>
      refine single.setPhase orderly ⟨(fun _ reached => by cases reached), fun again done => ?_⟩
      cases done
      have listed : run.pool.table.find? name = some cellId := by
        refine (single.placed id _ found).1 cellId ?_
        rcases present with rfl | rfl
        · rfl
        · rfl
      exact (single.opened_iff name conn).mpr ⟨cellId, listed, full⟩
  | @begin name cellId found vacant free =>
      have placed := (single.placed id _ found).1
      exact single.setCell_setPhase orderly rfl ⟨placed, fun _ done => by cases done⟩
  | @queue name cellId holder found vacant held =>
      have placed := (single.placed id _ found).1
      exact single.setCell_setPhase orderly rfl ⟨placed, fun _ done => by cases done⟩
  | @resume name cellId found vacant own =>
      exact single.setPhase orderly ⟨(single.placed id _ found).1, fun _ done => by cases done⟩

/-- Nothing was opened for a name exactly if its cell is empty. -/
theorem unopened_iff
    (single : run.Single)
    {name : String}
    {cellId : CellId}
    (listed : run.pool.table.find? name = some cellId) :
    name ∉ run.opened.map Prod.fst ↔ (run.pool.cell cellId).value = none := by
  constructor
  · intro unopened
    cases full : (run.pool.cell cellId).value with
    | none => rfl
    | some conn =>
        have opened := (single.opened_iff name conn).mpr ⟨cellId, listed, full⟩
        exact absurd (List.mem_map_of_mem opened) unopened
  · intro vacant present
    obtain ⟨⟨other, conn⟩, opened, equal⟩ := List.mem_map.mp present
    cases equal
    obtain ⟨otherCell, otherListed, full⟩ := (single.opened_iff other conn).mp opened
    rw [listed, Option.some.injEq] at otherListed
    rw [← otherListed, vacant] at full
    cases full

/-- Where somebody dials, there is no connection yet. -/
theorem vacant_of_dialling
    (single : run.Single)
    {name : String}
    {cellId : CellId}
    (found : run.pool.callers.find? id = some ⟨name, .dialling cellId⟩) :
    (run.pool.cell cellId).value = none := by
  have order := single.orderly.order cellId
  have turn := order.dials_turn id ⟨name, found⟩
  exact order.value_of_mem_line (((run.pool.cell cellId).mem_line id).mpr (Or.inl turn))

/-- The callers of a name are at its cell. -/
theorem cell_eq
    (single : run.Single)
    {name : String}
    {cellId other : CellId}
    (listed : run.pool.table.find? name = some cellId)
    {phase : CallerPhase Conn}
    (found : run.pool.callers.find? id = some ⟨name, phase⟩)
    (reached : phase.cell? = some other) :
    other = cellId := by
  have otherListed := (single.placed id _ found).1 other reached
  rw [listed, Option.some.injEq] at otherListed
  exact otherListed.symm

/-- The only dial for a name that succeeds is the one that nothing was opened
before. -/
theorem succeed
    (single : run.Single)
    {name : String}
    {cellId : CellId}
    (found : run.pool.callers.find? id = some ⟨name, .dialling cellId⟩)
    (conn : Conn) :
    Single
      ⟨(run.pool.setCell cellId ((run.pool.cell cellId).fill conn)).setPhase id name
          (.finished (.ok conn)),
        run.opened ++ [(name, conn)]⟩ := by
  have listed : run.pool.table.find? name = some cellId := (single.placed id _ found).1 cellId rfl
  have vacant := single.vacant_of_dialling found
  refine ⟨single.orderly.dialEnd (.succeed found), single.isOpen, single.table_injective,
    ?_, ?_, ?_⟩
  · intro other caller refound
    by_cases same : other = id
    · rw [same, Pool.find?_setPhase_self, Option.some.injEq] at refound
      subst refound
      refine ⟨(fun _ reached => by cases reached), fun again done => ?_⟩
      cases done
      exact List.mem_append_right _ (List.mem_singleton_self _)
    · rw [Pool.find?_setPhase_of_ne _ same] at refound
      have placed := single.placed other caller refound
      exact ⟨placed.1, fun again done => List.mem_append_left _ (placed.2 again done)⟩
  · intro other again
    rw [List.mem_append, List.mem_singleton, single.opened_iff]
    constructor
    · rintro (⟨otherCell, otherListed, full⟩ | equal)
      · have different : otherCell ≠ cellId := by
          rintro rfl
          cases vacant.symm.trans full
        refine ⟨otherCell, otherListed, ?_⟩
        rw [Pool.cell_setPhase, Pool.cell_setCell_of_ne _ different]
        exact full
      · cases equal
        refine ⟨cellId, listed, ?_⟩
        rw [Pool.cell_setPhase, Pool.cell_setCell_self]
        rfl
    · rintro ⟨otherCell, otherListed, full⟩
      rw [Pool.cell_setPhase] at full
      by_cases same : otherCell = cellId
      · subst same
        rw [Pool.cell_setCell_self] at full
        cases full
        rw [single.table_injective other name otherCell otherListed listed]
        exact Or.inr rfl
      · rw [Pool.cell_setCell_of_ne _ same] at full
        exact Or.inl ⟨otherCell, otherListed, full⟩
  · have fresh : name ∉ run.opened.map Prod.fst := (single.unopened_iff listed).mpr vacant
    rw [List.map_append]
    exact List.Nodup.append single.opened_nodup (List.nodup_singleton name) (by simpa using fresh)

/-- The end of a dial keeps to one connection. -/
theorem dialEnd
    (single : run.Single)
    {result : Except Fault Conn}
    {woken : List CallerId}
    (ended : run.pool.DialEnd id result later woken) :
    Single ⟨later, run.opened ++ run.pool.opens id result⟩ := by
  cases ended with
  | stay idle =>
      have nothing : run.pool.opens id result = [] := by
        unfold Pool.opens
        split
        · next name cellId conn found => exact absurd found (idle name cellId)
        · rfl
      rw [nothing, List.append_nil]
      exact single
  | @succeed name cellId conn found =>
      have opened : run.pool.opens id (.ok conn) = [(name, conn)] := by
        simp [Pool.opens, found]
      rw [opened]
      exact single.succeed found conn
  | @fail name cellId fault found =>
      have nothing : run.pool.opens id (.error fault) = [] := by
        simp [Pool.opens]
      rw [nothing, List.append_nil]
      exact single.setCell_setPhase (single.orderly.dialEnd (.fail found)) (Cell.value_passTurn _)
        (placed_elsewhere rfl fun _ done => by cases done)

/-- Forgetting a caller keeps to one connection. -/
theorem departure
    (single : run.Single)
    {woken : List CallerId}
    (departed : run.pool.Departure id later woken) :
    Single { run with pool := later } := by
  have orderly := single.orderly.departure departed
  have gone : ∀ caller, (run.pool.forget id).callers.find? id = some caller -> run.Placed caller :=
    fun _ refound => by cases (run.pool.find?_forget_self id).symm.trans refound
  cases departed with
  | away unplaced => exact single.keep orderly (run.pool.changedAt_forget id 0) rfl gone
  | @pass caller cellId found placed own =>
      refine single.keep orderly (run.pool.changedAt_forget_setCell ..) ?_ gone
      rw [Pool.cell_setCell_self, Cell.value_passTurn]
  | @withdraw caller cellId found placed foreign =>
      refine single.keep orderly (run.pool.changedAt_forget_setCell ..) ?_ gone
      rw [Pool.cell_setCell_self]

/-- Every event but those that close the pool keeps to one connection. -/
theorem step
    (single : run.Single)
    {event : PoolEvent Conn}
    (open_ : event.closes = false) :
    (run.step event).Single := by
  cases event with
  | arrive id name =>
      cases known : run.pool.callers.find? id with
      | some caller => simpa [PoolRun.step, Assoc.contains, known] using single
      | none =>
          have arrived := single.setPhase (single.orderly.arrive known name)
            (placed_elsewhere rfl fun _ done => by cases done)
          simpa [PoolRun.step, Assoc.contains, known, Pool.arrive] using arrived
  | step id => exact single.move (run.pool.move_step id)
  | finish id result => exact single.dialEnd (run.pool.dialEnd_finishDial id result)
  | abort id => exact single.departure (run.pool.departure_abort id)
  | markClosed => cases open_
  | clearTable => cases open_

theorem after
    (endpoints : List Endpoint)
    (discovers : Bool)
    {events : List (PoolEvent Conn)}
    (open_ : ∀ event ∈ events, event.closes = false) :
    (PoolRun.after endpoints discovers events).Single := by
  suffices kept : ∀ run : PoolRun Conn, run.Single -> (events.foldl PoolRun.step run).Single by
    exact kept _ (start endpoints discovers)
  induction events with
  | nil => exact fun _ single => single
  | cons event rest inductionHypothesis =>
      intro run single
      exact inductionHypothesis (fun later inRest => open_ later (List.mem_cons_of_mem _ inRest))
        _ (single.step (open_ event List.mem_cons_self))

/-- The caller that dials for a name is the one that has the turn at its cell. -/
theorem turn_of_dialsFor
    (single : run.Single)
    {name : String}
    (dials : run.pool.DialsFor id name) :
    ∃ cellId, run.pool.callers.find? id = some ⟨name, .dialling cellId⟩ ∧
      run.pool.table.find? name = some cellId ∧
      (run.pool.cell cellId).turn = some id := by
  obtain ⟨cellId, found⟩ := dials
  exact ⟨cellId, found, (single.placed id _ found).1 cellId rfl,
    (single.orderly.order cellId).dials_turn id ⟨name, found⟩⟩

theorem dialsFor_unique
    (single : run.Single)
    {name : String}
    {other : CallerId}
    (dials : run.pool.DialsFor id name)
    (otherDials : run.pool.DialsFor other name) :
    id = other := by
  obtain ⟨cellId, -, listed, turn⟩ := single.turn_of_dialsFor dials
  obtain ⟨otherCell, -, otherListed, otherTurn⟩ := single.turn_of_dialsFor otherDials
  rw [listed, Option.some.injEq] at otherListed
  rw [← otherListed, turn, Option.some.injEq] at otherTurn
  exact otherTurn

/-- While somebody dials for a name, nothing was opened for it. -/
theorem unopened_of_dialsFor
    (single : run.Single)
    {name : String}
    (dials : run.pool.DialsFor id name) :
    name ∉ run.opened.map Prod.fst := by
  obtain ⟨cellId, found, listed, -⟩ := single.turn_of_dialsFor dials
  rw [single.unopened_iff listed]
  exact single.vacant_of_dialling found

/-- A name whose dial ends without success is vacant. -/
theorem vacant_of_leaving
    (single : run.Single)
    {name : String}
    (dials : run.pool.DialsFor id name)
    {cellId : CellId}
    (changed : run.pool.ChangedAt later id cellId)
    (gone : ¬ later.DialsFor id name) :
    Vacant { run with pool := later } name := by
  refine ⟨?_, single.unopened_of_dialsFor dials, ?_⟩
  · obtain ⟨own, -, listed, -⟩ := single.turn_of_dialsFor dials
    simp only [Assoc.contains, changed.table, listed, Option.isSome_some]
  · rintro other otherDials
    by_cases same : other = id
    · exact gone (same ▸ otherDials)
    · obtain ⟨otherCell, found⟩ := otherDials
      rw [changed.others other same] at found
      exact same (single.dialsFor_unique ⟨otherCell, found⟩ dials)

/-- A dial that fails leaves its name vacant. -/
theorem vacant_fail
    (single : run.Single)
    {name : String}
    (dials : run.pool.DialsFor id name)
    (fault : Fault) :
    (run.step (.finish id (.error fault))).Vacant name := by
  have nothing : run.pool.opens id (.error fault) = [] := by
    simp [Pool.opens]
  obtain ⟨cellId, found⟩ := dials
  simp only [PoolRun.step, nothing, List.append_nil, Pool.finishDial, found]
  refine single.vacant_of_leaving ⟨cellId, found⟩ (run.pool.changedAt_setCell_setPhase ..) ?_
  rintro ⟨again, refound⟩
  cases Pool.phase_of_find?_setPhase refound

/-- A dial whose caller is forgotten leaves its name vacant. -/
theorem vacant_abort
    (single : run.Single)
    {name : String}
    (dials : run.pool.DialsFor id name) :
    (run.step (.abort id)).Vacant name := by
  obtain ⟨cellId, found, -, turn⟩ := single.turn_of_dialsFor dials
  simp only [PoolRun.step, Pool.abort, found, turn, if_true]
  refine single.vacant_of_leaving ⟨cellId, found⟩ (run.pool.changedAt_forget_setCell ..) ?_
  rintro ⟨again, refound⟩
  cases (run.pool.find?_forget_self id).symm.trans refound

/-! ## A name without a connection -/

section Vacant

variable {name : String} {cellId : CellId}

/-- A vacant name has an empty cell. -/
theorem value_of_vacant
    (single : run.Single)
    (vacant : run.Vacant name)
    (listed : run.pool.table.find? name = some cellId) :
    (run.pool.cell cellId).value = none :=
  (single.unopened_iff listed).mp vacant.unopened

/-- Everybody in line for a vacant name waits there. -/
theorem found_of_mem_line
    (single : run.Single)
    (vacant : run.Vacant name)
    (listed : run.pool.table.find? name = some cellId)
    (present : id ∈ (run.pool.cell cellId).line) :
    run.pool.callers.find? id = some ⟨name, .waiting cellId⟩ := by
  rcases (single.orderly.order cellId).line_present id present with ⟨other, found⟩ | ⟨other, found⟩
  · have otherListed := (single.placed id _ found).1 cellId rfl
    rw [single.table_injective other name cellId otherListed listed] at found
    exact absurd ⟨cellId, found⟩ (vacant.undialled id)
  · have otherListed := (single.placed id _ found).1 cellId rfl
    rw [single.table_injective other name cellId otherListed listed] at found
    exact found

/-- Those who wait for a vacant name are those in line at its cell. -/
theorem waitsFor_iff
    (single : run.Single)
    (vacant : run.Vacant name)
    (listed : run.pool.table.find? name = some cellId) :
    run.pool.WaitsFor id name ↔ id ∈ (run.pool.cell cellId).line := by
  constructor
  · rintro ⟨other, found⟩
    have same := single.cell_eq listed found rfl
    subst same
    have served := (single.orderly.order other).waits_served id ⟨name, found⟩
    simpa [single.value_of_vacant vacant listed] using served
  · exact fun present => ⟨cellId, single.found_of_mem_line vacant listed present⟩

/-- The first in line for a vacant name dials. -/
theorem first_dials
    (single : run.Single)
    (vacant : run.Vacant name)
    (listed : run.pool.table.find? name = some cellId)
    {next : CallerId}
    (first : (run.pool.cell cellId).line.head? = some next) :
    (run.pool.step next).2 = .dial name := by
  have found := single.found_of_mem_line vacant listed (List.mem_of_head? first)
  have empty := single.value_of_vacant vacant listed
  have turn := Cell.turn_of_head?_line (single.orderly.order cellId).queue_nil first
  simp [Pool.step, found, Pool.resume, empty, turn]

/-- If nobody is in line for a vacant name, whoever comes for it dials. -/
theorem newcomer_dials
    (single : run.Single)
    (vacant : run.Vacant name)
    (listed : run.pool.table.find? name = some cellId)
    (nobody : (run.pool.cell cellId).line = [])
    {phase : CallerPhase Conn}
    (found : run.pool.callers.find? id = some ⟨name, phase⟩)
    (unfinished : ∀ result, phase ≠ .finished result) :
    (Pool.advance id Pool.stepBound run.pool).2 = some name := by
  have empty := single.value_of_vacant vacant listed
  have free := Cell.turn_of_line_eq_nil nobody
  cases phase with
  | arriving => exact Pool.advance_arriving 5 single.isOpen found listed empty free
  | admitted => exact Pool.advance_looking 6 found (Or.inl rfl) listed empty free
  | unlisted => exact Pool.advance_looking 6 found (Or.inr rfl) listed empty free
  | joining other =>
      have same := single.cell_eq listed found rfl
      exact Pool.advance_joining 7 (same ▸ found) empty free
  | waiting other =>
      have inLine := (single.waitsFor_iff vacant listed).mp ⟨other, found⟩
      rw [nobody] at inLine
      cases inLine
  | dialling other => exact absurd ⟨other, found⟩ (vacant.undialled id)
  | finished result => exact absurd rfl (unfinished result)

/-- Whoever is next for a vacant name dials anew. -/
theorem redials
    (single : run.Single)
    (vacant : run.Vacant name) :
    run.pool.Redials name := by
  obtain ⟨cellId, listed⟩ := Option.isSome_iff_exists.mp vacant.listed
  have waiters : run.pool.waiters name = (run.pool.cell cellId).line := by
    simp [Pool.waiters, listed]
  refine ⟨?_, ?_, ?_⟩
  · intro id
    rw [waiters]
    exact single.waitsFor_iff vacant listed
  · intro next first
    rw [waiters] at first
    exact single.first_dials vacant listed first
  · intro nobody id phase found unfinished
    rw [waiters] at nobody
    exact single.newcomer_dials vacant listed nobody found unfinished

end Vacant

end Single

/-- What the callers of a pool can rely on, whatever they do together. -/
structure OneConnectionEach (run : PoolRun Conn) : Prop where
  /-- At most one caller dials for a name. -/
  oneDial : ∀ name first second, run.pool.DialsFor first name ->
    run.pool.DialsFor second name -> first = second
  /-- At most one dial for a name has ever succeeded. -/
  oneSuccess : (run.opened.map Prod.fst).Nodup
  /-- Everybody who has got a connection has got the one that was opened. -/
  oneResult : ∀ id name conn,
    run.pool.callers.find? id = some ⟨name, .finished (.ok conn)⟩ -> (name, conn) ∈ run.opened
  /-- After a dial that fails, whoever is next dials anew. -/
  failure : ∀ id name fault, run.pool.DialsFor id name ->
    (run.step (.finish id (.error fault))).Vacant name ∧
      (run.step (.finish id (.error fault))).pool.Redials name
  /-- After a dial whose caller is forgotten, whoever is next dials anew. -/
  abort : ∀ id name, run.pool.DialsFor id name ->
    (run.step (.abort id)).Vacant name ∧ (run.step (.abort id)).pool.Redials name
  /-- This stays so until somebody dials. -/
  vacancy : ∀ name, run.Vacant name -> run.pool.Redials name

/-- In every run in which the pool is not closed, the callers of a name share
one connection. -/
theorem oneConnectionEach_after
    (endpoints : List Endpoint)
    (discovers : Bool)
    {events : List (PoolEvent Conn)}
    (unclosed : ∀ event ∈ events, event.closes = false) :
    (after endpoints discovers events).OneConnectionEach := by
  have single := Single.after endpoints discovers unclosed
  refine ⟨?_, single.opened_nodup, ?_, ?_, ?_, ?_⟩
  · exact fun name first second dials otherDials => single.dialsFor_unique dials otherDials
  · exact fun id name conn found => (single.placed id _ found).2 conn rfl
  · intro id name fault dials
    have vacant := single.vacant_fail dials fault
    have failed : ((after endpoints discovers events).step (.finish id (.error fault))).Single :=
      single.step rfl
    exact ⟨vacant, failed.redials vacant⟩
  · intro id name dials
    have vacant := single.vacant_abort dials
    have aborted : ((after endpoints discovers events).step (.abort id)).Single :=
      single.step rfl
    exact ⟨vacant, aborted.redials vacant⟩
  · exact fun name vacant => single.redials vacant

/-- Three callers of one name: the first dial fails, the second is given up, the
third succeeds. -/
def thirdTime : List (PoolEvent Nat) :=
  [.arrive 0 "cart", .arrive 1 "cart", .arrive 2 "cart"] ++
    (List.replicate 4 [.step 0, .step 1, .step 2]).flatten ++
    [.finish 0 (.error .cancelled), .step 1, .abort 1, .step 2, .finish 2 (.ok 7)]

theorem oneConnectionEach_thirdTime :
    (∀ event ∈ thirdTime, event.closes = false) ∧
      (after [⟨"cart", "localhost:1"⟩] false thirdTime).opened = [("cart", 7)] ∧
      (after [⟨"cart", "localhost:1"⟩] false thirdTime).OneConnectionEach :=
  ⟨by decide, by decide, oneConnectionEach_after _ _ (by decide)⟩

end PoolRun
end MallFabric
