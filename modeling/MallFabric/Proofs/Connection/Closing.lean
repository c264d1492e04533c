import MallFabric.Proofs.Assoc
import MallFabric.Proofs.Connection.Turn

/-!
# Closed pools

A pool looks at whether it is closed only when a caller arrives.  Whoever comes
to a closed pool is refused, and closing again changes nothing.  But callers that
were let in before go on: they may list their names anew, and those that wait for
a connection dial when the dial before them fails or is given up.  So closing is
final exactly if nobody is on the way at that time.
-/

namespace MallFabric

variable {Conn : Type}

namespace Pool

/-- A caller that was let in has yet to get a connection and does not dial itself. -/
def OnTheWay (pool : Pool Conn) (caller : Caller Conn) : Prop :=
  match caller.phase with
  | .arriving => False
  | .admitted => pool.table.contains caller.name = true ∨
      pool.endpoints.contains caller.name = true ∨ pool.discovers = true
  | .unlisted => True
  | .joining cellId => (pool.cell cellId).value = none
  | .waiting cellId => (pool.cell cellId).value = none
  | .dialling _ => False
  | .finished _ => False

/-- Nobody is on the way, and the table has neither connections nor dials for any. -/
structure Settled (pool : Pool Conn) : Prop where
  nobody : ∀ id caller, pool.callers.find? id = some caller -> ¬ pool.OnTheWay caller
  empty : ∀ entry ∈ pool.table, (pool.cell entry.2).value = none
  undialled : ∀ entry ∈ pool.table, ∀ id, ¬ Dials pool.callers id entry.2

theorem connected_eq_nil_iff
    (pool : Pool Conn) :
    pool.connected = [] ↔ ∀ entry ∈ pool.table, (pool.cell entry.2).value = none := by
  have nothing : pool.connected = [] ↔
      (pool.table.filter fun entry => (pool.cell entry.2).value.isSome) = [] := by
    rw [← List.length_eq_zero_iff, connected, List.length_mergeSort, List.length_map,
      List.length_eq_zero_iff]
  rw [nothing, List.filter_eq_nil_iff]
  simp

end Pool

namespace PoolRun

/-- A run goes on. -/
def resume (run : PoolRun Conn) (events : List (PoolEvent Conn)) : PoolRun Conn :=
  events.foldl step run

/-- The name for which an event begins a dial. -/
def begun? (run : PoolRun Conn) : PoolEvent Conn -> Option String
  | .step id =>
      match (run.pool.step id).2 with
      | .dial name => some name
      | _ => none
  | _ => none

/-- The names for which dials begin as a run goes on, in order. -/
def begun (run : PoolRun Conn) : List (PoolEvent Conn) -> List String
  | [] => []
  | event :: rest => (run.begun? event).toList ++ (run.step event).begun rest

/-- No dial begins any more, and no connection is held. -/
def IsFinal (run : PoolRun Conn) : Prop :=
  ∀ more, run.begun more = [] ∧ (run.resume more).pool.connected = []

/-- What can be relied on when a pool is closed. -/
structure ClosedFor (run : PoolRun Conn) : Prop where
  /-- Whoever comes later gets no further than to be refused. -/
  latecomers : ∀ more id caller, run.pool.callers.find? id = none ->
    (run.resume more).pool.callers.find? id = some caller ->
      caller.phase = .arriving ∧
          ((run.resume more).step (.step id)).pool.callers.find? id =
            some ⟨caller.name, .finished (.error (Pool.closedFault caller.name))⟩ ∨
        caller.phase = .finished (.error (Pool.closedFault caller.name))
  /-- Closing again changes nothing. -/
  again : ∀ more, (run.resume more).pool.close = (run.resume more).pool
  /-- No dial begins any more and no connection is held exactly if nobody is on the way. -/
  final_iff : run.IsFinal ↔ run.pool.Settled

end PoolRun

/-! ## Nobody on the way -/

namespace Pool

variable {pool later : Pool Conn} {id : CallerId} {name : String}

/-- A caller that has not been let in, or that has its result. -/
def AtRest (caller : Caller Conn) : Prop :=
  caller.phase = .arriving ∨ ∃ result, caller.phase = .finished result

theorem AtRest.not_onTheWay
    {caller : Caller Conn}
    (rest : AtRest caller) :
    ¬ pool.OnTheWay caller := by
  rcases rest with arriving | ⟨result, finished⟩
  · simp [OnTheWay, arriving]
  · simp [OnTheWay, finished]

theorem AtRest.not_dialling
    {caller : Caller Conn}
    (rest : AtRest caller)
    (cellId : CellId) :
    caller.phase ≠ .dialling cellId := by
  rcases rest with arriving | ⟨result, finished⟩
  · simp [arriving]
  · simp [finished]

/-- Whoever is on the way later was so before, if neither names nor empty cells came. -/
theorem OnTheWay.of_later
    {caller : Caller Conn}
    (onTheWay : later.OnTheWay caller)
    (reach : later.endpoints = pool.endpoints ∧ later.discovers = pool.discovers)
    (table : later.table.contains caller.name = true -> pool.table.contains caller.name = true)
    (vacant : ∀ cellId, (later.cell cellId).value = none -> (pool.cell cellId).value = none) :
    pool.OnTheWay caller := by
  unfold OnTheWay at onTheWay ⊢
  cases phase : caller.phase with
  | admitted =>
      simp only [phase, reach.1, reach.2] at onTheWay
      exact onTheWay.imp_left table
  | unlisted => trivial
  | joining cellId => exact vacant cellId (by simpa only [phase] using onTheWay)
  | waiting cellId => exact vacant cellId (by simpa only [phase] using onTheWay)
  | _ => simp only [phase] at onTheWay

/-- Changes at one cell by a caller that ends up at rest.  A connection may come to the
cell if no name has it. -/
theorem Settled.change
    (settled : pool.Settled)
    {cellId : CellId}
    (changed : pool.ChangedAt later id cellId)
    (reach : later.endpoints = pool.endpoints ∧ later.discovers = pool.discovers)
    (here : (later.cell cellId).value = (pool.cell cellId).value ∨
      (later.cell cellId).value ≠ none ∧ ∀ entry ∈ pool.table, entry.2 ≠ cellId)
    (own : ∀ caller, later.callers.find? id = some caller -> AtRest caller) :
    later.Settled := by
  have callers : ∀ other caller, later.callers.find? other = some caller ->
      pool.callers.find? other = some caller ∨ AtRest caller := by
    intro other caller found
    by_cases same : other = id
    · exact Or.inr (own caller (same ▸ found))
    · exact Or.inl ((changed.others other same).symm.trans found)
  have vacant : ∀ other, (later.cell other).value = none -> (pool.cell other).value = none := by
    intro other empty
    by_cases same : other = cellId
    · rcases here with value | ⟨full, -⟩
      · rw [same] at empty ⊢
        exact value.symm.trans empty
      · exact absurd (same ▸ empty) full
    · rwa [changed.cells other same] at empty
  refine ⟨?_, ?_, ?_⟩
  · intro other caller found onTheWay
    rcases callers other caller found with before | rest
    · apply settled.nobody other caller before
      exact onTheWay.of_later reach (fun listed => changed.table ▸ listed) vacant
    · exact rest.not_onTheWay onTheWay
  · intro entry listed
    rw [changed.table] at listed
    have empty := settled.empty entry listed
    by_cases same : entry.2 = cellId
    · rcases here with value | ⟨-, unlisted⟩
      · rw [same] at empty ⊢
        exact value.trans empty
      · exact absurd same (unlisted entry listed)
    · rwa [changed.cells _ same]
  · rintro entry listed other ⟨name, found⟩
    rcases callers other _ found with before | rest
    · exact settled.undialled entry (changed.table ▸ listed) other ⟨name, before⟩
    · exact rest.not_dialling entry.2 rfl

/-- A caller may come, or get its result. -/
theorem Settled.setPhase
    (settled : pool.Settled)
    {phase : CallerPhase Conn}
    (rest : AtRest ⟨name, phase⟩) :
    (pool.setPhase id name phase).Settled := by
  refine settled.change (pool.changedAt_setPhase id name phase 0) ⟨rfl, rfl⟩ (Or.inl rfl) ?_
  intro caller found
  rw [find?_setPhase_self, Option.some.injEq] at found
  exact found ▸ rest

/-- In a closed pool with nobody on the way no step begins a dial. -/
theorem Settled.move
    (settled : pool.Settled)
    (isClosed : pool.closed = true)
    {progress : Progress}
    (moved : pool.Move id later progress) :
    later.Settled ∧ ∀ name, progress ≠ .dial name := by
  have lost : ∀ {caller}, pool.callers.find? id = some caller -> pool.OnTheWay caller -> False :=
    fun found onTheWay => settled.nobody id _ found onTheWay
  cases moved with
  | stay => exact ⟨settled, fun _ same => by cases same⟩
  | reject found isClosed =>
      exact ⟨settled.setPhase (Or.inr ⟨_, rfl⟩), fun _ same => by cases same⟩
  | enter found isOpen => cases isClosed.symm.trans isOpen
  | unknown found missing unreachable =>
      exact ⟨settled.setPhase (Or.inr ⟨_, rfl⟩), fun _ same => by cases same⟩
  | miss found missing reachable => exact (lost found (Or.inr reachable)).elim
  | find found looking listed =>
      rcases looking with rfl | rfl
      · exact (lost found (Or.inl (by simp [Assoc.contains, listed]))).elim
      · exact (lost found trivial).elim
  | list found missing => exact (lost found trivial).elim
  | take found present full =>
      exact ⟨settled.setPhase (Or.inr ⟨_, rfl⟩), fun _ same => by cases same⟩
  | begin found vacant free => exact (lost found vacant).elim
  | queue found vacant held => exact (lost found vacant).elim
  | resume found vacant own => exact (lost found vacant).elim

/-- The end of a dial puts nobody on the way.  Its connection goes to a cell that no name
has. -/
theorem Settled.dialEnd
    (settled : pool.Settled)
    {result : Except Fault Conn}
    {woken : List CallerId}
    (ended : pool.DialEnd id result later woken) :
    later.Settled := by
  cases ended with
  | stay idle => exact settled
  | @succeed name cellId conn found =>
      refine settled.change (pool.changedAt_setCell_setPhase ..) ⟨rfl, rfl⟩ (Or.inr ⟨?_, ?_⟩) ?_
      · rw [cell_setPhase, cell_setCell_self]
        exact Option.some_ne_none conn
      · rintro entry listed rfl
        exact settled.undialled entry listed id ⟨name, found⟩
      · exact fun caller done => Or.inr ⟨_, phase_of_find?_setPhase done⟩
  | @fail name cellId fault found =>
      refine settled.change (pool.changedAt_setCell_setPhase ..) ⟨rfl, rfl⟩ (Or.inl ?_) ?_
      · rw [cell_setPhase, cell_setCell_self, Cell.value_passTurn]
      · exact fun caller done => Or.inr ⟨_, phase_of_find?_setPhase done⟩

/-- A caller that is forgotten puts nobody on the way. -/
theorem Settled.departure
    (settled : pool.Settled)
    {woken : List CallerId}
    (departed : pool.Departure id later woken) :
    later.Settled := by
  have gone : ∀ caller, (pool.forget id).callers.find? id = some caller -> AtRest caller :=
    fun _ found => by cases (pool.find?_forget_self id).symm.trans found
  cases departed with
  | away unplaced =>
      exact settled.change (pool.changedAt_forget id 0) ⟨rfl, rfl⟩ (Or.inl rfl) gone
  | pass found placed own =>
      refine settled.change (pool.changedAt_forget_setCell ..) ⟨rfl, rfl⟩ (Or.inl ?_) gone
      rw [cell_setCell_self, Cell.value_passTurn]
  | withdraw found placed foreign =>
      refine settled.change (pool.changedAt_forget_setCell ..) ⟨rfl, rfl⟩ (Or.inl ?_) gone
      rw [cell_setCell_self]

theorem Settled.clearTable
    (settled : pool.Settled) :
    pool.clearTable.Settled := by
  refine ⟨?_, fun _ listed => (by cases listed), fun _ listed => (by cases listed)⟩
  intro id caller found onTheWay
  apply settled.nobody id caller found
  exact onTheWay.of_later ⟨rfl, rfl⟩ (fun listed => by cases listed) fun _ vacant => vacant

/-! ## Closed for ever -/

theorem Move.closed
    {progress : Progress}
    (moved : pool.Move id later progress) :
    later.closed = pool.closed := by
  cases moved with
  | _ => rfl

theorem DialEnd.closed
    {result : Except Fault Conn}
    {woken : List CallerId}
    (ended : pool.DialEnd id result later woken) :
    later.closed = pool.closed := by
  cases ended with
  | _ => rfl

theorem Departure.closed
    {woken : List CallerId}
    (departed : pool.Departure id later woken) :
    later.closed = pool.closed := by
  cases departed with
  | _ => rfl

end Pool

namespace PoolRun

variable {run : PoolRun Conn}

/-- A pool that is closed stays closed. -/
theorem closed_step
    (isClosed : run.pool.closed = true)
    (event : PoolEvent Conn) :
    (run.step event).pool.closed = true := by
  cases event with
  | arrive id name =>
      simp only [step]
      split
      · exact isClosed
      · exact isClosed
  | step id => exact (run.pool.move_step id).closed.trans isClosed
  | finish id result => exact (run.pool.dialEnd_finishDial id result).closed.trans isClosed
  | abort id => exact (run.pool.departure_abort id).closed.trans isClosed
  | markClosed => rfl
  | clearTable => exact isClosed

theorem closed_resume
    (isClosed : run.pool.closed = true)
    (events : List (PoolEvent Conn)) :
    (run.resume events).pool.closed = true := by
  induction events generalizing run with
  | nil => exact isClosed
  | cons event rest inductionHypothesis => exact inductionHypothesis (closed_step isClosed event)

/-- While nobody is on the way nothing puts anybody on it, and no dial begins. -/
theorem settled_step
    (isClosed : run.pool.closed = true)
    (settled : run.pool.Settled)
    (event : PoolEvent Conn) :
    (run.step event).pool.Settled ∧ run.begun? event = none := by
  cases event with
  | arrive id name =>
      refine ⟨?_, rfl⟩
      simp only [step]
      split
      · exact settled
      · exact settled.setPhase (Or.inl rfl)
  | step id =>
      obtain ⟨after, dialless⟩ := settled.move isClosed (run.pool.move_step id)
      refine ⟨after, ?_⟩
      cases progress : (run.pool.step id).2 with
      | moved => simp only [begun?, progress]
      | dial name => exact absurd progress (dialless name)
      | blocked => simp only [begun?, progress]
  | finish id result => exact ⟨settled.dialEnd (run.pool.dialEnd_finishDial id result), rfl⟩
  | abort id => exact ⟨settled.departure (run.pool.departure_abort id), rfl⟩
  | markClosed => exact ⟨⟨settled.nobody, settled.empty, settled.undialled⟩, rfl⟩
  | clearTable => exact ⟨settled.clearTable, rfl⟩

/-- So closing is final if nobody is on the way. -/
theorem isFinal_of_settled
    (isClosed : run.pool.closed = true)
    (settled : run.pool.Settled) :
    run.IsFinal := by
  intro more
  induction more generalizing run with
  | nil => exact ⟨rfl, (Pool.connected_eq_nil_iff _).mpr settled.empty⟩
  | cons event rest inductionHypothesis =>
      obtain ⟨after, dialless⟩ := settled_step isClosed settled event
      obtain ⟨begun, connected⟩ := inductionHypothesis (closed_step isClosed event) after
      refine ⟨?_, connected⟩
      rw [PoolRun.begun, dialless, begun]
      rfl

/-! ## Somebody on the way -/

namespace IsFinal

variable {id : CallerId} {name : String} {cellId : CellId}

/-- What is final stays final, and begins no dial. -/
theorem step
    (final : run.IsFinal)
    (event : PoolEvent Conn) :
    (run.step event).IsFinal ∧ run.begun? event = none := by
  have first : ∀ more, run.begun? event = none ∧ (run.step event).begun more = [] := by
    intro more
    have nothing := (final (event :: more)).1
    rw [begun, List.append_eq_nil_iff, Option.toList_eq_nil_iff] at nothing
    exact nothing
  exact ⟨fun more => ⟨(first more).2, (final (event :: more)).2⟩, (first []).1⟩

theorem not_dial
    (final : run.IsFinal)
    (id : CallerId)
    (name : String) :
    (run.pool.step id).2 ≠ .dial name := by
  intro dials
  have nothing := (final.step (.step id)).2
  simp only [begun?, dials] at nothing
  cases nothing

theorem empty
    (final : run.IsFinal) :
    ∀ entry ∈ run.pool.table, (run.pool.cell entry.2).value = none :=
  (Pool.connected_eq_nil_iff _).mp (final []).2

/-- Nobody who waits has the turn. -/
theorem not_waits_of_turn
    (final : run.IsFinal)
    (vacant : (run.pool.cell cellId).value = none)
    (own : (run.pool.cell cellId).turn = some id) :
    ¬ Waits run.pool.callers id cellId := by
  rintro ⟨name, found⟩
  apply final.not_dial id name
  simp [Pool.step, found, Pool.resume, vacant, own]

/-- Nobody waits at an empty cell for which nobody dials. -/
theorem not_waits_of_undialled
    (final : run.IsFinal)
    (orderly : run.pool.Orderly)
    (vacant : (run.pool.cell cellId).value = none)
    (undialled : ∀ other, ¬ Dials run.pool.callers other cellId) :
    ¬ Waits run.pool.callers id cellId := by
  intro waits
  have order := orderly.order cellId
  have inLine : id ∈ (run.pool.cell cellId).line := by
    simpa [vacant] using order.waits_served id waits
  cases turn : (run.pool.cell cellId).turn with
  | none => simp [Cell.line, turn, order.queue_nil turn] at inLine
  | some holder =>
      have held := (Cell.mem_line _ _).mpr (Or.inl turn)
      rcases order.line_present holder held with dials | holderWaits
      · exact undialled holder dials
      · exact final.not_waits_of_turn vacant turn holderWaits

/-- Nobody waits at an empty cell.  Whoever dials for it may fail, and then the caller
that has waited longest would dial. -/
theorem not_waits
    (final : run.IsFinal)
    (orderly : run.pool.Orderly)
    (vacant : (run.pool.cell cellId).value = none) :
    ¬ Waits run.pool.callers id cellId := by
  intro waits
  by_cases dialled : ∃ holder, Dials run.pool.callers holder cellId
  · obtain ⟨holder, name, found⟩ := dialled
    have failed : (run.step (.finish holder (.error .cancelled))).pool =
        (run.pool.setCell cellId (run.pool.cell cellId).passTurn).setPhase holder name
          (.finished (.error .cancelled)) := by
      simp only [PoolRun.step, Pool.finishDial, found]
    have changed := run.pool.changedAt_setCell_setPhase holder name
      (.finished (.error .cancelled)) cellId (run.pool.cell cellId).passTurn
    rw [← failed] at changed
    have done : ∀ caller, (run.step (.finish holder (.error .cancelled))).pool.callers.find?
        holder = some caller -> caller.phase = .finished (.error .cancelled) := by
      rw [failed]
      exact fun _ => Pool.phase_of_find?_setPhase
    refine (final.step _).1.not_waits_of_undialled (PoolRun.orderly_step orderly _) ?_ ?_
      (waits.of_eq ((changed.others id ?_).symm))
    · rw [failed, Pool.cell_setPhase, Pool.cell_setCell_self, Cell.value_passTurn, vacant]
    · rintro other ⟨otherName, dials⟩
      by_cases same : other = holder
      · cases done _ (same ▸ dials)
      · rw [changed.others other same] at dials
        have turn := (orderly.order cellId).dials_turn other ⟨otherName, dials⟩
        have own := (orderly.order cellId).dials_turn holder ⟨name, found⟩
        exact same (Option.some.inj (turn.symm.trans own))
    · rintro rfl
      obtain ⟨again, waiting⟩ := waits
      cases found.symm.trans waiting
  · exact final.not_waits_of_undialled orderly vacant (not_exists.mp dialled) waits

/-- Nobody is about to join the callers at an empty cell. -/
theorem not_joining
    (final : run.IsFinal)
    (orderly : run.pool.Orderly)
    (vacant : (run.pool.cell cellId).value = none) :
    run.pool.callers.find? id ≠ some ⟨name, .joining cellId⟩ := by
  intro found
  cases turn : (run.pool.cell cellId).turn with
  | none =>
      apply final.not_dial id name
      simp [Pool.step, found, Pool.join, vacant, turn]
  | some holder =>
      have queued : (run.step (.step id)).pool =
          (run.pool.setCell cellId { run.pool.cell cellId with
            queue := (run.pool.cell cellId).queue ++ [id] }).setPhase id name (.waiting cellId) := by
        simp [PoolRun.step, Pool.step, found, Pool.join, vacant, turn]
      have vacantStill : ((run.step (.step id)).pool.cell cellId).value = none := by
        rw [queued, Pool.cell_setPhase, Pool.cell_setCell_self]
        exact vacant
      have waits : Waits (run.step (.step id)).pool.callers id cellId :=
        ⟨name, queued ▸ Pool.find?_setPhase_self _ _ _ _⟩
      exact (final.step _).1.not_waits (PoolRun.orderly_step orderly _) vacantStill waits

/-- Nobody comes to a cell that a name has. -/
theorem not_joining_listed
    (final : run.IsFinal)
    (orderly : run.pool.Orderly)
    (listed : run.pool.table.find? name = some cellId) :
    run.pool.callers.find? id ≠ some ⟨name, .joining cellId⟩ :=
  final.not_joining orderly (final.empty _ (Assoc.mem_of_find? listed))

/-- Nobody lists a name. -/
theorem not_unlisted
    (final : run.IsFinal)
    (orderly : run.pool.Orderly) :
    run.pool.callers.find? id ≠ some ⟨name, .unlisted⟩ := by
  intro found
  obtain ⟨cellId, listed, joins⟩ : ∃ cellId,
      (run.step (.step id)).pool.table.find? name = some cellId ∧
        (run.step (.step id)).pool.callers.find? id = some ⟨name, .joining cellId⟩ := by
    cases listed : run.pool.table.find? name with
    | some cellId =>
        refine ⟨cellId, ?_⟩
        simp [PoolRun.step, Pool.step, found, listed, Pool.setPhase, Assoc.find?_insert_self]
    | none =>
        refine ⟨run.pool.nextCell, ?_⟩
        simp [PoolRun.step, Pool.step, found, listed, Pool.setPhase, Assoc.find?_insert_self]
  exact (final.step _).1.not_joining_listed (PoolRun.orderly_step orderly _) listed joins

/-- Nobody looks up a name that is listed or within reach. -/
theorem not_admitted
    (final : run.IsFinal)
    (orderly : run.pool.Orderly)
    (found : run.pool.callers.find? id = some ⟨name, .admitted⟩) :
    ¬ run.pool.OnTheWay ⟨name, .admitted⟩ := by
  intro onTheWay
  have laterOrderly := PoolRun.orderly_step orderly (.step id)
  have later := (final.step (.step id)).1
  cases listed : run.pool.table.find? name with
  | some cellId =>
      have came : (run.step (.step id)).pool = run.pool.setPhase id name (.joining cellId) := by
        simp only [PoolRun.step, Pool.step, found, listed]
      have joins : (run.step (.step id)).pool.callers.find? id = some ⟨name, .joining cellId⟩ :=
        came ▸ Pool.find?_setPhase_self _ _ _ _
      exact later.not_joining_listed laterOrderly (came ▸ listed) joins
  | none =>
      have reachable : (run.pool.endpoints.contains name || run.pool.discovers) = true := by
        rcases onTheWay with present | known | discovers
        · simp [Assoc.contains, listed] at present
        · simp [known]
        · simp [discovers]
      have unlisted : (run.step (.step id)).pool.callers.find? id = some ⟨name, .unlisted⟩ := by
        simp only [PoolRun.step, Pool.step, found, listed, ← Bool.not_or, reachable]
        exact Pool.find?_setPhase_self _ _ _ _
      exact later.not_unlisted laterOrderly unlisted

/-- Where closing is final, nobody is on the way. -/
theorem settled
    [Inhabited Conn]
    (final : run.IsFinal)
    (orderly : run.pool.Orderly) :
    run.pool.Settled := by
  refine ⟨?_, final.empty, ?_⟩
  · rintro id ⟨name, phase⟩ found onTheWay
    cases phase with
    | arriving => exact onTheWay
    | admitted => exact final.not_admitted orderly found onTheWay
    | unlisted => exact final.not_unlisted orderly found
    | joining cellId => exact final.not_joining orderly onTheWay found
    | waiting cellId => exact final.not_waits orderly onTheWay ⟨name, found⟩
    | dialling cellId => exact onTheWay
    | finished result => exact onTheWay
  · -- A dial may succeed.
    rintro entry listed id ⟨name, found⟩
    have filled : (run.step (.finish id (.ok default))).pool =
        (run.pool.setCell entry.2 ((run.pool.cell entry.2).fill default)).setPhase id name
          (.finished (.ok default)) := by
      simp only [PoolRun.step, Pool.finishDial, found]
    have vacant := (final.step (.finish id (.ok default))).1.empty entry (filled ▸ listed)
    rw [filled, Pool.cell_setPhase, Pool.cell_setCell_self] at vacant
    cases vacant

end IsFinal

/-! ## Whoever comes later -/

end PoolRun

namespace Pool

variable {pool later : Pool Conn} {id other : CallerId}

/-- A caller, if there is one, has not got further than to be refused. -/
def Shuts (pool : Pool Conn) (id : CallerId) : Prop :=
  ∀ caller, pool.callers.find? id = some caller ->
    caller.phase = .arriving ∨ caller.phase = .finished (.error (closedFault caller.name))

theorem Shuts.of_eq
    (shuts : pool.Shuts id)
    (same : later.callers.find? id = pool.callers.find? id) :
    later.Shuts id :=
  fun caller found => shuts caller (same ▸ found)

/-- A closed pool refuses a caller at its first step. -/
theorem step_arriving
    (isClosed : pool.closed = true)
    {name : String}
    (found : pool.callers.find? id = some ⟨name, .arriving⟩) :
    (pool.step id).1.callers.find? id =
      some ⟨name, .finished (.error (closedFault name))⟩ := by
  simp only [step, found, isClosed, if_true]
  exact find?_setPhase_self _ _ _ _

theorem Shuts.step
    (shuts : pool.Shuts id)
    (isClosed : pool.closed = true) :
    (pool.step id).1.Shuts id := by
  cases found : pool.callers.find? id with
  | none =>
      refine shuts.of_eq ?_
      simp only [Pool.step, found]
  | some caller =>
      obtain ⟨name, phase⟩ := caller
      rcases shuts _ found with arriving | refused
      · cases arriving
        intro caller refound
        rw [step_arriving isClosed found, Option.some.injEq] at refound
        rw [← refound]
        exact Or.inr rfl
      · obtain rfl : phase = .finished (.error (closedFault name)) := refused
        refine shuts.of_eq ?_
        simp only [Pool.step, found]

end Pool

namespace PoolRun

variable {run : PoolRun Conn}

/-- A closed pool lets nobody in. -/
theorem shuts_step
    (isClosed : run.pool.closed = true)
    {id : CallerId}
    (shuts : run.pool.Shuts id)
    (event : PoolEvent Conn) :
    (run.step event).pool.Shuts id := by
  cases event with
  | arrive other name =>
      simp only [step]
      split
      · exact shuts
      · by_cases same : id = other
        · intro caller found
          rw [Pool.arrive, same] at found
          exact Or.inl (Pool.phase_of_find?_setPhase found)
        · exact shuts.of_eq (Pool.find?_setPhase_of_ne _ same _ _)
  | step other =>
      by_cases same : id = other
      · exact same ▸ shuts.step isClosed
      · exact shuts.of_eq ((run.pool.move_step other).others same)
  | finish other result =>
      by_cases same : id = other
      · subst same
        have ended := run.pool.dialEnd_finishDial id result
        simp only [step]
        generalize (run.pool.finishDial id result).1 = later,
          (run.pool.finishDial id result).2 = woken at ended
        cases ended with
        | stay idle => exact shuts
        | succeed found => simpa using shuts _ found
        | fail found => simpa using shuts _ found
      · exact shuts.of_eq ((run.pool.dialEnd_finishDial other result).others same)
  | abort other =>
      by_cases same : id = other
      · subst same
        intro caller found
        cases (run.pool.find?_callers_abort_self id).symm.trans found
      · exact shuts.of_eq (run.pool.find?_callers_abort_of_ne same)
  | markClosed => exact shuts
  | clearTable => exact shuts

theorem shuts_resume
    (isClosed : run.pool.closed = true)
    {id : CallerId}
    (shuts : run.pool.Shuts id)
    (events : List (PoolEvent Conn)) :
    (run.resume events).pool.Shuts id := by
  induction events generalizing run with
  | nil => exact shuts
  | cons event rest inductionHypothesis =>
      exact inductionHypothesis (closed_step isClosed event) (shuts_step isClosed shuts event)

/-- In every run, what can be relied on from the time on that the pool is closed. -/
theorem closedFor_after
    [Inhabited Conn]
    (endpoints : List Endpoint)
    (discovers : Bool)
    (before more : List (PoolEvent Conn)) :
    (after endpoints discovers (before ++ .markClosed :: more)).ClosedFor := by
  have orderly := orderly_after endpoints discovers (before ++ .markClosed :: more)
  have isClosed : (after endpoints discovers (before ++ .markClosed :: more)).pool.closed =
      true := by
    rw [after, List.foldl_append]
    exact closed_resume rfl more
  generalize after endpoints discovers (before ++ .markClosed :: more) = run at orderly isClosed
  refine ⟨?_, ?_, ?_⟩
  · rintro later id ⟨name, phase⟩ absent found
    have shuts : run.pool.Shuts id := fun _ present => by cases absent.symm.trans present
    rcases shuts_resume isClosed shuts later _ found with arriving | refused
    · cases arriving
      exact Or.inl ⟨rfl, Pool.step_arriving (closed_resume isClosed later) found⟩
    · exact Or.inr refused
  · intro later
    rw [Pool.close, if_pos (closed_resume isClosed later)]
  · exact ⟨fun final => final.settled orderly, isFinal_of_settled isClosed⟩

/-- The pool is closed while one caller dials and another one waits for the dial. -/
def closedWhileDialling : List (PoolEvent Nat) :=
  .arrive 0 "cart" :: List.replicate 4 (.step 0) ++
    .arrive 1 "cart" :: List.replicate 3 (.step 1) ++ [.markClosed, .clearTable]

/-- When the dial fails, the caller that waits begins another one. -/
theorem not_isFinal_closedWhileDialling :
    (after [⟨"cart", "cart:1"⟩] false closedWhileDialling).begun
        [.finish 0 (.error (.connection "cart" "connection refused")), .step 1] = ["cart"] ∧
      ¬ (after [⟨"cart", "cart:1"⟩] false closedWhileDialling).IsFinal := by
  have begun : (after [⟨"cart", "cart:1"⟩] false closedWhileDialling).begun
      [.finish 0 (.error (.connection "cart" "connection refused")), .step 1] = ["cart"] := by
    decide
  refine ⟨begun, fun final => ?_⟩
  cases begun.symm.trans (final _).1

end PoolRun
end MallFabric
