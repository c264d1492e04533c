import MallFabric.Proofs.Connection.Run
import Mathlib.Data.List.Nodup

/-!
# Taking turns at a cell

In every run each cell agrees with its callers: whoever dials has the turn, the
turn is never lost while somebody waits, and nobody waits in vain.
-/

namespace MallFabric

variable {Conn : Type}

/-! ## Order at one cell -/

/-- The callers that have the turn or wait for it, in order. -/
def Cell.line (cell : Cell Conn) : List CallerId := cell.turn.toList ++ cell.queue

namespace Cell

theorem mem_line
    (cell : Cell Conn)
    (id : CallerId) :
    id ∈ cell.line ↔ cell.turn = some id ∨ id ∈ cell.queue := by
  simp [line]

/-- The first in line has the turn, as long as nobody waits for a turn that nobody has. -/
theorem turn_of_head?_line
    {cell : Cell Conn}
    (queue_nil : cell.turn = none -> cell.queue = [])
    {first : CallerId}
    (isFirst : cell.line.head? = some first) :
    cell.turn = some first := by
  cases held : cell.turn with
  | none => simp [line, held, queue_nil held] at isFirst
  | some holder => simpa [line, held] using isFirst

theorem turn_of_line_eq_nil
    {cell : Cell Conn}
    (nobody : cell.line = []) :
    cell.turn = none := by
  cases held : cell.turn with
  | none => rfl
  | some holder => simp [line, held] at nobody

@[simp] theorem line_passTurn (cell : Cell Conn) : cell.passTurn.line = cell.queue := by
  obtain ⟨value, turn, queue⟩ := cell
  cases queue with
  | nil => rfl
  | cons next rest => rfl

@[simp] theorem value_passTurn (cell : Cell Conn) : cell.passTurn.value = cell.value := by
  obtain ⟨value, turn, queue⟩ := cell
  cases queue with
  | nil => rfl
  | cons next rest => rfl

end Cell

/-- A cell agrees with the callers that wait or dial there. -/
structure CellOrder (callers : Assoc CallerId (Caller Conn)) (cellId : CellId)
    (cell : Cell Conn) : Prop where
  /-- Only the caller with the turn dials. -/
  dials_turn : ∀ id, Dials callers id cellId -> cell.turn = some id
  /-- Everybody in line is there. -/
  line_present : ∀ id, id ∈ cell.line -> Dials callers id cellId ∨ Waits callers id cellId
  /-- Whoever waits finds a connection or stands in line. -/
  waits_served : ∀ id, Waits callers id cellId -> cell.value.isSome ∨ id ∈ cell.line
  line_nodup : cell.line.Nodup
  /-- Nobody waits for a turn that nobody has. -/
  queue_nil : cell.turn = none -> cell.queue = []
  /-- With a connection there is no line. -/
  line_nil : cell.value.isSome -> cell.line = []

namespace CellOrder

variable {callers later : Assoc CallerId (Caller Conn)} {cellId : CellId} {cell : Cell Conn}
variable {id : CallerId}

/-- Nobody is at an empty cell. -/
theorem empty
    (unplaced : ∀ id caller, callers.find? id = some caller ->
      caller.phase.place? ≠ some cellId) :
    CellOrder callers cellId Cell.empty where
  dials_turn := by
    rintro id ⟨name, found⟩
    exact absurd rfl (unplaced id _ found)
  line_present := fun _ inLine => by cases inLine
  waits_served := by
    rintro id ⟨name, found⟩
    exact absurd rfl (unplaced id _ found)
  line_nodup := List.nodup_nil
  queue_nil := fun _ => rfl
  line_nil := fun _ => rfl

/-- A caller that is not at a cell does not stand in line there. -/
theorem not_mem_line
    (order : CellOrder callers cellId cell)
    (unplaced : ∀ caller, callers.find? id = some caller -> caller.phase.place? ≠ some cellId) :
    id ∉ cell.line := by
  intro inLine
  rcases order.line_present id inLine with ⟨name, found⟩ | ⟨name, found⟩
  · exact unplaced _ found rfl
  · exact unplaced _ found rfl

/-- Where somebody stands in line, there is no connection. -/
theorem value_of_mem_line
    (order : CellOrder callers cellId cell)
    (inLine : id ∈ cell.line) :
    cell.value = none := by
  cases full : cell.value with
  | none => rfl
  | some conn =>
      rw [order.line_nil (by rw [full]; rfl)] at inLine
      cases inLine

/-- A caller that is elsewhere before and after leaves a cell as it is. -/
theorem frame
    (order : CellOrder callers cellId cell)
    (others : ∀ other, other ≠ id -> later.find? other = callers.find? other)
    (outside : id ∉ cell.line)
    (unplaced : ∀ caller, later.find? id = some caller -> caller.phase.place? ≠ some cellId) :
    CellOrder later cellId cell where
  dials_turn := by
    intro other dials
    exact order.dials_turn other (dials.of_eq (others other (dials.ne unplaced)))
  line_present := by
    intro other inLine
    have different : other ≠ id := by
      rintro rfl
      exact outside inLine
    simpa [Dials, Waits, others other different] using order.line_present other inLine
  waits_served := by
    intro other waits
    exact order.waits_served other (waits.of_eq (others other (waits.ne unplaced)))
  line_nodup := order.line_nodup
  queue_nil := order.queue_nil
  line_nil := order.line_nil

/-- A caller takes the free turn and dials. -/
theorem begin
    (order : CellOrder callers cellId cell)
    (others : ∀ other, other ≠ id -> later.find? other = callers.find? other)
    (dials : Dials later id cellId)
    (vacant : cell.value = none)
    (free : cell.turn = none) :
    CellOrder later cellId { cell with turn := some id } := by
  have alone : cell.queue = [] := order.queue_nil free
  have line : ({ cell with turn := some id } : Cell Conn).line = [id] := by
    simp [Cell.line, alone]
  refine ⟨?_, ?_, ?_, ?_, ?_, ?_⟩
  · intro other otherDials
    by_cases same : other = id
    · rw [same]
    · have held := order.dials_turn other (otherDials.of_eq (others other same))
      simp [free] at held
  · intro other inLine
    rw [line, List.mem_singleton] at inLine
    rw [inLine]
    exact Or.inl dials
  · intro other waits
    by_cases same : other = id
    · right
      rw [line, same]
      exact List.mem_singleton_self id
    · have served := order.waits_served other (waits.of_eq (others other same))
      simp [vacant, Cell.line, free, alone] at served
  · rw [line]
    exact List.nodup_singleton id
  · exact fun missing => by cases missing
  · simp [vacant]

/-- A caller goes to the end of the line. -/
theorem enqueue
    (order : CellOrder callers cellId cell)
    (others : ∀ other, other ≠ id -> later.find? other = callers.find? other)
    (outside : id ∉ cell.line)
    (waits : Waits later id cellId)
    (vacant : cell.value = none)
    {holder : CallerId}
    (held : cell.turn = some holder) :
    CellOrder later cellId { cell with queue := cell.queue ++ [id] } := by
  have line : ({ cell with queue := cell.queue ++ [id] } : Cell Conn).line = cell.line ++ [id] := by
    simp [Cell.line]
  refine ⟨?_, ?_, ?_, ?_, ?_, ?_⟩
  · intro other dials
    have different : other ≠ id := by
      rintro rfl
      obtain ⟨name, found⟩ := dials
      obtain ⟨waitingName, waitingFound⟩ := waits
      simp [found] at waitingFound
    exact order.dials_turn other (dials.of_eq (others other different))
  · intro other inLine
    rw [line, List.mem_append, List.mem_singleton] at inLine
    rcases inLine with before | last
    · have different : other ≠ id := by
        rintro rfl
        exact outside before
      simpa [Dials, Waits, others other different] using order.line_present other before
    · rw [last]
      exact Or.inr waits
  · intro other otherWaits
    right
    rw [line, List.mem_append, List.mem_singleton]
    by_cases same : other = id
    · exact Or.inr same
    · have served := order.waits_served other (otherWaits.of_eq (others other same))
      exact Or.inl (by simpa [vacant] using served)
  · rw [line]
    exact List.Nodup.append order.line_nodup (List.nodup_singleton id)
      (by simpa using outside)
  · simp [held]
  · simp [vacant]

/-- A caller that has the turn begins to dial. -/
theorem resume
    (order : CellOrder callers cellId cell)
    (others : ∀ other, other ≠ id -> later.find? other = callers.find? other)
    (dials : Dials later id cellId)
    (own : cell.turn = some id) :
    CellOrder later cellId cell where
  dials_turn := by
    intro other otherDials
    by_cases same : other = id
    · rw [same, own]
    · exact order.dials_turn other (otherDials.of_eq (others other same))
  line_present := by
    intro other inLine
    by_cases same : other = id
    · rw [same]
      exact Or.inl dials
    · simpa [Dials, Waits, others other same] using order.line_present other inLine
  waits_served := by
    intro other waits
    by_cases same : other = id
    · right
      rw [Cell.mem_line, same]
      exact Or.inl own
    · exact order.waits_served other (waits.of_eq (others other same))
  line_nodup := order.line_nodup
  queue_nil := order.queue_nil
  line_nil := order.line_nil

/-- A connection serves everybody. -/
theorem fill
    (order : CellOrder callers cellId cell)
    (others : ∀ other, other ≠ id -> later.find? other = callers.find? other)
    (unplaced : ∀ caller, later.find? id = some caller -> caller.phase.place? ≠ some cellId)
    (own : cell.turn = some id)
    (conn : Conn) :
    CellOrder later cellId (cell.fill conn) where
  dials_turn := by
    intro other dials
    have different := dials.ne unplaced
    have held := order.dials_turn other (dials.of_eq (others other different))
    rw [own, Option.some.injEq] at held
    exact absurd held.symm different
  line_present := fun _ inLine => by cases inLine
  waits_served := fun _ _ => Or.inl rfl
  line_nodup := List.nodup_nil
  queue_nil := fun _ => rfl
  line_nil := fun _ => rfl

/-- A caller leaves the line, and the others close up. -/
theorem leave
    (order : CellOrder callers cellId cell)
    (others : ∀ other, other ≠ id -> later.find? other = callers.find? other)
    (unplaced : ∀ caller, later.find? id = some caller -> caller.phase.place? ≠ some cellId)
    {left : Cell Conn}
    (value : left.value = cell.value)
    (line : left.line = cell.line.filter (· ≠ id))
    (turn : ∀ other, other ≠ id -> cell.turn = some other -> left.turn = some other)
    (queue_nil : left.turn = none -> left.queue = []) :
    CellOrder later cellId left where
  dials_turn := by
    intro other dials
    have different := dials.ne unplaced
    exact turn other different (order.dials_turn other (dials.of_eq (others other different)))
  line_present := by
    intro other inLine
    rw [line, List.mem_filter, decide_eq_true_iff] at inLine
    simpa [Dials, Waits, others other inLine.2] using order.line_present other inLine.1
  waits_served := by
    intro other waits
    have different := waits.ne unplaced
    rw [value, line, List.mem_filter, decide_eq_true_iff]
    rcases order.waits_served other (waits.of_eq (others other different)) with full | inLine
    · exact Or.inl full
    · exact Or.inr ⟨inLine, different⟩
  line_nodup := by
    rw [line]
    exact order.line_nodup.filter _
  queue_nil := queue_nil
  line_nil := by
    intro full
    rw [line, order.line_nil (value ▸ full)]
    rfl

/-- The caller with the turn leaves, and the turn passes on. -/
theorem passTurn
    (order : CellOrder callers cellId cell)
    (others : ∀ other, other ≠ id -> later.find? other = callers.find? other)
    (unplaced : ∀ caller, later.find? id = some caller -> caller.phase.place? ≠ some cellId)
    (own : cell.turn = some id) :
    CellOrder later cellId cell.passTurn := by
  have line : cell.line = id :: cell.queue := by
    simp [Cell.line, own]
  have outside : id ∉ cell.queue := (List.nodup_cons.mp (line ▸ order.line_nodup)).1
  refine order.leave others unplaced cell.value_passTurn ?_ ?_ ?_
  · rw [Cell.line_passTurn, line, List.filter_cons_of_neg (by simp)]
    refine (List.filter_eq_self.mpr fun other queued => ?_).symm
    simpa using fun same : other = id => outside (same ▸ queued)
  · intro other different held
    rw [own] at held
    exact absurd (Option.some.inj held).symm different
  · intro missing
    obtain ⟨value, turn, queue⟩ := cell
    cases queue with
    | nil => rfl
    | cons next rest => simp [Cell.passTurn] at missing

/-- A caller without the turn leaves the queue. -/
theorem withdraw
    (order : CellOrder callers cellId cell)
    (others : ∀ other, other ≠ id -> later.find? other = callers.find? other)
    (unplaced : ∀ caller, later.find? id = some caller -> caller.phase.place? ≠ some cellId)
    (foreign : cell.turn ≠ some id) :
    CellOrder later cellId { cell with queue := cell.queue.filter (· ≠ id) } := by
  refine order.leave others unplaced rfl ?_ ?_ ?_
  · have kept : cell.turn.toList.filter (· ≠ id) = cell.turn.toList := by
      refine List.filter_eq_self.mpr fun other held => ?_
      rw [Option.mem_toList] at held
      simpa using fun same : other = id => foreign (same ▸ held)
    simp only [Cell.line, List.filter_append, kept]
  · exact fun _ _ held => held
  · intro missing
    simp [order.queue_nil missing]

end CellOrder

/-! ## Order in a pool -/

/-- Every cell of a pool agrees with its callers. -/
structure Pool.Orderly (pool : Pool Conn) : Prop where
  /-- Cells that are not given out yet are empty. -/
  beyond : ∀ cellId, pool.nextCell ≤ cellId -> pool.cell cellId = Cell.empty
  listed_lt : ∀ name cellId, pool.table.find? name = some cellId -> cellId < pool.nextCell
  reached_lt : ∀ id caller cellId, pool.callers.find? id = some caller ->
    caller.phase.cell? = some cellId -> cellId < pool.nextCell
  order : ∀ cellId, CellOrder pool.callers cellId (pool.cell cellId)

namespace Pool.Orderly

variable {pool : Pool Conn} {id : CallerId} {name : String}

theorem new (endpoints : List Endpoint) (discovers : Bool) :
    (Pool.new endpoints discovers : Pool Conn).Orderly where
  beyond := fun _ _ => rfl
  listed_lt := fun _ _ listed => by cases listed
  reached_lt := fun _ _ _ found => by cases found
  order := fun _ => CellOrder.empty fun _ _ found => by cases found

/-- A new cell is as empty as it was before it was given out. -/
theorem cell_list
    (orderly : pool.Orderly)
    (name : String)
    (cellId : CellId) :
    (pool.list name).cell cellId = pool.cell cellId := by
  by_cases same : cellId = pool.nextCell
  · rw [same, orderly.beyond _ (Nat.le_refl _)]
    simp [Pool.list, Pool.cell, Assoc.find?_insert_self]
  · simp [Pool.list, Pool.cell, Assoc.find?_insert_of_ne _ _ same]

theorem list
    (orderly : pool.Orderly)
    (name : String) :
    (pool.list name).Orderly := by
  refine ⟨?_, ?_, ?_, ?_⟩
  · intro cellId bound
    rw [orderly.cell_list]
    exact orderly.beyond cellId (Nat.le_of_succ_le bound)
  · intro other cellId listed
    by_cases same : other = name
    · rw [Pool.list, same, Assoc.find?_insert_self, Option.some.injEq] at listed
      exact listed ▸ Nat.lt_succ_self _
    · rw [Pool.list, Assoc.find?_insert_of_ne _ _ same] at listed
      exact Nat.lt_succ_of_lt (orderly.listed_lt other cellId listed)
  · intro other caller cellId found reached
    exact Nat.lt_succ_of_lt (orderly.reached_lt other caller cellId found reached)
  · intro cellId
    rw [orderly.cell_list]
    exact orderly.order cellId

/-- A caller that neither waits nor dials stands in no line. -/
theorem outside
    (orderly : pool.Orderly)
    (unplaced : ∀ caller, pool.callers.find? id = some caller -> caller.phase.place? = none)
    (cellId : CellId) :
    id ∉ (pool.cell cellId).line := by
  refine (orderly.order cellId).not_mem_line fun caller found placed => ?_
  rw [unplaced caller found] at placed
  cases placed

/-- A caller stands in no line but that of its own cell. -/
theorem outside_of_ne
    (orderly : pool.Orderly)
    {caller : Caller Conn}
    (found : pool.callers.find? id = some caller)
    {cellId other : CellId}
    (reached : caller.phase.cell? = some cellId)
    (different : other ≠ cellId) :
    id ∉ (pool.cell other).line := by
  refine (orderly.order other).not_mem_line fun again refound placed => ?_
  rw [found, Option.some.injEq] at refound
  have reachedThere := CallerPhase.cell?_of_place? placed
  rw [← refound, reached, Option.some.injEq] at reachedThere
  exact different reachedThere.symm

/-- A caller that is at one cell, before and after, leaves the others as they
are. -/
theorem change
    (orderly : pool.Orderly)
    {later : Pool Conn}
    {cellId : CellId}
    (changed : pool.ChangedAt later id cellId)
    {caller : Caller Conn}
    (found : pool.callers.find? id = some caller)
    (reached : caller.phase.cell? = some cellId)
    (stays : ∀ again other, later.callers.find? id = some again ->
      again.phase.cell? = some other -> other = cellId)
    (here : CellOrder later.callers cellId (later.cell cellId)) :
    later.Orderly := by
  have given : cellId < pool.nextCell := orderly.reached_lt id caller cellId found reached
  refine ⟨?_, ?_, ?_, ?_⟩
  · intro other bound
    rw [changed.nextCell] at bound
    have different : other ≠ cellId := by
      rintro rfl
      exact Nat.not_lt.mpr bound given
    rw [changed.cells other different]
    exact orderly.beyond other bound
  · intro name other listed
    rw [changed.table] at listed
    rw [changed.nextCell]
    exact orderly.listed_lt name other listed
  · intro other again reachedCell refound reachedThere
    rw [changed.nextCell]
    by_cases same : other = id
    · rw [stays again reachedCell (same ▸ refound) reachedThere]
      exact given
    · rw [changed.others other same] at refound
      exact orderly.reached_lt other again reachedCell refound reachedThere
  · intro other
    by_cases same : other = cellId
    · exact same ▸ here
    · rw [changed.cells other same]
      refine (orderly.order other).frame changed.others
        (orderly.outside_of_ne found reached same) fun again refound placed => same ?_
      exact stays again other refound (CallerPhase.cell?_of_place? placed)

/-- A caller that stands in no line may do anything but wait or dial. -/
theorem setPhase
    (orderly : pool.Orderly)
    (outside : ∀ cellId, id ∉ (pool.cell cellId).line)
    (name : String)
    {phase : CallerPhase Conn}
    (unplaced : phase.place? = none)
    (given : ∀ cellId, phase.cell? = some cellId -> cellId < pool.nextCell) :
    (pool.setPhase id name phase).Orderly := by
  refine ⟨orderly.beyond, orderly.listed_lt, ?_, ?_⟩
  · intro other caller cellId found reached
    by_cases same : other = id
    · rw [Pool.phase_of_find?_setPhase (same ▸ found)] at reached
      exact given cellId reached
    · rw [Pool.find?_setPhase_of_ne _ same] at found
      exact orderly.reached_lt other caller cellId found reached
  · intro cellId
    refine (orderly.order cellId).frame
      (fun other different => Pool.find?_setPhase_of_ne _ different _ _) (outside cellId) ?_
    intro caller found placed
    rw [Pool.phase_of_find?_setPhase found, unplaced] at placed
    cases placed

/-- A caller may change its own cell, and come to do something else there, in a way
that keeps the order of the cell. -/
theorem setCell_setPhase
    (orderly : pool.Orderly)
    {phase next : CallerPhase Conn}
    {cellId : CellId}
    (found : pool.callers.find? id = some ⟨name, phase⟩)
    (reached : phase.cell? = some cellId)
    (stays : ∀ other, next.cell? = some other -> other = cellId)
    {cell : Cell Conn}
    (here : ∀ later : Assoc CallerId (Caller Conn),
      (∀ other, other ≠ id -> later.find? other = pool.callers.find? other) ->
        later.find? id = some ⟨name, next⟩ -> CellOrder later cellId cell) :
    ((pool.setCell cellId cell).setPhase id name next).Orderly := by
  refine orderly.change (pool.changedAt_setCell_setPhase ..) found reached ?_ ?_
  · intro again other refound reachedThere
    rw [Pool.phase_of_find?_setPhase refound] at reachedThere
    exact stays other reachedThere
  · rw [Pool.cell_setPhase, Pool.cell_setCell_self]
    apply here
    · exact fun other different => Pool.find?_setPhase_of_ne _ different _ _
    · exact Pool.find?_setPhase_self _ _ _ _

/-- A caller that comes to nothing else may be given a connection. -/
theorem take
    (orderly : pool.Orderly)
    {phase : CallerPhase Conn}
    {cellId : CellId}
    (found : pool.callers.find? id = some ⟨name, phase⟩)
    (present : phase = .joining cellId ∨ phase = .waiting cellId)
    {conn : Conn}
    (full : (pool.cell cellId).value = some conn) :
    (pool.setPhase id name (.finished (.ok conn))).Orderly := by
  refine orderly.setPhase (fun other => ?_) name rfl fun _ reached => by cases reached
  have reached : phase.cell? = some cellId := by
    rcases present with rfl | rfl
    · rfl
    · rfl
  by_cases same : other = cellId
  · rw [same, (orderly.order cellId).line_nil (by rw [full]; rfl)]
    exact List.not_mem_nil
  · exact orderly.outside_of_ne found reached same

/-- A step of a caller keeps the order. -/
theorem move
    (orderly : pool.Orderly)
    {later : Pool Conn}
    {progress : Pool.Progress}
    (moved : pool.Move id later progress) :
    later.Orderly := by
  have away : ∀ {name phase}, pool.callers.find? id = some ⟨name, phase⟩ ->
      phase.place? = none -> ∀ cellId, id ∉ (pool.cell cellId).line := by
    intro name phase found nowhere
    exact orderly.outside (unplaced_of_find? found nowhere)
  cases moved with
  | stay => exact orderly
  | reject found isClosed =>
      exact orderly.setPhase (away found rfl) _ rfl fun _ reached => by cases reached
  | enter found isOpen =>
      exact orderly.setPhase (away found rfl) _ rfl fun _ reached => by cases reached
  | unknown found missing unreachable =>
      exact orderly.setPhase (away found rfl) _ rfl fun _ reached => by cases reached
  | miss found missing reachable =>
      exact orderly.setPhase (away found rfl) _ rfl fun _ reached => by cases reached
  | @find name phase cellId found looking listed =>
      have unplaced : phase.place? = none := by
        rcases looking with rfl | rfl
        · rfl
        · rfl
      refine orderly.setPhase (away found unplaced) name rfl fun other reached => ?_
      cases reached
      exact orderly.listed_lt name cellId listed
  | @list name found missing =>
      have listed := orderly.list name
      refine listed.setPhase (listed.outside (unplaced_of_find? found rfl)) name rfl
        fun other reached => ?_
      cases reached
      exact Nat.lt_succ_self _
  | take found present full => exact orderly.take found present full
  | @begin name cellId found vacant free =>
      refine orderly.setCell_setPhase found rfl ?_ ?_
      · exact fun other reached => (Option.some.inj reached).symm
      · intro later others dialling
        exact (orderly.order cellId).begin others ⟨name, dialling⟩ vacant free
  | @queue name cellId holder found vacant held =>
      refine orderly.setCell_setPhase found rfl ?_ ?_
      · exact fun other reached => (Option.some.inj reached).symm
      · intro later others waiting
        exact (orderly.order cellId).enqueue others (away found rfl cellId) ⟨name, waiting⟩
          vacant held
  | @resume name cellId found vacant own =>
      refine orderly.change (pool.changedAt_setPhase ..) found rfl ?_ ?_
      · intro again other refound reached
        rw [Pool.phase_of_find?_setPhase refound] at reached
        exact (Option.some.inj reached).symm
      · exact (orderly.order cellId).resume
          (fun other different => Pool.find?_setPhase_of_ne _ different _ _)
          ⟨name, Pool.find?_setPhase_self _ _ _ _⟩ own

/-- The end of a dial keeps the order. -/
theorem dialEnd
    (orderly : pool.Orderly)
    {result : Except Fault Conn}
    {later : Pool Conn}
    {woken : List CallerId}
    (ended : pool.DialEnd id result later woken) :
    later.Orderly := by
  cases ended with
  | stay idle => exact orderly
  | @succeed name cellId conn found =>
      have own := (orderly.order cellId).dials_turn id ⟨name, found⟩
      refine orderly.setCell_setPhase found rfl ?_ ?_
      · exact fun other reached => by cases reached
      · intro later others done
        exact (orderly.order cellId).fill others (place?_ne_of_find? done rfl cellId) own conn
  | @fail name cellId fault found =>
      have own := (orderly.order cellId).dials_turn id ⟨name, found⟩
      refine orderly.setCell_setPhase found rfl ?_ ?_
      · exact fun other reached => by cases reached
      · intro later others done
        exact (orderly.order cellId).passTurn others (place?_ne_of_find? done rfl cellId) own

/-- Forgetting a caller keeps the order. -/
theorem departure
    (orderly : pool.Orderly)
    {later : Pool Conn}
    {woken : List CallerId}
    (departed : pool.Departure id later woken) :
    later.Orderly := by
  have others : ∀ other, other ≠ id ->
      (pool.forget id).callers.find? other = pool.callers.find? other :=
    fun other different => Assoc.find?_erase_of_ne _ different
  have gone : ∀ {again}, (pool.forget id).callers.find? id ≠ some again := by
    intro again refound
    cases (pool.find?_forget_self id).symm.trans refound
  cases departed with
  | away unplaced =>
      refine ⟨orderly.beyond, orderly.listed_lt, ?_, ?_⟩
      · intro other caller cellId found reached
        by_cases same : other = id
        · exact absurd (same ▸ found) gone
        · exact orderly.reached_lt other caller cellId (others other same ▸ found) reached
      · intro cellId
        exact (orderly.order cellId).frame others (orderly.outside unplaced cellId)
          fun _ refound => absurd refound gone
  | @pass caller cellId found placed own =>
      refine orderly.change (pool.changedAt_forget_setCell ..) found
        (CallerPhase.cell?_of_place? placed) (fun _ _ refound => absurd refound gone) ?_
      rw [Pool.cell_setCell_self]
      exact (orderly.order cellId).passTurn others (fun _ refound => absurd refound gone) own
  | @withdraw caller cellId found placed foreign =>
      refine orderly.change (pool.changedAt_forget_setCell ..) found
        (CallerPhase.cell?_of_place? placed) (fun _ _ refound => absurd refound gone) ?_
      rw [Pool.cell_setCell_self]
      exact (orderly.order cellId).withdraw others (fun _ refound => absurd refound gone) foreign

/-- A new caller is in nobody's way. -/
theorem arrive
    (orderly : pool.Orderly)
    (missing : pool.callers.find? id = none)
    (name : String) :
    (pool.arrive id name).Orderly := by
  refine orderly.setPhase (orderly.outside fun caller found => ?_) name rfl
    fun _ reached => by cases reached
  cases missing.symm.trans found

theorem markClosed
    (orderly : pool.Orderly) :
    pool.markClosed.Orderly :=
  ⟨orderly.beyond, orderly.listed_lt, orderly.reached_lt, orderly.order⟩

theorem clearTable
    (orderly : pool.Orderly) :
    pool.clearTable.Orderly :=
  ⟨orderly.beyond, (fun _ _ listed => by cases listed), orderly.reached_lt, orderly.order⟩

end Pool.Orderly

/-- Every event keeps the order. -/
theorem PoolRun.orderly_step
    {run : PoolRun Conn}
    (orderly : run.pool.Orderly)
    (event : PoolEvent Conn) :
    (run.step event).pool.Orderly := by
  cases event with
  | arrive id name =>
      cases known : run.pool.callers.find? id with
      | some caller => simpa [PoolRun.step, Assoc.contains, known] using orderly
      | none => simpa [PoolRun.step, Assoc.contains, known] using orderly.arrive known name
  | step id => exact orderly.move (run.pool.move_step id)
  | finish id result => exact orderly.dialEnd (run.pool.dialEnd_finishDial id result)
  | abort id => exact orderly.departure (run.pool.departure_abort id)
  | markClosed => exact orderly.markClosed
  | clearTable => exact orderly.clearTable

/-- Every run keeps the order, also one in which the pool is closed. -/
theorem PoolRun.orderly_after
    (endpoints : List Endpoint)
    (discovers : Bool)
    (events : List (PoolEvent Conn)) :
    (PoolRun.after endpoints discovers events).pool.Orderly := by
  unfold PoolRun.after
  apply List.foldlRecOn (motive := fun run : PoolRun Conn => run.pool.Orderly)
  · exact Pool.Orderly.new endpoints discovers
  · intro run orderly event _
    exact PoolRun.orderly_step orderly event

end MallFabric
