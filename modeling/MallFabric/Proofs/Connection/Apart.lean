import MallFabric.Proofs.Connection.Single

/-!
# A pool as one name sees it

The callers of a name have to do with the cell of that name and with nothing else.
What they see of a pool is a pool of their own, in which no other name was ever
asked for.  Their steps, the ends of their dials and their departures are the same in
both, and whatever the callers of other names do leaves the smaller pool as it is.
-/

namespace MallFabric

variable {Conn : Type}

/-- The phase of a caller whose cell, if it has come to one, is the first. -/
def CallerPhase.atFirst : CallerPhase Conn -> CallerPhase Conn
  | .joining _ => .joining 0
  | .waiting _ => .waiting 0
  | .dialling _ => .dialling 0
  | phase => phase

theorem CallerPhase.place?_atFirst (phase : CallerPhase Conn) :
    phase.atFirst.place? = phase.place?.map fun _ => 0 := by
  cases phase with
  | _ => rfl

/-- A cell without one of its callers, whose turn passes on if it had it. -/
def Cell.without (cell : Cell Conn) (id : CallerId) : Cell Conn :=
  if cell.turn = some id then cell.passTurn
  else { cell with queue := cell.queue.filter (· ≠ id) }

namespace Pool

/-- Whether a caller wants the connection of a name. -/
def isFor (wants : CallerId -> String) (name : String) (id : CallerId) : Bool := wants id = name

/-- The cell at which the callers of a name meet, if it has one. -/
def meeting? (pool : Pool Conn) (name : String) : Option (Cell Conn) :=
  (pool.table.find? name).map pool.cell

/-- The callers of a name. -/
def callersFor (pool : Pool Conn) (wants : CallerId -> String) (name : String) :
    Assoc CallerId (Caller Conn) :=
  (pool.callers.restrict (isFor wants name)).mapValues fun _ caller =>
    ⟨caller.name, caller.phase.atFirst⟩

/-- A pool as the callers of one name see it: only they have come, and their cell is
the first and the only one. -/
def only (pool : Pool Conn) (wants : CallerId -> String) (name : String) : Pool Conn where
  endpoints := pool.endpoints
  discovers := pool.discovers
  closed := pool.closed
  table := ((pool.meeting? name).map fun _ => (name, 0)).toList
  cells := ((pool.meeting? name).map fun cell => (0, cell)).toList
  nextCell := if (pool.meeting? name).isSome then 1 else 0
  callers := pool.callersFor wants name

variable {pool : Pool Conn} {wants : CallerId -> String} {name : String}
variable {id : CallerId} {cellId : CellId}

theorem isFor_of_eq
    (own : wants id = name) :
    isFor wants name id = true :=
  decide_eq_true own

theorem isFor_of_ne
    (foreign : wants id ≠ name) :
    isFor wants name id = false :=
  decide_eq_false foreign

/-! ## Departures -/

/-- A caller that is forgotten leaves the cell where it waits or dials. -/
theorem abort_of_placed
    {caller : Caller Conn}
    (found : pool.callers.find? id = some caller)
    (placed : caller.phase.place? = some cellId) :
    (pool.abort id).1 = (pool.forget id).setCell cellId ((pool.cell cellId).without id) := by
  obtain ⟨called, phase⟩ := caller
  unfold abort Cell.without
  rw [found]
  cases phase with
  | waiting other =>
      cases placed
      by_cases turn : (pool.cell cellId).turn = some id
      · simp only [turn, if_true]
        rfl
      · simp only [turn, if_false]
        rfl
  | dialling other =>
      cases placed
      by_cases turn : (pool.cell cellId).turn = some id
      · simp only [turn, if_true]
        rfl
      · simp only [turn, if_false]
        rfl
  | _ => cases placed

theorem abort_of_unplaced
    (unplaced : ∀ caller, pool.callers.find? id = some caller -> caller.phase.place? = none) :
    (pool.abort id).1 = pool.forget id := by
  have departed := pool.departure_abort id
  generalize (pool.abort id).1 = later, (pool.abort id).2 = woken at departed ⊢
  cases departed with
  | away nowhere => rfl
  | pass found placed own => cases (unplaced _ found).symm.trans placed
  | withdraw found placed foreign => cases (unplaced _ found).symm.trans placed

theorem abort_of_absent
    (absent : pool.callers.find? id = none) :
    (pool.abort id).1 = pool.forget id := by
  refine abort_of_unplaced fun caller found => ?_
  cases absent.symm.trans found

/-! ## What stands in the smaller pool -/

theorem find?_callers_only
    (pool : Pool Conn)
    (own : wants id = name) :
    (pool.only wants name).callers.find? id =
      (pool.callers.find? id).map fun caller => ⟨caller.name, caller.phase.atFirst⟩ := by
  rw [only, callersFor, Assoc.find?_mapValues, Assoc.find?_restrict _ (isFor_of_eq own)]

theorem find?_callers_only_of_ne
    (foreign : wants id ≠ name) :
    (pool.only wants name).callers.find? id = none := by
  rw [only, callersFor, Assoc.find?_mapValues,
    Assoc.find?_restrict_of_not _ (isFor_of_ne foreign)]
  rfl

theorem find?_table_only
    (pool : Pool Conn)
    (wants : CallerId -> String)
    (name : String) :
    (pool.only wants name).table.find? name = (pool.table.find? name).map fun _ => 0 := by
  cases listed : pool.table.find? name with
  | none => simp [only, meeting?, listed]
  | some cellId => simp [only, meeting?, listed, Assoc.find?]

theorem cell_only
    (wants : CallerId -> String)
    (listed : pool.table.find? name = some cellId) :
    (pool.only wants name).cell 0 = pool.cell cellId := by
  simp [only, meeting?, listed, Pool.cell, Assoc.find?]

theorem result?_only
    (own : wants id = name) :
    (pool.only wants name).result? id = pool.result? id := by
  rw [result?, result?, pool.find?_callers_only own]
  cases pool.callers.find? id with
  | none => rfl
  | some caller =>
      obtain ⟨called, phase⟩ := caller
      cases phase with
      | _ => rfl

/-! ## Changes that the callers of the name make -/

theorem only_setPhase
    (own : wants id = name)
    (called : String)
    (phase : CallerPhase Conn) :
    (pool.setPhase id called phase).only wants name =
      (pool.only wants name).setPhase id called phase.atFirst := by
  have callers : (pool.setPhase id called phase).callersFor wants name =
      (pool.callersFor wants name).insert id ⟨called, phase.atFirst⟩ := by
    simp only [callersFor, setPhase, Assoc.restrict_insert _ (isFor_of_eq own),
      Assoc.mapValues_insert]
  rw [only, callers]
  rfl

theorem only_setCell
    (wants : CallerId -> String)
    (listed : pool.table.find? name = some cellId)
    (cell : Cell Conn) :
    (pool.setCell cellId cell).only wants name = (pool.only wants name).setCell 0 cell := by
  have before : pool.meeting? name = some (pool.cell cellId) := by
    simp [meeting?, listed]
  have after : (pool.setCell cellId cell).meeting? name = some cell := by
    have kept : (pool.setCell cellId cell).table.find? name = some cellId := listed
    simp [meeting?, kept]
  rw [only, only, before, after]
  rfl

theorem only_forget
    (pool : Pool Conn)
    (wants : CallerId -> String)
    (name : String)
    (id : CallerId) :
    (pool.forget id).only wants name = (pool.only wants name).forget id := by
  have callers : (pool.forget id).callersFor wants name =
      (pool.callersFor wants name).erase id := by
    simp only [callersFor, forget, Assoc.restrict_erase, Assoc.mapValues_erase]
  rw [only, callers]
  rfl

theorem only_list
    (wants : CallerId -> String)
    (missing : pool.table.find? name = none) :
    (pool.list name).only wants name = (pool.only wants name).list name := by
  have before : pool.meeting? name = none := by
    simp [meeting?, missing]
  have after : (pool.list name).meeting? name = some Cell.empty := by
    simp [meeting?, Pool.list, Pool.cell, Assoc.find?_insert_self]
  rw [only, only, before, after]
  rfl

/-! ## Changes that the callers of other names make -/

theorem only_setPhase_of_ne
    (foreign : wants id ≠ name)
    (called : String)
    (phase : CallerPhase Conn) :
    (pool.setPhase id called phase).only wants name = pool.only wants name := by
  have callers : (pool.setPhase id called phase).callersFor wants name =
      pool.callersFor wants name := by
    simp only [callersFor, setPhase, Assoc.restrict_insert_of_not _ (isFor_of_ne foreign)]
  rw [only, callers]
  rfl

theorem only_forget_of_ne
    (foreign : wants id ≠ name) :
    (pool.forget id).only wants name = pool.only wants name := by
  have callers : (pool.forget id).callersFor wants name = pool.callersFor wants name := by
    simp only [callersFor, forget, Assoc.restrict_erase_of_not _ (isFor_of_ne foreign)]
  rw [only, callers]
  rfl

/-- A change to the cell of another name. -/
theorem only_setCell_of_ne
    (wants : CallerId -> String)
    (elsewhere : pool.table.find? name ≠ some cellId)
    (cell : Cell Conn) :
    (pool.setCell cellId cell).only wants name = pool.only wants name := by
  have meeting : (pool.setCell cellId cell).meeting? name = pool.meeting? name := by
    have kept : (pool.setCell cellId cell).table.find? name = pool.table.find? name := rfl
    rw [meeting?, meeting?, kept]
    refine Option.map_congr fun own listed => pool.cell_setCell_of_ne ?_ cell
    rintro rfl
    exact elsewhere listed
  rw [only, meeting]
  rfl

theorem only_list_of_ne
    (wants : CallerId -> String)
    (orderly : pool.Orderly)
    {other : String}
    (different : name ≠ other) :
    (pool.list other).only wants name = pool.only wants name := by
  have meeting : (pool.list other).meeting? name = pool.meeting? name := by
    have kept : (pool.list other).table.find? name = pool.table.find? name :=
      Assoc.find?_insert_of_ne _ _ different
    rw [meeting?, meeting?, kept]
    exact Option.map_congr fun own _ => orderly.cell_list other own
  rw [only, meeting]
  rfl

/-! ## Steps -/

/-- A pool in which every caller wants one name, and each name has a cell of its own. -/
structure Parted (pool : Pool Conn) (wants : CallerId -> String) : Prop where
  single : ∃ opened, PoolRun.Single ⟨pool, opened⟩
  names : ∀ id caller, pool.callers.find? id = some caller -> caller.name = wants id

namespace Parted

variable (parted : pool.Parted wants)

include parted

theorem orderly : pool.Orderly := by
  obtain ⟨opened, single⟩ := parted.single
  exact single.orderly

theorem listed
    {caller : Caller Conn}
    (found : pool.callers.find? id = some caller)
    (reached : caller.phase.cell? = some cellId) :
    pool.table.find? caller.name = some cellId := by
  obtain ⟨opened, single⟩ := parted.single
  exact (single.placed id caller found).1 cellId reached

/-- The cell of one name is not that of another. -/
theorem elsewhere
    (foreign : wants id ≠ name)
    {caller : Caller Conn}
    (found : pool.callers.find? id = some caller)
    (reached : caller.phase.cell? = some cellId) :
    pool.table.find? name ≠ some cellId := by
  intro shared
  obtain ⟨opened, single⟩ := parted.single
  have own := parted.listed found reached
  have same := single.table_injective caller.name name cellId own shared
  exact foreign ((parted.names id caller found).symm.trans same)

theorem join_only
    (own : wants id = name)
    (found : pool.callers.find? id = some ⟨name, .joining cellId⟩) :
    (pool.only wants name).join id name 0 =
      ((pool.join id name cellId).1.only wants name, (pool.join id name cellId).2) := by
  have listed : pool.table.find? name = some cellId := parted.listed found rfl
  unfold join
  rw [cell_only wants listed]
  cases full : (pool.cell cellId).value with
  | some conn => simp only [full, only_setPhase own, CallerPhase.atFirst]
  | none =>
      cases held : (pool.cell cellId).turn with
      | none =>
          simp only [full, held, only_setPhase own, only_setCell wants listed, CallerPhase.atFirst]
      | some holder =>
          simp only [full, held, only_setPhase own, only_setCell wants listed, CallerPhase.atFirst]

theorem resume_only
    (own : wants id = name)
    (found : pool.callers.find? id = some ⟨name, .waiting cellId⟩) :
    (pool.only wants name).resume id name 0 =
      ((pool.resume id name cellId).1.only wants name, (pool.resume id name cellId).2) := by
  have listed : pool.table.find? name = some cellId := parted.listed found rfl
  unfold resume
  rw [cell_only wants listed]
  cases full : (pool.cell cellId).value with
  | some conn => simp only [full, only_setPhase own, CallerPhase.atFirst]
  | none =>
      by_cases turn : (pool.cell cellId).turn = some id
      · simp only [full, turn, if_true, only_setPhase own, CallerPhase.atFirst]
      · simp only [full, turn, if_false]

/-- A caller of the name takes the same step in the smaller pool. -/
theorem step_only
    (own : wants id = name) :
    (pool.only wants name).step id = ((pool.step id).1.only wants name, (pool.step id).2) := by
  unfold step
  rw [pool.find?_callers_only own]
  cases found : pool.callers.find? id with
  | none => rfl
  | some caller =>
      obtain ⟨called, phase⟩ := caller
      have same : called = name := (parted.names id _ found).trans own
      subst same
      have table := pool.find?_table_only wants called
      cases phase with
      | arriving =>
          have closed : (pool.only wants called).closed = pool.closed := rfl
          simp only [Option.map_some, CallerPhase.atFirst, closed]
          split
          · simp only [only_setPhase own, CallerPhase.atFirst]
          · simp only [only_setPhase own, CallerPhase.atFirst]
      | admitted =>
          have endpoints : (pool.only wants called).endpoints = pool.endpoints := rfl
          have discovers : (pool.only wants called).discovers = pool.discovers := rfl
          simp only [Option.map_some, CallerPhase.atFirst, table, endpoints, discovers]
          cases listed : pool.table.find? called with
          | some cellId => simp only [Option.map_some, only_setPhase own, CallerPhase.atFirst]
          | none =>
              simp only [Option.map_none]
              split
              · simp only [only_setPhase own, CallerPhase.atFirst]
              · simp only [only_setPhase own, CallerPhase.atFirst]
      | unlisted =>
          simp only [Option.map_some, CallerPhase.atFirst, table]
          cases listed : pool.table.find? called with
          | some cellId => simp only [Option.map_some, only_setPhase own, CallerPhase.atFirst]
          | none =>
              have opens := only_list wants listed
              have first : (pool.only wants called).nextCell = 0 := by
                simp [only, meeting?, listed]
              simp only [Option.map_none, only_setPhase own, CallerPhase.atFirst, first]
              unfold Pool.list at opens
              rw [opens, first]
      | joining cellId => exact parted.join_only own found
      | waiting cellId => exact parted.resume_only own found
      | dialling cellId => rfl
      | finished result => rfl

/-- A caller of another name takes its step unseen. -/
theorem step_only_of_ne
    (foreign : wants id ≠ name) :
    (pool.step id).1.only wants name = pool.only wants name := by
  have moved := pool.move_step id
  generalize (pool.step id).1 = later, (pool.step id).2 = progress at moved ⊢
  cases moved with
  | stay => rfl
  | begin found vacant free =>
      rw [only_setPhase_of_ne foreign,
        only_setCell_of_ne wants (parted.elsewhere foreign found rfl)]
  | queue found vacant held =>
      rw [only_setPhase_of_ne foreign,
        only_setCell_of_ne wants (parted.elsewhere foreign found rfl)]
  | @list called found missing =>
      have different : name ≠ called := by
        rintro rfl
        exact foreign (parted.names id _ found).symm
      rw [only_setPhase_of_ne foreign, only_list_of_ne wants parted.orderly different]
  | _ => exact only_setPhase_of_ne foreign _ _

/-- The dial of a caller of the name ends in the smaller pool as it does here. -/
theorem finishDial_only
    (own : wants id = name)
    (result : Except Fault Conn) :
    ((pool.only wants name).finishDial id result).1 =
      (pool.finishDial id result).1.only wants name := by
  unfold finishDial
  rw [pool.find?_callers_only own]
  cases found : pool.callers.find? id with
  | none => rfl
  | some caller =>
      obtain ⟨called, phase⟩ := caller
      have same : called = name := (parted.names id _ found).trans own
      subst same
      cases phase with
      | dialling cellId =>
          have listed : pool.table.find? called = some cellId := parted.listed found rfl
          simp only [Option.map_some, CallerPhase.atFirst, cell_only wants listed]
          cases result with
          | ok conn =>
              simp only [only_setPhase own, only_setCell wants listed, CallerPhase.atFirst]
          | error fault =>
              simp only [only_setPhase own, only_setCell wants listed, CallerPhase.atFirst]
      | _ => rfl

theorem finishDial_only_of_ne
    (foreign : wants id ≠ name)
    (result : Except Fault Conn) :
    (pool.finishDial id result).1.only wants name = pool.only wants name := by
  have ended := pool.dialEnd_finishDial id result
  generalize (pool.finishDial id result).1 = later, (pool.finishDial id result).2 = woken
    at ended ⊢
  cases ended with
  | stay idle => rfl
  | succeed found =>
      rw [only_setPhase_of_ne foreign,
        only_setCell_of_ne wants (parted.elsewhere foreign found rfl)]
  | fail found =>
      rw [only_setPhase_of_ne foreign,
        only_setCell_of_ne wants (parted.elsewhere foreign found rfl)]

/-- A caller of the name leaves the smaller pool as it leaves this one. -/
theorem abort_only
    (own : wants id = name) :
    ((pool.only wants name).abort id).1 = (pool.abort id).1.only wants name := by
  cases found : pool.callers.find? id with
  | none =>
      have foundOnly := pool.find?_callers_only own
      rw [found, Option.map_none] at foundOnly
      rw [abort_of_absent found, abort_of_absent foundOnly, only_forget]
  | some caller =>
      have foundOnly := pool.find?_callers_only own
      rw [found, Option.map_some] at foundOnly
      cases placed : caller.phase.place? with
      | none =>
          have placedOnly : caller.phase.atFirst.place? = none := by
            rw [CallerPhase.place?_atFirst, placed]
            rfl
          rw [abort_of_unplaced (unplaced_of_find? found placed),
            abort_of_unplaced (unplaced_of_find? foundOnly placedOnly), only_forget]
      | some cellId =>
          have placedOnly : caller.phase.atFirst.place? = some 0 := by
            rw [CallerPhase.place?_atFirst, placed]
            rfl
          have listed : pool.table.find? name = some cellId := by
            have own := (parted.names id caller found).trans own
            exact own ▸ parted.listed found (CallerPhase.cell?_of_place? placed)
          have still : (pool.forget id).table.find? name = some cellId := listed
          rw [abort_of_placed found placed, abort_of_placed foundOnly placedOnly,
            only_setCell wants still, only_forget, cell_only wants listed]

theorem abort_only_of_ne
    (foreign : wants id ≠ name) :
    (pool.abort id).1.only wants name = pool.only wants name := by
  cases found : pool.callers.find? id with
  | none => rw [abort_of_absent found, only_forget_of_ne foreign]
  | some caller =>
      cases placed : caller.phase.place? with
      | none =>
          rw [abort_of_unplaced (unplaced_of_find? found placed), only_forget_of_ne foreign]
      | some cellId =>
          have elsewhere : (pool.forget id).table.find? name ≠ some cellId :=
            parted.elsewhere foreign found (CallerPhase.cell?_of_place? placed)
          rw [abort_of_placed found placed, only_setCell_of_ne wants elsewhere,
            only_forget_of_ne foreign]

/-! ## Every step keeps the names apart -/

theorem of_others
    {later : Pool Conn}
    (single : ∃ opened, PoolRun.Single ⟨later, opened⟩)
    (others : ∀ other, other ≠ id -> later.callers.find? other = pool.callers.find? other)
    (named : ∀ caller, later.callers.find? id = some caller -> caller.name = wants id) :
    later.Parted wants := by
  refine ⟨single, fun other caller found => ?_⟩
  by_cases same : other = id
  · rw [same] at found ⊢
    exact named caller found
  · rw [others other same] at found
    exact parted.names other caller found

theorem arrive
    (new : pool.callers.find? id = none) :
    (pool.arrive id (wants id)).Parted wants := by
  obtain ⟨opened, single⟩ := parted.single
  have arrived := single.setPhase (single.orderly.arrive new (wants id))
    (PoolRun.placed_elsewhere rfl fun _ done => by cases done)
  apply parted.of_others ⟨opened, arrived⟩
  · exact fun other different => find?_setPhase_of_ne _ different _ _
  · exact fun caller found => name_of_find?_setPhase found

theorem step (id : CallerId) : (pool.step id).1.Parted wants := by
  have moved := pool.move_step id
  obtain ⟨opened, single⟩ := parted.single
  refine parted.of_others ⟨opened, single.move moved⟩ (fun _ => moved.others) ?_
  intro caller found
  obtain ⟨former, before, same⟩ := moved.name found
  exact same.trans (parted.names id former before)

theorem finishDial
    (id : CallerId)
    (result : Except Fault Conn) :
    (pool.finishDial id result).1.Parted wants := by
  have ended := pool.dialEnd_finishDial id result
  obtain ⟨opened, single⟩ := parted.single
  refine parted.of_others ⟨_, single.dialEnd ended⟩ (fun _ => ended.others) ?_
  intro caller found
  obtain ⟨former, before, same⟩ := ended.name found
  exact same.trans (parted.names id former before)

theorem abort (id : CallerId) : (pool.abort id).1.Parted wants := by
  obtain ⟨opened, single⟩ := parted.single
  refine parted.of_others ⟨opened, single.departure (pool.departure_abort id)⟩
    (fun other different => pool.find?_callers_abort_of_ne different) fun caller found => ?_
  cases (pool.find?_callers_abort_self id).symm.trans found

end Parted

theorem parted_new
    (endpoints : List Endpoint)
    (discovers : Bool)
    (wants : CallerId -> String) :
    (Pool.new endpoints discovers : Pool Conn).Parted wants where
  single := ⟨[], PoolRun.Single.start endpoints discovers⟩
  names := fun _ _ found => by cases found

end Pool
end MallFabric
