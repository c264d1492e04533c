import MallFabric.Proofs.Registry.Refinement
import MallFabric.Proofs.Registry.Requests
import MallFabric.Registry.Reaper

/-!
# Runs of a registrar

A registrar registers services over a store that others use as well, while time
passes, calls fail in any pattern and a reaper may sweep the store.  Every such
run is a run of the store, so the store follows its history.
-/

namespace MallFabric
namespace Registry

/-! ## A reaper that goes on -/

namespace Reaper

/-- A reaper that waits sweeps what has expired if it goes on because its interval is over. -/
theorem store_goOn
    {reaper : Reaper}
    {due : Instant}
    (waits : reaper.due? = some due)
    (now : Instant)
    (branch : SweeperBranch) :
    (reaper.goOn now branch).store =
      if branch = .sleep ∧ reaper.isDue now = true then (reaper.store.purgeExpired now).2
      else reaper.store := by
  have waiting : reaper.phase = .waiting due := by
    unfold Sweeper.due? at waits
    split at waits
    · next phase => exact phase.trans (congrArg _ (Option.some.inj waits))
    · cases waits
  cases branch with
  | token =>
      cases fired : reaper.cancelled <;>
        simp [goOn, Sweeper.select, Sweeper.due?, Sweeper.sweeping?, sweep, waiting, fired]
  | sleep =>
      cases isDue : reaper.isDue now <;>
        simp [goOn, Sweeper.select, Sweeper.sweeping?, sweep, waiting, isDue]

end Reaper

/-! ## Events -/

/-- What may happen next around a registrar. -/
inductive RegistryEvent where
  | register (name address : String) (span : Duration)
  /-- A registration is given up: its renewal is told to stop. -/
  | giveUp (handle : Lease)
  /-- The renewal has ended, for which the owner waits before it goes on. -/
  | join (handle : Lease)
  /-- The lease is revoked, and the owner is done. -/
  | revoke (handle : Lease)
  | resolve (name : String)
  /-- The renewal of a lease goes on. -/
  | wake (lease : LeaseId)
  /-- Somebody else uses the store. -/
  | ask (request : Request)
  | startReaper (interval : Duration)
  /-- The reaper, if it waits, goes on with a branch. -/
  | reap (branch : SweeperBranch)
  /-- The token of the reaper fires. -/
  | stopReaper
  /-- From now on a call fails on its way, or succeeds again. -/
  | fail (call : StoreCall) (fault : Option Fault)
  /-- Time passes. -/
  | pass (span : Duration)
deriving DecidableEq, Repr

/-- A renewal that was asked for, and whether it was granted. -/
structure Attempt where
  lease : LeaseId
  renewed : Bool
deriving DecidableEq, Repr

/-- A registrar, the reaper over its store, and what has happened so far. -/
structure RegistryRun where
  clock : Instant
  registrar : Registrar
  sweeper : Sweeper
  /-- The registrations that their owners hold. -/
  handles : List Lease
  /-- Those that were given up and whose renewal may still go on. -/
  stopping : List Lease
  /-- Those whose renewal has ended and whose lease is yet to be revoked. -/
  revoking : List Lease
  /-- The renewals that the registrar asked for, newest first. -/
  attempts : List Attempt
  history : History

namespace RegistryRun

/-- A registrar over a store that nobody has used. -/
def start : RegistryRun where
  clock := 0
  registrar := Registrar.new (Link.reliable Store.empty)
  sweeper := ⟨Reaper.standardInterval, false, .ended⟩
  handles := []
  stopping := []
  revoking := []
  attempts := []
  history := []

def store (run : RegistryRun) : Store := run.registrar.link.store

/-- The store with its clock and its history. -/
def stores (run : RegistryRun) : StoreRun := ⟨run.clock, run.store, run.history⟩

def reaper (run : RegistryRun) : Reaper := ⟨run.sweeper, run.store⟩

/-- The registrations that were given up and whose lease is yet to be revoked. -/
def leaving (run : RegistryRun) : List Lease := run.stopping ++ run.revoking

/-- The registrations whose lease their owners may still revoke. -/
def owned (run : RegistryRun) : List Lease := run.handles ++ run.leaving

/-- The store changes without the registrar. -/
def withStore (run : RegistryRun) (store : Store) : RegistryRun :=
  { run with registrar := { run.registrar with link := { run.registrar.link with store } } }

/-- The requests that reach the store with an event. -/
def requests (run : RegistryRun) : RegistryEvent -> List Request
  | .register name address span => run.registrar.registering run.clock name address span
  | .revoke handle =>
      if handle ∈ run.revoking then run.registrar.link.passes .revoke (.revoke handle.id) else []
  | .resolve name => run.registrar.link.passes .get (.get (serviceKey name))
  | .wake lease => run.registrar.waking run.clock lease
  | .ask request => [request]
  | .reap branch => if branch = .sleep ∧ run.sweeper.isDue run.clock then [.purge] else []
  | _ => []

/-- The renewals that the registrar asks for with an event. -/
def attempt (run : RegistryRun) : RegistryEvent -> List Attempt
  | .wake lease =>
      (run.registrar.tries run.clock lease).toList.map fun renewed => ⟨lease, renewed⟩
  | _ => []

/-- What an event does to the registrar and its surroundings.  A registration is given
up by its owner, once.  As with every operation, a sweep of the reaper reads the clock in the
step in which the store serves it. -/
def act (run : RegistryRun) : RegistryEvent -> RegistryRun
  | .register name address span =>
      let (result, registrar) := run.registrar.register run.clock name address span
      { run with registrar, handles := result.toOption.toList ++ run.handles }
  | .giveUp handle =>
      if handle ∈ run.handles then
        { run with
          handles := run.handles.erase handle
          stopping := handle :: run.stopping }
      else run
  | .join handle =>
      if handle ∈ run.stopping then
        { run with
          registrar := run.registrar.stop handle.id
          stopping := run.stopping.erase handle
          revoking := handle :: run.revoking }
      else run
  | .revoke handle =>
      if handle ∈ run.revoking then
        { run with
          registrar := (run.registrar.revoke handle).2
          revoking := run.revoking.erase handle }
      else run
  | .resolve name => { run with registrar := (run.registrar.resolve run.clock name).2 }
  | .wake lease => { run with registrar := (run.registrar.wake run.clock lease).1 }
  | .ask request => run.withStore (run.store.serve run.clock request)
  | .startReaper interval => { run with sweeper := Sweeper.begin run.clock interval }
  | .reap branch =>
      match run.sweeper.due? with
      | none => run
      | some _ =>
          let reaper := run.reaper.goOn run.clock branch
          { run.withStore reaper.store with sweeper := reaper.toSweeper }
  | .stopReaper => { run with sweeper := run.sweeper.cancel }
  | .fail call fault =>
      { run with
        registrar := { run.registrar with link := run.registrar.link.setFailing call fault } }
  | .pass span => { run with clock := run.clock + span }

/-- What an event is to the store. -/
def storeEvents (run : RegistryRun) : RegistryEvent -> List StoreEvent
  | .pass span => [.pass span]
  | event => (run.requests event).map .serve

/-- Carry out an event, and note what was done by it. -/
def step (run : RegistryRun) (event : RegistryEvent) : RegistryRun :=
  { run.act event with
    attempts := run.attempt event ++ run.attempts
    history := (run.stores.resume (run.storeEvents event)).history }

/-- A run goes on. -/
def resume (run : RegistryRun) (events : List RegistryEvent) : RegistryRun :=
  events.foldl step run

/-- The registrar after a run of events. -/
def after (events : List RegistryEvent) : RegistryRun := start.resume events

variable (run : RegistryRun)

/-- What an event other than a failure makes of the link to the store. -/
theorem reaches_act
    (event : RegistryEvent)
    (steady : ∀ call fault, event ≠ .fail call fault) :
    Link.Reaches run.clock run.registrar.link (run.requests event) (run.attempt event).length
      (run.act event).registrar.link := by
  cases event with
  | register name address span =>
      exact (run.registrar.registers_register run.clock name address span).2
  | giveUp handle =>
      simp only [act]
      split <;> exact Link.reaches_refl
  | join handle =>
      simp only [act]
      split <;> exact Link.reaches_refl
  | revoke handle =>
      unfold act requests
      by_cases ready : handle ∈ run.revoking
      · obtain ⟨link, equal, reaches⟩ := run.registrar.exists_revoke run.clock handle
        simp only [ready, if_true, equal]
        exact reaches
      · simp only [ready, if_false]
        exact Link.reaches_refl
  | resolve name =>
      obtain ⟨link, equal, reaches⟩ := run.registrar.exists_resolve run.clock name
      simp only [act, equal]
      exact reaches
  | wake lease =>
      have reaches := (run.registrar.wakes_wake run.clock lease).reaches
      unfold attempt
      rw [List.length_map]
      exact reaches
  | ask request => exact ⟨rfl, rfl, rfl⟩
  | reap branch =>
      simp only [act, requests]
      cases waits : run.sweeper.due? with
      | none =>
          rw [if_neg (by simp [Sweeper.isDue, waits])]
          exact Link.reaches_refl
      | some due =>
          have waiting : run.reaper.due? = some due := waits
          have swept := Reaper.store_goOn waiting run.clock branch
          refine ⟨swept.trans ?_, rfl, rfl⟩
          by_cases ready : branch = .sleep ∧ run.sweeper.isDue run.clock = true
          · rw [if_pos ready]
            exact if_pos ready
          · rw [if_neg ready]
            exact if_neg ready
  | startReaper interval => exact Link.reaches_refl
  | stopReaper => exact Link.reaches_refl
  | pass span => exact Link.reaches_refl
  | fail call fault => exact absurd rfl (steady call fault)

/-- The requests of an event are served by the store. -/
theorem store_act
    (event : RegistryEvent) :
    (run.act event).store = run.store.serveAll run.clock (run.requests event) := by
  cases event with
  | fail call fault => rfl
  | _ => exact (run.reaches_act _ (by simp)).store

end RegistryRun

/-- A store that serves requests at one instant. -/
theorem StoreRun.resume_serve
    (run : StoreRun)
    (requests : List Request) :
    (run.resume (requests.map .serve)).clock = run.clock ∧
      (run.resume (requests.map .serve)).store = run.store.serveAll run.clock requests := by
  induction requests generalizing run with
  | nil => exact ⟨rfl, rfl⟩
  | cons request rest inductionHypothesis => exact inductionHypothesis (run.serve request)

namespace RegistryRun

variable (run : RegistryRun)

/-- Time passes only with the event that says so. -/
theorem clock_act
    (event : RegistryEvent) :
    (run.act event).clock = (run.stores.resume (run.storeEvents event)).clock := by
  have served := (run.stores.resume_serve (run.requests event)).1
  cases event with
  | pass span => rfl
  | giveUp handle =>
      refine Eq.trans ?_ served.symm
      simp only [act]
      split <;> rfl
  | join handle =>
      refine Eq.trans ?_ served.symm
      simp only [act]
      split <;> rfl
  | revoke handle =>
      refine Eq.trans ?_ served.symm
      simp only [act]
      split <;> rfl
  | reap branch =>
      refine Eq.trans ?_ served.symm
      simp only [act]
      split <;> rfl
  | _ => exact served.symm

theorem clock_step
    {event : RegistryEvent}
    (timeless : ∀ span, event ≠ .pass span) :
    (run.step event).clock = run.clock := by
  have served := (run.stores.resume_serve (run.requests event)).1
  refine (run.clock_act event).trans ?_
  cases event with
  | pass span => exact absurd rfl (timeless span)
  | _ => exact served

/-- Every event is a run of the store. -/
theorem stores_step
    (event : RegistryEvent) :
    (run.step event).stores = run.stores.resume (run.storeEvents event) := by
  have clock := run.clock_act event
  have store : (run.act event).store = (run.stores.resume (run.storeEvents event)).store := by
    have served := (run.stores.resume_serve (run.requests event)).2
    rw [run.store_act]
    cases event with
    | pass span => rfl
    | _ => exact served.symm
  have same : (run.step event).stores = ⟨(run.act event).clock, (run.act event).store,
      (run.stores.resume (run.storeEvents event)).history⟩ := rfl
  rw [same, clock, store]

/-- So is every run of a registrar. -/
theorem stores_resume
    (events : List RegistryEvent) :
    ∃ served, (run.resume events).stores = run.stores.resume served := by
  induction events generalizing run with
  | nil => exact ⟨[], rfl⟩
  | cons event rest inductionHypothesis =>
      obtain ⟨served, equal⟩ := inductionHypothesis (run.step event)
      refine ⟨run.storeEvents event ++ served, ?_⟩
      rw [StoreRun.resume, List.foldl_append]
      rw [stores_step] at equal
      exact equal

/-- In every run of a registrar the store agrees with its history. -/
theorem faithful_after (events : List RegistryEvent) : (after events).stores.Faithful := by
  obtain ⟨served, equal⟩ := start.stores_resume events
  have agrees := StoreRun.faithful_start.resume served
  exact equal ▸ agrees

/-! ## Renewals and numbers -/

theorem nextLease_le_step
    (event : RegistryEvent) :
    run.store.nextLease ≤ (run.step event).store.nextLease := by
  have stored := run.store_act event
  have kept := run.store.nextLease_le_serveAll run.clock (run.requests event)
  rw [← stored] at kept
  exact kept

/-- The registration that is handed out with an event. -/
def given (run : RegistryRun) : RegistryEvent -> List Lease
  | .register name address span =>
      (run.registrar.register run.clock name address span).1.toOption.toList
  | _ => []

/-- The registration that its owner is done with after an event. -/
def done (run : RegistryRun) : RegistryEvent -> List Lease
  | .revoke handle => if handle ∈ run.revoking then [handle] else []
  | _ => []

/-- A registration that moves from one list to the next stays in both together. -/
theorem erase_append_cons_perm
    {handle : Lease}
    {first : List Lease}
    (present : handle ∈ first)
    (second : List Lease) :
    (first ++ second).Perm (first.erase handle ++ handle :: second) :=
  ((List.perm_cons_erase present).append_right second).trans List.perm_middle.symm

/-- Registrations are handed out, pass from one stage to the next, and are done with. -/
theorem owned_step
    (event : RegistryEvent) :
    (run.given event ++ run.owned).Perm (run.done event ++ (run.step event).owned) := by
  cases event with
  | register name address span =>
      have owned : (run.step (.register name address span)).owned =
          run.given (.register name address span) ++ run.owned :=
        List.append_assoc _ _ _
      rw [owned]
      rfl
  | giveUp handle =>
      simp only [step, act]
      split
      · next held => exact erase_append_cons_perm held _
      · rfl
  | join handle =>
      simp only [step, act]
      split
      · next stopping => exact (erase_append_cons_perm stopping _).append_left _
      · rfl
  | revoke handle =>
      simp only [done, step, act]
      split
      · next revoking =>
          have moved := (List.perm_cons_erase revoking).append_left (run.handles ++ run.stopping)
          simp only [given, owned, leaving, List.nil_append, List.singleton_append,
            ← List.append_assoc]
          exact moved.trans List.perm_middle
      · rfl
  | reap branch =>
      simp only [step, act]
      split <;> rfl
  | _ => rfl

/-- A registration that is owned after an event was owned before it, or is for the lease that
was granted next. -/
theorem mem_owned_step
    {event : RegistryEvent}
    {handle : Lease}
    (present : handle ∈ (run.step event).owned) :
    handle ∈ run.owned ∨
      handle.id = run.store.nextLease ∧ handle.id < (run.step event).store.nextLease := by
  have moved := (run.owned_step event).mem_iff.mpr (List.mem_append_right _ present)
  rcases List.mem_append.mp moved with new | before
  · cases event with
    | register name address span =>
        have registers := (run.registrar.registers_register run.clock name address span).1
        exact .inr ⟨registers.id_eq new, registers.id_lt new⟩
    | _ => exact absurd new List.not_mem_nil
  · exact .inl before

/-- A registration is on its way out after an event if it was before, or is given up now. -/
theorem mem_leaving_step
    {event : RegistryEvent}
    {handle : Lease}
    (present : handle ∈ (run.step event).leaving) :
    handle ∈ run.leaving ∨ handle ∈ run.handles ∧ event = .giveUp handle := by
  cases event with
  | giveUp given =>
      simp only [leaving, step, act] at present ⊢
      split at present
      · next held =>
          rcases List.mem_cons.mp present with rfl | before
          · exact .inr ⟨held, rfl⟩
          · exact .inl before
      · exact .inl present
  | join given =>
      simp only [leaving, step, act] at present ⊢
      split at present
      · next stopping => exact .inl ((erase_append_cons_perm stopping _).mem_iff.mpr present)
      · exact .inl present
  | revoke given =>
      simp only [leaving, step, act] at present ⊢
      split at present
      · exact .inl ((List.erase_sublist.append_left _).mem present)
      · exact .inl present
  | reap branch =>
      simp only [leaving, step, act] at present ⊢
      split at present <;> exact .inl present
  | _ => exact .inl present

/-- Only its own events change the renewal of a lease. -/
theorem running?_step
    {event : RegistryEvent}
    {lease : LeaseId}
    (known : lease < run.store.nextLease)
    (unwoken : event ≠ .wake lease)
    (kept : ∀ handle ∈ run.stopping, event = .join handle -> handle.id ≠ lease) :
    (run.step event).registrar.running? lease = run.registrar.running? lease := by
  cases event with
  | register name address span =>
      have old : run.registrar.link.store.nextLease ≠ lease := Int.ne_of_gt known
      exact (run.registrar.registers_register run.clock name address span).1.running?_of_ne old
  | giveUp handle =>
      simp only [step, act]
      split <;> rfl
  | join handle =>
      simp only [step, act]
      split
      · next stopping =>
          have other : lease ≠ handle.id := (kept handle stopping rfl).symm
          exact Registrar.running?_stop_of_ne _ other
      · rfl
  | revoke handle =>
      obtain ⟨link, equal, -⟩ := run.registrar.exists_revoke run.clock handle
      simp only [step, act, equal]
      split <;> rfl
  | resolve name =>
      obtain ⟨link, equal, -⟩ := run.registrar.exists_resolve run.clock name
      simp only [step, act, equal]
      rfl
  | wake woken =>
      have other : lease ≠ woken := fun same => unwoken (same ▸ rfl)
      exact (run.registrar.wakes_wake run.clock woken).running?_of_ne other
  | reap branch =>
      simp only [step, act]
      split <;> rfl
  | _ => rfl

/-- Renewals and registrations are for leases whose number has been given away. -/
structure Numbered (run : RegistryRun) : Prop where
  renewals : ∀ renewal ∈ run.registrar.renewals, renewal.lease < run.store.nextLease
  owned : ∀ handle ∈ run.owned, handle.id < run.store.nextLease

theorem numbered_start : start.Numbered where
  renewals := fun _ present => absurd present List.not_mem_nil
  owned := fun _ present => absurd present List.not_mem_nil

/-- A renewal after an event is that of a lease that was renewed before it, or of one that was
granted with it. -/
theorem mem_renewals_step
    {event : RegistryEvent}
    {renewal : Renewal}
    (present : renewal ∈ (run.step event).registrar.renewals) :
    (∃ before ∈ run.registrar.renewals, before.lease = renewal.lease) ∨
      renewal.lease < (run.step event).store.nextLease := by
  cases event with
  | register name address span =>
      have registers := (run.registrar.registers_register run.clock name address span).1
      rcases registers.mem_renewals present with before | new
      · exact .inl ⟨renewal, before, rfl⟩
      · exact .inr new
  | giveUp handle =>
      simp only [step, act] at present
      split at present <;> exact .inl ⟨renewal, present, rfl⟩
  | join handle =>
      simp only [step, act] at present
      split at present
      · exact .inl (Registrar.mem_stop present)
      · exact .inl ⟨renewal, present, rfl⟩
  | revoke handle =>
      obtain ⟨link, equal, -⟩ := run.registrar.exists_revoke run.clock handle
      simp only [step, act, equal] at present
      split at present <;> exact .inl ⟨renewal, present, rfl⟩
  | resolve name =>
      obtain ⟨link, equal, -⟩ := run.registrar.exists_resolve run.clock name
      simp only [step, act, equal] at present
      exact .inl ⟨renewal, present, rfl⟩
  | wake woken => exact .inl ((run.registrar.wakes_wake run.clock woken).mem_renewals present)
  | reap branch =>
      simp only [step, act] at present
      split at present <;> exact .inl ⟨renewal, present, rfl⟩
  | _ => exact .inl ⟨renewal, present, rfl⟩

variable {run}

theorem Numbered.step
    (numbered : run.Numbered)
    (event : RegistryEvent) :
    (run.step event).Numbered := by
  have more := run.nextLease_le_step event
  constructor
  · intro renewal present
    rcases run.mem_renewals_step present with ⟨before, renewed, same⟩ | new
    · exact Int.lt_of_lt_of_le (same ▸ numbered.renewals before renewed) more
    · exact new
  · intro handle present
    rcases run.mem_owned_step present with before | ⟨-, new⟩
    · exact Int.lt_of_lt_of_le (numbered.owned handle before) more
    · exact new

theorem Numbered.resume
    (numbered : run.Numbered)
    (events : List RegistryEvent) :
    (run.resume events).Numbered := by
  induction events generalizing run with
  | nil => exact numbered
  | cons event rest inductionHypothesis => exact inductionHypothesis (numbered.step event)

theorem numbered_after (events : List RegistryEvent) : (after events).Numbered :=
  numbered_start.resume events

end RegistryRun
end Registry
end MallFabric
