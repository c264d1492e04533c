import MallFabric.Proofs.Registry.Registration

/-!
# Fleets

Any number of clients register services in one store that never fails, often
several of them under one name, renew their leases and give them up, in any
order.  A registration has two steps, the grant of a lease and the binding of the
address, between which other clients may come.
-/

namespace MallFabric
namespace Registry

abbrev ClientId := Nat

/-- A registration whose lease is granted and whose address is not bound yet. -/
structure Enrolment where
  client : ClientId
  name : String
  address : String
  span : Duration
deriving DecidableEq, Repr

/-- A registration that was made. -/
structure Registration where
  client : ClientId
  name : String
  address : String
  lease : LeaseId
deriving DecidableEq, Repr

/-- What may happen next around a fleet. -/
inductive FleetEvent where
  /-- A client begins to register a service. -/
  | enrol (client : ClientId) (name address : String) (span : Duration)
  /-- The client to which a lease was granted binds the address. -/
  | bind (lease : LeaseId)
  | deregister (client : ClientId) (handle : Lease)
  /-- The renewal of a lease goes on. -/
  | wake (client : ClientId) (lease : LeaseId)
  | resolve (client : ClientId) (name : String)
  /-- The store gives up what has expired. -/
  | purge
  /-- Time passes. -/
  | pass (span : Duration)
deriving DecidableEq, Repr

/-- The clients of one store. -/
structure Fleet where
  clock : Instant
  store : Store
  renewals : Assoc ClientId (List Renewal)
  enrolments : Assoc LeaseId Enrolment
  /-- The registrations that were made, newest first. -/
  registrations : List Registration
  history : History

namespace Fleet

/-- Clients of a store that nobody has used. -/
def start : Fleet := ⟨0, Store.empty, [], [], [], []⟩

/-- The store with its clock and its history. -/
def stores (fleet : Fleet) : StoreRun := ⟨fleet.clock, fleet.store, fleet.history⟩

/-- A client with its renewals. -/
def registrar (fleet : Fleet) (client : ClientId) : Registrar :=
  ⟨Link.reliable fleet.store, (fleet.renewals.find? client).getD []⟩

/-- A client has done something. -/
def withRegistrar (fleet : Fleet) (client : ClientId) (registrar : Registrar) : Fleet :=
  { fleet with
    store := registrar.link.store
    renewals := fleet.renewals.insert client registrar.renewals }

/-- A client has registered a service and begins to renew its lease. -/
def registered (fleet : Fleet) (lease : LeaseId) (enrolment : Enrolment) : Fleet :=
  let period := Registrar.renewalPeriod enrolment.span
  let renewals := (fleet.registrar enrolment.client).renewals
  { fleet with
    renewals := fleet.renewals.insert enrolment.client
      (renewals ++ [⟨lease, period, fleet.clock + period, true⟩])
    registrations :=
      ⟨enrolment.client, enrolment.name, enrolment.address, lease⟩ :: fleet.registrations }

/-- What an event does.  An operation of the store reads the clock in the step in which it is
served. -/
def act (fleet : Fleet) : FleetEvent -> Fleet
  | .enrol client name address span =>
      if span = 0 then fleet
      else
        let granted := fleet.store.grant fleet.clock span
        { fleet with
          store := granted.2
          enrolments := fleet.enrolments.insert granted.1 ⟨client, name, address, span⟩ }
  | .bind lease =>
      match fleet.enrolments.find? lease with
      | none => fleet
      | some enrolment =>
          let put := fleet.store.put fleet.clock (serviceKey enrolment.name) enrolment.address lease
          let enrolled :=
            { fleet with store := put.2, enrolments := fleet.enrolments.erase lease }
          match put.1 with
          | .ok () => enrolled.registered lease enrolment
          | .error _ => enrolled
  | .deregister client handle =>
      fleet.withRegistrar client ((fleet.registrar client).deregister handle).2
  | .wake client lease =>
      fleet.withRegistrar client ((fleet.registrar client).wake fleet.clock lease).1
  | .resolve client name =>
      fleet.withRegistrar client ((fleet.registrar client).resolve fleet.clock name).2
  | .purge => { fleet with store := (fleet.store.purgeExpired fleet.clock).2 }
  | .pass span => { fleet with clock := fleet.clock + span }

/-- The requests that reach the store with an event. -/
def requests (fleet : Fleet) : FleetEvent -> List Request
  | .enrol _ _ _ span => if span = 0 then [] else [.grant span]
  | .bind lease =>
      match fleet.enrolments.find? lease with
      | none => []
      | some enrolment => [.put (serviceKey enrolment.name) enrolment.address lease]
  | .deregister _ handle => [.revoke handle.id]
  | .wake client lease => (fleet.registrar client).waking fleet.clock lease
  | .resolve _ name => [.get (serviceKey name)]
  | .purge => [.purge]
  | .pass _ => []

/-- What an event is to the store. -/
def storeEvents (fleet : Fleet) : FleetEvent -> List StoreEvent
  | .pass span => [.pass span]
  | event => (fleet.requests event).map .serve

/-- Carry out an event, and note what was done by it. -/
def step (fleet : Fleet) (event : FleetEvent) : Fleet :=
  { fleet.act event with history := (fleet.stores.resume (fleet.storeEvents event)).history }

/-- A fleet after some events. -/
def after (events : List FleetEvent) : Fleet := events.foldl step start

/-- The requests of an event are served by the store. -/
theorem store_act
    (fleet : Fleet)
    (event : FleetEvent) :
    (fleet.act event).store = fleet.store.serveAll fleet.clock (fleet.requests event) := by
  cases event with
  | enrol client name address span =>
      by_cases never : span = 0
      · simp only [act, requests, never, if_true]
        rfl
      · simp only [act, requests, never, if_false]
        rfl
  | bind lease =>
      simp only [act, requests]
      cases fleet.enrolments.find? lease with
      | none => rfl
      | some enrolment =>
          dsimp only
          split
          · rfl
          · rfl
  | deregister client handle =>
      obtain ⟨link, equal, reaches⟩ :=
        (fleet.registrar client).exists_deregister fleet.clock handle
      simp only [act, equal]
      exact reaches.store
  | wake client lease => exact ((fleet.registrar client).wakes_wake fleet.clock lease).reaches.store
  | resolve client name =>
      obtain ⟨link, equal, reaches⟩ := (fleet.registrar client).exists_resolve fleet.clock name
      simp only [act, equal]
      exact reaches.store
  | purge => rfl
  | pass span => rfl

/-- Time passes only with the event that says so. -/
theorem clock_act
    (fleet : Fleet)
    {event : FleetEvent}
    (timeless : ∀ span, event ≠ .pass span) :
    (fleet.act event).clock = fleet.clock := by
  cases event with
  | enrol client name address span =>
      simp only [act]
      split
      · rfl
      · rfl
  | bind lease =>
      simp only [act]
      cases fleet.enrolments.find? lease with
      | none => rfl
      | some enrolment =>
          dsimp only
          split
          · rfl
          · rfl
  | pass span => exact absurd rfl (timeless span)
  | _ => rfl

/-- Every event is a run of the store. -/
theorem stores_step
    (fleet : Fleet)
    (event : FleetEvent) :
    (fleet.step event).stores = fleet.stores.resume (fleet.storeEvents event) := by
  have served : ∀ requests, fleet.storeEvents event = requests.map .serve ->
      fleet.requests event = requests -> (∀ span, event ≠ .pass span) ->
        (fleet.step event).stores = fleet.stores.resume (fleet.storeEvents event) := by
    intro requests events asked timeless
    obtain ⟨clock, store⟩ := fleet.stores.resume_serve requests
    have same : (fleet.step event).stores = ⟨(fleet.act event).clock, (fleet.act event).store,
        (fleet.stores.resume (fleet.storeEvents event)).history⟩ := rfl
    rw [same, fleet.clock_act timeless, fleet.store_act, asked, events]
    exact congrArg₂ (fun clock store => StoreRun.mk clock store _) clock.symm store.symm
  cases event with
  | pass span => rfl
  | _ => exact served _ rfl rfl fun span same => by cases same

/-- In every run of a fleet the store agrees with its history. -/
theorem faithful_after (events : List FleetEvent) : (after events).stores.Faithful := by
  unfold after
  apply List.foldlRecOn (motive := fun fleet : Fleet => fleet.stores.Faithful)
  · exact StoreRun.faithful_start
  · intro fleet faithful event _
    rw [stores_step]
    exact faithful.resume _

end Fleet
end Registry
end MallFabric
