import MallFabric.Proofs.Registry.Fleet
import MallFabric.Proofs.Registry.Visible

/-!
# Sweeps that nobody notices

The clients of a store are told how their registrations, their resolutions and their
deregistrations ended, and can ask at any time whether a renewal goes on.  None of
this depends on when, how often or whether the store is swept: a store that still
holds what has expired and one that has given it up agree on all that can be seen.
-/

namespace MallFabric
namespace Registry

/-- What may happen next around a fleet whose deregistrations have two steps: a
client stops the renewal of a lease, and later revokes the lease. -/
inductive ClientEvent where
  | fleet (event : FleetEvent)
  /-- A client that is about to give up a registration stops its renewal. -/
  | halt (client : ClientId) (lease : LeaseId)
deriving DecidableEq, Repr

/-- Whether an event is a sweep of the store. -/
def ClientEvent.isSweep : ClientEvent -> Bool
  | fleet .purge => true
  | _ => false

/-- The events that are no sweeps. -/
def withoutSweeps (events : List ClientEvent) : List ClientEvent :=
  events.filter fun event => !event.isSweep

theorem withoutSweeps_cons_of_isSweep
    {event : ClientEvent}
    {rest : List ClientEvent}
    (sweeps : event.isSweep = true) :
    withoutSweeps (event :: rest) = withoutSweeps rest := by
  simp [withoutSweeps, sweeps]

theorem withoutSweeps_cons_of_not_isSweep
    {event : ClientEvent}
    {rest : List ClientEvent}
    (stays : event.isSweep = false) :
    withoutSweeps (event :: rest) = event :: withoutSweeps rest := by
  simp [withoutSweeps, stays]

/-- What a client is told when something that it asked for is done. -/
inductive Answer where
  | registered (result : Except Fault Lease)
  | deregistered (result : Except Fault Unit)
  | resolved (result : Except Fault String)

/-- What can be seen after an event: the answer that came with it, and which
renewals go on. -/
structure Sighting where
  instant : Instant
  answer : Option Answer
  renewing : ClientId -> LeaseId -> Bool

namespace Fleet

/-- What an event does to a fleet. -/
def proceed (fleet : Fleet) : ClientEvent -> Fleet
  | .fleet event => fleet.step event
  | .halt client lease => fleet.withRegistrar client ((fleet.registrar client).stop lease)

/-- A fleet goes on. -/
def resume (fleet : Fleet) (events : List ClientEvent) : Fleet := events.foldl proceed fleet

/-- How a registration ends with the binding of its address. -/
def bound (fleet : Fleet) (lease : LeaseId) (enrolment : Enrolment) : Except Fault Lease :=
  let { name, address, span, .. } := enrolment
  match (fleet.store.put fleet.clock (serviceKey name) address lease).1 with
  | .ok () => .ok ⟨lease, span, name⟩
  | .error fault => .error (.registration s!"put for {name}: {fault.message}")

/-- What a client is told with an event.  A registration without a span is refused at
once, and every other one is answered when its address is bound. -/
def answer? (fleet : Fleet) : ClientEvent -> Option Answer
  | .fleet (.enrol client name address span) =>
      if span = 0 then
        some (.registered ((fleet.registrar client).register fleet.clock name address span).1)
      else none
  | .fleet (.bind lease) =>
      (fleet.enrolments.find? lease).map fun enrolment => .registered (fleet.bound lease enrolment)
  | .fleet (.deregister client handle) =>
      some (.deregistered ((fleet.registrar client).deregister handle).1)
  | .fleet (.resolve client name) =>
      some (.resolved ((fleet.registrar client).resolve fleet.clock name).1)
  | _ => none

/-- What the clients see in a run, in order.  A sweep shows them nothing. -/
def sightings (fleet : Fleet) : List ClientEvent -> List Sighting
  | [] => []
  | event :: rest =>
      let next := fleet.proceed event
      if event.isSweep then next.sightings rest
      else
        ⟨next.clock, fleet.answer? event, fun client => (next.registrar client).isRenewing⟩ ::
          next.sightings rest

end Fleet

/-- Requests leave stores that agree as stores that agree. -/
theorem Store.Agrees.serveAll
    {now : Instant}
    {left right : Store}
    (agrees : Agrees now left right)
    (leftTidy : left.Tidy)
    (rightTidy : right.Tidy)
    (requests : List Request) :
    Agrees now (left.serveAll now requests) (right.serveAll now requests) := by
  induction requests generalizing left right with
  | nil => exact agrees
  | cons request rest inductionHypothesis =>
      exact inductionHypothesis (agrees.serve leftTidy rightTidy request)
        (leftTidy.change (Store.change_serve left now request))
        (rightTidy.change (Store.change_serve right now request))

namespace Registrar

variable {now : Instant} {left right : Store}

/-- Deregistration succeeds whether or not the store still holds the lease. -/
theorem deregister_reliable
    (store : Store)
    (renewals : List Renewal)
    (handle : Lease) :
    (deregister ⟨Link.reliable store, renewals⟩ handle).1 = .ok () := by
  simp only [deregister, Registrar.revoke, stop, update, Link.revoke, Link.call, Link.reliable,
    Store.revoke]
  by_cases held : store.leases.contains handle.id = true
  · simp only [held, if_true]
  · simp only [held]
    rfl

/-- A name is resolved alike over stores that agree. -/
theorem resolve_congr
    (agrees : Store.Agrees now left right)
    (renewals : List Renewal)
    (name : String) :
    (resolve ⟨Link.reliable left, renewals⟩ now name).1 =
      (resolve ⟨Link.reliable right, renewals⟩ now name).1 := by
  simp only [resolve, Link.get, Link.call, Link.reliable, agrees.get]
  cases right.get now (serviceKey name) with
  | none => rfl
  | some address => rfl

/-- A renewal tries alike over stores that agree. -/
theorem tries_congr
    (agrees : Store.Agrees now left right)
    (renewals : List Renewal)
    (lease : LeaseId) :
    tries ⟨Link.reliable left, renewals⟩ now lease =
      tries ⟨Link.reliable right, renewals⟩ now lease := by
  have isOk : ∀ store : Store, ((Link.reliable store).keepAlive now lease).1.isOk =
      (store.keepAlive now lease).1.isOk := fun store => rfl
  simp only [tries, isOk, agrees.isOk_keepAlive]
  rfl

/-- A deregistration stops one renewal. -/
theorem renewals_deregister
    (registrar : Registrar)
    (handle : Lease) :
    (registrar.deregister handle).2.renewals = (registrar.stop handle.id).renewals := by
  obtain ⟨link, equal, -⟩ := registrar.exists_deregister 0 handle
  rw [equal]

theorem renewals_resolve
    (registrar : Registrar)
    (now : Instant)
    (name : String) :
    (registrar.resolve now name).2.renewals = registrar.renewals := by
  obtain ⟨link, equal, -⟩ := registrar.exists_resolve now name
  rw [equal]

/-- What becomes of the renewals when one of them goes on is decided by whether it
tries and is granted. -/
theorem renewals_wake
    (registrar : Registrar)
    (now : Instant)
    (lease : LeaseId) :
    (registrar.wake now lease).1.renewals =
      match registrar.tries now lease with
      | none => registrar.renewals
      | some true => (registrar.update lease fun renewal => renewal.again now).renewals
      | some false => (registrar.stop lease).renewals := by
  have wakes := registrar.wakes_wake now lease
  generalize (registrar.wake now lease).1 = after, registrar.tries now lease = tried at wakes ⊢
  cases wakes with
  | idle => rfl
  | renewed running due answer => rfl
  | refused running due answer => rfl

end Registrar

namespace Fleet

/-- Two fleets that cannot be told apart by their clients. -/
structure Alike (left right : Fleet) : Prop where
  clock : left.clock = right.clock
  renewals : left.renewals = right.renewals
  enrolments : left.enrolments = right.enrolments
  leftTidy : left.store.Tidy
  rightTidy : right.store.Tidy
  stores : Store.Agrees left.clock left.store right.store

theorem alike_start : Alike start start where
  clock := rfl
  renewals := rfl
  enrolments := rfl
  leftTidy := Store.tidy_empty
  rightTidy := Store.tidy_empty
  stores := Store.agrees_refl _ _

namespace Alike

variable {left right : Fleet} (alike : Alike left right)

include alike

/-- The clients see the same renewals. -/
theorem isRenewing
    (client : ClientId) :
    (left.registrar client).isRenewing = (right.registrar client).isRenewing := by
  funext lease
  simp only [Registrar.isRenewing, registrar, alike.renewals]

theorem bound
    (lease : LeaseId)
    (enrolment : Enrolment) :
    left.bound lease enrolment = right.bound lease enrolment := by
  have put := alike.stores.put (serviceKey enrolment.name) enrolment.address lease
  rw [alike.clock] at put
  simp only [Fleet.bound, alike.clock, put]

/-- They are told the same. -/
theorem answer?
    (event : ClientEvent) :
    left.answer? event = right.answer? event := by
  cases event with
  | halt client lease => rfl
  | fleet event =>
      cases event with
      | enrol client name address span =>
          simp only [Fleet.answer?]
          split
          · rename_i never
            simp only [Registrar.register, never, if_true]
          · rfl
      | bind lease => simp only [Fleet.answer?, alike.enrolments, alike.bound]
      | deregister client handle =>
          simp only [Fleet.answer?, registrar, Registrar.deregister_reliable]
      | resolve client name =>
          have resolved := Registrar.resolve_congr alike.stores
            ((right.renewals.find? client).getD []) name
          rw [alike.clock] at resolved
          simp only [Fleet.answer?, registrar, alike.renewals, alike.clock, resolved]
      | _ => rfl

/-- The same renewals try. -/
theorem tries
    (client : ClientId)
    (lease : LeaseId) :
    (left.registrar client).tries left.clock lease =
      (right.registrar client).tries right.clock lease := by
  have tried := Registrar.tries_congr alike.stores ((right.renewals.find? client).getD []) lease
  rw [alike.clock] at tried
  simp only [registrar, alike.renewals, alike.clock, tried]

/-- The stores are asked for the same. -/
theorem requests
    (event : FleetEvent) :
    left.requests event = right.requests event := by
  cases event with
  | bind lease => simp only [Fleet.requests, alike.enrolments]
  | wake client lease =>
      simp only [Fleet.requests, Registrar.waking, alike.tries client lease]
      rfl
  | _ => rfl

/-- The stores still agree after an event at one instant.  Fleets are alike then if
their clients are. -/
theorem of_act
    {event : FleetEvent}
    (timeless : ∀ span, event ≠ .pass span)
    (renewals : (left.act event).renewals = (right.act event).renewals)
    (enrolments : (left.act event).enrolments = (right.act event).enrolments) :
    Alike (left.act event) (right.act event) := by
  have agree := alike.stores.serveAll alike.leftTidy alike.rightTidy (left.requests event)
  have leftTidy := alike.leftTidy.serveAll left.clock (left.requests event)
  have rightTidy := alike.rightTidy.serveAll left.clock (left.requests event)
  rw [← left.store_act] at agree leftTidy
  rw [alike.clock, alike.requests, ← right.store_act] at agree rightTidy
  have clock : (left.act event).clock = right.clock :=
    (left.clock_act timeless).trans alike.clock
  refine ⟨clock.trans (right.clock_act timeless).symm, renewals, enrolments, leftTidy,
    rightTidy, ?_⟩
  rw [clock]
  exact agree

/-- Every event keeps fleets alike. -/
theorem act
    (event : FleetEvent) :
    Alike (left.act event) (right.act event) := by
  cases event with
  | pass span =>
      refine ⟨congrArg (· + span) alike.clock, alike.renewals, alike.enrolments, alike.leftTidy,
        alike.rightTidy, ?_⟩
      exact alike.stores.later (Nat.le_add_right _ _)
  | purge => exact alike.of_act (by simp) alike.renewals alike.enrolments
  | enrol client name address span =>
      by_cases never : span = 0
      · simp only [Fleet.act, never, if_true]
        exact alike
      · have granted : (left.store.grant left.clock span).1 =
            (right.store.grant right.clock span).1 := alike.stores.nextLease
        apply alike.of_act (by simp)
        · simp only [Fleet.act, never, if_false, alike.renewals]
        · simp only [Fleet.act, never, if_false, alike.enrolments, granted]
  | bind lease =>
      cases enrolled : right.enrolments.find? lease with
      | none =>
          simp only [Fleet.act, alike.enrolments, enrolled]
          exact alike
      | some enrolment =>
          have put := alike.stores.put (serviceKey enrolment.name) enrolment.address lease
          rw [alike.clock] at put
          apply alike.of_act (by simp)
          · simp only [Fleet.act, alike.enrolments, enrolled, alike.clock, put]
            split
            · simp only [Fleet.registered, registrar, alike.renewals]
            · exact alike.renewals
          · simp only [Fleet.act, alike.enrolments, enrolled, alike.clock, put]
            split
            · rfl
            · rfl
  | deregister client handle =>
      apply alike.of_act (by simp)
      · simp only [Fleet.act, withRegistrar, Registrar.renewals_deregister, Registrar.stop,
          Registrar.update, registrar, alike.renewals]
      · exact alike.enrolments
  | wake client lease =>
      have woken : ((left.registrar client).wake left.clock lease).1.renewals =
          ((right.registrar client).wake right.clock lease).1.renewals := by
        rw [Registrar.renewals_wake, Registrar.renewals_wake, alike.tries]
        simp only [Registrar.stop, Registrar.update, registrar, alike.renewals, alike.clock]
      apply alike.of_act (by simp)
      · simp only [Fleet.act, withRegistrar, woken, alike.renewals]
      · exact alike.enrolments
  | resolve client name =>
      apply alike.of_act (by simp)
      · simp only [Fleet.act, withRegistrar, Registrar.renewals_resolve, registrar, alike.renewals]
      · exact alike.enrolments

theorem proceed
    (event : ClientEvent) :
    Alike (left.proceed event) (right.proceed event) := by
  cases event with
  | fleet event =>
      have after := alike.act event
      exact ⟨after.clock, after.renewals, after.enrolments, after.leftTidy, after.rightTidy,
        after.stores⟩
  | halt client lease =>
      refine ⟨alike.clock, ?_, alike.enrolments, alike.leftTidy, alike.rightTidy, alike.stores⟩
      simp only [Fleet.proceed, withRegistrar, Registrar.stop, Registrar.update, registrar,
        alike.renewals]

/-- A sweep that only one of the stores sees keeps them alike. -/
theorem sweep
    {event : ClientEvent}
    (sweeps : event.isSweep = true) :
    Alike (left.proceed event) right := by
  cases event with
  | halt client lease => cases sweeps
  | fleet event =>
      cases event with
      | purge =>
          exact ⟨alike.clock, alike.renewals, alike.enrolments,
            alike.leftTidy.change .purged, alike.rightTidy,
            (alike.leftTidy.agrees_purge left.clock).trans alike.stores⟩
      | _ => cases sweeps

/-- A fleet whose store is swept is like one whose store is never swept. -/
theorem resume_withoutSweeps
    (events : List ClientEvent) :
    Alike (left.resume events) (right.resume (withoutSweeps events)) := by
  induction events generalizing left right with
  | nil => exact alike
  | cons event rest inductionHypothesis =>
      cases sweeps : event.isSweep with
      | true =>
          rw [withoutSweeps_cons_of_isSweep sweeps]
          exact inductionHypothesis (alike.sweep sweeps)
      | false =>
          rw [withoutSweeps_cons_of_not_isSweep sweeps]
          exact inductionHypothesis (alike.proceed event)

/-- Its clients see the same. -/
theorem sightings_withoutSweeps
    (events : List ClientEvent) :
    left.sightings events = right.sightings (withoutSweeps events) := by
  induction events generalizing left right with
  | nil => rfl
  | cons event rest inductionHypothesis =>
      cases sweeps : event.isSweep with
      | true =>
          rw [withoutSweeps_cons_of_isSweep sweeps, sightings, if_pos sweeps]
          exact inductionHypothesis (alike.sweep sweeps)
      | false =>
          have next := alike.proceed event
          have stays : ¬ event.isSweep = true := by simp [sweeps]
          rw [withoutSweeps_cons_of_not_isSweep sweeps, sightings, sightings, if_neg stays,
            if_neg stays, inductionHypothesis next, alike.answer? event, next.clock]
          simp only [next.isRenewing]

end Alike

/-- Sweeps are invisible to the clients of a store.  Two runs that differ only in when
the store is swept give every registration, resolution and deregistration the same
answer at the same instant, lease numbers and addresses included, and the same
renewals go on after each event and at the end. -/
theorem sightings_eq_of_withoutSweeps
    {events others : List ClientEvent}
    (same : withoutSweeps events = withoutSweeps others) :
    start.sightings events = start.sightings others ∧
      ∀ client lease, ((start.resume events).registrar client).isRenewing lease =
        ((start.resume others).registrar client).isRenewing lease := by
  constructor
  · rw [alike_start.sightings_withoutSweeps events, alike_start.sightings_withoutSweeps others,
      same]
  · intro client lease
    have first := (alike_start.resume_withoutSweeps events).isRenewing client
    have second := (alike_start.resume_withoutSweeps others).isRenewing client
    rw [first, second, same]

/-- A client whose lease lapses before it is renewed.  Its name is not resolved any
more, so it registers the name again before it gives up the first registration. -/
def lapsing (between : List ClientEvent) : List ClientEvent :=
  [.fleet (.enrol 0 "cart" "cart:1" 1500000), .fleet (.bind 1), .fleet (.pass 1500000)] ++
    between ++
    [.fleet (.resolve 0 "cart"), .fleet (.enrol 0 "cart" "cart:2" 1500000), .fleet (.bind 2)] ++
    between ++
    [.halt 0 1, .fleet (.deregister 0 ⟨1, 1500000, "cart"⟩), .fleet (.wake 0 2),
      .fleet (.resolve 0 "cart")]

/-- There a lease is revoked only if it was not swept, and nobody can tell. -/
theorem sightings_eq_of_lapsed :
    withoutSweeps (lapsing [.fleet .purge]) = withoutSweeps (lapsing []) ∧
      ((start.resume (lapsing [.fleet .purge])).history.map Record.deed ≠
        (start.resume (lapsing [])).history.map Record.deed) ∧
      start.sightings (lapsing [.fleet .purge]) = start.sightings (lapsing []) ∧
      (start.sightings (lapsing [])).filterMap Sighting.answer =
        [.registered (.ok ⟨1, 1500000, "cart"⟩),
          .resolved (.error (.notFound "no live registration for cart")),
          .registered (.ok ⟨2, 1500000, "cart"⟩), .deregistered (.ok ()),
          .resolved (.ok "cart:2")] :=
  ⟨by decide, by decide, (sightings_eq_of_withoutSweeps (by decide)).1, rfl⟩

end Fleet
end Registry
end MallFabric
