import MallFabric.Registry.Store

/-!
# Registrars

A registrar registers services in a store and resolves their names.  Every
registration has a renewal, which keeps its lease alive every half of its
span until it is stopped or fails once.  The calls to the store may fail on
their way; such a call changes nothing there.
-/

namespace MallFabric
namespace Registry

/-- The calls that a registrar makes to the store. -/
inductive StoreCall where
  | grant
  | put
  | keepAlive
  | get
  | revoke
deriving DecidableEq, Repr, Inhabited

namespace StoreCall

def all : List StoreCall := [grant, put, keepAlive, get, revoke]

def name : StoreCall -> String
  | grant => "grant"
  | put => "put"
  | keepAlive => "keep_alive"
  | get => "get"
  | revoke => "revoke"

end StoreCall

/-- A store and the way to it: which calls fail there, and how often each was made. -/
structure Link where
  store : Store
  failing : StoreCall -> Option Fault
  made : StoreCall -> Nat

namespace Link

/-- A link over which no call fails. -/
def reliable (store : Store) : Link := ⟨store, fun _ => none, fun _ => 0⟩

/-- Decide from now on whether a call fails on its way. -/
def setFailing (link : Link) (call : StoreCall) (fault : Option Fault) : Link :=
  { link with failing := fun other => if other = call then fault else link.failing other }

/-- Count a call. -/
def count (link : Link) (call : StoreCall) : Link :=
  { link with
    made := fun other => if other = call then link.made other + 1 else link.made other }

/-- Make a call, unless it fails on its way. -/
def call {Answer : Type} (link : Link) (call : StoreCall)
    (operation : Store -> Except Fault Answer × Store) : Except Fault Answer × Link :=
  match link.failing call with
  | some fault => (.error fault, link.count call)
  | none =>
      let result := operation link.store
      (result.1, { link.count call with store := result.2 })

def grant (link : Link) (now : Instant) (span : Duration) : Except Fault LeaseId × Link :=
  link.call .grant fun store =>
    let granted := store.grant now span
    (.ok granted.1, granted.2)

def put (link : Link) (now : Instant) (key value : String) (lease : LeaseId) :
    Except Fault Unit × Link :=
  link.call .put fun store => store.put now key value lease

def keepAlive (link : Link) (now : Instant) (lease : LeaseId) : Except Fault Duration × Link :=
  link.call .keepAlive fun store => store.keepAlive now lease

def get (link : Link) (now : Instant) (key : String) : Except Fault (Option String) × Link :=
  link.call .get fun store => (.ok (store.get now key), store)

def revoke (link : Link) (lease : LeaseId) : Except Fault Unit × Link :=
  link.call .revoke fun store => store.revoke lease

end Link

/-- The renewal of one lease. -/
structure Renewal where
  lease : LeaseId
  period : Duration
  /-- The instant for which the next renewal is planned. -/
  next : Instant
  running : Bool
deriving DecidableEq, Repr, Inhabited

namespace Renewal

/-- How late a renewal may come before those after it are delayed as well. -/
def lateness : Duration := Duration.ofMillis 5

/-- Plan the next renewal: a period after this one was planned, or after this
one if it comes too late. -/
def again (renewal : Renewal) (now : Instant) : Renewal :=
  { renewal with
    next := if lateness < now - renewal.next then now + renewal.period
      else renewal.next + renewal.period }

@[simp] theorem again_lease (renewal : Renewal) (now : Instant) :
    (renewal.again now).lease = renewal.lease := rfl

@[simp] theorem again_running (renewal : Renewal) (now : Instant) :
    (renewal.again now).running = renewal.running := rfl

end Renewal

/-- A registration as its owner holds it. -/
structure Lease where
  id : LeaseId
  span : Duration
  service : String
deriving DecidableEq, Repr, Inhabited

/-- A link to the store and the renewals begun over it. -/
structure Registrar where
  link : Link
  renewals : List Renewal

namespace Registrar

def new (link : Link) : Registrar := ⟨link, []⟩

/-- The time between two renewals of a lease: half its span, a millisecond at least. -/
def renewalPeriod (span : Duration) : Duration := max (span / 2) (Duration.ofMillis 1)

/-- Register an address for a name under a new lease and begin to renew it. -/
def register (registrar : Registrar) (now : Instant) (name address : String) (span : Duration) :
    Except Fault Lease × Registrar :=
  if span = 0 then (.error (.registration "lease ttl must be positive"), registrar)
  else match registrar.link.grant now span with
    | (.error fault, link) =>
        (.error (.registration s!"grant for {name}: {fault.message}"), { registrar with link })
    | (.ok lease, granted) =>
        match granted.put now (serviceKey name) address lease with
        | (.error fault, link) =>
            (.error (.registration s!"put for {name}: {fault.message}"), { registrar with link })
        | (.ok (), link) =>
            let period := renewalPeriod span
            (.ok ⟨lease, span, name⟩,
              ⟨link, registrar.renewals ++ [⟨lease, period, now + period, true⟩]⟩)

/-- Change the renewal of a lease. -/
def update (registrar : Registrar) (lease : LeaseId) (change : Renewal -> Renewal) : Registrar :=
  { registrar with
    renewals := registrar.renewals.map fun renewal =>
      if renewal.lease = lease then change renewal else renewal }

/-- Stop the renewal of a lease. -/
def stop (registrar : Registrar) (lease : LeaseId) : Registrar :=
  registrar.update lease fun renewal => { renewal with running := false }

/-- Revoke a lease.  One that the store no longer holds needs no revoking. -/
def revoke (registrar : Registrar) (lease : Lease) : Except Fault Unit × Registrar :=
  match registrar.link.revoke lease.id with
  | (.ok (), link) => (.ok (), { registrar with link })
  | (.error (.notFound _), link) => (.ok (), { registrar with link })
  | (.error fault, link) => (.error fault, { registrar with link })

/-- Stop renewing a lease, and revoke it when its renewal has ended. -/
def deregister (registrar : Registrar) (lease : Lease) : Except Fault Unit × Registrar :=
  (registrar.stop lease.id).revoke lease

/-- The address of a live registration. -/
def resolve (registrar : Registrar) (now : Instant) (name : String) :
    Except Fault String × Registrar :=
  match registrar.link.get now (serviceKey name) with
  | (.error fault, link) => (.error fault, { registrar with link })
  | (.ok none, link) =>
      (.error (.notFound s!"no live registration for {name}"), { registrar with link })
  | (.ok (some address), link) => (.ok address, { registrar with link })

/-- Whether the renewal of a lease goes on. -/
def isRenewing (registrar : Registrar) (lease : LeaseId) : Bool :=
  registrar.renewals.any fun renewal => renewal.lease = lease && renewal.running

/-- Renew a lease now, and plan the next renewal.  The renewal ends if the store
refuses it. -/
def renew (registrar : Registrar) (now : Instant) (lease : LeaseId) : Registrar :=
  match registrar.link.keepAlive now lease with
  | (.ok _, link) =>
      { registrar with link }.update lease fun renewal => renewal.again now
  | (.error _, link) => { registrar with link }.stop lease

/-- The running renewal of a lease. -/
def running? (registrar : Registrar) (lease : LeaseId) : Option Renewal :=
  registrar.renewals.find? fun renewal => renewal.lease = lease && renewal.running

/-- Go on with the renewal of a lease if it is due, and tell when it is due next. -/
def wake (registrar : Registrar) (now : Instant) (lease : LeaseId) : Registrar × Option Instant :=
  match registrar.running? lease with
  | none => (registrar, none)
  | some renewal =>
      if now < renewal.next then (registrar, none)
      else
        let renewed := registrar.renew now lease
        (renewed, (renewed.running? lease).map fun next => next.next.timer)

end Registrar

end Registry
end MallFabric
