import MallFabric.Assoc
import MallFabric.Clock
import MallFabric.Fault

/-!
# The registry store

Keys are bound to values under leases.  A lease is held from its grant until
it is revoked or swept; it is live while less than its span has passed since
its grant or its last renewal.  What is bound under a lease that is not live
is never shown.
-/

namespace MallFabric

/-- The number of a lease. -/
abbrev LeaseId := Int

namespace Registry

/-- How long a lease is granted for, and when it expires. -/
structure LeaseTerm where
  span : Duration
  expiresAt : Instant
deriving DecidableEq, Repr, Inhabited

/-- A value and the lease under which it is bound. -/
structure Binding where
  value : String
  lease : LeaseId
deriving DecidableEq, Repr, Inhabited

/-- Leases and the keys bound under them. -/
structure Store where
  nextLease : LeaseId
  leases : Assoc LeaseId LeaseTerm
  bindings : Assoc String Binding
deriving DecidableEq, Repr, Inhabited

namespace Store

def empty : Store := ⟨1, [], []⟩

/-- Whether a lease is held and has not expired. -/
def isLive (store : Store) (now : Instant) (lease : LeaseId) : Bool :=
  match store.leases.find? lease with
  | some term => now < term.expiresAt
  | none => false

/-- Give up a lease and everything bound under it. -/
def dropLease (store : Store) (lease : LeaseId) : Store :=
  { store with
    leases := store.leases.erase lease
    bindings := store.bindings.filter fun entry => entry.2.lease ≠ lease }

def unknownLease (lease : LeaseId) : Fault := .notFound s!"lease {lease}"

def expiredLease (lease : LeaseId) : Fault := .notFound s!"lease {lease} expired"

/-- Grant a new lease. -/
def grant (store : Store) (now : Instant) (span : Duration) : LeaseId × Store :=
  (store.nextLease,
    { store with
      nextLease := store.nextLease + 1
      leases := store.leases.insert store.nextLease ⟨span, now + span⟩ })

/-- Bind a key under a live lease, in the place of an earlier binding. -/
def put (store : Store) (now : Instant) (key value : String) (lease : LeaseId) :
    Except Fault Unit × Store :=
  if store.isLive now lease then
    (.ok (), { store with bindings := store.bindings.insert key ⟨value, lease⟩ })
  else (.error (unknownLease lease), store)

/-- Renew a live lease for its whole span.  One that has expired is given up. -/
def keepAlive (store : Store) (now : Instant) (lease : LeaseId) : Except Fault Duration × Store :=
  match store.leases.find? lease with
  | none => (.error (unknownLease lease), store)
  | some term =>
      if now < term.expiresAt then
        (.ok term.span,
          { store with leases := store.leases.insert lease ⟨term.span, now + term.span⟩ })
      else (.error (expiredLease lease), store.dropLease lease)

/-- The value bound to a key under a live lease. -/
def get (store : Store) (now : Instant) (key : String) : Option String :=
  match store.bindings.find? key with
  | some binding => if store.isLive now binding.lease then some binding.value else none
  | none => none

/-- Give up a lease that is held. -/
def revoke (store : Store) (lease : LeaseId) : Except Fault Unit × Store :=
  if store.leases.contains lease then (.ok (), store.dropLease lease)
  else (.error (unknownLease lease), store)

/-- The leases that have expired but are still held. -/
def expired (store : Store) (now : Instant) : List LeaseId :=
  (store.leases.filter fun entry => entry.2.expiresAt ≤ now).map Prod.fst

/-- Give up every expired lease, and count the keys that were bound under them. -/
def purgeExpired (store : Store) (now : Instant) : Nat × Store :=
  let swept := (store.expired now).foldl dropLease store
  (store.bindings.length - swept.bindings.length, swept)

/-- The number of leases held, expired or not. -/
def leaseCount (store : Store) : Nat := store.leases.length

end Store

/-- Where every registration stands. -/
def servicesRoot : String := "/services/"

/-- The key under which a service is registered. -/
def serviceKey (name : String) : String := servicesRoot ++ name

/-- The service that a key stands for: what follows the root, unless that is nothing. -/
def serviceName? (key : String) : Option String :=
  if servicesRoot.toList.isPrefixOf key.toList then
    let name := key.toList.drop servicesRoot.length
    if name = [] then none else some (String.ofList name)
  else none

end Registry

end MallFabric
