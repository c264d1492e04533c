import MallFabric.Proofs.Registry.Change
import MallFabric.Proofs.Registry.Renewal

/-!
# What a registrar asks of its store

A call that does not fail on its way brings one request to the store.  This
module tells for each operation of a registrar which requests those are, and
that no other operation than a renewal that goes on calls for a renewal.
-/

namespace MallFabric
namespace Registry

/-- The store after some requests, one after the other. -/
def Store.serveAll (store : Store) (now : Instant) (requests : List Request) : Store :=
  requests.foldl (fun served request => served.serve now request) store

theorem Store.serveAll_append
    (store : Store)
    (now : Instant)
    (first second : List Request) :
    store.serveAll now (first ++ second) = (store.serveAll now first).serveAll now second :=
  List.foldl_append

namespace Link

/-- The request that a call brings to the store, unless it fails on its way. -/
def passes (link : Link) (call : StoreCall) (request : Request) : List Request :=
  match link.failing call with
  | some _ => []
  | none => [request]

theorem mem_passes
    {link : Link}
    {call : StoreCall}
    {request asked : Request}
    (present : request ∈ link.passes call asked) :
    request = asked := by
  unfold passes at present
  split at present
  · exact absurd present List.not_mem_nil
  · exact List.mem_singleton.mp present

/-- What calls make of a link: some requests reach its store, and it was tried a number
of times to renew a lease. -/
structure Reaches (now : Instant) (before : Link) (requests : List Request) (tries : Nat)
    (after : Link) : Prop where
  store : after.store = before.store.serveAll now requests
  failing : after.failing = before.failing
  made : after.made .keepAlive = before.made .keepAlive + tries

variable {now : Instant} {link : Link}

theorem reaches_refl : Reaches now link [] 0 link := ⟨rfl, rfl, rfl⟩

theorem Reaches.trans
    {middle after : Link}
    {first second : List Request}
    {firstTries secondTries : Nat}
    (begins : Reaches now link first firstTries middle)
    (goesOn : Reaches now middle second secondTries after) :
    Reaches now link (first ++ second) (firstTries + secondTries) after where
  store := by rw [goesOn.store, begins.store, Store.serveAll_append]
  failing := goesOn.failing.trans begins.failing
  made := by rw [goesOn.made, begins.made, Nat.add_assoc]

/-- What a call over a link on which it does not fail comes to. -/
theorem call_of_failing_eq_none
    {Answer : Type}
    {call : StoreCall}
    (passes : link.failing call = none)
    (operation : Store -> Except Fault Answer × Store) :
    link.call call operation =
      ((operation link.store).1, { link.count call with store := (operation link.store).2 }) := by
  rw [Link.call, passes]

/-- A renewal that the store grants is granted over a link on which it does not fail. -/
theorem keepAlive_of_granted
    {lease : LeaseId}
    {span : Duration}
    (passes : link.failing .keepAlive = none)
    (granted : (link.store.keepAlive now lease).1 = .ok span) :
    link.keepAlive now lease =
      (.ok span, { link.count .keepAlive with store := (link.store.keepAlive now lease).2 }) := by
  rw [← granted]
  exact call_of_failing_eq_none passes _

/-- A call that serves a request reaches the store with it, or with nothing. -/
theorem reaches_call
    {Answer : Type}
    {operation : Store -> Except Fault Answer × Store}
    (link : Link)
    (call : StoreCall)
    (request : Request)
    (serves : (operation link.store).2 = link.store.serve now request) :
    Reaches now link (link.passes call request) (if .keepAlive = call then 1 else 0)
      (link.call call operation).2 := by
  have counted : (link.count call).made .keepAlive =
      link.made .keepAlive + if .keepAlive = call then 1 else 0 := by
    by_cases same : .keepAlive = call
    · simp [count, same]
    · simp [count, same]
  unfold Link.call passes
  cases link.failing call with
  | some fault => exact ⟨rfl, rfl, counted⟩
  | none => exact ⟨serves, rfl, counted⟩

variable (link : Link) (now : Instant)

theorem reaches_grant
    (span : Duration) :
    Reaches now link (link.passes .grant (.grant span)) 0 (link.grant now span).2 :=
  link.reaches_call .grant (.grant span) rfl

theorem reaches_put
    (key value : String)
    (lease : LeaseId) :
    Reaches now link (link.passes .put (.put key value lease)) 0
      (link.put now key value lease).2 :=
  link.reaches_call .put (.put key value lease) rfl

theorem reaches_keepAlive
    (lease : LeaseId) :
    Reaches now link (link.passes .keepAlive (.keepAlive lease)) 1
      (link.keepAlive now lease).2 :=
  link.reaches_call .keepAlive (.keepAlive lease) rfl

theorem reaches_get
    (key : String) :
    Reaches now link (link.passes .get (.get key)) 0 (link.get now key).2 :=
  link.reaches_call .get (.get key) rfl

theorem reaches_revoke
    (lease : LeaseId) :
    Reaches now link (link.passes .revoke (.revoke lease)) 0 (link.revoke lease).2 :=
  link.reaches_call .revoke (.revoke lease) rfl

/-- A grant that succeeds gives the next number away. -/
theorem grant_of_ok
    {span : Duration}
    {lease : LeaseId}
    {granted : Link}
    (answer : link.grant now span = (.ok lease, granted)) :
    lease = link.store.nextLease ∧ lease < granted.store.nextLease := by
  unfold grant call at answer
  cases failing : link.failing .grant with
  | some fault => simp [failing] at answer
  | none =>
      simp only [failing] at answer
      cases answer
      exact ⟨rfl, Int.lt_succ _⟩

end Link

/-- Requests take no number back. -/
theorem Store.nextLease_le_serveAll
    (store : Store)
    (now : Instant)
    (requests : List Request) :
    store.nextLease ≤ (store.serveAll now requests).nextLease := by
  induction requests generalizing store with
  | nil => exact Int.le_refl _
  | cons request rest inductionHypothesis =>
      exact Int.le_trans (Store.change_serve store now request).nextLease_le
        (inductionHypothesis _)

/-- Requests keep a store tidy. -/
theorem Store.Tidy.serveAll
    {store : Store}
    (tidy : store.Tidy)
    (now : Instant)
    (requests : List Request) :
    (store.serveAll now requests).Tidy := by
  induction requests generalizing store with
  | nil => exact tidy
  | cons request rest inductionHypothesis =>
      exact inductionHypothesis (tidy.change (Store.change_serve store now request))

namespace Registrar

/-- What reaches the store when a service is registered. -/
def registering (registrar : Registrar) (now : Instant) (name address : String)
    (span : Duration) : List Request :=
  if span = 0 then []
  else registrar.link.passes .grant (.grant span) ++
    match registrar.link.grant now span with
    | (.error _, _) => []
    | (.ok lease, granted) => granted.passes .put (.put (serviceKey name) address lease)

/-- A registration brings a request for a grant to the store, and one for a binding under
the lease that was granted. -/
theorem mem_registering
    {registrar : Registrar}
    {now : Instant}
    {name address : String}
    {span : Duration}
    {request : Request}
    (asked : request ∈ registrar.registering now name address span) :
    request = .grant span ∨
      request = .put (serviceKey name) address registrar.link.store.nextLease := by
  unfold registering at asked
  by_cases never : span = 0
  · simp only [never, if_true] at asked
    exact absurd asked List.not_mem_nil
  · simp only [never, if_false, List.mem_append] at asked
    rcases asked with granting | binding
    · exact Or.inl (Link.mem_passes granting)
    · obtain ⟨⟨granted, afterGrant⟩, grant⟩ :
          ∃ answer, registrar.link.grant now span = answer := ⟨_, rfl⟩
      rw [grant] at binding
      cases granted with
      | error fault => exact absurd binding List.not_mem_nil
      | ok lease =>
          obtain ⟨rfl, -⟩ := registrar.link.grant_of_ok now grant
          exact Or.inr (Link.mem_passes binding)

/-- What reaches the store when the renewal of a lease goes on. -/
def waking (registrar : Registrar) (now : Instant) (lease : LeaseId) : List Request :=
  if (registrar.tries now lease).isSome then registrar.link.passes .keepAlive (.keepAlive lease)
  else []

/-- What comes of a registration: it fails, or a renewal begins under a new number. -/
inductive Registers (registrar : Registrar) (now : Instant) (name : String) (span : Duration) :
    Except Fault Lease -> Registrar -> Prop where
  | failed (fault : Fault) (link : Link) :
      Registers registrar now name span (.error fault) { registrar with link }
  | registered (link : Link)
      (known : registrar.link.store.nextLease < link.store.nextLease) :
      Registers registrar now name span (.ok ⟨registrar.link.store.nextLease, span, name⟩)
        ⟨link, registrar.renewals ++
          [⟨registrar.link.store.nextLease, renewalPeriod span, now + renewalPeriod span, true⟩]⟩

namespace Registers

variable {registrar after : Registrar} {now : Instant} {name : String} {span : Duration}
variable {result : Except Fault Lease}

/-- A registration leaves the renewals of other leases. -/
theorem running?_of_ne
    {lease : LeaseId}
    (registers : Registers registrar now name span result after)
    (old : registrar.link.store.nextLease ≠ lease) :
    after.running? lease = registrar.running? lease := by
  cases registers with
  | failed fault link => rfl
  | registered link known => exact running?_append registrar link old

/-- The renewal that it begins is for a number that it has given away. -/
theorem mem_renewals
    {renewal : Renewal}
    (registers : Registers registrar now name span result after)
    (present : renewal ∈ after.renewals) :
    renewal ∈ registrar.renewals ∨ renewal.lease < after.link.store.nextLease := by
  cases registers with
  | failed fault link => exact Or.inl present
  | registered link known =>
      rcases List.mem_append.mp present with before | new
      · exact Or.inl before
      · rw [List.mem_singleton] at new
        subst new
        exact Or.inr known

theorem id_lt
    {handle : Lease}
    (registers : Registers registrar now name span result after)
    (given : handle ∈ result.toOption.toList) :
    handle.id < after.link.store.nextLease := by
  cases registers with
  | failed fault link => simp [Except.toOption] at given
  | registered link known =>
      simp only [Except.toOption, Option.toList_some, List.mem_singleton] at given
      exact given ▸ known

/-- A registration is handed out for the lease that was granted for it. -/
theorem id_eq
    {handle : Lease}
    (registers : Registers registrar now name span result after)
    (given : handle ∈ result.toOption.toList) :
    handle.id = registrar.link.store.nextLease := by
  cases registers with
  | failed fault link => simp [Except.toOption] at given
  | registered link known =>
      simp only [Except.toOption, Option.toList_some, List.mem_singleton] at given
      exact given ▸ rfl

end Registers

variable (registrar : Registrar) (now : Instant)

/-- A registration ends in one of these ways, and asks for a grant and a binding. -/
theorem registers_register
    (name address : String)
    (span : Duration) :
    Registers registrar now name span (registrar.register now name address span).1
        (registrar.register now name address span).2 ∧
      Link.Reaches now registrar.link (registrar.registering now name address span) 0
        (registrar.register now name address span).2.link := by
  unfold register registering
  by_cases never : span = 0
  · simp only [never, if_true]
    exact ⟨.failed _ registrar.link, Link.reaches_refl⟩
  · simp only [never, if_false]
    have granting := registrar.link.reaches_grant now span
    obtain ⟨⟨granted, afterGrant⟩, grant⟩ :
        ∃ answer, registrar.link.grant now span = answer := ⟨_, rfl⟩
    rw [grant] at granting ⊢
    cases granted with
    | error fault =>
        rw [List.append_nil]
        exact ⟨.failed _ afterGrant, granting⟩
    | ok lease =>
        obtain ⟨rfl, known⟩ := registrar.link.grant_of_ok now grant
        have binding := afterGrant.reaches_put now (serviceKey name) address
          registrar.link.store.nextLease
        have kept := afterGrant.store.nextLease_le_serveAll now
          (afterGrant.passes .put (.put (serviceKey name) address registrar.link.store.nextLease))
        rw [← binding.store] at kept
        obtain ⟨⟨bound, afterPut⟩, put⟩ :
            ∃ answer, afterGrant.put now (serviceKey name) address
              registrar.link.store.nextLease = answer := ⟨_, rfl⟩
        simp only [put] at binding kept ⊢
        cases bound with
        | error fault => exact ⟨.failed _ afterPut, granting.trans binding⟩
        | ok done =>
            exact ⟨.registered afterPut (Int.lt_of_lt_of_le known kept), granting.trans binding⟩

/-- Revoking a lease asks the store for it, whatever comes of it. -/
theorem exists_revoke
    (handle : Lease) :
    ∃ link, (registrar.revoke handle).2 = { registrar with link } ∧
      Link.Reaches now registrar.link (registrar.link.passes .revoke (.revoke handle.id)) 0
        link := by
  have revoking := registrar.link.reaches_revoke now handle.id
  unfold revoke
  obtain ⟨⟨answer, link⟩, revoke⟩ :
      ∃ answer, registrar.link.revoke handle.id = answer := ⟨_, rfl⟩
  simp only [revoke] at revoking ⊢
  refine ⟨link, ?_, revoking⟩
  cases answer with
  | ok done => rfl
  | error fault =>
      cases fault with
      | notFound text => rfl
      | _ => rfl

/-- A registration that is given up is renewed no more, and its lease is revoked. -/
theorem exists_deregister
    (handle : Lease) :
    ∃ link, (registrar.deregister handle).2 = { registrar.stop handle.id with link } ∧
      Link.Reaches now registrar.link (registrar.link.passes .revoke (.revoke handle.id)) 0
        link :=
  (registrar.stop handle.id).exists_revoke now handle

/-- Resolving a name reads its key. -/
theorem exists_resolve
    (name : String) :
    ∃ link, (registrar.resolve now name).2 = { registrar with link } ∧
      Link.Reaches now registrar.link (registrar.link.passes .get (.get (serviceKey name))) 0
        link := by
  have reading := registrar.link.reaches_get now (serviceKey name)
  unfold resolve
  obtain ⟨⟨answer, link⟩, get⟩ :
      ∃ answer, registrar.link.get now (serviceKey name) = answer := ⟨_, rfl⟩
  simp only [get] at reading ⊢
  refine ⟨link, ?_, reading⟩
  cases answer with
  | error fault => rfl
  | ok found =>
      cases found with
      | none => rfl
      | some address => rfl

variable {registrar now}

/-- A name is resolved to what the store shows under its key, if the call succeeds. -/
theorem resolve_eq_ok_iff
    {name address : String} :
    (registrar.resolve now name).1 = .ok address ↔
      registrar.link.failing .get = none ∧
        registrar.link.store.get now (serviceKey name) = some address := by
  unfold resolve Link.get Link.call
  cases registrar.link.failing .get with
  | some fault => simp
  | none =>
      cases shown : registrar.link.store.get now (serviceKey name) with
      | none => simp [shown]
      | some found => simp [shown]

/-- A renewal that tries asks for its lease to be kept alive. -/
theorem Wakes.reaches
    {lease : LeaseId}
    {after : Registrar}
    {tried : Option Bool}
    (wakes : Wakes registrar now lease after tried) :
    Link.Reaches now registrar.link
      (if tried.isSome then registrar.link.passes .keepAlive (.keepAlive lease) else [])
      tried.toList.length after.link := by
  have renewing := registrar.link.reaches_keepAlive now lease
  cases wakes with
  | idle => exact Link.reaches_refl
  | renewed running due answer =>
      rw [answer] at renewing
      exact renewing
  | refused running due answer =>
      rw [answer] at renewing
      exact renewing

end Registrar
end Registry
end MallFabric
