import MallFabric.Proofs.Registry.Requests

/-!
# What lasts in a store

What is bound under a lease that lives beyond an instant stays bound until then,
whatever the store is asked for, unless its key is written or its lease revoked.
Keeping the lease alive moves the instant.
-/

namespace MallFabric
namespace Registry

namespace Store

/-- A key is bound to an address under a lease that lives beyond an instant. -/
structure Lasts (store : Store) (key address : String) (lease : LeaseId) (span : Duration)
    (due : Instant) : Prop where
  bound : store.bindings.find? key = some ⟨address, lease⟩
  held : ∃ expiresAt, store.leases.find? lease = some ⟨span, expiresAt⟩ ∧ due < expiresAt

variable {store : Store} {key address : String} {lease : LeaseId} {span : Duration}
variable {now due : Instant}

/-- A lease that has not expired is renewed for its whole span. -/
theorem keepAlive_of_lt
    {expiresAt : Instant}
    (held : store.leases.find? lease = some ⟨span, expiresAt⟩)
    (early : now < expiresAt) :
    store.keepAlive now lease =
      (.ok span, { store with leases := store.leases.insert lease ⟨span, now + span⟩ }) := by
  simp only [keepAlive, held, early, if_true]

/-- A change leaves the term of a live lease as it is, or begins it anew, unless it revokes
the lease. -/
theorem Tidy.find?_leases_change
    (tidy : store.Tidy)
    {deed : Option Deed}
    {after : Store}
    (change : Change store now deed after)
    {expiresAt : Instant}
    (held : store.leases.find? lease = some ⟨span, expiresAt⟩)
    (early : now < expiresAt)
    (unrevoked : deed ≠ some (.revoked lease)) :
    after.leases.find? lease = some ⟨span, expiresAt⟩ ∨
      after.leases.find? lease = some ⟨span, now + span⟩ := by
  cases change with
  | unchanged => exact Or.inl held
  | bound live => exact Or.inl held
  | granted granted =>
      have old : lease ≠ store.nextLease := Int.ne_of_lt (tidy.numbered lease _ held)
      exact Or.inl ((Assoc.find?_insert_of_ne _ _ old).trans held)
  | @renewed other term otherHeld otherEarly =>
      by_cases same : lease = other
      · subst same
        cases held.symm.trans otherHeld
        exact Or.inr (Assoc.find?_insert_self _ _ _)
      · exact Or.inl ((Assoc.find?_insert_of_ne _ _ same).trans held)
  | @expired other term otherHeld late =>
      have different : lease ≠ other := by
        rintro rfl
        cases held.symm.trans otherHeld
        exact absurd late (Nat.not_le.mpr early)
      exact Or.inl ((Assoc.find?_erase_of_ne _ different).trans held)
  | @revoked other term otherHeld =>
      have different : lease ≠ other := by
        rintro rfl
        exact unrevoked rfl
      exact Or.inl ((Assoc.find?_erase_of_ne _ different).trans held)
  | purged =>
      refine Or.inl ?_
      rw [tidy.find?_leases_purge, Option.filter_eq_some_iff]
      exact ⟨held, decide_eq_true early⟩

namespace Lasts

theorem isLive
    (lasts : store.Lasts key address lease span due)
    (order : now ≤ due) :
    store.isLive now lease = true := by
  obtain ⟨expiresAt, held, later⟩ := lasts.held
  exact isLive_iff.mpr ⟨⟨span, expiresAt⟩, held, Nat.lt_of_le_of_lt order later⟩

theorem get
    (lasts : store.Lasts key address lease span due)
    (order : now ≤ due) :
    store.get now key = some address :=
  get_eq_some_iff.mpr ⟨lease, lasts.bound, lasts.isLive order⟩

/-- A change that neither writes the key nor revokes the lease leaves it as it is, or
renews the lease. -/
theorem change
    (lasts : store.Lasts key address lease span due)
    (tidy : store.Tidy)
    (order : now ≤ due)
    (soon : due < now + span)
    {deed : Option Deed}
    {after : Store}
    (change : Change store now deed after)
    (spared : ∀ done ∈ deed, ¬ done.Binds key ∧ done ≠ .revoked lease) :
    after.Lasts key address lease span due := by
  have live := lasts.isLive order
  obtain ⟨expiresAt, held, later⟩ := lasts.held
  have unrevoked : deed ≠ some (.revoked lease) := by
    rintro rfl
    exact (spared _ rfl).2 rfl
  constructor
  · apply tidy.find?_bindings_change change lasts.bound live
    · exact fun done is => (spared done is).1
    · exact unrevoked
  · rcases tidy.find?_leases_change change held (Nat.lt_of_le_of_lt order later) unrevoked with
      same | renewed
    · exact ⟨expiresAt, same, later⟩
    · exact ⟨now + span, renewed, soon⟩

/-- When the lease is kept alive it lives for its whole span from now. -/
theorem keepAlive
    (lasts : store.Lasts key address lease span due)
    (order : now ≤ due)
    {next : Instant}
    (soon : next < now + span) :
    (store.keepAlive now lease).1 = .ok span ∧
      (store.keepAlive now lease).2.Lasts key address lease span next := by
  obtain ⟨expiresAt, held, later⟩ := lasts.held
  rw [keepAlive_of_lt held (Nat.lt_of_le_of_lt order later)]
  exact ⟨rfl, lasts.bound, now + span, Assoc.find?_insert_self _ _ _, soon⟩

end Lasts

end Store

/-- A request that neither writes a key nor revokes a lease. -/
def Request.Spares (key : String) (lease : LeaseId) : Request -> Prop
  | put other _ _ => other ≠ key
  | revoke other => other ≠ lease
  | _ => True

namespace Store

variable {store : Store} {key address : String} {lease : LeaseId} {span : Duration}
variable {now due : Instant}

/-- What is done for such a request. -/
theorem spared_of_spares
    {request : Request}
    (spares : request.Spares key lease) :
    ∀ done ∈ store.deed? now request, ¬ done.Binds key ∧ done ≠ .revoked lease := by
  intro done is
  cases request with
  | grant span =>
      cases is
      exact ⟨id, by simp⟩
  | put other value owner =>
      simp only [deed?] at is
      split at is
      · cases is
        exact ⟨spares, by simp⟩
      · cases is
  | keepAlive other =>
      simp only [deed?] at is
      split at is
      · cases is
        exact ⟨id, by simp⟩
      · cases is
  | get other => cases is
  | revoke other =>
      simp only [deed?] at is
      split at is
      · cases is
        exact ⟨id, by simpa [Request.Spares] using spares⟩
      · cases is
  | purge => cases is

theorem Lasts.serveAll
    (lasts : store.Lasts key address lease span due)
    (tidy : store.Tidy)
    (order : now ≤ due)
    (soon : due < now + span)
    (requests : List Request)
    (spares : ∀ request ∈ requests, request.Spares key lease) :
    (store.serveAll now requests).Lasts key address lease span due := by
  induction requests generalizing store with
  | nil => exact lasts
  | cons request rest inductionHypothesis =>
      have change := change_serve store now request
      apply inductionHypothesis
      · exact lasts.change tidy order soon change
          (spared_of_spares (spares request List.mem_cons_self))
      · exact tidy.change change
      · exact fun other present => spares other (List.mem_cons_of_mem _ present)

/-- Under a lease that was granted now, an address is bound for the whole span. -/
theorem lasts_grant
    (store : Store)
    (now : Instant)
    (key address : String)
    (soon : due < now + span)
    (positive : 0 < span) :
    ((store.grant now span).2.put now key address store.nextLease).1 = .ok () ∧
      ((store.grant now span).2.put now key address store.nextLease).2.Lasts key address
        store.nextLease span due := by
  have held : (store.grant now span).2.leases.find? store.nextLease = some ⟨span, now + span⟩ :=
    Assoc.find?_insert_self _ _ _
  have live : (store.grant now span).2.isLive now store.nextLease = true :=
    isLive_iff.mpr ⟨_, held, Nat.lt_add_of_pos_right positive⟩
  rw [Store.put, if_pos live]
  exact ⟨rfl, Assoc.find?_insert_self _ _ _, now + span, held, soon⟩

end Store

theorem serviceKey_injective : Function.Injective serviceKey := by
  intro first second same
  unfold serviceKey at same
  simpa using same

namespace Registrar

variable {registrar : Registrar} {now : Instant}

/-- The requests of a registration that is refused at once, or is under another name,
leave a key alone. -/
theorem spares_registering
    {name other address : String}
    {lease : LeaseId}
    {span : Duration}
    (harmless : span = 0 ∨ other ≠ name) :
    ∀ request ∈ registrar.registering now other address span,
      request.Spares (serviceKey name) lease := by
  intro request present
  by_cases never : span = 0
  · rw [registering, if_pos never] at present
    exact absurd present List.not_mem_nil
  · rcases mem_registering present with rfl | rfl
    · trivial
    · exact fun same => harmless.resolve_left never (serviceKey_injective same)

/-- A registration over a link that does not fail succeeds, and its renewal begins. -/
theorem exists_register_of_reliable
    (reliable : ∀ call, registrar.link.failing call = none)
    (now : Instant)
    (name address : String)
    {span : Duration}
    (positive : 0 < span) :
    ∃ link : Link,
      registrar.register now name address span =
          (.ok ⟨registrar.link.store.nextLease, span, name⟩,
            ⟨link, registrar.renewals ++ [⟨registrar.link.store.nextLease, renewalPeriod span,
              now + renewalPeriod span, true⟩]⟩) ∧
        (∀ call, link.failing call = none) ∧
        link.store = ((registrar.link.store.grant now span).2.put now (serviceKey name) address
          registrar.link.store.nextLease).2 := by
  let granted : Link :=
    { registrar.link.count .grant with store := (registrar.link.store.grant now span).2 }
  have grant : registrar.link.grant now span = (.ok registrar.link.store.nextLease, granted) :=
    Link.call_of_failing_eq_none (reliable .grant) _
  have passes : granted.failing .put = none := reliable .put
  have binds := (registrar.link.store.lasts_grant now (serviceKey name) address
    (Nat.lt_add_of_pos_right positive) positive).1
  let bound : Link :=
    { granted.count .put with
      store := (granted.store.put now (serviceKey name) address
        registrar.link.store.nextLease).2 }
  have put : granted.put now (serviceKey name) address registrar.link.store.nextLease =
      (.ok (), bound) := by
    rw [← binds]
    exact Link.call_of_failing_eq_none passes _
  refine ⟨bound, ?_, reliable, rfl⟩
  simp only [register, Nat.ne_of_gt positive, if_false, grant, put]

end Registrar

end Registry
end MallFabric
