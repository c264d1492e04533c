import MallFabric.Proofs.Assoc
import MallFabric.Registry.Store

/-!
# What a request changes in a store

Whatever a store is asked for, one of a few changes follows.  Each of them is
seen through two views, the term of a lease and the binding of a key, and each
keeps the store tidy: keys and leases stand in it once, and what is bound is
bound under a lease that is held.
-/

namespace MallFabric
namespace Registry

/-- What a store can be asked for. -/
inductive Request where
  | grant (span : Duration)
  | put (key value : String) (lease : LeaseId)
  | keepAlive (lease : LeaseId)
  | get (key : String)
  | revoke (lease : LeaseId)
  | purge
deriving DecidableEq, Repr

/-- The lease that a request names. -/
def Request.lease? : Request -> Option LeaseId
  | put _ _ lease => some lease
  | keepAlive lease => some lease
  | revoke lease => some lease
  | _ => none

/-- What was done for a request that succeeded. -/
inductive Deed where
  | granted (lease : LeaseId) (span : Duration)
  | bound (key value : String) (lease : LeaseId)
  | renewed (lease : LeaseId)
  | revoked (lease : LeaseId)
deriving DecidableEq, Repr

namespace Deed

/-- The lease that a deed is about. -/
def lease : Deed -> LeaseId
  | granted lease _ => lease
  | bound _ _ lease => lease
  | renewed lease => lease
  | revoked lease => lease

/-- The deeds from which the span of a lease is counted. -/
def Refreshes (lease : LeaseId) : Deed -> Prop
  | granted other _ => other = lease
  | renewed other => other = lease
  | _ => False

/-- The deeds that write a key. -/
def Binds (key : String) : Deed -> Prop
  | bound other _ _ => other = key
  | _ => False

instance (key : String) (deed : Deed) : Decidable (deed.Binds key) :=
  match deed with
  | bound other _ _ => inferInstanceAs (Decidable (other = key))
  | granted _ _ => inferInstanceAs (Decidable False)
  | renewed _ => inferInstanceAs (Decidable False)
  | revoked _ => inferInstanceAs (Decidable False)

theorem Refreshes.lease_eq
    {lease : LeaseId}
    {deed : Deed}
    (refreshes : deed.Refreshes lease) :
    deed.lease = lease := by
  cases deed with
  | granted other span => exact refreshes
  | renewed other => exact refreshes
  | bound key value other => exact absurd refreshes id
  | revoked other => exact absurd refreshes id

end Deed

namespace Store

/-- The store after a request. -/
def serve (store : Store) (now : Instant) : Request -> Store
  | .grant span => (store.grant now span).2
  | .put key value lease => (store.put now key value lease).2
  | .keepAlive lease => (store.keepAlive now lease).2
  | .get _ => store
  | .revoke lease => (store.revoke lease).2
  | .purge => (store.purgeExpired now).2

/-- What a request comes to, if it succeeds and changes leases or bindings. -/
def deed? (store : Store) (now : Instant) : Request -> Option Deed
  | .grant span => some (.granted (store.grant now span).1 span)
  | .put key value lease =>
      match (store.put now key value lease).1 with
      | .ok () => some (.bound key value lease)
      | .error _ => none
  | .keepAlive lease =>
      match (store.keepAlive now lease).1 with
      | .ok _ => some (.renewed lease)
      | .error _ => none
  | .get _ => none
  | .revoke lease =>
      match (store.revoke lease).1 with
      | .ok () => some (.revoked lease)
      | .error _ => none
  | .purge => none

/-- Every change that a request can make, with what was done by it. -/
inductive Change (store : Store) (now : Instant) : Option Deed -> Store -> Prop where
  | unchanged : Change store now none store
  | granted (span : Duration) :
      Change store now (some (.granted store.nextLease span)) (store.grant now span).2
  | bound {key value lease}
      (live : store.isLive now lease = true) :
      Change store now (some (.bound key value lease))
        { store with bindings := store.bindings.insert key ⟨value, lease⟩ }
  | renewed {lease term}
      (held : store.leases.find? lease = some term)
      (early : now < term.expiresAt) :
      Change store now (some (.renewed lease))
        { store with leases := store.leases.insert lease ⟨term.span, now + term.span⟩ }
  | expired {lease term}
      (held : store.leases.find? lease = some term)
      (late : term.expiresAt ≤ now) :
      Change store now none (store.dropLease lease)
  | revoked {lease term}
      (held : store.leases.find? lease = some term) :
      Change store now (some (.revoked lease)) (store.dropLease lease)
  | purged : Change store now none (store.purgeExpired now).2

/-- Every request makes one of the changes. -/
theorem change_serve
    (store : Store)
    (now : Instant)
    (request : Request) :
    Change store now (store.deed? now request) (store.serve now request) := by
  cases request with
  | grant span => exact .granted span
  | get key => exact .unchanged
  | purge => exact .purged
  | put key value lease =>
      cases live : store.isLive now lease with
      | true => simpa [deed?, serve, put, live] using Change.bound live
      | false => simpa [deed?, serve, put, live] using Change.unchanged
  | keepAlive lease =>
      cases held : store.leases.find? lease with
      | none => simpa [deed?, serve, keepAlive, held] using Change.unchanged
      | some term =>
          by_cases early : now < term.expiresAt
          · simpa [deed?, serve, keepAlive, held, early] using Change.renewed held early
          · have late : term.expiresAt ≤ now := Nat.le_of_not_lt early
            simpa [deed?, serve, keepAlive, held, early] using Change.expired held late
  | revoke lease =>
      cases held : store.leases.find? lease with
      | none => simpa [deed?, serve, revoke, Assoc.contains, held] using Change.unchanged
      | some term =>
          simpa [deed?, serve, revoke, Assoc.contains, held] using Change.revoked held

/-! ## Live leases -/

variable {store : Store} {now : Instant} {lease : LeaseId} {term : LeaseTerm}

theorem isLive_iff :
    store.isLive now lease = true ↔
      ∃ term, store.leases.find? lease = some term ∧ now < term.expiresAt := by
  unfold isLive
  cases store.leases.find? lease with
  | none => simp
  | some term => simp

theorem isLive_of_find?
    (held : store.leases.find? lease = some term) :
    store.isLive now lease = decide (now < term.expiresAt) := by
  rw [isLive, held]

/-- Whether a lease is live is a matter of its term. -/
theorem isLive_congr
    {other : Store}
    (same : other.leases.find? lease = store.leases.find? lease)
    (now : Instant) :
    other.isLive now lease = store.isLive now lease := by
  rw [isLive, isLive, same]

/-- A lease that is live has been live since its last renewal. -/
theorem isLive_of_le
    {later : Instant}
    (order : now ≤ later)
    (live : store.isLive later lease = true) :
    store.isLive now lease = true := by
  obtain ⟨term, held, early⟩ := isLive_iff.mp live
  exact isLive_iff.mpr ⟨term, held, Nat.lt_of_le_of_lt order early⟩

theorem get_eq_some_iff
    {key value : String} :
    store.get now key = some value ↔
      ∃ lease, store.bindings.find? key = some ⟨value, lease⟩ ∧
        store.isLive now lease = true := by
  unfold get
  cases store.bindings.find? key with
  | none => simp
  | some binding =>
      obtain ⟨bound, owner⟩ := binding
      cases live : store.isLive now owner with
      | false => simp [live]
      | true => simp [live]

/-! ## Tidy stores -/

/-- Leases and keys stand in the store once, leases are numbered upwards, and what
is bound is bound under a lease that is held. -/
structure Tidy (store : Store) : Prop where
  leases_distinct : Assoc.Distinct store.leases
  bindings_distinct : Assoc.Distinct store.bindings
  numbered : ∀ lease term, store.leases.find? lease = some term -> lease < store.nextLease
  owned : ∀ key binding, store.bindings.find? key = some binding ->
    ∃ term, store.leases.find? binding.lease = some term

theorem tidy_empty : Tidy empty where
  leases_distinct := Assoc.distinct_nil
  bindings_distinct := Assoc.distinct_nil
  numbered := by simp [empty]
  owned := by simp [empty]

namespace Tidy

variable (tidy : store.Tidy)

include tidy

/-- What is bound under a lease goes with the lease, and nothing else does. -/
theorem find?_dropLease
    (lease : LeaseId)
    (key : String) :
    (store.dropLease lease).bindings.find? key =
      (store.bindings.find? key).filter fun binding => binding.lease ≠ lease :=
  tidy.bindings_distinct.find?_filter _ _

theorem dropLease
    (lease : LeaseId) :
    (store.dropLease lease).Tidy where
  leases_distinct := tidy.leases_distinct.erase lease
  bindings_distinct := tidy.bindings_distinct.filter _
  numbered := by
    intro other term held
    by_cases same : other = lease
    · rw [same] at held
      cases (Assoc.find?_erase_self store.leases lease).symm.trans held
    · exact tidy.numbered other term ((Assoc.find?_erase_of_ne _ same).symm.trans held)
  owned := by
    intro key binding found
    rw [tidy.find?_dropLease, Option.filter_eq_some_iff] at found
    obtain ⟨before, other⟩ := found
    obtain ⟨term, held⟩ := tidy.owned key binding before
    exact ⟨term, (Assoc.find?_erase_of_ne _ (of_decide_eq_true other)).trans held⟩

end Tidy

theorem isLive_dropLease_iff
    {other : LeaseId} :
    (store.dropLease lease).isLive now other = true ↔
      other ≠ lease ∧ store.isLive now other = true := by
  rw [isLive_iff, isLive_iff, Store.dropLease]
  by_cases same : other = lease
  · subst same
    simp [Assoc.find?_erase_self]
  · simp [Assoc.find?_erase_of_ne _ same, same]

/-! ## Sweeps -/

/-- After a sweep exactly the leases that were not swept are held. -/
theorem find?_leases_sweep
    (swept : List LeaseId)
    (store : Store)
    (lease : LeaseId) :
    (swept.foldl Store.dropLease store).leases.find? lease =
      if lease ∈ swept then none else store.leases.find? lease := by
  induction swept generalizing store with
  | nil => simp
  | cons first rest inductionHypothesis =>
      rw [List.foldl_cons, inductionHypothesis]
      by_cases same : lease = first
      · subst same
        simp [Store.dropLease, Assoc.find?_erase_self]
      · simp [Store.dropLease, Assoc.find?_erase_of_ne _ same, same]

/-- After a sweep exactly that is bound which was not bound under a swept lease. -/
theorem Tidy.find?_bindings_sweep
    (swept : List LeaseId)
    (tidy : store.Tidy)
    (key : String) :
    (swept.foldl Store.dropLease store).Tidy ∧
      (swept.foldl Store.dropLease store).bindings.find? key =
        (store.bindings.find? key).filter fun binding => binding.lease ∉ swept := by
  induction swept generalizing store with
  | nil =>
      refine ⟨tidy, ?_⟩
      cases found : store.bindings.find? key with
      | none => simp [found]
      | some binding => simp [found, Option.filter]
  | cons first rest inductionHypothesis =>
      rw [List.foldl_cons]
      obtain ⟨keptTidy, found⟩ := inductionHypothesis (tidy.dropLease first)
      refine ⟨keptTidy, ?_⟩
      rw [found, tidy.find?_dropLease, Option.filter_filter]
      congr 1
      funext binding
      simp

theorem nextLease_sweep
    (swept : List LeaseId)
    (store : Store) :
    (swept.foldl Store.dropLease store).nextLease = store.nextLease := by
  induction swept generalizing store with
  | nil => rfl
  | cons first rest inductionHypothesis => exact inductionHypothesis _

theorem Tidy.mem_expired_iff
    (tidy : store.Tidy) :
    lease ∈ store.expired now ↔
      ∃ term, store.leases.find? lease = some term ∧ term.expiresAt ≤ now := by
  simp only [Store.expired, List.mem_map, List.mem_filter, decide_eq_true_eq]
  constructor
  · rintro ⟨⟨_, term⟩, ⟨present, late⟩, rfl⟩
    exact ⟨term, tidy.leases_distinct.find?_of_mem present, late⟩
  · rintro ⟨term, held, late⟩
    exact ⟨(lease, term), ⟨Assoc.mem_of_find? held, late⟩, rfl⟩

/-- A purge gives up the leases that have expired. -/
theorem Tidy.find?_leases_purge
    (tidy : store.Tidy)
    (now : Instant)
    (lease : LeaseId) :
    (store.purgeExpired now).2.leases.find? lease =
      (store.leases.find? lease).filter fun term => now < term.expiresAt := by
  rw [Store.purgeExpired, find?_leases_sweep]
  cases held : store.leases.find? lease with
  | none => simp
  | some term =>
      by_cases early : now < term.expiresAt
      · have stays : lease ∉ store.expired now := by
          rw [tidy.mem_expired_iff]
          rintro ⟨again, heldAgain, late⟩
          rw [held, Option.some.injEq] at heldAgain
          rw [heldAgain] at early
          lia
        simp [stays, early, Option.filter]
      · have goes : lease ∈ store.expired now :=
          tidy.mem_expired_iff.mpr ⟨term, held, Nat.le_of_not_lt early⟩
        simp [goes, early, Option.filter]

/-- A purge gives up what is bound under a lease that has expired. -/
theorem Tidy.find?_bindings_purge
    (tidy : store.Tidy)
    (now : Instant)
    (key : String) :
    (store.purgeExpired now).2.bindings.find? key =
      (store.bindings.find? key).filter fun binding => store.isLive now binding.lease := by
  rw [Store.purgeExpired, (tidy.find?_bindings_sweep (store.expired now) key).2]
  cases found : store.bindings.find? key with
  | none => rfl
  | some binding =>
      obtain ⟨term, held⟩ := tidy.owned key binding found
      have swept : binding.lease ∈ store.expired now ↔ ¬ now < term.expiresAt := by
        rw [tidy.mem_expired_iff, held]
        simp
      simp [Option.filter, isLive_of_find? held, swept]

theorem Tidy.isLive_purge
    (tidy : store.Tidy)
    {later : Instant}
    (order : now ≤ later)
    (lease : LeaseId) :
    (store.purgeExpired now).2.isLive later lease = store.isLive later lease := by
  rw [isLive, isLive, tidy.find?_leases_purge]
  cases held : store.leases.find? lease with
  | none => rfl
  | some term =>
      by_cases early : now < term.expiresAt
      · simp [Option.filter, early]
      · have late : ¬ later < term.expiresAt := by lia
        simp [Option.filter, early, late]

/-! ## Changes -/

/-- Every change keeps a store tidy. -/
theorem Tidy.change
    (tidy : store.Tidy)
    {deed : Option Deed}
    {after : Store}
    (change : Change store now deed after) :
    after.Tidy := by
  cases change with
  | unchanged => exact tidy
  | expired held late => exact tidy.dropLease _
  | revoked held => exact tidy.dropLease _
  | purged => exact (tidy.find?_bindings_sweep (store.expired now) "").1
  | granted span =>
      refine ⟨tidy.leases_distinct.insert _ _, tidy.bindings_distinct, ?_, ?_⟩
      · intro lease term held
        by_cases same : lease = store.nextLease
        · simp only [Store.grant]
          lia
        · have before := tidy.numbered lease term ((Assoc.find?_insert_of_ne _ _ same).symm.trans held)
          simp only [Store.grant]
          lia
      · intro key binding found
        obtain ⟨term, held⟩ := tidy.owned key binding found
        have known := tidy.numbered _ _ held
        have old : binding.lease ≠ store.nextLease := by lia
        exact ⟨term, (Assoc.find?_insert_of_ne _ _ old).trans held⟩
  | @bound key value lease live =>
      refine ⟨tidy.leases_distinct, tidy.bindings_distinct.insert _ _, tidy.numbered, ?_⟩
      intro other binding found
      by_cases same : other = key
      · rw [same, Assoc.find?_insert_self, Option.some.injEq] at found
        obtain ⟨term, held, -⟩ := isLive_iff.mp live
        exact ⟨term, found ▸ held⟩
      · exact tidy.owned other binding ((Assoc.find?_insert_of_ne _ _ same).symm.trans found)
  | @renewed lease term held early =>
      refine ⟨tidy.leases_distinct.insert _ _, tidy.bindings_distinct, ?_, ?_⟩
      · intro other otherTerm found
        by_cases same : other = lease
        · rw [same]
          exact tidy.numbered lease term held
        · exact tidy.numbered other otherTerm
            ((Assoc.find?_insert_of_ne _ _ same).symm.trans found)
      · intro key binding found
        by_cases same : binding.lease = lease
        · rw [same]
          exact ⟨_, Assoc.find?_insert_self _ _ _⟩
        · obtain ⟨otherTerm, otherHeld⟩ := tidy.owned key binding found
          exact ⟨otherTerm, (Assoc.find?_insert_of_ne _ _ same).trans otherHeld⟩

theorem Change.nextLease_le
    {deed : Option Deed}
    {after : Store}
    (change : Change store now deed after) :
    store.nextLease ≤ after.nextLease := by
  cases change with
  | granted span =>
      simp only [Store.grant]
      lia
  | purged => exact Int.le_of_eq (nextLease_sweep _ _).symm
  | _ => exact Int.le_refl _

/-- No change brings a lease to life that was granted before. -/
theorem Tidy.dead_change
    (tidy : store.Tidy)
    {deed : Option Deed}
    {after : Store}
    (change : Change store now deed after)
    (known : lease < store.nextLease)
    (dead : store.isLive now lease = false) :
    after.isLive now lease = false := by
  cases change with
  | unchanged => exact dead
  | bound live => exact dead
  | granted span =>
      have old : lease ≠ store.nextLease := by lia
      exact (isLive_congr (Assoc.find?_insert_of_ne _ _ old) now).trans dead
  | @renewed other term held early =>
      have different : lease ≠ other := by
        rintro rfl
        rw [isLive_of_find? held, decide_eq_false_iff_not] at dead
        exact dead early
      exact (isLive_congr (Assoc.find?_insert_of_ne _ _ different) now).trans dead
  | expired held late =>
      rw [Bool.eq_false_iff] at dead ⊢
      exact fun live => dead (isLive_dropLease_iff.mp live).2
  | revoked held =>
      rw [Bool.eq_false_iff] at dead ⊢
      exact fun live => dead (isLive_dropLease_iff.mp live).2
  | purged => exact (tidy.isLive_purge (Nat.le_refl _) lease).trans dead

/-- What is bound under a live lease stays, unless it is replaced or the lease is
revoked. -/
theorem Tidy.find?_bindings_change
    (tidy : store.Tidy)
    {deed : Option Deed}
    {after : Store}
    (change : Change store now deed after)
    {key : String}
    {binding : Binding}
    (found : store.bindings.find? key = some binding)
    (live : store.isLive now binding.lease = true)
    (unwritten : ∀ done ∈ deed, ¬ done.Binds key)
    (unrevoked : deed ≠ some (.revoked binding.lease)) :
    after.bindings.find? key = some binding := by
  cases change with
  | unchanged => exact found
  | granted span => exact found
  | renewed held early => exact found
  | @bound other value lease live =>
      have different : key ≠ other := fun same => unwritten _ rfl same.symm
      exact (Assoc.find?_insert_of_ne _ _ different).trans found
  | @expired lease term held late =>
      have different : binding.lease ≠ lease := by
        rintro rfl
        rw [isLive_of_find? held, decide_eq_true_eq] at live
        lia
      rw [tidy.find?_dropLease, Option.filter_eq_some_iff]
      exact ⟨found, decide_eq_true different⟩
  | @revoked lease term held =>
      have different : binding.lease ≠ lease := by
        rintro rfl
        exact unrevoked rfl
      rw [tidy.find?_dropLease, Option.filter_eq_some_iff]
      exact ⟨found, decide_eq_true different⟩
  | purged =>
      rw [tidy.find?_bindings_purge, Option.filter_eq_some_iff]
      exact ⟨found, live⟩

/-- Revoking a lease leaves what is bound under another one. -/
theorem Tidy.find?_bindings_revoke
    (tidy : store.Tidy)
    {key : String}
    {binding : Binding}
    (found : store.bindings.find? key = some binding)
    (other : binding.lease ≠ lease) :
    (store.revoke lease).2.bindings.find? key = some binding := by
  unfold Store.revoke
  split
  · rw [tidy.find?_dropLease, Option.filter_eq_some_iff]
    exact ⟨found, decide_eq_true other⟩
  · exact found

end Store
end Registry
end MallFabric
