import MallFabric.Proofs.Registry.Change

/-!
# What can be seen of a store

Of the leases that a store holds only the live ones make a difference, and of the
keys only those that are bound under a live lease.  Two stores that agree on these
answer every request alike, up to the reason of a refusal, and still agree
afterwards.  A sweep changes nothing that can be seen.
-/

namespace MallFabric
namespace Registry
namespace Store

/-- The term of a lease that is live. -/
def liveTerm? (store : Store) (now : Instant) (lease : LeaseId) : Option LeaseTerm :=
  (store.leases.find? lease).filter fun term => now < term.expiresAt

/-- What is bound to a key under a live lease. -/
def liveBinding? (store : Store) (now : Instant) (key : String) : Option Binding :=
  (store.bindings.find? key).filter fun binding => store.isLive now binding.lease

/-- The store with another term for a lease. -/
def withTerm (store : Store) (lease : LeaseId) (term : LeaseTerm) : Store :=
  { store with leases := store.leases.insert lease term }

/-- Two stores of which the same can be seen. -/
structure Agrees (now : Instant) (left right : Store) : Prop where
  nextLease : left.nextLease = right.nextLease
  terms : ∀ lease, left.liveTerm? now lease = right.liveTerm? now lease
  bindings : ∀ key, left.liveBinding? now key = right.liveBinding? now key

theorem agrees_refl (now : Instant) (store : Store) : Agrees now store store :=
  ⟨rfl, fun _ => rfl, fun _ => rfl⟩

variable {store : Store} {now : Instant} {lease : LeaseId} {term : LeaseTerm}

theorem liveTerm?_eq_some_iff :
    store.liveTerm? now lease = some term ↔
      store.leases.find? lease = some term ∧ now < term.expiresAt := by
  simp [liveTerm?, Option.filter_eq_some_iff]

theorem liveTerm?_eq_none_iff :
    store.liveTerm? now lease = none ↔ store.isLive now lease = false := by
  rw [Bool.eq_false_iff, Ne, isLive_iff, Option.eq_none_iff_forall_ne_some]
  simp only [Ne, liveTerm?_eq_some_iff, not_exists]

theorem isLive_eq_isSome_liveTerm? (store : Store) (now : Instant) (lease : LeaseId) :
    store.isLive now lease = (store.liveTerm? now lease).isSome := by
  cases seen : store.liveTerm? now lease with
  | none => exact liveTerm?_eq_none_iff.mp seen
  | some term => exact isLive_iff.mpr ⟨term, liveTerm?_eq_some_iff.mp seen⟩

theorem get_eq_map_liveBinding? (store : Store) (now : Instant) (key : String) :
    store.get now key = (store.liveBinding? now key).map Binding.value := by
  unfold get liveBinding?
  cases store.bindings.find? key with
  | none => rfl
  | some binding =>
      cases live : store.isLive now binding.lease with
      | true => simp [live, Option.filter]
      | false => simp [live, Option.filter]

/-! ## What each change leaves to be seen -/

/-- As time passes less can be seen. -/
theorem liveTerm?_of_le
    (store : Store)
    {later : Instant}
    (order : now ≤ later)
    (lease : LeaseId) :
    store.liveTerm? later lease =
      (store.liveTerm? now lease).filter fun term => later < term.expiresAt := by
  unfold liveTerm?
  rw [Option.filter_filter]
  congr 1
  funext term
  rw [Bool.eq_iff_iff]
  simp only [Bool.and_eq_true, decide_eq_true_eq]
  exact ⟨fun early => ⟨Nat.lt_of_le_of_lt order early, early⟩, fun both => both.2⟩

theorem liveBinding?_of_le
    (store : Store)
    {later : Instant}
    (order : now ≤ later)
    (key : String) :
    store.liveBinding? later key =
      (store.liveBinding? now key).filter fun binding => store.isLive later binding.lease := by
  unfold liveBinding?
  rw [Option.filter_filter]
  congr 1
  funext binding
  rw [Bool.eq_iff_iff, Bool.and_eq_true]
  exact ⟨fun live => ⟨isLive_of_le order live, live⟩, fun both => both.2⟩

/-- A lease has the term that it was given. -/
theorem liveTerm?_withTerm
    (store : Store)
    (now : Instant)
    (lease : LeaseId)
    (term : LeaseTerm)
    (other : LeaseId) :
    (store.withTerm lease term).liveTerm? now other =
      if other = lease then (some term).filter fun term => now < term.expiresAt
      else store.liveTerm? now other := by
  unfold liveTerm? withTerm
  by_cases same : other = lease
  · rw [same, if_pos rfl, Assoc.find?_insert_self]
  · rw [if_neg same, Assoc.find?_insert_of_ne _ _ same]

/-- A lease that is given up is seen no more. -/
theorem liveTerm?_dropLease
    (store : Store)
    (now : Instant)
    (lease other : LeaseId) :
    (store.dropLease lease).liveTerm? now other =
      if other = lease then none else store.liveTerm? now other := by
  unfold liveTerm? dropLease
  by_cases same : other = lease
  · rw [same, if_pos rfl, Assoc.find?_erase_self, Option.filter_none]
  · rw [if_neg same, Assoc.find?_erase_of_ne _ same]

/-- What was bound under it is seen no more either. -/
theorem Tidy.liveBinding?_dropLease
    (tidy : store.Tidy)
    (now : Instant)
    (lease : LeaseId)
    (key : String) :
    (store.dropLease lease).liveBinding? now key =
      (store.liveBinding? now key).filter fun binding => binding.lease ≠ lease := by
  unfold liveBinding?
  rw [tidy.find?_dropLease, Option.filter_filter, Option.filter_filter]
  congr 1
  funext binding
  rw [Bool.eq_iff_iff, Bool.and_eq_true, Bool.and_eq_true, isLive_dropLease_iff,
    decide_eq_true_eq]
  exact ⟨fun seen => ⟨seen.2.2, seen.1⟩, fun seen => ⟨seen.2, seen.2, seen.1⟩⟩

theorem Tidy.liveTerm?_purge
    (tidy : store.Tidy)
    (now : Instant)
    (lease : LeaseId) :
    (store.purgeExpired now).2.liveTerm? now lease = store.liveTerm? now lease := by
  rw [liveTerm?, tidy.find?_leases_purge, Option.filter_filter]
  simp only [Bool.and_self]
  rfl

theorem Tidy.liveBinding?_purge
    (tidy : store.Tidy)
    (now : Instant)
    (key : String) :
    (store.purgeExpired now).2.liveBinding? now key = store.liveBinding? now key := by
  rw [liveBinding?, tidy.find?_bindings_purge, Option.filter_filter]
  simp only [tidy.isLive_purge (Nat.le_refl now), Bool.and_self]
  rfl

/-! ## Agreement is kept -/

namespace Agrees

variable {left right : Store}

theorem symm
    (agrees : Agrees now left right) :
    Agrees now right left where
  nextLease := agrees.nextLease.symm
  terms := fun lease => (agrees.terms lease).symm
  bindings := fun key => (agrees.bindings key).symm

theorem trans
    {middle : Store}
    (first : Agrees now left middle)
    (second : Agrees now middle right) :
    Agrees now left right where
  nextLease := first.nextLease.trans second.nextLease
  terms := fun lease => (first.terms lease).trans (second.terms lease)
  bindings := fun key => (first.bindings key).trans (second.bindings key)

theorem isLive
    (agrees : Agrees now left right)
    (lease : LeaseId) :
    left.isLive now lease = right.isLive now lease := by
  rw [isLive_eq_isSome_liveTerm?, isLive_eq_isSome_liveTerm?, agrees.terms]

theorem get
    (agrees : Agrees now left right)
    (key : String) :
    left.get now key = right.get now key := by
  rw [get_eq_map_liveBinding?, get_eq_map_liveBinding?, agrees.bindings]

/-- A binding is made in both stores or refused in both, for one reason. -/
theorem put
    (agrees : Agrees now left right)
    (key value : String)
    (lease : LeaseId) :
    (left.put now key value lease).1 = (right.put now key value lease).1 := by
  unfold Store.put
  rw [agrees.isLive]
  split
  · rfl
  · rfl

/-- A lease is renewed in both stores or refused in both.  The one may tell that it
has expired, and the other that it is unknown. -/
theorem isOk_keepAlive
    (agrees : Agrees now left right)
    (lease : LeaseId) :
    (left.keepAlive now lease).1.isOk = (right.keepAlive now lease).1.isOk := by
  have isOk : ∀ store : Store,
      (store.keepAlive now lease).1.isOk = store.isLive now lease := by
    intro store
    unfold Store.keepAlive Store.isLive
    cases store.leases.find? lease with
    | none => rfl
    | some term =>
        by_cases early : now < term.expiresAt
        · simp only [early, if_true, decide_true]
          rfl
        · simp only [early, if_false, decide_false]
          rfl
  rw [isOk, isOk, agrees.isLive]

theorem later
    (agrees : Agrees now left right)
    {later : Instant}
    (order : now ≤ later) :
    Agrees later left right := by
  have terms : ∀ lease, left.liveTerm? later lease = right.liveTerm? later lease := by
    intro lease
    rw [liveTerm?_of_le left order, liveTerm?_of_le right order, agrees.terms]
  refine ⟨agrees.nextLease, terms, fun key => ?_⟩
  rw [liveBinding?_of_le left order, liveBinding?_of_le right order, agrees.bindings]
  simp only [isLive_eq_isSome_liveTerm?, terms]

end Agrees

/-- Nothing changes to the eye where a lease is given up that is not live. -/
theorem Tidy.agrees_dropLease
    (tidy : store.Tidy)
    (dead : store.isLive now lease = false) :
    Agrees now (store.dropLease lease) store where
  nextLease := rfl
  terms := by
    intro other
    rw [liveTerm?_dropLease]
    by_cases same : other = lease
    · rw [if_pos same, same, liveTerm?_eq_none_iff.mpr dead]
    · rw [if_neg same]
  bindings := by
    intro key
    rw [tidy.liveBinding?_dropLease]
    cases seen : store.liveBinding? now key with
    | none => rfl
    | some binding =>
        have live : store.isLive now binding.lease = true :=
          (Option.filter_eq_some_iff.mp seen).2
        have other : binding.lease ≠ lease := by
          rintro rfl
          rw [dead] at live
          cases live
        simp [Option.filter, other]

/-- A lease that is revoked is seen no more, whether or not it was held. -/
theorem Tidy.agrees_revoke
    (tidy : store.Tidy)
    (now : Instant)
    (lease : LeaseId) :
    Agrees now (store.revoke lease).2 (store.dropLease lease) := by
  unfold Store.revoke
  by_cases held : store.leases.contains lease = true
  · rw [if_pos held]
    exact agrees_refl now _
  · rw [if_neg held]
    refine (tidy.agrees_dropLease ?_).symm
    have missing : store.leases.find? lease = none := by
      simpa [Assoc.contains] using held
    rw [Store.isLive, missing]

/-- To ask for the renewal of a lease that is not live changes nothing to the eye. -/
theorem Tidy.agrees_keepAlive
    (tidy : store.Tidy)
    (dead : store.isLive now lease = false) :
    Agrees now (store.keepAlive now lease).2 store := by
  unfold Store.keepAlive
  cases held : store.leases.find? lease with
  | none => exact agrees_refl now store
  | some term =>
      have late : ¬ now < term.expiresAt := by
        rw [isLive_of_find? held, decide_eq_false_iff_not] at dead
        exact dead
      simp only [late, if_false]
      exact tidy.agrees_dropLease dead

/-- A sweep changes nothing that can be seen. -/
theorem Tidy.agrees_purge
    (tidy : store.Tidy)
    (now : Instant) :
    Agrees now (store.purgeExpired now).2 store where
  nextLease := nextLease_sweep _ _
  terms := tidy.liveTerm?_purge now
  bindings := tidy.liveBinding?_purge now

/-- What is bound is bound under a lease that was granted. -/
theorem Tidy.lease_ne_nextLease
    (tidy : store.Tidy)
    {key : String}
    {binding : Binding}
    (found : store.bindings.find? key = some binding) :
    binding.lease ≠ store.nextLease := by
  obtain ⟨term, held⟩ := tidy.owned key binding found
  exact Int.ne_of_lt (tidy.numbered _ _ held)

/-- A grant brings no binding to light. -/
theorem Tidy.liveBinding?_grant
    (tidy : store.Tidy)
    (now : Instant)
    (span : Duration)
    (key : String) :
    (store.grant now span).2.liveBinding? now key = store.liveBinding? now key := by
  unfold liveBinding?
  have kept : (store.grant now span).2.bindings = store.bindings := rfl
  rw [kept]
  cases found : store.bindings.find? key with
  | none => rfl
  | some binding =>
      have old := tidy.lease_ne_nextLease found
      have same : (store.grant now span).2.isLive now binding.lease =
          store.isLive now binding.lease :=
        isLive_congr (Assoc.find?_insert_of_ne _ _ old) now
      simp only [Option.filter, same]

/-- A new term of a live lease brings no binding to light. -/
theorem liveBinding?_withTerm
    (live : store.isLive now lease = true)
    (term : LeaseTerm)
    (key : String) :
    (store.withTerm lease term).liveBinding? now key =
      (store.liveBinding? now key).filter fun binding =>
        (store.withTerm lease term).isLive now binding.lease := by
  unfold liveBinding?
  rw [Option.filter_filter]
  congr 1
  funext binding
  rw [Bool.eq_iff_iff, Bool.and_eq_true]
  refine ⟨fun shown => ⟨?_, shown⟩, fun both => both.2⟩
  by_cases same : binding.lease = lease
  · rw [same]
    exact live
  · exact (isLive_congr (Assoc.find?_insert_of_ne _ _ same) now).symm.trans shown

namespace Agrees

variable {left right : Store} (agrees : Agrees now left right)
variable (leftTidy : left.Tidy) (rightTidy : right.Tidy)

include agrees

theorem bound
    {key value : String} :
    Agrees now { left with bindings := left.bindings.insert key ⟨value, lease⟩ }
      { right with bindings := right.bindings.insert key ⟨value, lease⟩ } := by
  refine ⟨agrees.nextLease, agrees.terms, fun other => ?_⟩
  unfold liveBinding?
  by_cases same : other = key
  · simp only [same, Assoc.find?_insert_self]
    simp only [Option.filter]
    have live := agrees.isLive lease
    unfold Store.isLive at live ⊢
    simp only [live]
  · simp only [Assoc.find?_insert_of_ne _ _ same]
    exact agrees.bindings other

/-- The same new term for a lease that is live in both. -/
theorem withTerm
    (leftLive : left.isLive now lease = true)
    (rightLive : right.isLive now lease = true)
    (term : LeaseTerm) :
    Agrees now (left.withTerm lease term) (right.withTerm lease term) := by
  have terms : ∀ other, (left.withTerm lease term).liveTerm? now other =
      (right.withTerm lease term).liveTerm? now other := by
    intro other
    rw [liveTerm?_withTerm, liveTerm?_withTerm, agrees.terms]
  refine ⟨agrees.nextLease, terms, fun key => ?_⟩
  rw [liveBinding?_withTerm leftLive, liveBinding?_withTerm rightLive, agrees.bindings]
  simp only [isLive_eq_isSome_liveTerm?, terms]

include leftTidy rightTidy

theorem grant
    (span : Duration) :
    Agrees now (left.grant now span).2 (right.grant now span).2 := by
  refine ⟨congrArg (· + 1) agrees.nextLease, fun lease => ?_, fun key => ?_⟩
  · have granted : ∀ store : Store, (store.grant now span).2.liveTerm? now lease =
        if lease = store.nextLease then
          (some (⟨span, now + span⟩ : LeaseTerm)).filter fun term => now < term.expiresAt
        else store.liveTerm? now lease :=
      fun store => liveTerm?_withTerm store now store.nextLease ⟨span, now + span⟩ lease
    rw [granted, granted, agrees.nextLease, agrees.terms]
  · rw [leftTidy.liveBinding?_grant, rightTidy.liveBinding?_grant, agrees.bindings]

theorem dropLease
    (lease : LeaseId) :
    Agrees now (left.dropLease lease) (right.dropLease lease) := by
  refine ⟨agrees.nextLease, fun other => ?_, fun key => ?_⟩
  · rw [liveTerm?_dropLease, liveTerm?_dropLease, agrees.terms]
  · rw [leftTidy.liveBinding?_dropLease, rightTidy.liveBinding?_dropLease, agrees.bindings]

/-- A lease that the one store gives up is given up by the other or not seen there. -/
theorem revoke
    (lease : LeaseId) :
    Agrees now (left.revoke lease).2 (right.revoke lease).2 :=
  (leftTidy.agrees_revoke now lease).trans
    ((agrees.dropLease leftTidy rightTidy lease).trans (rightTidy.agrees_revoke now lease).symm)

/-- A lease that is live is renewed in both stores, and one that is not is seen in
neither. -/
theorem keepAlive
    (lease : LeaseId) :
    Agrees now (left.keepAlive now lease).2 (right.keepAlive now lease).2 := by
  cases seen : left.liveTerm? now lease with
  | none =>
      have dead := liveTerm?_eq_none_iff.mp seen
      have deadRight := (agrees.isLive lease).symm.trans dead
      exact (leftTidy.agrees_keepAlive dead).trans
        (agrees.trans (rightTidy.agrees_keepAlive deadRight).symm)
  | some term =>
      have renewed : ∀ store : Store, store.liveTerm? now lease = some term ->
          (store.keepAlive now lease).2 = store.withTerm lease ⟨term.span, now + term.span⟩ ∧
            store.isLive now lease = true := by
        intro store shown
        obtain ⟨held, early⟩ := liveTerm?_eq_some_iff.mp shown
        refine ⟨?_, isLive_iff.mpr ⟨term, held, early⟩⟩
        simp only [Store.keepAlive, held, early, if_true]
        rfl
      obtain ⟨leftRenewed, leftLive⟩ := renewed left seen
      obtain ⟨rightRenewed, rightLive⟩ := renewed right ((agrees.terms lease).symm.trans seen)
      rw [leftRenewed, rightRenewed]
      exact agrees.withTerm leftLive rightLive _

/-- Every request leaves stores that agree as stores that agree. -/
theorem serve
    (request : Request) :
    Agrees now (left.serve now request) (right.serve now request) := by
  cases request with
  | grant span => exact agrees.grant leftTidy rightTidy span
  | put key value lease =>
      simp only [Store.serve, Store.put, agrees.isLive lease]
      split
      · exact agrees.bound
      · exact agrees
  | keepAlive lease => exact agrees.keepAlive leftTidy rightTidy lease
  | get key => exact agrees
  | revoke lease => exact agrees.revoke leftTidy rightTidy lease
  | purge =>
      exact (leftTidy.agrees_purge now).trans (agrees.trans (rightTidy.agrees_purge now).symm)

end Agrees
end Store
end Registry
end MallFabric
