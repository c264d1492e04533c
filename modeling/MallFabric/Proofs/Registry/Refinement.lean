import MallFabric.Proofs.Registry.Faithful

/-!
# Stores follow their history

The main statement is about every run of a store: what it shows under a key is
what its history tells, a lease that has ended never lives again, what is bound
under a lease goes with this lease and no other, and nothing is bound under a
lease that is not held.
-/

namespace MallFabric
namespace Registry
namespace StoreRun

theorem nextLease_le_step
    (run : StoreRun)
    (event : StoreEvent) :
    run.store.nextLease ≤ (run.step event).store.nextLease := by
  cases event with
  | pass span => exact Int.le_refl _
  | serve request => exact (Store.change_serve run.store run.clock request).nextLease_le

namespace Faithful

variable {run : StoreRun} (faithful : run.Faithful)

include faithful

/-- A lease that was granted and is live no more does not come to life. -/
theorem dead_step
    {lease : LeaseId}
    (known : lease < run.store.nextLease)
    (dead : run.store.isLive run.clock lease = false)
    (event : StoreEvent) :
    (run.step event).store.isLive (run.step event).clock lease = false := by
  cases event with
  | serve request => exact faithful.tidy.dead_change (Store.change_serve _ _ request) known dead
  | pass span =>
      rw [Bool.eq_false_iff] at dead ⊢
      exact fun live => dead (Store.isLive_of_le (Nat.le_add_right _ _) live)

theorem dead_resume
    {lease : LeaseId}
    (known : lease < run.store.nextLease)
    (dead : run.store.isLive run.clock lease = false)
    (events : List StoreEvent) :
    (run.resume events).store.isLive (run.resume events).clock lease = false := by
  induction events generalizing run with
  | nil => exact dead
  | cons event rest inductionHypothesis =>
      exact inductionHypothesis (faithful.step event)
        (Int.lt_of_lt_of_le known (run.nextLease_le_step event)) (faithful.dead_step known dead event)

/-- A lease that was granted and of which the history tells that it has ended. -/
theorem dead_of_history
    {lease : LeaseId}
    {span : Duration}
    (granted : run.history.Granted lease span)
    (ended : run.history.Revoked lease ∨ ¬ run.history.Unexpired run.clock lease) :
    lease < run.store.nextLease ∧ run.store.isLive run.clock lease = false := by
  obtain ⟨record, present, deed⟩ := granted
  have known := faithful.known record present
  rw [deed] at known
  refine ⟨known, ?_⟩
  rw [Bool.eq_false_iff]
  intro live
  obtain ⟨unrevoked, unexpired⟩ := (faithful.isLive_iff (Nat.le_refl _) lease).mp live
  rcases ended with revoked | expired
  · exact unrevoked revoked
  · exact expired unexpired

end Faithful

/-- What can be relied on in a store whose history is known. -/
structure FollowsHistory (run : StoreRun) : Prop where
  /-- What is shown under a key is what the history tells. -/
  shown : ∀ key value,
    run.store.get run.clock key = some value ↔ run.history.Shows run.clock key value
  /-- A lease that was revoked or has expired is never live again. -/
  ended : ∀ lease span, run.history.Granted lease span ->
    run.history.Revoked lease ∨ ¬ run.history.Unexpired run.clock lease ->
      ∀ more, (run.resume more).store.isLive (run.resume more).clock lease = false
  /-- What is bound under another lease stays when a lease is revoked. -/
  kept_revoke : ∀ key binding lease, run.store.bindings.find? key = some binding ->
    binding.lease ≠ lease ->
      (run.serve (.revoke lease)).store.bindings.find? key = some binding
  /-- What is bound under a live lease stays when expired leases are purged. -/
  kept_purge : ∀ key binding, run.store.bindings.find? key = some binding ->
    run.store.isLive run.clock binding.lease = true ->
      (run.serve .purge).store.bindings.find? key = some binding
  /-- What is bound is bound under a lease that is held. -/
  owned : ∀ key binding, run.store.bindings.find? key = some binding ->
    ∃ term, run.store.leases.find? binding.lease = some term

/-- In every run a store follows its history. -/
theorem followsHistory_after (events : List StoreEvent) : (after events).FollowsHistory := by
  have faithful := faithful_after events
  refine ⟨faithful.get_iff, ?_, ?_, ?_, faithful.tidy.owned⟩
  · intro lease span granted ended more
    obtain ⟨known, dead⟩ := faithful.dead_of_history granted ended
    exact faithful.dead_resume known dead more
  · exact fun key binding lease found other => faithful.tidy.find?_bindings_revoke found other
  · intro key binding found live
    apply faithful.tidy.find?_bindings_change (Store.change_serve _ _ .purge) found live
    · exact fun _ done => by cases done
    · exact fun same => by cases same

end StoreRun
end Registry
end MallFabric
