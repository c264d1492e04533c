import MallFabric.Proofs.Registry.Refinement
import MallFabric.Proofs.Registry.Visible
import Mathlib.Order.Lattice.Nat

/-!
# Requests on leases that have ended

A lease has ended if it was never granted, was revoked or has expired.  To bind a key
under such a lease or to renew it is refused, whether or not the store still holds
it.  To revoke it is refused only if the store holds it no more: a lease that has
expired and was not swept yet is given up like one that is live.  Whatever the answer,
no such request changes anything that the store shows.
-/

namespace MallFabric
namespace Registry

namespace History

/-- The span of the lease has passed since it was last granted or renewed. -/
def Expired (history : History) (now : Instant) (lease : LeaseId) : Prop :=
  ∃ span since, history.Granted lease span ∧ history.LastRefreshed lease since ∧
    since + span ≤ now

/-- The lease was never granted, was revoked, or has expired. -/
def Ended (history : History) (now : Instant) (lease : LeaseId) : Prop :=
  (∀ span, ¬ history.Granted lease span) ∨ history.Revoked lease ∨ history.Expired now lease

/-- Of the instants at which a lease was refreshed one is the latest. -/
theorem exists_lastRefreshed
    {history : History}
    {now : Instant}
    {lease : LeaseId}
    {span : Duration}
    (granted : history.Granted lease span)
    (past : ∀ record ∈ history, record.instant ≤ now) :
    ∃ since, history.LastRefreshed lease since := by
  obtain ⟨⟨instant, _⟩, present, rfl⟩ := granted
  have refreshed :
      { instant | ∃ deed, ⟨instant, deed⟩ ∈ history ∧ deed.Refreshes lease }.Nonempty :=
    ⟨instant, .granted lease span, present, rfl⟩
  have bounded :
      BddAbove { instant | ∃ deed, ⟨instant, deed⟩ ∈ history ∧ deed.Refreshes lease } := by
    refine ⟨now, ?_⟩
    rintro other ⟨deed, noted, -⟩
    exact past _ noted
  exact ⟨_, Nat.sSup_mem refreshed bounded, fun _ member => le_csSup bounded member⟩

end History

/-- Exactly the leases that are not live have ended. -/
theorem StoreRun.Faithful.ended_iff
    {run : StoreRun}
    (faithful : run.Faithful)
    (lease : LeaseId) :
    run.history.Ended run.clock lease ↔ run.store.isLive run.clock lease = false := by
  rw [Bool.eq_false_iff, Ne, faithful.isLive_iff (Nat.le_refl _)]
  constructor
  · rintro (never | revoked | ⟨span, since, granted, last, late⟩) ⟨unrevoked, unexpired⟩
    · obtain ⟨span, since, granted, -⟩ := unexpired
      exact never span granted
    · exact unrevoked revoked
    · obtain ⟨otherSpan, otherSince, grantedAgain, lastAgain, early⟩ := unexpired
      rw [faithful.granted_unique lease _ _ grantedAgain granted, lastAgain.unique last] at early
      exact Nat.not_le.mpr early late
  · intro dead
    by_cases revoked : run.history.Revoked lease
    · exact Or.inr (Or.inl revoked)
    · by_cases known : ∃ span, run.history.Granted lease span
      · obtain ⟨span, granted⟩ := known
        obtain ⟨since, last⟩ := History.exists_lastRefreshed granted faithful.past
        refine Or.inr (Or.inr ⟨span, since, granted, last, Nat.le_of_not_lt fun early => ?_⟩)
        exact dead ⟨revoked, span, since, granted, last, early⟩
      · exact Or.inl (not_exists.mp known)

namespace Store

variable {store : Store} {now : Instant} {lease : LeaseId}

/-! ## Answers -/

theorem put_eq_error_iff
    {key value : String} :
    (store.put now key value lease).1 = .error (unknownLease lease) ↔
      store.isLive now lease = false := by
  unfold put
  cases store.isLive now lease with
  | true => simp
  | false => simp

theorem keepAlive_eq_error_iff :
    (∃ text, (store.keepAlive now lease).1 = .error (.notFound text)) ↔
      store.isLive now lease = false := by
  unfold keepAlive isLive
  cases store.leases.find? lease with
  | none => simp [unknownLease]
  | some term =>
      by_cases early : now < term.expiresAt
      · simp [early]
      · simp [early, expiredLease]

theorem revoke_eq_error_iff :
    (store.revoke lease).1 = .error (unknownLease lease) ↔
      store.leases.contains lease = false := by
  unfold revoke
  cases store.leases.contains lease with
  | true => simp
  | false => simp

/-- A lease that is not held is not live. -/
theorem isLive_of_unheld
    (unheld : store.leases.contains lease = false) :
    store.isLive now lease = false := by
  rw [Assoc.contains, Option.isSome_eq_false_iff, Option.isNone_iff_eq_none] at unheld
  rw [isLive, unheld]

/-! ## What is seen afterwards -/

/-- No request that names a lease changes what is seen, unless the lease is live. -/
theorem Tidy.agrees_serve_of_dead
    (tidy : store.Tidy)
    (dead : store.isLive now lease = false)
    {request : Request}
    (named : request.lease? = some lease) :
    Agrees now (store.serve now request) store := by
  cases request with
  | put key value other =>
      cases named
      simp only [serve, put, dead]
      exact agrees_refl now store
  | keepAlive other =>
      cases named
      exact tidy.agrees_keepAlive dead
  | revoke other =>
      cases named
      exact (tidy.agrees_revoke now lease).trans (tidy.agrees_dropLease dead)
  | _ => cases named

end Store

namespace StoreRun

variable {left right : StoreRun}

/-- Stores that agree show the same however they go on. -/
theorem agrees_resume
    (clock : left.clock = right.clock)
    (agrees : Store.Agrees right.clock left.store right.store)
    (leftTidy : left.store.Tidy)
    (rightTidy : right.store.Tidy)
    (events : List StoreEvent) :
    (left.resume events).clock = (right.resume events).clock ∧
      Store.Agrees (right.resume events).clock (left.resume events).store
        (right.resume events).store := by
  induction events generalizing left right with
  | nil => exact ⟨clock, agrees⟩
  | cons event rest inductionHypothesis =>
      cases event with
      | pass span =>
          apply inductionHypothesis
          · exact congrArg (· + span) clock
          · exact agrees.later (Nat.le_add_right _ _)
          · exact leftTidy
          · exact rightTidy
      | serve request =>
          have served : (left.step (.serve request)).store =
              left.store.serve right.clock request := by
            rw [← clock]
            rfl
          apply inductionHypothesis
          · exact clock
          · rw [served]
            exact agrees.serve leftTidy rightTidy request
          · rw [served]
            exact leftTidy.change (Store.change_serve _ _ request)
          · exact rightTidy.change (Store.change_serve _ _ request)

/-- How a store answers requests that name a lease. -/
structure Refusals (run : StoreRun) (lease : LeaseId) : Prop where
  /-- A binding is refused exactly under a lease that has ended. -/
  put : ∀ key value,
    (run.store.put run.clock key value lease).1 = .error (Store.unknownLease lease) ↔
      run.history.Ended run.clock lease
  /-- A renewal is refused exactly for a lease that has ended. -/
  keepAlive :
    (∃ text, (run.store.keepAlive run.clock lease).1 = .error (.notFound text)) ↔
      run.history.Ended run.clock lease
  /-- A revocation is refused exactly for a lease that is not held. -/
  revoke : (run.store.revoke lease).1 = .error (Store.unknownLease lease) ↔
    run.store.leases.contains lease = false
  /-- A lease that is not held has ended. -/
  unheld : run.store.leases.contains lease = false -> run.history.Ended run.clock lease
  /-- No request on a lease that has ended changes what is shown, then or later. -/
  unseen : run.history.Ended run.clock lease -> ∀ request, request.lease? = some lease ->
    ∀ more key, ((run.serve request).resume more).store.get (run.resume more).clock key =
      (run.resume more).store.get (run.resume more).clock key

/-- In every run, bindings and renewals are refused for every lease that has ended, and
revocations for those that the store holds no more. -/
theorem refusals_after
    (events : List StoreEvent)
    (lease : LeaseId) :
    (after events).Refusals lease := by
  have faithful := faithful_after events
  have ended := faithful.ended_iff lease
  refine ⟨?_, ?_, Store.revoke_eq_error_iff, ?_, ?_⟩
  · intro key value
    rw [ended]
    exact Store.put_eq_error_iff
  · rw [ended]
    exact Store.keepAlive_eq_error_iff
  · intro unheld
    exact ended.mpr (Store.isLive_of_unheld unheld)
  · intro hasEnded request named more key
    have seen := faithful.tidy.agrees_serve_of_dead (ended.mp hasEnded) named
    have served : ((after events).serve request).store.Tidy :=
      faithful.tidy.change (Store.change_serve _ _ request)
    have clock : ((after events).serve request).clock = (after events).clock := rfl
    exact (agrees_resume clock seen served faithful.tidy more).2.get key

/-- A lease that has expired is revoked as if it lived, until a sweep has reached it. -/
theorem not_refused_by_revoke :
    ¬ ∀ (events : List StoreEvent) (lease : LeaseId),
      (after events).history.Ended (after events).clock lease ->
        ∃ text, ((after events).store.revoke lease).1 = .error (.notFound text) := by
  intro refused
  have lapsed := refused [.serve (.grant (Duration.ofSeconds 1)), .pass (Duration.ofSeconds 2)] 1
    (((faithful_after _).ended_iff 1).mpr (by decide))
  obtain ⟨text, answer⟩ := lapsed
  cases answer

end StoreRun
end Registry
end MallFabric
