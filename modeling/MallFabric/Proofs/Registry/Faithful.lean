import MallFabric.Proofs.Registry.History

/-!
# Runs of a store

A store serves requests while time passes, in any order, and what was done is
noted in its history.  Store and history agree: a lease is live exactly if the
history tells so, and what is bound under a live lease is what was bound last.
Every change keeps the agreement.

An operation reads the clock before it has the store to itself.  Nobody keeps the store to
himself while he waits for something else, and time does not pass a task that can go on, so
that the operation is served at the instant that it has read; a request therefore has the
clock of the run and none of its own.  An admission to a circuit is different: it is in two
parts, and time may pass between them, so that it keeps the instant of its first part.
-/

namespace MallFabric
namespace Registry

/-- What may happen to a store next. -/
inductive StoreEvent where
  | serve (request : Request)
  /-- Time passes. -/
  | pass (span : Duration)
deriving DecidableEq, Repr

/-- A store with its clock and its history. -/
structure StoreRun where
  clock : Instant
  store : Store
  history : History
deriving Repr

namespace StoreRun

/-- A store that nobody has used. -/
def start : StoreRun := ⟨0, Store.empty, []⟩

/-- The store has changed, and what was done is noted. -/
def note (run : StoreRun) (deed : Option Deed) (store : Store) : StoreRun :=
  ⟨run.clock, store, (deed.toList.map fun done => ⟨run.clock, done⟩) ++ run.history⟩

def serve (run : StoreRun) (request : Request) : StoreRun :=
  run.note (run.store.deed? run.clock request) (run.store.serve run.clock request)

/-- Carry out an event. -/
def step (run : StoreRun) : StoreEvent -> StoreRun
  | .serve request => run.serve request
  | .pass span => { run with clock := run.clock + span }

/-- A run goes on. -/
def resume (run : StoreRun) (events : List StoreEvent) : StoreRun := events.foldl step run

/-- The store after a run of events. -/
def after (events : List StoreEvent) : StoreRun := start.resume events

/-- A store and its history agree. -/
structure Faithful (run : StoreRun) : Prop where
  tidy : run.store.Tidy
  orderly : run.history.Orderly
  past : ∀ record ∈ run.history, record.instant ≤ run.clock
  known : ∀ record ∈ run.history, record.deed.lease < run.store.nextLease
  /-- A lease is granted once. -/
  granted_unique : ∀ lease first second, run.history.Granted lease first ->
    run.history.Granted lease second -> first = second
  /-- The term of a lease that is held is what the history tells. -/
  term : ∀ lease term, run.store.leases.find? lease = some term ->
    ¬ run.history.Revoked lease ∧ run.history.Granted lease term.span ∧
      ∃ since, run.history.LastRefreshed lease since ∧ term.expiresAt = since + term.span
  /-- A lease that is held no more was revoked or has expired. -/
  gone : ∀ lease, run.store.leases.find? lease = none ->
    run.history.Revoked lease ∨ ¬ run.history.Unexpired run.clock lease
  /-- A binding that is there is the last one. -/
  last : ∀ key binding, run.store.bindings.find? key = some binding ->
    ∃ later, run.history.LastBound key binding later
  /-- The last binding is there as long as its lease is live. -/
  there : ∀ key binding later, run.history.LastBound key binding later ->
    run.store.isLive run.clock binding.lease = true ->
      run.store.bindings.find? key = some binding

namespace Faithful

variable {run : StoreRun} (faithful : run.Faithful)

include faithful

/-- A lease is live exactly if the history tells so. -/
theorem isLive_iff
    {now : Instant}
    (order : run.clock ≤ now)
    (lease : LeaseId) :
    run.store.isLive now lease = true ↔
      ¬ run.history.Revoked lease ∧ run.history.Unexpired now lease := by
  rw [Store.isLive_iff]
  constructor
  · rintro ⟨term, held, early⟩
    obtain ⟨unrevoked, granted, since, last, expiry⟩ := faithful.term lease term held
    exact ⟨unrevoked, term.span, since, granted, last, expiry ▸ early⟩
  · rintro ⟨unrevoked, span, since, granted, last, early⟩
    cases held : run.store.leases.find? lease with
    | none =>
        rcases faithful.gone lease held with revoked | expired
        · exact absurd revoked unrevoked
        · exact absurd ⟨span, since, granted, last, Nat.lt_of_le_of_lt order early⟩ expired
    | some term =>
        obtain ⟨-, termGranted, termSince, termLast, expiry⟩ := faithful.term lease term held
        refine ⟨term, rfl, ?_⟩
        rw [expiry, termLast.unique last, faithful.granted_unique lease _ _ termGranted granted]
        exact early

/-- What is shown under a key is what the history tells. -/
theorem get_iff
    (key value : String) :
    run.store.get run.clock key = some value ↔ run.history.Shows run.clock key value := by
  rw [Store.get_eq_some_iff]
  constructor
  · rintro ⟨lease, found, live⟩
    obtain ⟨later, last⟩ := faithful.last key _ found
    obtain ⟨unrevoked, unexpired⟩ := (faithful.isLive_iff (Nat.le_refl _) lease).mp live
    refine ⟨lease, later, last, ?_, unexpired⟩
    obtain ⟨instant, earlier, equal, -⟩ := last
    intro revoked
    rw [equal] at unrevoked
    exact unrevoked (History.revoked_append.mpr (Or.inl revoked))
  · rintro ⟨lease, later, last, unrevoked, unexpired⟩
    have neverRevoked := last.not_revoked faithful.orderly unrevoked
    have live := (faithful.isLive_iff (Nat.le_refl _) lease).mpr ⟨neverRevoked, unexpired⟩
    exact ⟨lease, faithful.there key _ later last live, live⟩

end Faithful

/-! ## Every event keeps the agreement -/

theorem faithful_start : start.Faithful where
  tidy := Store.tidy_empty
  orderly := History.orderly_nil
  past := by simp [start]
  known := by simp [start]
  granted_unique := by simp [start, History.Granted]
  term := by simp [start, Store.empty]
  gone := by simp [start, History.Unexpired, History.Granted]
  last := by simp [start, Store.empty]
  there := by
    rintro key binding later ⟨instant, earlier, equal, -⟩
    simp [start] at equal

namespace Faithful

variable {run : StoreRun} (faithful : run.Faithful)

include faithful

theorem pass (span : Duration) : (run.step (.pass span)).Faithful where
  tidy := faithful.tidy
  orderly := faithful.orderly
  past := fun record present => Nat.le_trans (faithful.past record present) (Nat.le_add_right _ _)
  known := faithful.known
  granted_unique := faithful.granted_unique
  term := faithful.term
  gone := by
    intro lease missing
    rcases faithful.gone lease missing with revoked | expired
    · exact Or.inl revoked
    · refine Or.inr ?_
      rintro ⟨granted, since, wasGranted, last, early⟩
      exact expired ⟨granted, since, wasGranted, last,
        Nat.lt_of_le_of_lt (Nat.le_add_right _ _) early⟩
  last := faithful.last
  there := by
    intro key binding later last live
    exact faithful.there key binding later last
      (Store.isLive_of_le (Nat.le_add_right _ _) live)

/-- Giving up leases that are not live, with what is bound under them, does not show. -/
theorem shrink
    {store : Store}
    (tidy : store.Tidy)
    (next : store.nextLease = run.store.nextLease)
    (leases : ∀ lease term, store.leases.find? lease = some term ->
      run.store.leases.find? lease = some term)
    (lost : ∀ lease, store.leases.find? lease = none ->
      run.store.isLive run.clock lease = false)
    (bindings : ∀ key binding, store.bindings.find? key = some binding ->
      run.store.bindings.find? key = some binding)
    (kept : ∀ key binding, run.store.bindings.find? key = some binding ->
      store.isLive run.clock binding.lease = true -> store.bindings.find? key = some binding) :
    (run.note none store).Faithful where
  tidy := tidy
  orderly := faithful.orderly
  past := faithful.past
  known := by
    intro record present
    exact next ▸ faithful.known record present
  granted_unique := faithful.granted_unique
  term := fun lease term held => faithful.term lease term (leases lease term held)
  gone := by
    intro lease missing
    by_cases revoked : run.history.Revoked lease
    · exact Or.inl revoked
    · refine Or.inr fun unexpired => ?_
      have live := (faithful.isLive_iff (Nat.le_refl _) lease).mpr ⟨revoked, unexpired⟩
      rw [lost lease missing] at live
      cases live
  last := fun key binding found => faithful.last key binding (bindings key binding found)
  there := by
    intro key binding later last live
    obtain ⟨term, held, early⟩ := Store.isLive_iff.mp live
    have before : run.store.isLive run.clock binding.lease = true :=
      Store.isLive_iff.mpr ⟨term, leases _ _ held, early⟩
    exact kept key binding (faithful.there key binding later last before) live

/-- A number that was not yet given has no history. -/
theorem not_mem_nextLease
    {record : Record}
    (present : record ∈ run.history) :
    record.deed.lease ≠ run.store.nextLease := by
  have known := faithful.known record present
  lia

theorem not_granted_nextLease
    (span : Duration) :
    ¬ run.history.Granted run.store.nextLease span := by
  rintro ⟨record, present, deed⟩
  apply faithful.not_mem_nextLease present
  rw [deed]
  rfl

theorem not_revoked_nextLease :
    ¬ run.history.Revoked run.store.nextLease := by
  rintro ⟨record, present, deed⟩
  apply faithful.not_mem_nextLease present
  rw [deed]
  rfl

/-- A deed that is done now is the newest one. -/
theorem past_cons
    (deed : Deed) :
    ∀ record ∈ (⟨run.clock, deed⟩ :: run.history : History), record.instant ≤ run.clock := by
  intro record present
  rcases List.mem_cons.mp present with rfl | before
  · exact Nat.le_refl _
  · exact faithful.past record before

theorem known_cons
    {deed : Deed}
    {next : LeaseId}
    (order : run.store.nextLease ≤ next)
    (known : deed.lease < next) :
    ∀ record ∈ (⟨run.clock, deed⟩ :: run.history : History), record.deed.lease < next := by
  intro record present
  rcases List.mem_cons.mp present with rfl | before
  · exact known
  · have old := faithful.known record before
    lia

/-- A deed is done now.  Other leases are as they were, and the term of its own lease
is what the deed makes of it. -/
theorem extend
    {deed : Deed}
    {store : Store}
    (tidy : store.Tidy)
    (order : run.store.nextLease ≤ store.nextLease)
    (known : deed.lease < store.nextLease)
    (unrevoked : ¬ run.history.Revoked deed.lease)
    (fresh : ∀ span, deed = .granted deed.lease span ->
      ∀ before, ¬ run.history.Granted deed.lease before)
    (others : ∀ lease, deed.lease ≠ lease ->
      store.leases.find? lease = run.store.leases.find? lease)
    (own : ∀ term, store.leases.find? deed.lease = some term ->
      deed ≠ .revoked deed.lease ∧
        History.Granted (⟨run.clock, deed⟩ :: run.history) deed.lease term.span ∧
          ∃ since, History.LastRefreshed (⟨run.clock, deed⟩ :: run.history) deed.lease since ∧
            term.expiresAt = since + term.span)
    (lost : store.leases.find? deed.lease = none -> deed = .revoked deed.lease)
    (last : ∀ key binding, store.bindings.find? key = some binding ->
      ∃ later, History.LastBound (⟨run.clock, deed⟩ :: run.history) key binding later)
    (there : ∀ key binding later,
      History.LastBound (⟨run.clock, deed⟩ :: run.history) key binding later ->
        store.isLive run.clock binding.lease = true -> store.bindings.find? key = some binding) :
    (run.note (some deed) store).Faithful where
  tidy := tidy
  orderly := faithful.orderly.cons unrevoked
  past := faithful.past_cons deed
  known := faithful.known_cons order known
  granted_unique := by
    intro lease first second firstGranted secondGranted
    rcases History.granted_cons.mp firstGranted with firstNow | firstBefore
    · rcases History.granted_cons.mp secondGranted with secondNow | secondBefore
      · cases firstNow.symm.trans secondNow
        rfl
      · cases firstNow
        exact absurd secondBefore (fresh first rfl second)
    · rcases History.granted_cons.mp secondGranted with secondNow | secondBefore
      · cases secondNow
        exact absurd firstBefore (fresh second rfl first)
      · exact faithful.granted_unique lease first second firstBefore secondBefore
  term := by
    intro lease term held
    by_cases same : deed.lease = lease
    · subst same
      obtain ⟨kept, granted, refreshed⟩ := own term held
      refine ⟨fun revoked => ?_, granted, refreshed⟩
      rcases History.revoked_cons.mp revoked with now | before
      · exact kept now
      · exact unrevoked before
    · have record : (Record.mk run.clock deed).deed.lease ≠ lease := same
      obtain ⟨unrevoked, granted, since, last, expiry⟩ :=
        faithful.term lease term ((others lease same).symm.trans held)
      exact ⟨mt (History.revoked_cons_of_ne record).mp unrevoked,
        (History.granted_cons_of_ne record).mpr granted, since,
        (History.lastRefreshed_cons_of_ne record).mpr last, expiry⟩
  gone := by
    intro lease missing
    by_cases same : deed.lease = lease
    · subst same
      exact Or.inl (History.revoked_cons.mpr (Or.inl (lost missing)))
    · have record : (Record.mk run.clock deed).deed.lease ≠ lease := same
      rcases faithful.gone lease ((others lease same).symm.trans missing) with revoked | expired
      · exact Or.inl ((History.revoked_cons_of_ne record).mpr revoked)
      · exact Or.inr (mt (History.unexpired_cons_of_ne record).mp expired)
  last := last
  there := there

/-- What is bound is still what was last bound, if the deed writes no key. -/
theorem last_of_unwritten
    {deed : Deed}
    {store : Store}
    (unwritten : ∀ key, ¬ deed.Binds key)
    (bindings : ∀ key binding, store.bindings.find? key = some binding ->
      run.store.bindings.find? key = some binding) :
    ∀ key binding, store.bindings.find? key = some binding ->
      ∃ later, History.LastBound (⟨run.clock, deed⟩ :: run.history) key binding later := by
  intro key binding found
  obtain ⟨later, last⟩ := faithful.last key binding (bindings key binding found)
  exact ⟨_, last.cons (unwritten key)⟩

/-- What was last bound is still there, if the deed writes no key and takes only what
is bound under a lease that is live no more. -/
theorem there_of_unwritten
    {deed : Deed}
    {store : Store}
    (unwritten : ∀ key, ¬ deed.Binds key)
    (live : ∀ lease, lease < run.store.nextLease -> store.isLive run.clock lease = true ->
      run.store.isLive run.clock lease = true)
    (kept : ∀ key binding, run.store.bindings.find? key = some binding ->
      store.isLive run.clock binding.lease = true -> store.bindings.find? key = some binding) :
    ∀ key binding later,
      History.LastBound (⟨run.clock, deed⟩ :: run.history) key binding later ->
        store.isLive run.clock binding.lease = true ->
          store.bindings.find? key = some binding := by
  intro key binding later last liveAfter
  rcases last.of_cons with now | ⟨-, before, lastBefore⟩
  · have binds : deed.Binds key := by
      rw [show deed = _ from now]
      rfl
    exact absurd binds (unwritten key)
  · obtain ⟨record, present, same⟩ := lastBefore.lease_mem
    have known : binding.lease < run.store.nextLease := same ▸ faithful.known record present
    exact kept key binding
      (faithful.there key binding before lastBefore (live _ known liveAfter)) liveAfter

theorem grant
    (span : Duration) :
    (run.note (some (.granted run.store.nextLease span))
      (run.store.grant run.clock span).2).Faithful := by
  have more : run.store.nextLease < run.store.nextLease + 1 := by lia
  have others : ∀ lease, run.store.nextLease ≠ lease ->
      (run.store.grant run.clock span).2.leases.find? lease = run.store.leases.find? lease :=
    fun lease old => Assoc.find?_insert_of_ne _ _ old.symm
  apply faithful.extend
  · exact faithful.tidy.change (.granted span)
  · exact Int.le_of_lt more
  · exact more
  · exact faithful.not_revoked_nextLease
  · exact fun _ _ before => faithful.not_granted_nextLease before
  · exact others
  · intro term held
    cases (Assoc.find?_insert_self _ _ _).symm.trans held
    refine ⟨by simp, History.granted_cons.mpr (Or.inl rfl), run.clock, ?_, rfl⟩
    exact History.lastRefreshed_cons_self faithful.past rfl
  · intro missing
    cases (Assoc.find?_insert_self _ _ _).symm.trans missing
  · exact faithful.last_of_unwritten (fun _ => id) fun _ _ found => found
  · refine faithful.there_of_unwritten (fun _ => id) (fun lease known live => ?_)
      fun _ _ found _ => found
    have old : run.store.nextLease ≠ lease := by lia
    rwa [Store.isLive_congr (others lease old)] at live

theorem bind
    {key value : String}
    {lease : LeaseId}
    (live : run.store.isLive run.clock lease = true) :
    (run.note (some (.bound key value lease))
      { run.store with bindings := run.store.bindings.insert key ⟨value, lease⟩ }).Faithful := by
  obtain ⟨unrevoked, unexpired⟩ := (faithful.isLive_iff (Nat.le_refl _) lease).mp live
  obtain ⟨term, held, early⟩ := Store.isLive_iff.mp live
  apply faithful.extend
  · exact faithful.tidy.change (.bound live)
  · exact Int.le_refl _
  · exact faithful.tidy.numbered lease term held
  · exact unrevoked
  · exact fun _ granted => by cases granted
  · exact fun _ _ => rfl
  · intro again heldAgain
    obtain ⟨-, granted, since, last, expiry⟩ := faithful.term lease again heldAgain
    exact ⟨by simp, History.granted_cons.mpr (Or.inr granted), since,
      (History.lastRefreshed_cons id).mpr last, expiry⟩
  · intro missing
    cases held.symm.trans missing
  · intro other binding found
    by_cases same : other = key
    · subst same
      rw [Assoc.find?_insert_self, Option.some.injEq] at found
      subst found
      exact ⟨[], History.lastBound_cons_self run.clock run.history other ⟨value, lease⟩⟩
    · rw [Assoc.find?_insert_of_ne _ _ same] at found
      obtain ⟨later, last⟩ := faithful.last other binding found
      exact ⟨_, last.cons fun binds => same binds.symm⟩
  · intro other binding later last liveAfter
    rcases last.of_cons with now | ⟨unwritten, before, lastBefore⟩
    · cases now
      exact Assoc.find?_insert_self _ _ _
    · have different : other ≠ key := fun same => unwritten same.symm
      exact (Assoc.find?_insert_of_ne _ _ different).trans
        (faithful.there other binding before lastBefore liveAfter)

theorem renew
    {lease : LeaseId}
    {term : LeaseTerm}
    (held : run.store.leases.find? lease = some term)
    (early : run.clock < term.expiresAt) :
    (run.note (some (.renewed lease))
      { run.store with
        leases := run.store.leases.insert lease ⟨term.span, run.clock + term.span⟩ }).Faithful := by
  obtain ⟨unrevoked, granted, -⟩ := faithful.term lease term held
  apply faithful.extend
  · exact faithful.tidy.change (.renewed held early)
  · exact Int.le_refl _
  · exact faithful.tidy.numbered lease term held
  · exact unrevoked
  · exact fun _ granted => by cases granted
  · exact fun other different => Assoc.find?_insert_of_ne _ _ different.symm
  · intro again heldAgain
    cases (Assoc.find?_insert_self _ _ _).symm.trans heldAgain
    refine ⟨by simp, History.granted_cons.mpr (Or.inr granted), run.clock, ?_, rfl⟩
    exact History.lastRefreshed_cons_self faithful.past rfl
  · intro missing
    cases (Assoc.find?_insert_self _ _ _).symm.trans missing
  · exact faithful.last_of_unwritten (fun _ => id) fun _ _ found => found
  · refine faithful.there_of_unwritten (fun _ => id) (fun other _ live => ?_)
      fun _ _ found _ => found
    by_cases same : other = lease
    · rw [same]
      exact Store.isLive_iff.mpr ⟨term, held, early⟩
    · rwa [Store.isLive_congr (Assoc.find?_insert_of_ne _ _ same)] at live

theorem revoke
    {lease : LeaseId}
    {term : LeaseTerm}
    (held : run.store.leases.find? lease = some term) :
    (run.note (some (.revoked lease)) (run.store.dropLease lease)).Faithful := by
  obtain ⟨unrevoked, -⟩ := faithful.term lease term held
  apply faithful.extend
  · exact faithful.tidy.dropLease lease
  · exact Int.le_refl _
  · exact faithful.tidy.numbered lease term held
  · exact unrevoked
  · exact fun _ granted => by cases granted
  · exact fun other different => Assoc.find?_erase_of_ne _ different.symm
  · intro again heldAgain
    cases (Assoc.find?_erase_self _ _).symm.trans heldAgain
  · exact fun _ => rfl
  · refine faithful.last_of_unwritten (fun _ => id) fun key binding found => ?_
    rw [faithful.tidy.find?_dropLease, Option.filter_eq_some_iff] at found
    exact found.1
  · refine faithful.there_of_unwritten (fun _ => id)
      (fun _ _ live => (Store.isLive_dropLease_iff.mp live).2) fun key binding found live => ?_
    rw [faithful.tidy.find?_dropLease, Option.filter_eq_some_iff]
    exact ⟨found, decide_eq_true (Store.isLive_dropLease_iff.mp live).1⟩

/-- A lease that has expired may be dropped. -/
theorem expire
    {lease : LeaseId}
    {term : LeaseTerm}
    (held : run.store.leases.find? lease = some term)
    (late : term.expiresAt ≤ run.clock) :
    (run.note none (run.store.dropLease lease)).Faithful := by
  have dead : run.store.isLive run.clock lease = false := by
    rw [Store.isLive_of_find? held]
    exact decide_eq_false (Nat.not_lt.mpr late)
  apply faithful.shrink
  · exact faithful.tidy.dropLease lease
  · rfl
  · intro other otherTerm found
    by_cases same : other = lease
    · subst same
      cases (Assoc.find?_erase_self _ _).symm.trans found
    · exact (Assoc.find?_erase_of_ne _ same).symm.trans found
  · intro other missing
    by_cases same : other = lease
    · exact same ▸ dead
    · rw [Store.isLive, (Assoc.find?_erase_of_ne _ same).symm.trans missing]
  · intro key binding found
    rw [faithful.tidy.find?_dropLease, Option.filter_eq_some_iff] at found
    exact found.1
  · intro key binding found live
    rw [faithful.tidy.find?_dropLease, Option.filter_eq_some_iff]
    exact ⟨found, decide_eq_true (Store.isLive_dropLease_iff.mp live).1⟩

/-- So may all that have. -/
theorem purge :
    (run.note none (run.store.purgeExpired run.clock).2).Faithful := by
  apply faithful.shrink
  · exact faithful.tidy.change .purged
  · exact Store.nextLease_sweep _ _
  · intro lease term found
    rw [faithful.tidy.find?_leases_purge, Option.filter_eq_some_iff] at found
    exact found.1
  · intro lease missing
    rw [faithful.tidy.find?_leases_purge] at missing
    cases held : run.store.leases.find? lease with
    | none => rw [Store.isLive, held]
    | some term => simpa [held, Option.filter, Store.isLive_of_find? held] using missing
  · intro key binding found
    rw [faithful.tidy.find?_bindings_purge, Option.filter_eq_some_iff] at found
    exact found.1
  · intro key binding found live
    rw [faithful.tidy.isLive_purge (Nat.le_refl _)] at live
    rw [faithful.tidy.find?_bindings_purge, Option.filter_eq_some_iff]
    exact ⟨found, live⟩

theorem change
    {deed : Option Deed}
    {store : Store}
    (change : Store.Change run.store run.clock deed store) :
    (run.note deed store).Faithful := by
  cases change with
  | unchanged => exact faithful
  | granted span => exact faithful.grant span
  | bound live => exact faithful.bind live
  | renewed held early => exact faithful.renew held early
  | expired held late => exact faithful.expire held late
  | revoked held => exact faithful.revoke held
  | purged => exact faithful.purge

theorem step (event : StoreEvent) : (run.step event).Faithful := by
  cases event with
  | serve request => exact faithful.change (Store.change_serve _ _ request)
  | pass span => exact faithful.pass span

theorem resume (events : List StoreEvent) : (run.resume events).Faithful := by
  induction events generalizing run with
  | nil => exact faithful
  | cons event rest inductionHypothesis => exact inductionHypothesis (faithful.step event)

end Faithful

/-- Every run of a store agrees with its history. -/
theorem faithful_after (events : List StoreEvent) : (after events).Faithful :=
  faithful_start.resume events

end StoreRun
end Registry
end MallFabric
