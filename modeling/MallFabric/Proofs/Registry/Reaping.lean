import MallFabric.Proofs.Registry.Visible
import MallFabric.Registry.Reaper

/-!
# What a reaper leaves of expired leases

A reaper runs over a store that is in use.  Time does not pass a sweep that is due, so that
an expired lease is held for an interval at most, rounded up to the resolution of timers.
A sweep gives up exactly the expired leases with what is bound under them, and nothing
that can be seen changes by it.  When the token of the reaper fires, one more sweep may come
at the same instant.
-/

namespace MallFabric

namespace Registry
namespace Store

variable {store : Store} {now : Instant}

/-! ## One sweep -/

/-- A sweep keeps the bindings under other leases, in their order. -/
theorem bindings_sweep
    (swept : List LeaseId)
    (store : Store) :
    (swept.foldl Store.dropLease store).bindings =
      store.bindings.filter fun entry => entry.2.lease ∉ swept := by
  induction swept generalizing store with
  | nil => simp
  | cons first rest inductionHypothesis =>
      rw [List.foldl_cons, inductionHypothesis, Store.dropLease, List.filter_filter]
      congr 1
      funext entry
      simp [Bool.and_comm]

/-- A sweep counts the keys that are bound under the leases it gives up. -/
theorem count_purge
    (store : Store)
    (now : Instant) :
    (store.purgeExpired now).1 =
      store.bindings.countP fun entry => entry.2.lease ∈ store.expired now := by
  have parts := store.bindings.length_eq_countP_add_countP
    fun entry => decide (entry.2.lease ∈ store.expired now)
  have kept : (store.purgeExpired now).1 = store.bindings.length -
      store.bindings.countP fun entry => entry.2.lease ∉ store.expired now := by
    rw [List.countP_eq_length_filter, ← bindings_sweep]
    rfl
  simp only [decide_eq_true_eq] at parts
  lia

/-- What a sweep makes of a store, and the number of keys that it tells. -/
structure Swept (store : Store) (now : Instant) (count : Nat) (after : Store) : Prop where
  /-- The leases that have expired are given up, the others keep their terms. -/
  leases : ∀ lease, after.leases.find? lease =
    (store.leases.find? lease).filter fun term => now < term.expiresAt
  /-- What is bound under a lease that has expired is given up, and nothing else. -/
  bindings : ∀ key, after.bindings.find? key =
    (store.bindings.find? key).filter fun binding => binding.lease ∉ store.expired now
  count : count = store.bindings.countP fun entry => entry.2.lease ∈ store.expired now
  expired : ∀ lease, lease ∈ store.expired now ↔
    ∃ term, store.leases.find? lease = some term ∧ term.expiresAt ≤ now
  /-- Nothing that can be seen now or later changes. -/
  visible : ∀ later key, now ≤ later -> after.get later key = store.get later key

theorem Tidy.swept
    (tidy : store.Tidy)
    (now : Instant) :
    store.Swept now (store.purgeExpired now).1 (store.purgeExpired now).2 where
  leases := tidy.find?_leases_purge now
  bindings := fun key => (tidy.find?_bindings_sweep (store.expired now) key).2
  count := store.count_purge now
  expired := fun _ => tidy.mem_expired_iff
  visible := fun _ key order => ((tidy.agrees_purge now).later order).get key

/-- If no lease that is held has expired before an instant, none has so after a change. -/
theorem le_expiresAt_of_change
    {since : Instant}
    (past : since ≤ now)
    (held : ∀ lease term, store.leases.find? lease = some term -> since ≤ term.expiresAt)
    {deed : Option Deed}
    {after : Store}
    (change : Change store now deed after) :
    ∀ lease term, after.leases.find? lease = some term -> since ≤ term.expiresAt := by
  have dropped : ∀ given lease term,
      (store.dropLease given).leases.find? lease = some term -> since ≤ term.expiresAt := by
    intro given lease term found
    by_cases same : lease = given
    · subst same
      cases (Assoc.find?_erase_self _ _).symm.trans found
    · exact held lease term ((Assoc.find?_erase_of_ne _ same).symm.trans found)
  have written : ∀ given span lease term,
      (store.leases.insert given ⟨span, now + span⟩).find? lease = some term ->
        since ≤ term.expiresAt := by
    intro given span lease term found
    by_cases same : lease = given
    · subst same
      obtain rfl := Option.some.inj ((Assoc.find?_insert_self _ _ _).symm.trans found)
      exact Nat.le_add_right_of_le past
    · exact held lease term ((Assoc.find?_insert_of_ne _ _ same).symm.trans found)
  cases change with
  | unchanged => exact held
  | granted span => exact written _ _
  | bound live => exact held
  | renewed present early => exact written _ _
  | expired present late => exact dropped _
  | revoked present => exact dropped _
  | purged =>
      intro lease term found
      rw [purgeExpired, find?_leases_sweep] at found
      split at found
      · cases found
      · exact held lease term found

end Store

/-! ## A reaper at work -/

/-- What may happen next around a store with a reaper. -/
inductive ReaperEvent where
  /-- Somebody uses the store. -/
  | ask (request : Request)
  /-- Time passes. -/
  | pass (span : Duration)
  /-- The wait of the reaper ends with a branch. -/
  | select (branch : SweeperBranch)
  /-- The sweep that is under way has the store to itself. -/
  | sweep
  /-- The token of the reaper fires. -/
  | shutdown
deriving DecidableEq, Repr

/-- A store that is in use, with its reaper. -/
structure ReaperRun where
  clock : Instant
  reaper : Reaper
  /-- The instants of the sweeps, newest first. -/
  sweeps : List Instant
deriving DecidableEq, Repr

namespace ReaperRun

/-- A reaper begins to wait over a store that nobody has used. -/
def start (origin : Instant) (interval : Duration) : ReaperRun :=
  ⟨origin, Reaper.begin Store.empty origin interval, []⟩

def store (run : ReaperRun) : Store := run.reaper.store

/-- The reaper with its sweeper in another place. -/
def withSweeper (run : ReaperRun) (sweeper : Sweeper) : ReaperRun :=
  { run with reaper := { run.reaper with toSweeper := sweeper } }

/-- Carry out an event.  Time does not pass a reaper that can go on. -/
def step (run : ReaperRun) : ReaperEvent -> ReaperRun
  | .ask request =>
      { run with reaper := { run.reaper with store := run.store.serve run.clock request } }
  | .pass span =>
      if (run.reaper.rest? run.clock).any fun next => next < run.clock + span then run
      else { run with clock := run.clock + span }
  | .select branch => run.withSweeper (run.reaper.select run.clock branch)
  | .sweep =>
      { run with
        reaper := run.reaper.sweep run.clock
        sweeps := run.reaper.sweeping?.toList ++ run.sweeps }
  | .shutdown => run.withSweeper run.reaper.cancel

/-- A run goes on. -/
def resume (run : ReaperRun) (events : List ReaperEvent) : ReaperRun := events.foldl step run

/-- A store and its reaper after a run of events. -/
def after (origin : Instant) (interval : Duration) (events : List ReaperEvent) : ReaperRun :=
  (start origin interval).resume events

/-- Everything that an event can do. -/
inductive Turn (run : ReaperRun) : ReaperRun -> Prop where
  | stays : Turn run run
  | asked (request : Request) :
      Turn run
        { run with reaper := { run.reaper with store := run.store.serve run.clock request } }
  | passed {span}
      (inTime : ∀ next, run.reaper.rest? run.clock = some next -> run.clock + span ≤ next) :
      Turn run { run with clock := run.clock + span }
  | fired : Turn run (run.withSweeper run.reaper.cancel)
  | ended {due}
      (waits : run.reaper.phase = .waiting due)
      (cancelled : run.reaper.cancelled = true) :
      Turn run (run.withSweeper { run.reaper.toSweeper with phase := .ended })
  | roused {due}
      (waits : run.reaper.phase = .waiting due)
      (late : due ≤ run.clock) :
      Turn run (run.withSweeper { run.reaper.toSweeper with phase := .sweeping run.clock })
  | swept {since}
      (sweeps : run.reaper.phase = .sweeping since) :
      Turn run
        ⟨run.clock, { run.reaper with
          store := (run.store.purgeExpired since).2
          phase := .waiting (Instant.timer (run.clock + run.reaper.interval)) },
          since :: run.sweeps⟩

theorem turn_select
    (run : ReaperRun)
    (branch : SweeperBranch) :
    run.Turn (run.step (.select branch)) := by
  cases phase : run.reaper.phase with
  | waiting due =>
      cases branch with
      | token =>
          cases cancelled : run.reaper.cancelled with
          | false =>
              simp only [step, Sweeper.select, cancelled, Bool.and_false, Bool.false_eq_true,
                if_false]
              exact .stays
          | true =>
              have ends : run.reaper.select run.clock .token =
                  { run.reaper.toSweeper with phase := .ended } := by
                simp [Sweeper.select, Sweeper.due?, phase, cancelled]
              rw [step, ends]
              exact .ended phase cancelled
      | sleep =>
          by_cases late : due ≤ run.clock
          · simp only [step, Sweeper.select, Sweeper.isDue_of_waiting phase, late, decide_true,
              if_true]
            exact .roused phase late
          · simp only [step, Sweeper.select, Sweeper.isDue_of_waiting phase, late, decide_false,
              Bool.false_eq_true, if_false]
            exact .stays
  | _ =>
      have stays : run.step (.select branch) = run := by
        cases branch <;> simp [step, withSweeper, Sweeper.select, Sweeper.isDue, Sweeper.due?, phase]
      rw [stays]
      exact .stays

/-- An event does one of these things. -/
theorem turn_step
    (run : ReaperRun)
    (event : ReaperEvent) :
    run.Turn (run.step event) := by
  cases event with
  | ask request => exact .asked request
  | pass span =>
      cases early : (run.reaper.rest? run.clock).any fun next => decide (next < run.clock + span)
      · simp only [step, early, Bool.false_eq_true, if_false]
        refine .passed fun next rests => ?_
        rw [rests, Option.any_some, decide_eq_false_iff_not] at early
        exact Nat.le_of_not_lt early
      · simp only [step, early, if_true]
        exact .stays
  | select branch => exact run.turn_select branch
  | sweep =>
      cases phase : run.reaper.phase with
      | sweeping since =>
          simp only [step, Reaper.sweep, Sweeper.sweeping?, phase]
          exact .swept phase
      | _ =>
          simp only [step, Reaper.sweep, Sweeper.sweeping?, phase, Option.toList_none,
            List.nil_append]
          exact .stays
  | shutdown => exact .fired

/-! ### In time -/

/-- A reaper that has not ended has swept at an instant, or begun then, and waits for the end of
an interval, or sweeps because that has come.  No lease that is held expired before that
instant. -/
structure Waits (origin : Instant) (interval : Duration) (run : ReaperRun) (since : Instant) :
    Prop where
  stands : run.reaper.phase = .waiting (Instant.timer (since + interval)) ∨
    run.reaper.phase = .sweeping run.clock ∧ Instant.timer (since + interval) ≤ run.clock
  past : since ≤ run.clock
  inTime : run.clock ≤ Instant.timer (since + interval)
  held : ∀ lease term, run.store.leases.find? lease = some term -> since ≤ term.expiresAt
  /-- Sweeps happen on whole milliseconds. -/
  whole : since = origin ∨ Instant.timer since = since

/-- What is known of a store and its reaper. -/
structure Sound (origin : Instant) (interval : Duration) (run : ReaperRun) : Prop where
  tidy : run.store.Tidy
  interval_eq : run.reaper.interval = interval
  waits : run.reaper.phase ≠ .ended -> ∃ since, run.Waits origin interval since
  /-- Only the token ends the reaper. -/
  goesOn : run.reaper.cancelled = false -> run.reaper.phase ≠ .ended

variable {origin : Instant} {interval : Duration} {run next : ReaperRun}

theorem sound_start (origin : Instant) (interval : Duration) :
    (start origin interval).Sound origin interval where
  tidy := Store.tidy_empty
  interval_eq := rfl
  waits := by
    refine fun _ => ⟨origin, .inl rfl, Nat.le_refl _, ?_, fun _ _ held => ?_, .inl rfl⟩
    · exact Nat.le_trans (Nat.le_add_right _ _) (Instant.le_timer _)
    · cases held
  goesOn := fun _ ended => by cases ended

/-- A sweep that is under way began now. -/
theorem Waits.since_eq
    {since reading : Instant}
    (waits : run.Waits origin interval since)
    (sweeps : run.reaper.phase = .sweeping reading) :
    reading = run.clock ∧ run.clock = Instant.timer (since + interval) := by
  rcases waits.stands with waiting | ⟨sweeping, late⟩
  · cases waiting.symm.trans sweeps
  · cases sweeping.symm.trans sweeps
    exact ⟨rfl, Nat.le_antisymm waits.inTime late⟩

/-- Time passes at most up to the end of the interval, and not at all during a sweep. -/
theorem Waits.pass
    {since : Instant}
    {span : Duration}
    (waits : run.Waits origin interval since)
    (rests : ∀ next, run.reaper.rest? run.clock = some next -> run.clock + span ≤ next) :
    { run with clock := run.clock + span }.Waits origin interval since := by
  rcases waits.stands with waiting | ⟨sweeping, late⟩
  · refine ⟨.inl waiting, Nat.le_add_right_of_le waits.past, ?_, waits.held, waits.whole⟩
    have inTime := rests _ (by rw [Sweeper.rest?, waiting])
    cases fired : run.reaper.cancelled with
    | false => simpa only [fired, Bool.false_eq_true, if_false] using inTime
    | true =>
        simp only [fired, if_true] at inTime
        exact Nat.le_trans inTime waits.inTime
  · have stands : run.clock + span = run.clock :=
      Nat.le_antisymm (rests _ (by rw [Sweeper.rest?, sweeping])) (Nat.le_add_right _ _)
    rw [stands]
    exact waits

/-- After a sweep a reaper waits from the instant of the sweep on. -/
theorem Waits.sweep
    {since : Instant}
    (waits : run.Waits origin interval since)
    (tidy : run.store.Tidy)
    (interval_eq : run.reaper.interval = interval)
    (sweeping : run.reaper.phase = .sweeping run.clock) :
    (ReaperRun.mk run.clock { run.reaper with
      store := (run.store.purgeExpired run.clock).2
      phase := .waiting (Instant.timer (run.clock + run.reaper.interval)) }
      (run.clock :: run.sweeps)).Waits origin interval run.clock := by
  refine ⟨.inl ?_, Nat.le_refl _, ?_, fun lease term held => ?_, .inr ?_⟩
  · rw [← interval_eq]
  · exact Nat.le_trans (Nat.le_add_right _ _) (Instant.le_timer _)
  · have purged := tidy.find?_leases_purge run.clock lease
    rw [show (run.store.purgeExpired run.clock).2.leases.find? lease = some term from held,
      eq_comm, Option.filter_eq_some_iff] at purged
    exact Nat.le_of_lt (of_decide_eq_true purged.2)
  · show Instant.timer run.clock = run.clock
    rw [(waits.since_eq sweeping).2, Instant.timer_timer]

/-- The store stays tidy and the reaper in time whatever happens. -/
theorem Sound.turn
    (sound : run.Sound origin interval)
    (turn : run.Turn next) :
    next.Sound origin interval := by
  cases turn with
  | stays => exact sound
  | asked request =>
      have change := run.store.change_serve run.clock request
      refine ⟨sound.tidy.change change, sound.interval_eq, fun running => ?_, sound.goesOn⟩
      obtain ⟨since, waits⟩ := sound.waits running
      exact ⟨since, waits.stands, waits.past, waits.inTime,
        Store.le_expiresAt_of_change waits.past waits.held change, waits.whole⟩
  | passed rests =>
      refine ⟨sound.tidy, sound.interval_eq, fun running => ?_, sound.goesOn⟩
      obtain ⟨since, waits⟩ := sound.waits running
      exact ⟨since, waits.pass rests⟩
  | fired =>
      refine ⟨sound.tidy, sound.interval_eq, fun running => ?_, fun fired => by cases fired⟩
      obtain ⟨since, waits⟩ := sound.waits running
      exact ⟨since, waits.stands, waits.past, waits.inTime, waits.held, waits.whole⟩
  | ended waits cancelled =>
      refine ⟨sound.tidy, sound.interval_eq, fun running => absurd rfl running, fun live => ?_⟩
      cases cancelled.symm.trans live
  | roused waiting late =>
      refine ⟨sound.tidy, sound.interval_eq, fun _ => ?_, fun _ ended => by cases ended⟩
      obtain ⟨since, waits⟩ := sound.waits (by simp [waiting])
      have due : Instant.timer (since + interval) ≤ run.clock := by
        rcases waits.stands with same | ⟨sweeping, -⟩
        · cases same.symm.trans waiting
          exact late
        · cases sweeping.symm.trans waiting
      exact ⟨since, .inr ⟨rfl, due⟩, waits.past, waits.inTime, waits.held, waits.whole⟩
  | swept sweeping =>
      obtain ⟨since, waits⟩ := sound.waits (by simp [sweeping])
      obtain rfl := (waits.since_eq sweeping).1
      exact ⟨sound.tidy.change .purged, sound.interval_eq,
        fun _ => ⟨_, waits.sweep sound.tidy sound.interval_eq sweeping⟩,
        fun _ ended => by cases ended⟩

theorem Sound.resume
    (sound : run.Sound origin interval)
    (events : List ReaperEvent) :
    (run.resume events).Sound origin interval := by
  induction events generalizing run with
  | nil => exact sound
  | cons event rest inductionHypothesis =>
      exact inductionHypothesis (sound.turn (run.turn_step event))

theorem sound_after
    (origin : Instant)
    (interval : Duration)
    (events : List ReaperEvent) :
    (after origin interval events).Sound origin interval :=
  (sound_start origin interval).resume events

/-! ### The token -/

/-- The token fires with the event that says so, and for good. -/
theorem cancelled_step
    (run : ReaperRun)
    (event : ReaperEvent) :
    (run.step event).reaper.cancelled = true ↔
      run.reaper.cancelled = true ∨ event = .shutdown := by
  cases event with
  | ask request => simp [step]
  | pass span =>
      simp only [step]
      split <;> simp
  | select branch =>
      cases branch <;>
      · simp only [step, withSweeper, Sweeper.select]
        split <;> simp
  | sweep =>
      simp only [step, Reaper.sweep]
      split <;> simp
  | shutdown => simp [step, withSweeper, Sweeper.cancel]

theorem cancelled_resume
    (run : ReaperRun)
    (events : List ReaperEvent) :
    (run.resume events).reaper.cancelled = true ↔
      run.reaper.cancelled = true ∨ .shutdown ∈ events := by
  induction events generalizing run with
  | nil => simp [resume]
  | cons event rest inductionHypothesis =>
      rw [resume, List.foldl_cons, ← resume, inductionHypothesis, cancelled_step]
      simp only [List.mem_cons, or_assoc, eq_comm]

/-- Before the shutdown the reaper waits or sweeps. -/
theorem waits_after
    {events : List ReaperEvent}
    (unstopped : .shutdown ∉ events) :
    ∃ since, (after origin interval events).Waits origin interval since := by
  have sound := sound_after origin interval events
  apply sound.waits
  apply sound.goesOn
  rw [← Bool.not_eq_true, after, cancelled_resume]
  simp [start, Reaper.begin, Sweeper.begin, unstopped]

/-- A sweep may come at this instant: it is under way, or the interval is over. -/
def SweepsNow (run : ReaperRun) : Prop :=
  run.reaper.phase = .sweeping run.clock ∨ run.reaper.isDue run.clock = true

/-- What a reaper does once its token has fired: it ends before time passes, with no sweep or
with one that was to come at the instant of the shutdown. -/
structure Stopping (before run : ReaperRun) : Prop where
  cancelled : run.reaper.cancelled = true
  halted : run.reaper.phase ≠ .ended -> run.clock = before.clock
  sweeps : run.sweeps = before.sweeps ∧ (run.SweepsNow -> before.SweepsNow) ∨
    run.sweeps = before.clock :: before.sweeps ∧ before.SweepsNow ∧ ¬ run.SweepsNow

variable {before : ReaperRun}

theorem stopping_fired (run : ReaperRun) : run.Stopping (run.step .shutdown) :=
  ⟨rfl, fun _ => rfl, .inl ⟨rfl, id⟩⟩

/-- Where no sweep becomes possible that was not, the reaper goes on stopping. -/
theorem Stopping.keep
    (stopping : before.Stopping run)
    (cancelled : next.reaper.cancelled = true)
    (halted : next.reaper.phase ≠ .ended ->
      run.reaper.phase ≠ .ended ∧ next.clock = run.clock)
    (sweeps : next.sweeps = run.sweeps)
    (fewer : next.SweepsNow -> run.SweepsNow) :
    before.Stopping next where
  cancelled := cancelled
  halted := fun running => (halted running).2.trans (stopping.halted (halted running).1)
  sweeps := by
    rw [sweeps]
    rcases stopping.sweeps with ⟨none, may⟩ | ⟨one, might, spent⟩
    · exact .inl ⟨none, fun now => may (fewer now)⟩
    · exact .inr ⟨one, might, fun now => spent (fewer now)⟩

/-- Once the token has fired, time passes only when the reaper has ended. -/
theorem Stopping.pass
    {span : Duration}
    (stopping : before.Stopping run)
    (rests : ∀ next, run.reaper.rest? run.clock = some next -> run.clock + span ≤ next) :
    before.Stopping { run with clock := run.clock + span } := by
  by_cases ended : run.reaper.phase = .ended
  · refine stopping.keep stopping.cancelled (fun running => absurd ended running) rfl ?_
    rintro (sweeping | due)
    · cases ended.symm.trans sweeping
    · simp [Sweeper.isDue, Sweeper.due?, ended] at due
  · have now : run.reaper.rest? run.clock = some run.clock := by
      unfold Sweeper.rest?
      rw [stopping.cancelled]
      cases phase : run.reaper.phase with
      | ended => exact absurd phase ended
      | _ => rfl
    have stands : run.clock + span = run.clock :=
      Nat.le_antisymm (rests _ now) (Nat.le_add_right _ _)
    rw [stands]
    exact stopping

/-- A second sweep would have to come before an interval has passed. -/
theorem Stopping.sweep
    (stopping : before.Stopping run)
    (sweeping : run.reaper.phase = .sweeping run.clock)
    (positive : 0 < run.reaper.interval)
    (store : Store) :
    before.Stopping ⟨run.clock, { run.reaper with
      store
      phase := .waiting (Instant.timer (run.clock + run.reaper.interval)) },
      run.clock :: run.sweeps⟩ := by
  have same := stopping.halted (by simp [sweeping])
  have later : run.clock < Instant.timer (run.clock + run.reaper.interval) :=
    Nat.lt_of_lt_of_le (Nat.lt_add_of_pos_right positive) (Instant.le_timer _)
  refine ⟨stopping.cancelled, fun _ => same, .inr ?_⟩
  rcases stopping.sweeps with ⟨none, may⟩ | ⟨-, -, spent⟩
  · refine ⟨by rw [none, same], may (.inl sweeping), ?_⟩
    rintro (again | due)
    · cases again
    · rw [Sweeper.isDue_of_waiting rfl, decide_eq_true_eq] at due
      exact absurd later (Nat.not_lt.mpr due)
  · exact absurd (.inl sweeping) spent

theorem Stopping.turn
    (stopping : before.Stopping run)
    (sound : run.Sound origin interval)
    (positive : 0 < interval)
    (turn : run.Turn next) :
    before.Stopping next := by
  cases turn with
  | stays => exact stopping
  | asked request => exact stopping.keep stopping.cancelled (fun running => ⟨running, rfl⟩) rfl id
  | passed rests => exact stopping.pass rests
  | fired => exact stopping.keep rfl (fun running => ⟨running, rfl⟩) rfl id
  | ended waiting cancelled =>
      refine stopping.keep stopping.cancelled (fun running => absurd rfl running) rfl ?_
      rintro (sweeping | due)
      · cases sweeping
      · simp [withSweeper, Sweeper.isDue, Sweeper.due?] at due
  | @roused due waiting late =>
      refine stopping.keep stopping.cancelled (fun _ => ⟨by simp [waiting], rfl⟩) rfl fun _ => ?_
      exact .inr ((Sweeper.isDue_of_waiting waiting _).trans (decide_eq_true late))
  | swept sweeping =>
      obtain ⟨since, waits⟩ := sound.waits (by simp [sweeping])
      obtain rfl := (waits.since_eq sweeping).1
      exact stopping.sweep sweeping (sound.interval_eq ▸ positive) _

theorem Stopping.resume
    (stopping : before.Stopping run)
    (sound : run.Sound origin interval)
    (positive : 0 < interval)
    (events : List ReaperEvent) :
    before.Stopping (run.resume events) := by
  induction events generalizing run with
  | nil => exact stopping
  | cons event rest inductionHypothesis =>
      have turn := run.turn_step event
      exact inductionHypothesis (stopping.turn sound positive turn) (sound.turn turn)

/-- A reaper that has ended sweeps no more. -/
theorem Turn.keeps_ended
    (turn : run.Turn next)
    (ended : run.reaper.phase = .ended) :
    next.reaper.phase = .ended ∧ next.sweeps = run.sweeps := by
  cases turn with
  | stays => exact ⟨ended, rfl⟩
  | asked request => exact ⟨ended, rfl⟩
  | passed rests => exact ⟨ended, rfl⟩
  | fired => exact ⟨ended, rfl⟩
  | ended waits cancelled => exact ⟨rfl, rfl⟩
  | roused waiting late => cases ended.symm.trans waiting
  | swept sweeping => cases ended.symm.trans sweeping

theorem sweeps_resume_of_ended
    (ended : run.reaper.phase = .ended)
    (events : List ReaperEvent) :
    (run.resume events).sweeps = run.sweeps := by
  induction events generalizing run with
  | nil => rfl
  | cons event rest inductionHypothesis =>
      obtain ⟨stays, sweeps⟩ := (run.turn_step event).keeps_ended ended
      exact (inductionHypothesis stays).trans sweeps

/-! ### What a reaper leaves -/

/-- How a reaper keeps its store. -/
structure Reaped (origin : Instant) (interval : Duration) (events : List ReaperEvent) : Prop where
  /-- Before the shutdown a lease that is held expired no longer than an interval ago, rounded
  up to the resolution of timers. -/
  inTime : .shutdown ∉ events -> ∀ lease term,
    (after origin interval events).store.leases.find? lease = some term ->
      (after origin interval events).clock ≤ Instant.timer (term.expiresAt + interval)
  /-- If the reaper began on a whole millisecond, it is the interval that is rounded up. -/
  onWhole : Instant.timer origin = origin -> .shutdown ∉ events -> ∀ lease term,
    (after origin interval events).store.leases.find? lease = some term ->
      (after origin interval events).clock ≤ term.expiresAt + Instant.timer interval
  /-- A sweep gives up exactly what has expired. -/
  sweeps : ∀ since, (after origin interval events).reaper.sweeping? = some since ->
    since = (after origin interval events).clock ∧
      (after origin interval (events ++ [.sweep])).sweeps =
        since :: (after origin interval events).sweeps ∧
      (after origin interval events).store.Swept since
        ((after origin interval events).store.purgeExpired since).1
        (after origin interval (events ++ [.sweep])).store
  /-- Without a sweep nothing changes but what users of the store ask for. -/
  unswept : ∀ event, (∀ request, event ≠ .ask request) ->
    (after origin interval (events ++ [event])).sweeps =
        (after origin interval events).sweeps ->
      (after origin interval (events ++ [event])).store = (after origin interval events).store
  /-- After the shutdown the reaper ends before time passes, and sweeps once at most: only if a
  sweep was under way at the shutdown, or the interval was over. -/
  stopped : ∀ before rest, events = before ++ .shutdown :: rest ->
    ((after origin interval events).reaper.isRunning = true ->
        (after origin interval events).clock = (after origin interval before).clock) ∧
      ((after origin interval events).sweeps = (after origin interval before).sweeps ∨
        (after origin interval before).SweepsNow ∧
          (after origin interval events).sweeps =
            (after origin interval before).clock :: (after origin interval before).sweeps)
  /-- When it has ended nothing more is swept. -/
  ended : (after origin interval events).reaper.isRunning = false -> ∀ more,
    (after origin interval (events ++ more)).sweeps = (after origin interval events).sweeps

theorem resume_append
    (run : ReaperRun)
    (first second : List ReaperEvent) :
    run.resume (first ++ second) = (run.resume first).resume second :=
  List.foldl_append

/-- Only requests and sweeps change the store. -/
theorem store_step
    {event : ReaperEvent}
    (unasked : ∀ request, event ≠ .ask request)
    (unswept : (run.step event).sweeps = run.sweeps) :
    (run.step event).store = run.store := by
  cases event with
  | ask request => exact absurd rfl (unasked request)
  | sweep =>
      cases phase : run.reaper.sweeping? with
      | none => simp only [step, Reaper.sweep, phase, store]
      | some since =>
          simp only [step, phase, Option.toList_some, List.singleton_append] at unswept
          exact absurd unswept (List.cons_ne_self _ _)
  | pass span =>
      simp only [step]
      split <;> rfl
  | _ => rfl

theorem phase_of_sweeping?
    {since : Instant}
    (sweeping : run.reaper.sweeping? = some since) :
    run.reaper.phase = .sweeping since := by
  unfold Sweeper.sweeping? at sweeping
  split at sweeping
  · next phase => exact phase.trans (congrArg _ (Option.some.inj sweeping))
  · cases sweeping

theorem isRunning_iff :
    run.reaper.isRunning = true ↔ run.reaper.phase ≠ .ended := by
  rw [Reaper.isRunning, Sweeper.isRunning, bne_iff_ne]

/-- In every run a lease is held for an interval at most after it has expired, a sweep gives
up exactly what has expired, and after the shutdown one more comes at most. -/
theorem reaped_after
    (origin : Instant)
    {interval : Duration}
    (positive : 0 < interval)
    (events : List ReaperEvent) :
    Reaped origin interval events := by
  have sound := sound_after origin interval events
  have goesOn : ∀ more, after origin interval (events ++ more) =
      (after origin interval events).resume more :=
    resume_append _ events
  refine ⟨fun unstopped lease term held => ?_, fun began unstopped lease term held => ?_,
    fun reading sweeping => ?_, fun event unasked unswept => ?_, fun before rest split => ?_,
    fun ended more => ?_⟩
  · obtain ⟨since, waits⟩ := waits_after unstopped
    calc (after origin interval events).clock
      _ ≤ Instant.timer (since + interval) := waits.inTime
      _ ≤ Instant.timer (term.expiresAt + interval) :=
        Instant.timer_mono (Nat.add_le_add_right (waits.held lease term held) interval)
  · obtain ⟨since, waits⟩ := waits_after unstopped
    have whole : Instant.timer since = since := by
      rcases waits.whole with rfl | whole
      · exact began
      · exact whole
    calc (after origin interval events).clock
      _ ≤ Instant.timer (since + interval) := waits.inTime
      _ = since + Instant.timer interval := Instant.timer_add whole interval
      _ ≤ term.expiresAt + Instant.timer interval :=
        Nat.add_le_add_right (waits.held lease term held) _
  · have phase := phase_of_sweeping? sweeping
    obtain ⟨since, waits⟩ := sound.waits (by simp [phase])
    obtain rfl := (waits.since_eq phase).1
    rw [goesOn]
    simp only [resume, List.foldl_cons, List.foldl_nil, step, Reaper.sweep, sweeping, store]
    exact ⟨trivial, rfl, sound.tidy.swept _⟩
  · rw [goesOn] at unswept ⊢
    exact store_step unasked unswept
  · have stopping : (after origin interval before).Stopping (after origin interval events) := by
      rw [split, after, after, resume_append]
      have began := sound_after origin interval before
      exact (stopping_fired _).resume (began.turn (turn_step _ .shutdown)) positive rest
    refine ⟨fun running => stopping.halted (isRunning_iff.mp running), ?_⟩
    rcases stopping.sweeps with ⟨none, -⟩ | ⟨one, might, -⟩
    · exact .inl none
    · exact .inr ⟨might, one⟩
  · rw [goesOn]
    apply sweeps_resume_of_ended
    by_contra running
    exact Bool.false_ne_true (ended.symm.trans (isRunning_iff.mpr running))

/-- A lease for two seconds and a half, which a reaper sweeps after three with the key bound
under it. -/
def sweptOnce : List ReaperEvent :=
  [.ask (.grant (Duration.ofMillis 2500)), .ask (.put "/services/cart" "cart:1" 1),
    .pass (Duration.ofSeconds 1), .select .sleep, .sweep, .pass (Duration.ofSeconds 1),
    .select .sleep, .sweep, .pass (Duration.ofSeconds 1), .select .sleep]

/-- There the token fires while the third sweep is under way, and the reaper ends after it. -/
theorem reaped_after_sweptOnce :
    0 < Reaper.standardInterval ∧
      Reaped 0 Reaper.standardInterval
        (sweptOnce ++ [.shutdown, .sweep, .select .token, .pass (Duration.ofSeconds 9)]) ∧
      (after 0 Reaper.standardInterval sweptOnce).store.leaseCount = 1 ∧
      (after 0 Reaper.standardInterval (sweptOnce ++ [.shutdown, .sweep])).store.leaseCount = 0 := by
  have positive : 0 < Reaper.standardInterval := by decide
  exact ⟨positive, reaped_after 0 positive _, by decide +kernel, by decide +kernel⟩

/-- The reaper may sweep after its token has fired: when it finds that the interval is over as
well, it may go on with that. -/
theorem not_unswept_after_shutdown :
    ¬ ∀ (origin : Instant) (interval : Duration) (before rest : List ReaperEvent),
      0 < interval -> (∀ request, .ask request ∉ rest) ->
        (after origin interval (before ++ .shutdown :: rest)).store =
          (after origin interval before).store := by
  intro unswept
  have same := unswept 0 Reaper.standardInterval
    [.ask (.grant (Duration.ofMillis 500)), .pass (Duration.ofSeconds 1)]
    [.select .sleep, .sweep] (by decide) (by simp)
  exact absurd (congrArg Store.leaseCount same) (by decide +kernel)

end ReaperRun
end Registry
end MallFabric
