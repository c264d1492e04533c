import MallFabric.Proofs.Registry.Health
import MallFabric.Proofs.Registry.Lapse

/-!
# Renewals in time

Between two renewals of a lease half its span passes, a millisecond at least, and timers fire
on whole milliseconds.  The main statement says when every renewal of a registration comes
before its lease expires: exactly if its span is longer than a millisecond and the wait from
the registration for the next whole one.  So two milliseconds are always long enough, and one
is always too short.
-/

namespace MallFabric
namespace Registry

namespace Registrar

/-- A span that is longer than a millisecond and the wait for the next whole one. -/
def Renewable (now : Instant) (span : Duration) : Prop :=
  now.timer + Duration.ofMillis 1 < now + span

variable {now : Instant} {span : Duration}

/-- Two milliseconds are always long enough. -/
theorem renewable_of_le
    (now : Instant)
    (long : Duration.ofMillis 2 ≤ span) :
    Renewable now span := by
  have fires := now.timer_lt
  unfold Renewable
  unfold Duration.ofMillis at long ⊢
  lia

/-- The timer of the first renewal fires before a lease expires that is granted now. -/
theorem timer_lt_iff_renewable :
    (now + renewalPeriod span).timer < now + span ↔ Renewable now span := by
  rcases Nat.lt_or_ge span (Duration.ofMillis 2) with short | long
  · rw [renewalPeriod_of_lt short, Instant.timer_add_ofMillis]
    exact Iff.rfl
  · refine iff_of_true ?_ (renewable_of_le now long)
    have room := renewalPeriod_le long
    calc
      (now + renewalPeriod span).timer < now + renewalPeriod span + Duration.ofMillis 1 :=
        Instant.timer_lt _
      _ ≤ now + span := by
        rw [Nat.add_assoc]
        exact Nat.add_le_add_left room now

/-- From one timer to the next a lease lives that is renewed when the first one fires. -/
theorem timer_add_renewalPeriod_lt
    (longer : Duration.ofMillis 1 < span)
    (planned : Instant) :
    (planned + renewalPeriod span).timer < planned.timer + span := by
  have whole := planned.timer_timer
  have renewable : Renewable planned.timer span := by
    rw [Renewable, whole]
    exact Nat.add_lt_add_left longer _
  calc
    (planned + renewalPeriod span).timer ≤ (planned.timer + renewalPeriod span).timer :=
      Instant.timer_mono (Nat.add_le_add_right planned.le_timer _)
    _ < planned.timer + span := timer_lt_iff_renewable.mpr renewable

theorem Renewable.ofMillis_lt
    (renewable : Renewable now span) :
    Duration.ofMillis 1 < span := by
  have waits : now + Duration.ofMillis 1 ≤ now.timer + Duration.ofMillis 1 :=
    Nat.add_le_add_right now.le_timer _
  exact Nat.lt_of_add_lt_add_left (Nat.lt_of_le_of_lt waits renewable)

end Registrar

namespace Store

/-- A lease is held that expires after an instant, and no later than if it began now. -/
def Outlives (store : Store) (now : Instant) (lease : LeaseId) (span : Duration)
    (due : Instant) : Prop :=
  ∃ expiresAt, store.leases.find? lease = some ⟨span, expiresAt⟩ ∧ due < expiresAt ∧
    expiresAt ≤ now + span

variable {store : Store} {lease : LeaseId} {span : Duration} {now due : Instant}

theorem Outlives.isLive
    (outlives : store.Outlives now lease span due)
    (order : now ≤ due) :
    store.isLive now lease = true := by
  obtain ⟨expiresAt, held, later, -⟩ := outlives
  exact isLive_iff.mpr ⟨_, held, Nat.lt_of_le_of_lt order later⟩

/-- Whether others renew the lease or not, it outlives the instant unless it is revoked. -/
theorem Outlives.change
    (outlives : store.Outlives now lease span due)
    (tidy : store.Tidy)
    (order : now ≤ due)
    {deed : Option Deed}
    {after : Store}
    (change : Change store now deed after)
    (unrevoked : deed ≠ some (.revoked lease)) :
    after.Outlives now lease span due := by
  obtain ⟨expiresAt, held, later, bounded⟩ := outlives
  rcases tidy.find?_leases_change change held (Nat.lt_of_le_of_lt order later) unrevoked with
    same | renewed
  · exact ⟨expiresAt, same, later, bounded⟩
  · exact ⟨now + span, renewed, Nat.lt_of_lt_of_le later bounded, Nat.le_refl _⟩

/-- A binding leaves the leases as they are. -/
theorem leases_put (store : Store) (now : Instant) (key value : String) (lease : LeaseId) :
    (store.put now key value lease).2.leases = store.leases := by
  unfold Store.put
  split <;> rfl

/-- A lease is held for its whole span when an address has been bound under it. -/
theorem find?_leases_put_grant (store : Store) (now : Instant) (span : Duration)
    (key address : String) :
    ((store.grant now span).2.put now key address store.nextLease).2.leases.find?
        store.nextLease = some ⟨span, now + span⟩ := by
  rw [leases_put]
  exact Assoc.find?_insert_self _ _ _

/-- Only the request to revoke a lease does so. -/
theorem eq_revoke_of_deed?
    {request : Request}
    (done : store.deed? now request = some (.revoked lease)) :
    request = .revoke lease := by
  cases request with
  | grant span => cases done
  | get key => cases done
  | purge => cases done
  | revoke other =>
      simp only [deed?] at done
      split at done
      · cases done
        rfl
      · cases done
  | _ =>
      simp only [deed?] at done
      split at done <;> cases done

theorem Outlives.serveAll
    (outlives : store.Outlives now lease span due)
    (tidy : store.Tidy)
    (order : now ≤ due)
    (requests : List Request)
    (unrevoked : ∀ request ∈ requests, request ≠ .revoke lease) :
    (store.serveAll now requests).Outlives now lease span due := by
  induction requests generalizing store with
  | nil => exact outlives
  | cons request rest inductionHypothesis =>
      have change := change_serve store now request
      apply inductionHypothesis
      · apply outlives.change tidy order change
        exact fun done => unrevoked request List.mem_cons_self (eq_revoke_of_deed? done)
      · exact tidy.change change
      · exact fun other present => unrevoked other (List.mem_cons_of_mem _ present)

/-- A lease that is kept alive outlives every instant within its span. -/
theorem Outlives.keepAlive
    (outlives : store.Outlives now lease span due)
    (order : now ≤ due)
    {next : Instant}
    (soon : next < now + span) :
    (store.keepAlive now lease).1 = .ok span ∧
      (store.keepAlive now lease).2.Outlives now lease span next := by
  obtain ⟨expiresAt, held, later, -⟩ := outlives
  rw [keepAlive_of_lt held (Nat.lt_of_le_of_lt order later)]
  exact ⟨rfl, now + span, Assoc.find?_insert_self _ _ _, soon, Nat.le_refl _⟩

end Store

namespace RegistryRun

/-- An event that leaves a lease to its renewal: calls succeed, nobody else revokes the lease,
and the renewal goes on when its timer fires, neither earlier nor later. -/
def OnTime (run : RegistryRun) (lease : LeaseId) : RegistryEvent -> Prop
  | .ask request => run.store.deed? run.clock request ≠ some (.revoked lease)
  | .fail _ fault => fault = none
  | .wake other => other = lease ->
      ∀ renewal ∈ run.registrar.running? lease, renewal.next.timer ≤ run.clock
  | .pass span => ∀ renewal ∈ run.registrar.running? lease,
      run.clock + span ≤ renewal.next.timer
  | _ => True

instance (run : RegistryRun) (lease : LeaseId) (event : RegistryEvent) :
    Decidable (run.OnTime lease event) :=
  match event with
  | .ask request =>
      inferInstanceAs (Decidable (run.store.deed? run.clock request ≠ some (.revoked lease)))
  | .fail _ fault => inferInstanceAs (Decidable (fault = none))
  | .wake other => inferInstanceAs (Decidable (other = lease ->
      ∀ renewal ∈ run.registrar.running? lease, renewal.next.timer ≤ run.clock))
  | .pass span => inferInstanceAs (Decidable (∀ renewal ∈ run.registrar.running? lease,
      run.clock + span ≤ renewal.next.timer))
  | .register _ _ _ | .giveUp _ | .join _ | .revoke _ | .resolve _ | .startReaper _ | .reap _
  | .stopReaper => inferInstanceAs (Decidable True)

/-- Events that leave a lease to its renewal, each when it happens. -/
def AllOnTime (run : RegistryRun) (lease : LeaseId) : List RegistryEvent -> Prop
  | [] => True
  | event :: rest => run.OnTime lease event ∧ (run.step event).AllOnTime lease rest

instance (run : RegistryRun) (lease : LeaseId) (events : List RegistryEvent) :
    Decidable (run.AllOnTime lease events) :=
  match events with
  | [] => inferInstanceAs (Decidable True)
  | event :: rest =>
      have := instDecidableAllOnTime (run.step event) lease rest
      inferInstanceAs (Decidable (run.OnTime lease event ∧ (run.step event).AllOnTime lease rest))

/-- The renewals of a registration come in time. -/
structure InTime (run : RegistryRun) (handle : Lease) : Prop where
  /-- Its renewal goes on as long as the registration is held, and then until its owner has
  waited for it. -/
  goesOn : handle ∈ run.handles ∨ handle ∈ run.stopping ->
    run.registrar.isRenewing handle.id = true
  /-- As long as its renewal goes on, its lease has not expired. -/
  live : run.registrar.isRenewing handle.id = true ->
    run.store.isLive run.clock handle.id = true
  /-- Every renewal that was asked for was granted. -/
  granted : ∀ attempt ∈ run.attempts, attempt.lease = handle.id -> attempt.renewed = true

/-- Every renewal of a lease that was asked for was granted. -/
def Unrefused (run : RegistryRun) (lease : LeaseId) : Prop :=
  ∀ attempt ∈ run.attempts, attempt.lease = lease -> attempt.renewed = true

/-- A lease that outlives the timer of its renewal, and was never refused one. -/
structure Punctual (run : RegistryRun) (lease : LeaseId) (span : Duration) (renewal : Renewal) :
    Prop where
  tidy : run.store.Tidy
  reliable : ∀ call, run.registrar.link.failing call = none
  running : run.registrar.running? lease = some renewal
  period : renewal.period = Registrar.renewalPeriod span
  due : run.clock ≤ renewal.next.timer
  outlives : run.store.Outlives run.clock lease span renewal.next.timer
  kept : ∀ handle ∈ run.revoking, handle.id ≠ lease
  unrefused : run.Unrefused lease

/-- A lease whose registration was given up and whose renewal has ended, and that was never
refused one. -/
structure GivenUp (run : RegistryRun) (lease : LeaseId) : Prop where
  quiet : run.Quiet lease
  unowned : ∀ handle ∈ run.handles ++ run.stopping, handle.id ≠ lease
  unrefused : run.Unrefused lease

variable {run : RegistryRun} {lease : LeaseId} {span : Duration} {renewal : Renewal}

/-! ## Registrations that are held -/

/-- No two registrations are owned for one lease. -/
def Distinct (run : RegistryRun) : Prop := (run.owned.map Lease.id).Nodup

theorem distinct_start : start.Distinct := List.nodup_nil

theorem Distinct.step
    (distinct : run.Distinct)
    (numbered : run.Numbered)
    (event : RegistryEvent) :
    (run.step event).Distinct := by
  have handed : ((run.given event ++ run.owned).map Lease.id).Nodup := by
    cases event with
    | register name address span =>
        have registers := (run.registrar.registers_register run.clock name address span).1
        rw [given]
        cases result : (run.registrar.register run.clock name address span).1.toOption with
        | none => exact distinct
        | some handle =>
            refine List.nodup_cons.mpr ⟨?_, distinct⟩
            rw [registers.id_eq (by rw [result]; exact List.mem_singleton_self _)]
            intro present
            obtain ⟨before, owned, same⟩ := List.mem_map.mp present
            exact absurd same (Int.ne_of_lt (numbered.owned before owned))
    | _ => exact distinct
  rw [((run.owned_step event).map Lease.id).nodup_iff, List.map_append] at handed
  exact (List.nodup_append.mp handed).2.1

theorem Distinct.resume
    (distinct : run.Distinct)
    (numbered : run.Numbered)
    (events : List RegistryEvent) :
    (run.resume events).Distinct := by
  induction events generalizing run with
  | nil => exact distinct
  | cons event rest inductionHypothesis =>
      exact inductionHypothesis (distinct.step numbered event) (numbered.step event)

/-- A registration whose lease is yet to be revoked is neither held nor given up once more. -/
theorem Distinct.id_ne_of_revoking
    (distinct : run.Distinct)
    {handle : Lease}
    (revoking : handle ∈ run.revoking) :
    ∀ other ∈ run.handles ++ run.stopping, other.id ≠ handle.id := by
  intro other present
  have apart : ((run.handles ++ run.stopping ++ run.revoking).map Lease.id).Nodup := by
    rw [List.append_assoc]
    exact distinct
  rw [List.map_append] at apart
  exact (List.nodup_append.mp apart).2.2 _ (List.mem_map_of_mem present) _
    (List.mem_map_of_mem revoking)

/-- A registration that is held or given up after an event was so before it, or is for the lease
that was granted next. -/
theorem mem_handles_append_stopping_step
    {event : RegistryEvent}
    {handle : Lease}
    (present : handle ∈ (run.step event).handles ++ (run.step event).stopping) :
    handle ∈ run.handles ++ run.stopping ∨ handle.id = run.store.nextLease := by
  cases event with
  | register name address span =>
      have registers := (run.registrar.registers_register run.clock name address span).1
      rcases List.mem_append.mp present with held | given
      · rcases List.mem_append.mp held with new | before
        · exact .inr (registers.id_eq new)
        · exact .inl (List.mem_append_left _ before)
      · exact .inl (List.mem_append_right _ given)
  | giveUp given =>
      simp only [RegistryRun.step, act] at present
      split at present
      · next held => exact .inl ((erase_append_cons_perm held _).mem_iff.mpr present)
      · exact .inl present
  | join given =>
      simp only [RegistryRun.step, act] at present
      split at present
      · exact .inl ((List.erase_sublist.append_left _).mem present)
      · exact .inl present
  | revoke given =>
      simp only [RegistryRun.step, act] at present
      split at present <;> exact .inl present
  | reap branch =>
      simp only [RegistryRun.step, act] at present
      split at present <;> exact .inl present
  | _ => exact .inl present

/-! ## Steps -/

theorem Unrefused.step
    (unrefused : run.Unrefused lease)
    {event : RegistryEvent}
    (granted : ∀ attempt ∈ run.attempt event, attempt.lease = lease -> attempt.renewed = true) :
    (run.step event).Unrefused lease := by
  intro attempt present
  rcases List.mem_append.mp present with new | before
  · exact granted attempt new
  · exact unrefused attempt before

/-- Only a lease that goes on with its renewal asks for it. -/
theorem lease_ne_of_mem_attempt
    {event : RegistryEvent}
    (unwoken : event ≠ .wake lease)
    {attempt : Attempt}
    (asked : attempt ∈ run.attempt event) :
    attempt.lease ≠ lease := by
  rcases run.attempt_eq event with none | ⟨other, renewed, rfl, -, one⟩
  · rw [none] at asked
    exact absurd asked List.not_mem_nil
  · rw [one, List.mem_singleton] at asked
    subst asked
    exact fun same => unwoken (congrArg RegistryEvent.wake same)

/-- No lease is revoked but by others, or when the renewal of its registration has ended. -/
theorem ne_revoke_of_mem_requests
    {event : RegistryEvent}
    (unasked : ∀ request, event ≠ .ask request)
    (kept : ∀ handle ∈ run.revoking, handle.id ≠ lease)
    {request : Request}
    (asked : request ∈ run.requests event) :
    request ≠ .revoke lease := by
  cases event with
  | register name address span =>
      rcases Registrar.mem_registering asked with rfl | rfl <;> simp
  | revoke handle =>
      simp only [requests] at asked
      split at asked
      · next revoking =>
          rw [Link.mem_passes asked]
          simpa using kept handle revoking
      · exact absurd asked List.not_mem_nil
  | resolve name =>
      rw [Link.mem_passes asked]
      simp
  | wake other =>
      simp only [requests, Registrar.waking] at asked
      split at asked
      · rw [Link.mem_passes asked]
        simp
      · exact absurd asked List.not_mem_nil
  | ask other => exact absurd rfl (unasked other)
  | reap branch =>
      simp only [requests] at asked
      split at asked
      · rw [List.mem_singleton.mp asked]
        simp
      · exact absurd asked List.not_mem_nil
  | _ => exact absurd asked List.not_mem_nil

namespace Punctual

/-- An event that neither renews the lease nor revokes it leaves its renewal as planned. -/
theorem keep
    (punctual : run.Punctual lease span renewal)
    {event : RegistryEvent}
    (timeless : ∀ span, event ≠ .pass span)
    (steady : ∀ call fault, event ≠ .fail call fault)
    (unasked : ∀ request, event ≠ .ask request)
    (unwoken : event ≠ .wake lease)
    (kept : ∀ handle ∈ run.stopping, event = .join handle -> handle.id ≠ lease) :
    (run.step event).Punctual lease span renewal := by
  obtain ⟨expiresAt, held, -⟩ := punctual.outlives
  have known : lease < run.store.nextLease := punctual.tidy.numbered _ _ held
  have clock := run.clock_step timeless
  have stored : (run.step event).store = _ := run.store_act event
  have failing : (run.step event).registrar.link.failing = run.registrar.link.failing :=
    (run.reaches_act event steady).failing
  refine ⟨?_, ?_, ?_, punctual.period, clock ▸ punctual.due, ?_, ?_, ?_⟩
  · rw [stored]
    exact punctual.tidy.serveAll run.clock _
  · rw [failing]
    exact punctual.reliable
  · rw [run.running?_step known unwoken kept]
    exact punctual.running
  · rw [stored, clock]
    exact punctual.outlives.serveAll punctual.tidy punctual.due _
      fun request => ne_revoke_of_mem_requests unasked punctual.kept
  · intro handle revoking
    rcases mem_revoking_step revoking with before | ⟨stopping, joined⟩
    · exact punctual.kept handle before
    · exact kept handle stopping joined
  · apply punctual.unrefused.step
    exact fun attempt asked same => absurd same (lease_ne_of_mem_attempt unwoken asked)

theorem pass
    (punctual : run.Punctual lease span renewal)
    {passed : Duration}
    (onTime : run.OnTime lease (.pass passed)) :
    (run.step (.pass passed)).Punctual lease span renewal := by
  obtain ⟨expiresAt, held, later, bounded⟩ := punctual.outlives
  have more : expiresAt ≤ run.clock + passed + span := by lia
  exact ⟨punctual.tidy, punctual.reliable, punctual.running, punctual.period,
    onTime renewal punctual.running, ⟨expiresAt, held, later, more⟩, punctual.kept,
    punctual.unrefused⟩

theorem ask
    (punctual : run.Punctual lease span renewal)
    {request : Request}
    (onTime : run.OnTime lease (.ask request)) :
    (run.step (.ask request)).Punctual lease span renewal := by
  have change := run.store.change_serve run.clock request
  exact ⟨punctual.tidy.change change, punctual.reliable, punctual.running, punctual.period,
    punctual.due, punctual.outlives.change punctual.tidy punctual.due change onTime,
    punctual.kept, punctual.unrefused⟩

theorem succeed
    (punctual : run.Punctual lease span renewal)
    (call : StoreCall) :
    (run.step (.fail call none)).Punctual lease span renewal := by
  refine ⟨punctual.tidy, ?_, punctual.running, punctual.period, punctual.due, punctual.outlives,
    punctual.kept, punctual.unrefused⟩
  intro other
  by_cases same : other = call
  · simp [RegistryRun.step, act, Link.setFailing, same]
  · simp [RegistryRun.step, act, Link.setFailing, punctual.reliable]

/-- When its timer fires the lease is renewed, and outlives the timer that is set next. -/
theorem wake
    (punctual : run.Punctual lease span renewal)
    (longer : Duration.ofMillis 1 < span)
    (onTime : run.OnTime lease (.wake lease)) :
    (run.step (.wake lease)).Punctual lease span (renewal.again run.clock) := by
  have fires : renewal.next.timer = run.clock :=
    Nat.le_antisymm (onTime rfl renewal punctual.running) punctual.due
  have next := Renewal.again_next punctual.due
  have late : ¬ run.clock < renewal.next := Nat.not_lt.mpr (fires ▸ renewal.next.le_timer)
  have soon : (renewal.again run.clock).next.timer < run.clock + span := by
    rw [next, punctual.period, ← fires]
    exact Registrar.timer_add_renewalPeriod_lt longer renewal.next
  obtain ⟨granted, outlives⟩ := punctual.outlives.keepAlive punctual.due soon
  have answer := Link.keepAlive_of_granted (punctual.reliable .keepAlive) granted
  have woken : (run.step (.wake lease)).registrar =
      Registrar.update { run.registrar with
        link := { run.registrar.link.count .keepAlive with
          store := (run.registrar.link.store.keepAlive run.clock lease).2 } } lease
        fun renewal => renewal.again run.clock := by
    simp only [RegistryRun.step, act, Registrar.wake, punctual.running, late, if_false,
      Registrar.renew, answer]
  have tried : run.attempt (.wake lease) = [⟨lease, true⟩] := by
    simp [attempt, Registrar.tries, punctual.running, late, answer, Except.isOk, Except.toBool]
  refine ⟨?_, ?_, ?_, punctual.period, ?_, ?_, punctual.kept, ?_⟩
  · rw [store, woken]
    exact punctual.tidy.change (run.store.change_serve run.clock (.keepAlive lease))
  · rw [woken]
    exact punctual.reliable
  · rw [woken, Registrar.running?_update_self (fun before => before.again_lease run.clock)
      (fun before => before.again_running run.clock)]
    exact congrArg (Option.map _) punctual.running
  · rw [next]
    exact Nat.le_trans punctual.due (Instant.timer_mono (Nat.le_add_right _ _))
  · rw [store, woken]
    exact outlives
  · apply punctual.unrefused.step
    intro attempt asked same
    rw [tried, List.mem_singleton] at asked
    rw [asked]

/-- When its owner has waited for its renewal, the lease is renewed no more. -/
theorem join
    (punctual : run.Punctual lease span renewal)
    (distinct : run.Distinct)
    (numbered : run.Numbered)
    {handle : Lease}
    (stopping : handle ∈ run.stopping)
    (own : handle.id = lease) :
    (run.step (.join handle)).GivenUp lease := by
  subst own
  have revoking : handle ∈ (run.step (.join handle)).revoking := by
    simp only [RegistryRun.step, act, stopping, if_true]
    exact List.mem_cons_self
  refine ⟨quiet_join numbered stopping, (distinct.step numbered _).id_ne_of_revoking revoking, ?_⟩
  exact punctual.unrefused.step fun attempt asked => absurd asked List.not_mem_nil

end Punctual

/-- A lease that was given up stays so. -/
theorem GivenUp.step
    (givenUp : run.GivenUp lease)
    (event : RegistryEvent) :
    (run.step event).GivenUp lease := by
  refine ⟨givenUp.quiet.step event, ?_, ?_⟩
  · intro handle held
    rcases mem_handles_append_stopping_step held with before | new
    · exact givenUp.unowned handle before
    · exact new ▸ Int.ne_of_gt givenUp.quiet.known
  · apply givenUp.unrefused.step
    exact fun attempt asked same => absurd same (givenUp.quiet.ne_of_mem_attempt asked)

/-- A lease that is renewed in time until it is given up. -/
def Timely (run : RegistryRun) (lease : LeaseId) (span : Duration) : Prop :=
  (∃ renewal, run.Punctual lease span renewal) ∨ run.GivenUp lease

/-- Every event that leaves a lease to its renewal keeps it timely. -/
theorem Timely.step
    (timely : run.Timely lease span)
    (longer : Duration.ofMillis 1 < span)
    (distinct : run.Distinct)
    (numbered : run.Numbered)
    {event : RegistryEvent}
    (onTime : run.OnTime lease event) :
    (run.step event).Timely lease span := by
  rcases timely with ⟨renewal, punctual⟩ | givenUp
  · cases event with
    | pass passed => exact Or.inl ⟨renewal, punctual.pass onTime⟩
    | ask request => exact Or.inl ⟨renewal, punctual.ask onTime⟩
    | fail call fault =>
        have none : fault = none := onTime
        subst none
        exact Or.inl ⟨renewal, punctual.succeed call⟩
    | wake other =>
        by_cases own : other = lease
        · subst own
          exact Or.inl ⟨_, punctual.wake longer onTime⟩
        · exact Or.inl ⟨renewal, punctual.keep (by simp) (by simp) (by simp) (by simpa using own)
            (by simp)⟩
    | join handle =>
        by_cases own : handle ∈ run.stopping ∧ handle.id = lease
        · exact Or.inr (punctual.join distinct numbered own.1 own.2)
        · refine Or.inl ⟨renewal, punctual.keep (by simp) (by simp) (by simp) (by simp) ?_⟩
          rintro other held same
          cases same
          exact fun given => own ⟨held, given⟩
    | _ =>
        exact Or.inl ⟨renewal, punctual.keep (by simp) (by simp) (by simp) (by simp) (by simp)⟩
  · exact Or.inr (givenUp.step event)

/-- So do such events one after the other. -/
theorem Timely.resume
    (timely : run.Timely lease span)
    (longer : Duration.ofMillis 1 < span)
    (distinct : run.Distinct)
    (numbered : run.Numbered)
    {events : List RegistryEvent}
    (onTime : run.AllOnTime lease events) :
    (run.resume events).Timely lease span := by
  induction events generalizing run with
  | nil => exact timely
  | cons event rest inductionHypothesis =>
      exact inductionHypothesis (timely.step longer distinct numbered onTime.1)
        (distinct.step numbered event) (numbered.step event) onTime.2

theorem Timely.inTime
    {handle : Lease}
    (timely : run.Timely handle.id span) :
    run.InTime handle := by
  rcases timely with ⟨renewal, punctual⟩ | givenUp
  · exact ⟨fun _ => Registrar.isRenewing_of_running? punctual.running,
      fun _ => punctual.outlives.isLive punctual.due, punctual.unrefused⟩
  · have stopped : run.registrar.isRenewing handle.id = false := by
      rw [Registrar.isRenewing_eq, givenUp.quiet.stopped]
      rfl
    refine ⟨fun active => ?_, ?_, givenUp.unrefused⟩
    · exact absurd rfl (givenUp.unowned handle (List.mem_append.mpr active))
    · rw [stopped]
      exact fun goesOn => absurd goesOn Bool.false_ne_true

/-! ## Registrations -/

/-- A registration is timely if its first renewal comes before the lease expires. -/
theorem timely_registered
    (tidy : run.store.Tidy)
    (numbered : run.Numbered)
    (unrefused : run.Unrefused run.store.nextLease)
    (reliable : ∀ call, run.registrar.link.failing call = none)
    (name address : String)
    (positive : 0 < span)
    (renewable : Registrar.Renewable run.clock span) :
    (run.step (.register name address span)).Timely run.store.nextLease span := by
  obtain ⟨-, passes, running, stored⟩ :=
    registered_of_reliable numbered reliable name address positive
  have clock : (run.step (.register name address span)).clock = run.clock :=
    run.clock_step (by simp)
  have served := tidy.serveAll run.clock (run.requests (.register name address span))
  rw [← run.store_act] at served
  refine Or.inl ⟨_, served, passes, running, rfl, ?_, ?_, ?_, ?_⟩
  · rw [clock]
    exact Nat.le_trans (Nat.le_add_right _ _) (Instant.le_timer _)
  · rw [clock, stored]
    exact ⟨_, run.store.find?_leases_put_grant run.clock span (serviceKey name) address,
      Registrar.timer_lt_iff_renewable.mpr renewable, Nat.le_refl _⟩
  · intro other revoking
    have owned : other ∈ run.owned := List.mem_append_right _ (List.mem_append_right _ revoking)
    exact Int.ne_of_lt (numbered.owned other owned)
  · exact unrefused.step fun attempt asked => absurd asked List.not_mem_nil

/-- A lease that was not granted yet was not asked to be renewed. -/
theorem unrefused_nextLease (events : List RegistryEvent) :
    (after events).Unrefused (after events).store.nextLease := by
  intro attempt asked same
  by_contra refused
  have attempted := attempted_start.resume numbered_start events
  have quiet := attempted.quiet attempt asked (Bool.not_eq_true _ ▸ refused)
  rw [same] at quiet
  exact Int.lt_irrefl _ quiet.known

/-- A lease that is to live whenever its renewals come, lives when the next one does. -/
theorem timer_lt_of_inTime
    (handle : Lease)
    {term : LeaseTerm}
    (running : run.registrar.running? handle.id = some renewal)
    (held : run.store.leases.find? handle.id = some term)
    (due : run.clock ≤ renewal.next.timer)
    (inTime : ∀ later, run.AllOnTime handle.id later -> (run.resume later).InTime handle) :
    renewal.next.timer < term.expiresAt := by
  obtain ⟨wait, fires⟩ := Nat.exists_eq_add_of_le due
  have onTime : run.AllOnTime handle.id [.pass wait] := by
    refine ⟨?_, trivial⟩
    intro other present
    cases running.symm.trans present
    exact Nat.le_of_eq fires.symm
  have live := (inTime _ onTime).live (Registrar.isRenewing_of_running? running)
  obtain ⟨same, found, early⟩ := Store.isLive_iff.mp live
  cases held.symm.trans found
  rw [fires]
  exact early

/-- Every renewal of a registration comes in time exactly if its span is longer than a
millisecond and the wait for the next whole one. -/
theorem inTime_iff_renewable
    (before : List RegistryEvent)
    (reliable : ∀ call, (after before).registrar.link.failing call = none)
    (name address : String)
    {span : Duration}
    (positive : 0 < span) :
    ∃ handle,
      ((after before).registrar.register (after before).clock name address span).1 =
          .ok handle ∧
        ((∀ later, ((after before).step (.register name address span)).AllOnTime handle.id later ->
            (after (before ++ .register name address span :: later)).InTime handle) ↔
          Registrar.Renewable (after before).clock span) := by
  have numbered := numbered_after before
  obtain ⟨registered, -, running, stored⟩ :=
    registered_of_reliable numbered reliable name address positive
  have held := (after before).store.find?_leases_put_grant (after before).clock span
    (serviceKey name) address
  rw [← stored] at held
  refine ⟨_, registered, ?_⟩
  have goesOn : ∀ later, after (before ++ .register name address span :: later) =
      ((after before).step (.register name address span)).resume later := by
    intro later
    simp [after, RegistryRun.resume]
  have due : ((after before).step (.register name address span)).clock ≤
      ((after before).clock + Registrar.renewalPeriod span).timer := by
    rw [(after before).clock_step (by simp)]
    exact Nat.le_trans (Nat.le_add_right _ _) (Instant.le_timer _)
  constructor
  · intro inTime
    have early := timer_lt_of_inTime ⟨_, span, name⟩ running held due
      fun later onTime => goesOn later ▸ inTime later onTime
    exact Registrar.timer_lt_iff_renewable.mp early
  · intro renewable later onTime
    rw [goesOn]
    have timely := timely_registered (faithful_after before).tidy numbered
      (unrefused_nextLease before) reliable name address positive renewable
    have distinct := (distinct_start.resume numbered_start before).step numbered
      (.register name address span)
    exact (timely.resume renewable.ofMillis_lt distinct (numbered.step _) onTime).inTime

/-- A registry with one service, three tenths of a millisecond after a whole one. -/
def offbeat : List RegistryEvent :=
  [.register "cart" "10.0.0.1:50051" (Duration.ofSeconds 30), .pass (Duration.ofMicros 300)]

/-- Three renewals of the second lease, while others use the registry. -/
def renewedThrice : List RegistryEvent :=
  [.pass (Duration.ofMicros 1700), .wake 2, .ask .purge, .pass (Duration.ofMillis 1), .wake 2,
    .pass (Duration.ofMicros 400), .resolve "cart", .pass (Duration.ofMicros 600), .wake 2]

/-- Less than two milliseconds are long enough if the next whole one is near. -/
theorem inTime_iff_renewable_offbeat :
    (∀ call, (after offbeat).registrar.link.failing call = none) ∧
      0 < Duration.ofMicros 1800 ∧
      ((after offbeat).step (.register "payment" "10.0.0.2:50051"
        (Duration.ofMicros 1800))).AllOnTime 2 renewedThrice ∧
      (after (offbeat ++ .register "payment" "10.0.0.2:50051" (Duration.ofMicros 1800) ::
        renewedThrice)).InTime ⟨2, Duration.ofMicros 1800, "payment"⟩ := by
  have reliable : ∀ call, (after offbeat).registrar.link.failing call = none := by
    intro call
    cases call <;> rfl
  have positive : 0 < Duration.ofMicros 1800 := by decide
  have onTime : ((after offbeat).step (.register "payment" "10.0.0.2:50051"
      (Duration.ofMicros 1800))).AllOnTime 2 renewedThrice := by
    decide +kernel
  have renewable : Registrar.Renewable (after offbeat).clock (Duration.ofMicros 1800) := by
    unfold Registrar.Renewable
    decide +kernel
  have given : ((after offbeat).registrar.register (after offbeat).clock "payment"
      "10.0.0.2:50051" (Duration.ofMicros 1800)).1 =
        .ok ⟨2, Duration.ofMicros 1800, "payment"⟩ := by
    decide +kernel
  obtain ⟨handle, registered, inTime⟩ :=
    inTime_iff_renewable offbeat reliable "payment" "10.0.0.2:50051" positive
  cases given.symm.trans registered
  exact ⟨reliable, positive, onTime, inTime.mpr renewable renewedThrice onTime⟩

/-- With a millisecond the first renewal comes when the lease has just expired, and is
refused. -/
theorem not_unrefused_of_positive :
    ¬ ∀ (before : List RegistryEvent) (name address : String) (span : Duration)
      (later : List RegistryEvent),
      let run := after before
      let registered := run.step (.register name address span)
      (∀ call, run.registrar.link.failing call = none) -> 0 < span ->
        registered.AllOnTime run.store.nextLease later ->
          (registered.resume later).Unrefused run.store.nextLease := by
  intro unrefused
  have reliable : ∀ call, (after []).registrar.link.failing call = none := fun _ => rfl
  have granted := unrefused [] "cart" "cart:50051" (Duration.ofMillis 1)
    [.pass (Duration.ofMillis 1), .wake 1] reliable (by decide) (by decide +kernel)
  have refused : (⟨1, false⟩ : Attempt) ∈ (((after []).step (.register "cart" "cart:50051"
      (Duration.ofMillis 1))).resume [.pass (Duration.ofMillis 1), .wake 1]).attempts := by
    decide +kernel
  exact Bool.false_ne_true (granted ⟨1, false⟩ refused rfl)

end RegistryRun
end Registry
end MallFabric
