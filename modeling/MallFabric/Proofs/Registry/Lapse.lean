import MallFabric.Proofs.Registry.Registration

/-!
# Registrations go away for good

The main statement is about every run of a registrar, whatever calls fail: once
a renewal of a lease has failed, or its registration was given up, the registrar
never asks for a renewal again, and a lease whose span has run out since it was
last refreshed never leads to an address again.
-/

namespace MallFabric
namespace Registry
namespace RegistryRun

/-- The renewals of a lease that were asked for. -/
def attemptsOn (run : RegistryRun) (lease : LeaseId) : List Attempt :=
  run.attempts.filter fun attempt => attempt.lease = lease

/-- A name is resolved to an address that is bound under a lease. -/
def ResolvesThrough (run : RegistryRun) (name address : String) (lease : LeaseId) : Prop :=
  (run.registrar.resolve run.clock name).1 = .ok address ∧
    run.store.bindings.find? (serviceKey name) = some ⟨address, lease⟩

/-- A lease that was granted is not renewed any more. -/
structure Quiet (run : RegistryRun) (lease : LeaseId) : Prop where
  known : lease < run.store.nextLease
  stopped : run.registrar.running? lease = none

variable {run : RegistryRun} {lease : LeaseId}

/-- Where a lease is quiet, nothing tries to renew it. -/
theorem Quiet.ne_of_mem_attempt
    (quiet : run.Quiet lease)
    {event : RegistryEvent}
    {attempt : Attempt}
    (tried : attempt ∈ run.attempt event) :
    attempt.lease ≠ lease := by
  cases event with
  | wake woken =>
      simp only [RegistryRun.attempt, List.mem_map] at tried
      obtain ⟨renewed, asked, rfl⟩ := tried
      rintro rfl
      have idle := ((run.registrar.wakes_wake run.clock _).eq_of_running?_eq_none quiet.stopped).2
      rw [idle] at asked
      exact absurd asked List.not_mem_nil
  | _ => exact absurd tried List.not_mem_nil

/-- When its owner has waited for it, the renewal of a registration has ended. -/
theorem running?_join
    {handle : Lease}
    (stopping : handle ∈ run.stopping) :
    (run.step (.join handle)).registrar.running? handle.id = none := by
  simp only [step, act, stopping, if_true]
  exact Registrar.running?_stop_self run.registrar handle.id

/-- A lease that is quiet stays so. -/
theorem Quiet.step
    (quiet : run.Quiet lease)
    (event : RegistryEvent) :
    (run.step event).Quiet lease := by
  refine ⟨Int.lt_of_lt_of_le quiet.known (run.nextLease_le_step event), ?_⟩
  by_cases woken : event = .wake lease
  · subst woken
    have idle := ((run.registrar.wakes_wake run.clock lease).eq_of_running?_eq_none
      quiet.stopped).1
    change (run.registrar.wake run.clock lease).1.running? lease = none
    rw [idle]
    exact quiet.stopped
  · by_cases ended : ∃ handle ∈ run.stopping, event = .join handle ∧ handle.id = lease
    · obtain ⟨handle, stopping, rfl, rfl⟩ := ended
      exact running?_join stopping
    · rw [run.running?_step quiet.known woken]
      · exact quiet.stopped
      · exact fun handle stopping given same => ended ⟨handle, stopping, given, same⟩

/-- From then on nothing tries to renew it. -/
theorem Quiet.attemptsOn_resume
    (quiet : run.Quiet lease)
    (events : List RegistryEvent) :
    (run.resume events).attemptsOn lease = run.attemptsOn lease := by
  induction events generalizing run with
  | nil => rfl
  | cons event rest inductionHypothesis =>
      rw [resume, List.foldl_cons]
      refine (inductionHypothesis (quiet.step event)).trans ?_
      have others : (run.attempt event).filter (fun attempt => attempt.lease = lease) = [] := by
        rw [List.filter_eq_nil_iff]
        intro attempt tried
        simp [quiet.ne_of_mem_attempt tried]
      unfold attemptsOn RegistryRun.step
      rw [List.filter_append, others, List.nil_append]

/-! ## Refused renewals -/

/-- The attempts that were made, and what follows from those that failed. -/
structure Attempted (run : RegistryRun) : Prop where
  counted : run.registrar.link.made .keepAlive = run.attempts.length
  /-- A lease whose renewal has failed is quiet. -/
  quiet : ∀ attempt ∈ run.attempts, attempt.renewed = false -> run.Quiet attempt.lease
  refused : run.attempts.Pairwise fun later earlier =>
    earlier.renewed = false -> later.lease ≠ earlier.lease

theorem attempted_start : start.Attempted where
  counted := rfl
  quiet := fun _ present => absurd present List.not_mem_nil
  refused := List.Pairwise.nil

/-- The number of calls for a renewal grows with the attempts. -/
theorem made_step
    (event : RegistryEvent) :
    (run.step event).registrar.link.made .keepAlive =
      run.registrar.link.made .keepAlive + (run.attempt event).length := by
  cases event with
  | fail call fault => rfl
  | _ => exact (run.reaches_act _ (by simp)).made

/-- An event makes one attempt at most. -/
theorem attempt_eq
    (run : RegistryRun)
    (event : RegistryEvent) :
    run.attempt event = [] ∨
      ∃ lease renewed, event = .wake lease ∧
        run.registrar.tries run.clock lease = some renewed ∧
        run.attempt event = [⟨lease, renewed⟩] := by
  cases event with
  | wake lease =>
      cases tried : run.registrar.tries run.clock lease with
      | none => exact Or.inl (by simp [attempt, tried])
      | some renewed => exact Or.inr ⟨lease, renewed, rfl, tried, by simp [attempt, tried]⟩
  | _ => exact Or.inl rfl

/-- A renewal that fails leaves its lease quiet. -/
theorem quiet_of_refused
    (numbered : run.Numbered)
    (refused : run.registrar.tries run.clock lease = some false) :
    (run.step (.wake lease)).Quiet lease := by
  have wakes := run.registrar.wakes_wake run.clock lease
  rw [refused] at wakes
  refine ⟨Int.lt_of_lt_of_le ?_ (run.nextLease_le_step _), wakes.running?_of_refused⟩
  cases running : run.registrar.running? lease with
  | none => cases (wakes.eq_of_running?_eq_none running).2
  | some renewal =>
      obtain ⟨present, same, -⟩ := Registrar.mem_of_running? running
      exact same ▸ numbered.renewals renewal present

/-- Every event keeps what is known of the attempts. -/
theorem Attempted.step
    (attempted : run.Attempted)
    (numbered : run.Numbered)
    (event : RegistryEvent) :
    (run.step event).Attempted := by
  have quiet : ∀ attempt ∈ run.attempts, attempt.renewed = false ->
      (run.step event).Quiet attempt.lease :=
    fun attempt present failed => (attempted.quiet attempt present failed).step event
  have counted : (run.step event).registrar.link.made .keepAlive =
      (run.attempt event ++ run.attempts).length := by
    rw [made_step, attempted.counted, List.length_append, Nat.add_comm]
  refine ⟨counted, ?_, ?_⟩
  · intro attempt present failed
    rcases List.mem_append.mp present with new | before
    · rcases run.attempt_eq event with none | ⟨lease, renewed, rfl, tried, one⟩
      · rw [none] at new
        exact absurd new List.not_mem_nil
      · rw [one, List.mem_singleton] at new
        subst new
        exact quiet_of_refused numbered (failed ▸ tried)
    · exact quiet attempt before failed
  · refine List.pairwise_append.mpr ⟨?_, attempted.refused, ?_⟩
    · rcases run.attempt_eq event with none | ⟨lease, renewed, -, -, one⟩
      · rw [none]
        exact List.Pairwise.nil
      · rw [one]
        exact List.pairwise_singleton _ _
    · intro later tried earlier present failed
      exact (attempted.quiet earlier present failed).ne_of_mem_attempt tried

theorem Attempted.resume
    (attempted : run.Attempted)
    (numbered : run.Numbered)
    (events : List RegistryEvent) :
    (run.resume events).Attempted := by
  induction events generalizing run with
  | nil => exact attempted
  | cons event rest inductionHypothesis =>
      exact inductionHypothesis (attempted.step numbered event) (numbered.step event)

/-! ## Registrations that have ended -/

/-- A registration waits for its lease to be revoked once its renewal has ended. -/
theorem mem_revoking_step
    {event : RegistryEvent}
    {handle : Lease}
    (present : handle ∈ (run.step event).revoking) :
    handle ∈ run.revoking ∨ handle ∈ run.stopping ∧ event = .join handle := by
  cases event with
  | giveUp given =>
      simp only [step, act] at present
      split at present <;> exact .inl present
  | join given =>
      simp only [step, act] at present
      split at present
      · next stopping =>
          rcases List.mem_cons.mp present with rfl | before
          · exact .inr ⟨stopping, rfl⟩
          · exact .inl before
      · exact .inl present
  | revoke given =>
      simp only [step, act] at present
      split at present
      · exact .inl (List.mem_of_mem_erase present)
      · exact .inl present
  | reap branch =>
      simp only [step, act] at present
      split at present <;> exact .inl present
  | _ => exact .inl present

/-- A registration that is given up is quiet when its owner has waited for its renewal. -/
theorem quiet_join
    (numbered : run.Numbered)
    {handle : Lease}
    (stopping : handle ∈ run.stopping) :
    (run.step (.join handle)).Quiet handle.id := by
  have owned : handle ∈ run.owned :=
    List.mem_append_right _ (List.mem_append_left _ stopping)
  exact ⟨Int.lt_of_lt_of_le (numbered.owned handle owned) (run.nextLease_le_step _),
    running?_join stopping⟩

/-- No lease that is yet to be revoked is renewed any more. -/
theorem quiet_of_revoking
    (numbered : run.Numbered)
    (joined : ∀ handle ∈ run.revoking, run.Quiet handle.id)
    (events : List RegistryEvent) :
    ∀ handle ∈ (run.resume events).revoking, (run.resume events).Quiet handle.id := by
  induction events generalizing run with
  | nil => exact joined
  | cons event rest inductionHypothesis =>
      refine inductionHypothesis (numbered.step event) fun handle present => ?_
      rcases mem_revoking_step present with before | ⟨stopping, rfl⟩
      · exact (joined handle before).step event
      · exact quiet_join numbered stopping

/-- Every answer is read under some lease. -/
theorem exists_resolvesThrough
    {name address : String}
    (answer : (run.registrar.resolve run.clock name).1 = .ok address) :
    ∃ lease, run.ResolvesThrough name address lease := by
  obtain ⟨-, shown⟩ := Registrar.resolve_eq_ok_iff.mp answer
  obtain ⟨lease, found, -⟩ := Store.get_eq_some_iff.mp shown
  exact ⟨lease, answer, found⟩

/-- Nothing is resolved through a lease that is not live. -/
theorem ResolvesThrough.isLive
    {name address : String}
    (through : run.ResolvesThrough name address lease) :
    run.store.isLive run.clock lease = true := by
  obtain ⟨answer, found⟩ := through
  obtain ⟨-, shown⟩ := Registrar.resolve_eq_ok_iff.mp answer
  obtain ⟨owner, foundAgain, live⟩ := Store.get_eq_some_iff.mp shown
  cases found.symm.trans foundAgain
  exact live

/-- What can be relied on when registrations end. -/
structure StaysGone (run : RegistryRun) : Prop where
  /-- The attempts are all the calls to renew a lease. -/
  counted : run.registrar.link.made .keepAlive = run.attempts.length
  /-- Once a renewal of a lease has failed, no other is asked for. -/
  refused : run.attempts.Pairwise fun later earlier =>
    earlier.renewed = false -> later.lease ≠ earlier.lease
  /-- Once the renewal of a registration that was given up has ended, none is asked for. -/
  joined : ∀ handle ∈ run.stopping, ∀ more,
    ((run.step (.join handle)).resume more).attemptsOn handle.id = run.attemptsOn handle.id
  /-- So none is when the lease is revoked, whatever comes of that, and from then on. -/
  deregistered : ∀ handle ∈ run.revoking, ∀ more,
    ((run.step (.revoke handle)).resume more).attemptsOn handle.id = run.attemptsOn handle.id
  /-- Every answer is read under a lease. -/
  through : ∀ name address, (run.registrar.resolve run.clock name).1 = .ok address ->
    ∃ lease, run.ResolvesThrough name address lease
  /-- Once the span of a lease has passed since it was last refreshed, nothing is
  resolved through it. -/
  lapsed : ∀ lease span since, run.history.Granted lease span ->
    run.history.LastRefreshed lease since -> since + span ≤ run.clock ->
      ∀ more name address, ¬ (run.resume more).ResolvesThrough name address lease

/-- In every run of a registrar, what has ended stays gone. -/
theorem staysGone_after (events : List RegistryEvent) : (after events).StaysGone := by
  have attempted := attempted_start.resume numbered_start events
  have faithful := faithful_after events
  refine ⟨attempted.counted, attempted.refused, ?_, ?_, ?_, ?_⟩
  · intro handle stopping more
    exact (quiet_join (numbered_after events) stopping).attemptsOn_resume more
  · intro handle revoking more
    have joined := quiet_of_revoking numbered_start (by simp [start]) events handle revoking
    exact joined.attemptsOn_resume (.revoke handle :: more)
  · exact fun name address answer => exists_resolvesThrough answer
  · intro lease span since granted last late more name address through
    have expired : ¬ (after events).history.Unexpired (after events).clock lease := by
      rintro ⟨otherSpan, otherSince, grantedAgain, lastAgain, early⟩
      rw [faithful.granted_unique lease _ _ grantedAgain granted, lastAgain.unique last] at early
      exact absurd late (Nat.not_le.mpr early)
    obtain ⟨known, dead⟩ := faithful.dead_of_history granted (Or.inr expired)
    obtain ⟨served, equal⟩ := (after events).stores_resume more
    have stays := faithful.dead_resume known dead served
    rw [← equal] at stays
    exact Bool.false_ne_true (stays.symm.trans through.isLive)

end RegistryRun
end Registry
end MallFabric
