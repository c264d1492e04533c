import MallFabric.Proofs.Registry.Lasting
import MallFabric.Proofs.Registry.Registration

/-!
# Registrations last

The main statement is about a registration over a store whose calls succeed and
whose renewals go on when they are due: as long as it is not given up, and nobody
else writes its key or revokes its lease, its name is resolved to its address.
What carries it is that a lease outlives the instant of its next renewal.
-/

namespace MallFabric
namespace Registry

namespace RegistryRun

/-- An event that is fair to a registration: calls succeed, its renewal goes on when it
is due, it is not given up, and nobody else writes its key or revokes its lease.  What its owner
does once it is given up is fair, as it does not come to that. -/
def Fair (run : RegistryRun) (handle : Lease) : RegistryEvent -> Prop
  | .register name _ span => span = 0 ∨ name ≠ handle.service
  | .giveUp other => other.id ≠ handle.id
  | .ask request => ∀ done ∈ run.store.deed? run.clock request,
      ¬ done.Binds (serviceKey handle.service) ∧ done ≠ .revoked handle.id
  | .fail _ fault => fault = none
  | .pass span => ∀ renewal ∈ run.registrar.running? handle.id,
      run.clock + span ≤ renewal.next.timer
  | _ => True

instance (run : RegistryRun) (handle : Lease) (event : RegistryEvent) :
    Decidable (run.Fair handle event) :=
  match event with
  | .register name _ span => inferInstanceAs (Decidable (span = 0 ∨ name ≠ handle.service))
  | .giveUp other => inferInstanceAs (Decidable (other.id ≠ handle.id))
  | .ask request => inferInstanceAs (Decidable (∀ done ∈ run.store.deed? run.clock request,
      ¬ done.Binds (serviceKey handle.service) ∧ done ≠ .revoked handle.id))
  | .fail _ fault => inferInstanceAs (Decidable (fault = none))
  | .pass span => inferInstanceAs (Decidable (∀ renewal ∈ run.registrar.running? handle.id,
      run.clock + span ≤ renewal.next.timer))
  | .join _ | .revoke _ | .resolve _ | .wake _ | .startReaper _ | .reap _ | .stopReaper =>
      inferInstanceAs (Decidable True)

/-- Events that are fair to a registration, each when it happens. -/
def AllFair (run : RegistryRun) (handle : Lease) : List RegistryEvent -> Prop
  | [] => True
  | event :: rest => run.Fair handle event ∧ (run.step event).AllFair handle rest

instance (run : RegistryRun) (handle : Lease) (events : List RegistryEvent) :
    Decidable (run.AllFair handle events) :=
  match events with
  | [] => inferInstanceAs (Decidable True)
  | event :: rest =>
      have := instDecidableAllFair (run.step event) handle rest
      inferInstanceAs (Decidable (run.Fair handle event ∧ (run.step event).AllFair handle rest))

/-- The name of a registration is resolved to its address, and its renewal goes on. -/
structure InForce (run : RegistryRun) (handle : Lease) (address : String) : Prop where
  resolved : (run.registrar.resolve run.clock handle.service).1 = .ok address
  renewing : run.registrar.isRenewing handle.id = true

/-- A registration whose renewal is planned in time. -/
structure Healthy (run : RegistryRun) (handle : Lease) (address : String) (renewal : Renewal) :
    Prop where
  tidy : run.store.Tidy
  reliable : ∀ call, run.registrar.link.failing call = none
  running : run.registrar.running? handle.id = some renewal
  period : renewal.period = Registrar.renewalPeriod handle.span
  staying : ∀ other ∈ run.leaving, other.id ≠ handle.id
  due : run.clock ≤ renewal.next.timer
  planned : renewal.next ≤ run.clock + renewal.period
  lasts : run.store.Lasts (serviceKey handle.service) address handle.id handle.span
    renewal.next.timer

namespace Healthy

variable {run : RegistryRun} {handle : Lease} {address : String} {renewal : Renewal}

theorem inForce
    (healthy : run.Healthy handle address renewal) :
    run.InForce handle address where
  resolved := Registrar.resolve_eq_ok_iff.mpr
    ⟨healthy.reliable .get, healthy.lasts.get healthy.due⟩
  renewing := Registrar.isRenewing_of_running? healthy.running

/-- The next renewal comes before a lease that was kept alive now would expire. -/
theorem soon
    (healthy : run.Healthy handle address renewal)
    (long : Duration.ofSeconds 1 ≤ handle.span) :
    renewal.next.timer < run.clock + handle.span := by
  have room := Registrar.renewalPeriod_le (Nat.le_trans (by decide) long)
  have planned := healthy.planned
  have fires := renewal.next.timer_lt
  rw [healthy.period] at planned
  unfold Duration.ofMillis at room
  lia

/-- An event other than a renewal leaves a healthy registration with the same plan, if
what it asks of the store spares the registration. -/
theorem keep
    (healthy : run.Healthy handle address renewal)
    (event : RegistryEvent)
    (kept : ∀ other, event = .giveUp other -> other.id ≠ handle.id)
    (clock : (run.step event).clock = run.clock)
    (reliable : ∀ call, (run.step event).registrar.link.failing call = none)
    (running : (run.step event).registrar.running? handle.id = some renewal)
    (lasts : (run.step event).store.Lasts (serviceKey handle.service) address handle.id
      handle.span renewal.next.timer) :
    (run.step event).Healthy handle address renewal := by
  have stored := run.store_act event
  refine ⟨?_, reliable, running, healthy.period, ?_, ?_, ?_, lasts⟩
  · have tidy := healthy.tidy.serveAll run.clock (run.requests event)
    rw [← stored] at tidy
    exact tidy
  · intro other leaving
    rcases run.mem_leaving_step leaving with before | ⟨-, given⟩
    · exact healthy.staying other before
    · exact kept other given
  · exact clock ▸ healthy.due
  · exact clock ▸ healthy.planned

/-- What reaches the store with a fair event spares the registration, unless somebody
else asks for it. -/
theorem spares_requests
    {event : RegistryEvent}
    (fair : run.Fair handle event)
    (staying : ∀ other ∈ run.leaving, other.id ≠ handle.id)
    (own : ∀ request, event ≠ .ask request) :
    ∀ request ∈ run.requests event,
      request.Spares (serviceKey handle.service) handle.id := by
  intro request present
  cases event with
  | register name other span => exact Registrar.spares_registering fair request present
  | revoke other =>
      simp only [requests] at present
      split at present
      · next revoking =>
          rw [Link.mem_passes present]
          exact staying other (List.mem_append_right _ revoking)
      · exact absurd present List.not_mem_nil
  | resolve name =>
      rw [Link.mem_passes present]
      trivial
  | wake lease =>
      simp only [requests, Registrar.waking] at present
      split at present
      · rw [Link.mem_passes present]
        trivial
      · exact absurd present List.not_mem_nil
  | ask request => exact absurd rfl (own request)
  | reap branch =>
      simp only [requests] at present
      split at present
      · rw [List.mem_singleton.mp present]
        trivial
      · exact absurd present List.not_mem_nil
  | _ => exact absurd present List.not_mem_nil

/-- A fair event that is no renewal leaves a healthy registration with the same plan. -/
theorem keep_of_fair
    (healthy : run.Healthy handle address renewal)
    (long : Duration.ofSeconds 1 ≤ handle.span)
    {event : RegistryEvent}
    (fair : run.Fair handle event)
    (timeless : ∀ span, event ≠ .pass span)
    (steady : ∀ call fault, event ≠ .fail call fault)
    (own : ∀ request, event ≠ .ask request)
    (unwoken : event ≠ .wake handle.id) :
    (run.step event).Healthy handle address renewal := by
  obtain ⟨expiresAt, held, -⟩ := healthy.lasts.held
  have known : handle.id < run.store.nextLease := healthy.tidy.numbered _ _ held
  have kept : ∀ other, event = .giveUp other -> other.id ≠ handle.id := by
    rintro other rfl
    exact fair
  apply healthy.keep event kept (run.clock_step timeless)
  · intro call
    have same : (run.step event).registrar.link.failing = run.registrar.link.failing :=
      (run.reaches_act event steady).failing
    rw [same]
    exact healthy.reliable call
  · rw [run.running?_step known unwoken]
    · exact healthy.running
    · exact fun other stopping _ => healthy.staying other (List.mem_append_left _ stopping)
  · have lasts := healthy.lasts.serveAll healthy.tidy healthy.due (healthy.soon long)
      (run.requests event) (spares_requests fair healthy.staying own)
    rw [← run.store_act event] at lasts
    exact lasts

/-- Its own renewal, once it is due, plans the next one in time. -/
theorem wake
    (healthy : run.Healthy handle address renewal)
    (long : Duration.ofSeconds 1 ≤ handle.span) :
    ∃ next, (run.step (.wake handle.id)).Healthy handle address next := by
  have answer := Link.keepAlive_of_granted (healthy.reliable .keepAlive)
    (healthy.lasts.keepAlive healthy.due (healthy.soon long)).1
  rcases (run.registrar.wakes_wake run.clock handle.id).eq_of_answer answer with
    same | ⟨current, running, late, woken⟩
  · have waits : (run.step (.wake handle.id)).registrar = run.registrar := same
    refine ⟨renewal, healthy.keep _ (by simp) rfl ?_ ?_ ?_⟩
    · rw [waits]
      exact healthy.reliable
    · rw [waits]
      exact healthy.running
    · rw [store, waits]
      exact healthy.lasts
  · cases healthy.running.symm.trans running
    have next := Renewal.again_next healthy.due
    have soon : (renewal.again run.clock).next.timer < run.clock + handle.span := by
      have room := Registrar.renewalPeriod_le (Nat.le_trans (by decide) long)
      have fires := (renewal.next + renewal.period).timer_lt
      have period := healthy.period
      unfold Duration.ofMillis at room
      rw [next]
      lia
    have lasts := (healthy.lasts.keepAlive healthy.due soon).2
    have tidy := healthy.tidy.serveAll run.clock [.keepAlive handle.id]
    have renewals : (run.step (.wake handle.id)).registrar = _ := woken
    refine ⟨renewal.again run.clock, ?_, ?_, ?_, healthy.period, healthy.staying, ?_, ?_, ?_⟩
    · rw [store, renewals]
      exact tidy
    · rw [renewals]
      exact healthy.reliable
    · rw [renewals, Registrar.running?_update_self (fun before => before.again_lease run.clock)
        (fun before => before.again_running run.clock)]
      exact congrArg (Option.map _) running
    · rw [next]
      exact Nat.le_trans healthy.due (Instant.timer_mono (Nat.le_add_right _ _))
    · rw [next]
      exact Nat.add_le_add_right late _
    · rw [store, renewals]
      exact lasts

/-- Every fair event leaves a registration healthy. -/
theorem step
    (healthy : run.Healthy handle address renewal)
    (long : Duration.ofSeconds 1 ≤ handle.span)
    {event : RegistryEvent}
    (fair : run.Fair handle event) :
    ∃ next, (run.step event).Healthy handle address next := by
  cases event with
  | pass span =>
      have inTime := fair renewal healthy.running
      refine ⟨renewal, healthy.tidy, healthy.reliable, healthy.running, healthy.period,
        healthy.staying, inTime, ?_, healthy.lasts⟩
      exact Nat.le_trans healthy.planned (Nat.add_le_add_right (Nat.le_add_right _ _) _)
  | ask request =>
      refine ⟨renewal, healthy.keep _ (by simp) rfl healthy.reliable healthy.running ?_⟩
      exact healthy.lasts.change healthy.tidy healthy.due (healthy.soon long)
        (Store.change_serve run.store run.clock request) fair
  | fail call fault =>
      refine ⟨renewal, healthy.keep _ (by simp) rfl ?_ healthy.running healthy.lasts⟩
      intro other
      subst fair
      by_cases same : other = call
      · simp [RegistryRun.step, act, Link.setFailing, same]
      · simp [RegistryRun.step, act, Link.setFailing, healthy.reliable]
  | wake lease =>
      by_cases own : lease = handle.id
      · subst own
        exact healthy.wake long
      · have unwoken : RegistryEvent.wake lease ≠ .wake handle.id := by simpa using own
        exact ⟨renewal, healthy.keep_of_fair long fair (by simp) (by simp) (by simp) unwoken⟩
  | _ => exact ⟨renewal, healthy.keep_of_fair long fair (by simp) (by simp) (by simp) (by simp)⟩

/-- So do fair events, one after the other. -/
theorem resume
    (healthy : run.Healthy handle address renewal)
    (long : Duration.ofSeconds 1 ≤ handle.span)
    (events : List RegistryEvent)
    (fair : run.AllFair handle events) :
    ∃ next, (run.resume events).Healthy handle address next := by
  induction events generalizing run renewal with
  | nil => exact ⟨renewal, healthy⟩
  | cons event rest inductionHypothesis =>
      obtain ⟨next, stays⟩ := healthy.step long fair.1
      exact inductionHypothesis stays fair.2

end Healthy

/-- A registration over a link that does not fail succeeds: a lease is granted, the address is
bound under it, and its renewal is planned. -/
theorem registered_of_reliable
    {run : RegistryRun}
    (numbered : run.Numbered)
    (reliable : ∀ call, run.registrar.link.failing call = none)
    (name address : String)
    {span : Duration}
    (positive : 0 < span) :
    (run.registrar.register run.clock name address span).1 =
        .ok ⟨run.store.nextLease, span, name⟩ ∧
      (∀ call, (run.step (.register name address span)).registrar.link.failing call = none) ∧
      (run.step (.register name address span)).registrar.running? run.store.nextLease =
        some ⟨run.store.nextLease, Registrar.renewalPeriod span,
          run.clock + Registrar.renewalPeriod span, true⟩ ∧
      (run.step (.register name address span)).store =
        ((run.store.grant run.clock span).2.put run.clock (serviceKey name) address
          run.store.nextLease).2 := by
  obtain ⟨link, registered, passes, stored⟩ :=
    Registrar.exists_register_of_reliable reliable run.clock name address positive
  have begun : (run.step (.register name address span)).registrar =
      ⟨link, run.registrar.renewals ++ [⟨run.store.nextLease, Registrar.renewalPeriod span,
        run.clock + Registrar.renewalPeriod span, true⟩]⟩ := congrArg Prod.snd registered
  refine ⟨congrArg Prod.fst registered, ?_, ?_, ?_⟩
  · rw [begun]
    exact passes
  · rw [begun]
    apply Registrar.running?_append_self link
    · exact fun before present => Int.ne_of_lt (numbered.renewals before present)
    · rfl
  · rw [store, begun]
    exact stored

/-- With a second and more the registration is healthy. -/
theorem exists_registered
    {run : RegistryRun}
    (tidy : run.store.Tidy)
    (numbered : run.Numbered)
    (reliable : ∀ call, run.registrar.link.failing call = none)
    (name address : String)
    {span : Duration}
    (long : Duration.ofSeconds 1 ≤ span) :
    ∃ handle renewal,
      (run.registrar.register run.clock name address span).1 = .ok handle ∧
        handle.service = name ∧ handle.span = span ∧
        (run.step (.register name address span)).Healthy handle address renewal := by
  have positive : 0 < span := by
    unfold Duration.ofSeconds at long
    lia
  have room := Registrar.renewalPeriod_le (Nat.le_trans (by decide) long)
  have fires := (run.clock + Registrar.renewalPeriod span).timer_lt
  have soon : (run.clock + Registrar.renewalPeriod span).timer < run.clock + span := by
    unfold Duration.ofMillis at room
    lia
  have lasts := (run.store.lasts_grant run.clock (serviceKey name) address soon positive).2
  obtain ⟨registered, passes, running, stored⟩ :=
    registered_of_reliable numbered reliable name address positive
  refine ⟨_, _, registered, rfl, rfl, ?_, passes, running, rfl, ?_, ?_, Nat.le_refl _, ?_⟩
  · have served := tidy.serveAll run.clock (run.requests (.register name address span))
    rw [← run.store_act] at served
    exact served
  · intro other leaving
    exact Int.ne_of_lt (numbered.owned other (List.mem_append_right _ leaving))
  · exact Nat.le_trans (Nat.le_add_right _ _) (Instant.le_timer _)
  · rw [stored]
    exact lasts

/-- A registration lasts as long as it is treated fairly. -/
theorem lasts_while_fair
    (before : List RegistryEvent)
    (reliable : ∀ call, (after before).registrar.link.failing call = none)
    (name address : String)
    (seconds : Nat)
    (positive : 1 ≤ seconds) :
    ∃ handle,
      ((after before).registrar.register (after before).clock name address
          (Duration.ofSeconds seconds)).1 = .ok handle ∧
        handle.service = name ∧
        ∀ later,
          ((after before).step (.register name address (Duration.ofSeconds seconds))).AllFair
              handle later ->
            (after (before ++ .register name address (Duration.ofSeconds seconds) ::
              later)).InForce handle address := by
  have long : Duration.ofSeconds 1 ≤ Duration.ofSeconds seconds := by
    unfold Duration.ofSeconds
    lia
  obtain ⟨handle, renewal, registered, service, span, healthy⟩ :=
    exists_registered (faithful_after before).tidy (numbered_after before) reliable name address
      long
  refine ⟨handle, registered, service, ?_⟩
  intro later fair
  rw [← span] at long
  obtain ⟨next, stays⟩ := healthy.resume long later fair
  unfold after RegistryRun.resume
  rw [List.foldl_append, List.foldl_cons]
  exact stays.inForce

/-- A registry with one service, over which a reaper runs. -/
def opened : List RegistryEvent :=
  [.register "cart" "10.0.0.1:50051" (Duration.ofSeconds 30),
    .startReaper (Duration.ofMillis 100)]

/-- Two renewals of the second lease, while others use the registry and its reaper runs. -/
def renewedTwice : List RegistryEvent :=
  [.pass (Duration.ofMillis 500), .wake 2, .reap .sleep, .ask (.put "/services/cart" "10.0.0.9:50051" 1),
    .pass (Duration.ofMillis 500), .wake 2, .ask .purge, .pass (Duration.ofMillis 400), .reap .sleep]

/-- A registration for one second is in force after one second and four tenths. -/
theorem lasts_while_fair_renewedTwice :
    (∀ call, (after opened).registrar.link.failing call = none) ∧
      ((after opened).step (.register "payment" "10.0.0.2:50051" (Duration.ofSeconds 1))).AllFair
        ⟨2, Duration.ofSeconds 1, "payment"⟩ renewedTwice ∧
      (after (opened ++ .register "payment" "10.0.0.2:50051" (Duration.ofSeconds 1) ::
        renewedTwice)).InForce ⟨2, Duration.ofSeconds 1, "payment"⟩ "10.0.0.2:50051" := by
  have fair : ((after opened).step
      (.register "payment" "10.0.0.2:50051" (Duration.ofSeconds 1))).AllFair
        ⟨2, Duration.ofSeconds 1, "payment"⟩ renewedTwice := by
    decide +kernel
  have reliable : ∀ call, (after opened).registrar.link.failing call = none := by
    intro call
    cases call <;> rfl
  obtain ⟨handle, registered, -, lasts⟩ :=
    lasts_while_fair opened reliable "payment" "10.0.0.2:50051" 1
      (Nat.le_refl 1)
  have given : ((after opened).registrar.register (after opened).clock "payment"
      "10.0.0.2:50051" (Duration.ofSeconds 1)).1 = .ok ⟨2, Duration.ofSeconds 1, "payment"⟩ := by
    decide +kernel
  cases given.symm.trans registered
  exact ⟨reliable, fair, lasts renewedTwice fair⟩

end RegistryRun
end Registry
end MallFabric
