import MallFabric.Proofs.Registry.Lapse
import MallFabric.Proofs.Registry.Visible

/-!
# Registrations that fail

A registration first asks for a lease and then binds its key, and either call may
fail.  No renewal begins and no key is bound by a registration that fails.  A lease
that was granted for it is not given back: it is left behind with nothing bound under
it, nobody renews it, and it lapses when its span has passed.
-/

namespace MallFabric
namespace Registry

/-! ## How a registration fails -/

/-- A call that fails on its way is counted, and nothing else happens. -/
theorem Link.call_of_failing
    {Answer : Type}
    {link : Link}
    {call : StoreCall}
    {fault : Fault}
    (failing : link.failing call = some fault)
    (operation : Store -> Except Fault Answer × Store) :
    link.call call operation = (.error fault, link.count call) := by
  rw [Link.call, failing]

/-- The link after a grant that reached the store. -/
def Link.granted (link : Link) (now : Instant) (span : Duration) : Link :=
  { link.count .grant with store := (link.store.grant now span).2 }

theorem Link.grant_of_failing_eq_none
    {link : Link}
    (passes : link.failing .grant = none)
    (now : Instant)
    (span : Duration) :
    link.grant now span = (.ok link.store.nextLease, link.granted now span) :=
  Link.call_of_failing_eq_none passes _

/-- Nothing keeps a key from being bound under a lease that was just granted. -/
theorem Link.exists_put_granted
    {link : Link}
    (passes : link.failing .put = none)
    {span : Duration}
    (positive : span ≠ 0)
    (now : Instant)
    (key value : String) :
    ∃ bound, (link.granted now span).put now key value link.store.nextLease = (.ok (), bound) := by
  have held : (link.store.grant now span).2.leases.find? link.store.nextLease =
      some ⟨span, now + span⟩ :=
    Assoc.find?_insert_self _ _ _
  have live : (link.granted now span).store.isLive now link.store.nextLease = true :=
    Store.isLive_iff.mpr ⟨_, held, Nat.lt_add_of_pos_right (Nat.pos_of_ne_zero positive)⟩
  have reached : (link.granted now span).failing .put = none := passes
  rw [Link.put, Link.call_of_failing_eq_none reached, Store.put, if_pos live]
  exact ⟨_, rfl⟩

namespace Registrar

variable {registrar : Registrar} {now : Instant} {name address : String} {span : Duration}

/-- The ways in which a registration fails, with what its owner is told and what is
made of the link. -/
inductive Fails (registrar : Registrar) (now : Instant) (name : String) (span : Duration) :
    Fault -> Link -> Prop where
  | spanless
      (never : span = 0) :
      Fails registrar now name span (.registration "lease ttl must be positive") registrar.link
  | ungranted {fault}
      (positive : span ≠ 0)
      (failing : registrar.link.failing .grant = some fault) :
      Fails registrar now name span (.registration s!"grant for {name}: {fault.message}")
        (registrar.link.count .grant)
  | unbound {fault}
      (positive : span ≠ 0)
      (granting : registrar.link.failing .grant = none)
      (failing : registrar.link.failing .put = some fault) :
      Fails registrar now name span (.registration s!"put for {name}: {fault.message}")
        ((registrar.link.granted now span).count .put)

/-- A registration that fails does so in one of these ways. -/
theorem fails_of_register
    {fault : Fault}
    (failed : (registrar.register now name address span).1 = .error fault) :
    ∃ link, (registrar.register now name address span).2 = { registrar with link } ∧
      Fails registrar now name span fault link := by
  unfold register at failed ⊢
  by_cases never : span = 0
  · simp only [never, if_true] at failed ⊢
    cases failed
    exact ⟨_, rfl, never ▸ .spanless never⟩
  · simp only [never, if_false] at failed ⊢
    cases granting : registrar.link.failing .grant with
    | some grantFault =>
        simp only [Link.grant, Link.call_of_failing granting] at failed ⊢
        cases failed
        exact ⟨_, rfl, .ungranted never granting⟩
    | none =>
        simp only [Link.grant_of_failing_eq_none granting] at failed ⊢
        cases binding : registrar.link.failing .put with
        | some putFault =>
            have refused : (registrar.link.granted now span).failing .put = some putFault := binding
            simp only [Link.put, Link.call_of_failing refused] at failed ⊢
            cases failed
            exact ⟨_, rfl, .unbound never granting binding⟩
        | none =>
            obtain ⟨bound, put⟩ :=
              Link.exists_put_granted binding never now (serviceKey name) address
            simp only [put] at failed
            cases failed

/-- It reached the store with a grant, or with nothing. -/
theorem Fails.store_eq
    {fault : Fault}
    {link : Link}
    (fails : Fails registrar now name span fault link) :
    link.store =
      if span = 0 ∨ registrar.link.failing .grant ≠ none then registrar.link.store
      else (registrar.link.store.grant now span).2 := by
  cases fails with
  | spanless never => rw [if_pos (Or.inl never)]
  | ungranted positive failing =>
      have refused : registrar.link.failing .grant ≠ none := by simp [failing]
      rw [if_pos (Or.inr refused)]
      rfl
  | unbound positive granting failing =>
      have reached : ¬ (span = 0 ∨ registrar.link.failing .grant ≠ none) := by
        simp [positive, granting]
      rw [if_neg reached]
      rfl

end Registrar

/-! ## Leases with nothing bound under them -/

namespace Store

/-- What is done for a request is done on the lease that it names, or on a new one. -/
theorem lease_of_deed?
    {store : Store}
    {now : Instant}
    {request : Request}
    {deed : Deed}
    (done : store.deed? now request = some deed) :
    deed.lease = store.nextLease ∨ request.lease? = some deed.lease := by
  cases request with
  | grant span =>
      cases done
      exact Or.inl rfl
  | get key => cases done
  | purge => cases done
  | _ =>
      simp only [deed?] at done
      split at done
      · cases done
        exact Or.inr rfl
      · cases done

/-- Nothing is bound under a lease that was granted, and it expires at a given instant if
it is held at all. -/
structure Vacant (store : Store) (lease : LeaseId) (expiry : Instant) : Prop where
  known : lease < store.nextLease
  term : ∀ term, store.leases.find? lease = some term -> term.expiresAt = expiry
  unbound : ∀ key binding, store.bindings.find? key = some binding -> binding.lease ≠ lease

variable {store : Store} {now expiry : Instant} {lease : LeaseId}

/-- A lease stays vacant when another one is given up, and when it is given up itself. -/
theorem Vacant.dropLease
    (vacant : store.Vacant lease expiry)
    (tidy : store.Tidy)
    (other : LeaseId) :
    (store.dropLease other).Vacant lease expiry where
  known := vacant.known
  term := by
    intro term held
    by_cases same : lease = other
    · rw [same] at held
      cases (Assoc.find?_erase_self store.leases other).symm.trans held
    · exact vacant.term term ((Assoc.find?_erase_of_ne _ same).symm.trans held)
  unbound := by
    intro key binding found
    rw [tidy.find?_dropLease, Option.filter_eq_some_iff] at found
    exact vacant.unbound key binding found.1

/-- A lease stays vacant through every change that is not made on it. -/
theorem Vacant.change
    (vacant : store.Vacant lease expiry)
    (tidy : store.Tidy)
    {deed : Option Deed}
    {after : Store}
    (change : Change store now deed after)
    (others : ∀ done ∈ deed, done.lease ≠ lease) :
    after.Vacant lease expiry := by
  cases change with
  | unchanged => exact vacant
  | expired held late => exact vacant.dropLease tidy _
  | revoked held => exact vacant.dropLease tidy _
  | granted span =>
      have different : lease ≠ store.nextLease := Int.ne_of_lt vacant.known
      refine ⟨Int.lt_trans vacant.known (Int.lt_succ _), ?_, vacant.unbound⟩
      intro term held
      exact vacant.term term ((Assoc.find?_insert_of_ne _ _ different).symm.trans held)
  | @bound key value other live =>
      refine ⟨vacant.known, vacant.term, ?_⟩
      intro reading binding found
      by_cases same : reading = key
      · rw [same, Assoc.find?_insert_self, Option.some.injEq] at found
        rw [← found]
        exact others _ rfl
      · exact vacant.unbound reading binding ((Assoc.find?_insert_of_ne _ _ same).symm.trans found)
  | @renewed other term held early =>
      have different : lease ≠ other := (others _ rfl).symm
      refine ⟨vacant.known, ?_, vacant.unbound⟩
      intro otherTerm found
      exact vacant.term otherTerm ((Assoc.find?_insert_of_ne _ _ different).symm.trans found)
  | purged =>
      refine ⟨vacant.known.trans_eq (nextLease_sweep _ _).symm, ?_, ?_⟩
      · intro term held
        rw [tidy.find?_leases_purge, Option.filter_eq_some_iff] at held
        exact vacant.term term held.1
      · intro key binding found
        rw [tidy.find?_bindings_purge, Option.filter_eq_some_iff] at found
        exact vacant.unbound key binding found.1

/-- It stays so whatever the store is asked for that does not name it. -/
theorem Vacant.serveAll
    (vacant : store.Vacant lease expiry)
    (tidy : store.Tidy)
    {requests : List Request}
    (unnamed : ∀ request ∈ requests, request.lease? ≠ some lease) :
    (store.serveAll now requests).Vacant lease expiry := by
  induction requests generalizing store with
  | nil => exact vacant
  | cons request rest inductionHypothesis =>
      have change := change_serve store now request
      have served : (store.serve now request).Vacant lease expiry := by
        refine vacant.change tidy change fun done told => ?_
        rcases lease_of_deed? told with new | named
        · rw [new]
          exact Int.ne_of_gt vacant.known
        · intro same
          exact unnamed request List.mem_cons_self (same ▸ named)
      exact inductionHypothesis served (tidy.change change)
        fun other asked => unnamed other (List.mem_cons_of_mem _ asked)

/-- A lease that was just granted is vacant. -/
theorem Tidy.vacant_grant
    (tidy : store.Tidy)
    (now : Instant)
    (span : Duration) :
    (store.grant now span).2.Vacant store.nextLease (now + span) where
  known := Int.lt_succ _
  term := by
    intro term held
    rw [grant, Assoc.find?_insert_self, Option.some.injEq] at held
    rw [← held]
  unbound := fun _ _ found => tidy.lease_ne_nextLease found

/-- When the instant has come it is live no more, and a sweep removes it. -/
theorem Vacant.lapses
    (vacant : store.Vacant lease expiry)
    (tidy : store.Tidy)
    (late : expiry ≤ now) :
    store.isLive now lease = false ∧
      (store.purgeExpired now).2.leases.find? lease = none := by
  rw [tidy.find?_leases_purge, Option.filter_eq_none_iff, Bool.eq_false_iff, Ne, isLive_iff]
  constructor
  · rintro ⟨term, held, early⟩
    exact Nat.not_lt.mpr late (vacant.term term held ▸ early)
  · intro term held early
    exact Nat.not_lt.mpr late (vacant.term term held ▸ of_decide_eq_true early)

end Store

namespace RegistryRun

/-! ## Leases that nobody owns -/

/-- A lease that no owner can give up and no renewal keeps alive, with nothing bound
under it. -/
structure Abandoned (run : RegistryRun) (lease : LeaseId) (expiry : Instant) : Prop where
  quiet : run.Quiet lease
  unowned : ∀ handle ∈ run.owned, handle.id ≠ lease
  tidy : run.store.Tidy
  vacant : run.store.Vacant lease expiry

variable {run : RegistryRun} {lease : LeaseId} {expiry : Instant}

/-- Of all requests only those of other users of the store can name it. -/
theorem Abandoned.lease?_ne
    (abandoned : run.Abandoned lease expiry)
    {event : RegistryEvent}
    (foreign : ∀ request, event = .ask request -> request.lease? ≠ some lease)
    {request : Request}
    (asked : request ∈ run.requests event) :
    request.lease? ≠ some lease := by
  cases event with
  | register name address span =>
      have different : run.registrar.link.store.nextLease ≠ lease :=
        Int.ne_of_gt abandoned.quiet.known
      rcases Registrar.mem_registering asked with rfl | rfl
      · simp [Request.lease?]
      · simpa [Request.lease?] using different
  | revoke handle =>
      simp only [requests] at asked
      split at asked
      · next revoking =>
          have owned : handle ∈ run.owned :=
            List.mem_append_right _ (List.mem_append_right _ revoking)
          rw [Link.mem_passes asked]
          simpa [Request.lease?] using abandoned.unowned handle owned
      · exact absurd asked List.not_mem_nil
  | resolve name =>
      rw [Link.mem_passes asked]
      simp [Request.lease?]
  | wake woken =>
      simp only [requests, Registrar.waking] at asked
      by_cases same : woken = lease
      · have idle := ((run.registrar.wakes_wake run.clock lease).eq_of_running?_eq_none
          abandoned.quiet.stopped).2
        rw [same, idle] at asked
        exact absurd asked List.not_mem_nil
      · split at asked
        · rw [Link.mem_passes asked]
          simpa [Request.lease?] using same
        · exact absurd asked List.not_mem_nil
  | ask other =>
      rw [List.mem_singleton.mp asked]
      exact foreign other rfl
  | reap branch =>
      simp only [requests] at asked
      split at asked
      · rw [List.mem_singleton.mp asked]
        simp [Request.lease?]
      · exact absurd asked List.not_mem_nil
  | _ => exact absurd asked List.not_mem_nil

theorem Abandoned.step
    (abandoned : run.Abandoned lease expiry)
    {event : RegistryEvent}
    (foreign : ∀ request, event = .ask request -> request.lease? ≠ some lease) :
    (run.step event).Abandoned lease expiry := by
  have stored : (run.step event).store = run.store.serveAll run.clock (run.requests event) :=
    run.store_act event
  refine ⟨abandoned.quiet.step event, ?_, ?_, ?_⟩
  · intro handle held
    rcases run.mem_owned_step held with before | ⟨new, -⟩
    · exact abandoned.unowned handle before
    · rw [new]
      exact Int.ne_of_gt abandoned.quiet.known
  · rw [stored]
    exact abandoned.tidy.serveAll run.clock _
  · rw [stored]
    exact abandoned.vacant.serveAll abandoned.tidy fun request asked =>
      abandoned.lease?_ne foreign asked

/-- A lease that nobody owns stays so, unless another user of the store names it. -/
theorem Abandoned.resume
    (abandoned : run.Abandoned lease expiry)
    {events : List RegistryEvent}
    (foreign : ∀ request, .ask request ∈ events -> request.lease? ≠ some lease) :
    (run.resume events).Abandoned lease expiry := by
  induction events generalizing run with
  | nil => exact abandoned
  | cons event rest inductionHypothesis =>
      apply inductionHypothesis
      · apply abandoned.step
        rintro request rfl
        exact foreign request List.mem_cons_self
      · exact fun request asked => foreign request (List.mem_cons_of_mem _ asked)

/-- A sweep removes it when its instant has come. -/
theorem Abandoned.find?_step_of_purge
    (abandoned : run.Abandoned lease expiry)
    (late : expiry ≤ run.clock)
    {event : RegistryEvent}
    (purges : run.requests event = [.purge]) :
    (run.step event).store.leases.find? lease = none := by
  have stored : (run.step event).store = run.store.serveAll run.clock (run.requests event) :=
    run.store_act event
  rw [stored, purges]
  exact (abandoned.vacant.lapses abandoned.tidy late).2

/-! ## What a failed registration leaves behind -/

/-- A lease that is left to itself until it lapses. -/
structure LeftToLapse (run : RegistryRun) (lease : LeaseId) (expiry : Instant) : Prop where
  /-- No renewal of it is running or asked for. -/
  idle : run.registrar.running? lease = none
  attempts : ∀ event, ∀ attempt ∈ run.attempt event, attempt.lease ≠ lease
  /-- Nothing is bound under it. -/
  unbound : ∀ key binding, run.store.bindings.find? key = some binding -> binding.lease ≠ lease
  /-- Once its span has passed it is not live, and the next sweep removes it. -/
  dead : expiry ≤ run.clock -> run.store.isLive run.clock lease = false
  swept : expiry ≤ run.clock -> ∀ event, run.requests event = [.purge] ->
    (run.step event).store.leases.find? lease = none

/-- A lease that was granted for a registration is nobody's as long as none begins. -/
theorem Numbered.abandoned
    (numbered : run.Numbered)
    (tidy : run.store.Tidy)
    {next : RegistryRun}
    {span : Duration}
    (renewals : next.registrar.renewals = run.registrar.renewals)
    (owned : next.owned = run.owned)
    (store : next.store = (run.store.grant run.clock span).2) :
    next.Abandoned run.store.nextLease (run.clock + span) := by
  have vacant := tidy.vacant_grant run.clock span
  refine ⟨⟨store ▸ vacant.known, ?_⟩, ?_, store ▸ tidy.change (.granted span), store ▸ vacant⟩
  · apply Registrar.running?_eq_none
    intro renewal present
    exact Int.ne_of_lt (numbered.renewals renewal (renewals ▸ present))
  · intro handle held
    exact Int.ne_of_lt (numbered.owned handle (owned ▸ held))

theorem Abandoned.leftToLapse
    (abandoned : run.Abandoned lease expiry) :
    run.LeftToLapse lease expiry where
  idle := abandoned.quiet.stopped
  attempts := fun _ _ tried => abandoned.quiet.ne_of_mem_attempt tried
  unbound := abandoned.vacant.unbound
  dead := fun late => (abandoned.vacant.lapses abandoned.tidy late).1
  swept := fun late _ purges => abandoned.find?_step_of_purge late purges

/-- What a registration that fails makes of a run. -/
structure FailsToRegister (run : RegistryRun) (name address : String) (span : Duration) :
    Prop where
  /-- No renewal begins, no registration is handed out, and no key is bound. -/
  renewals : (run.step (.register name address span)).registrar.renewals = run.registrar.renewals
  handles : (run.step (.register name address span)).handles = run.handles
  bindings : (run.step (.register name address span)).store.bindings = run.store.bindings
  /-- The store stays as it was if the grant has not reached it. -/
  unreached : span = 0 ∨ run.registrar.link.failing .grant ≠ none ->
    (run.step (.register name address span)).store = run.store
  /-- Otherwise the lease that was granted is held besides the others. -/
  reached : span ≠ 0 -> run.registrar.link.failing .grant = none ->
    (run.step (.register name address span)).store.leases =
      run.store.leases ++ [(run.store.nextLease, ⟨span, run.clock + span⟩)]
  /-- From then on, as long as no other user of the store names it, it is left to
  itself. -/
  abandoned : span ≠ 0 -> run.registrar.link.failing .grant = none -> ∀ more,
    (∀ request, .ask request ∈ more -> request.lease? ≠ some run.store.nextLease) ->
      ((run.step (.register name address span)).resume more).LeftToLapse run.store.nextLease
        (run.clock + span)

/-- A registration that fails changes nothing but the link to the store. -/
theorem exists_step_register
    (run : RegistryRun)
    {name address : String}
    {span : Duration}
    {fault : Fault}
    (failed : (run.registrar.register run.clock name address span).1 = .error fault) :
    ∃ link, Registrar.Fails run.registrar run.clock name span fault link ∧
      (run.step (.register name address span)).registrar = { run.registrar with link } ∧
      (run.step (.register name address span)).handles = run.handles ∧
      (run.step (.register name address span)).leaving = run.leaving := by
  obtain ⟨link, equal, fails⟩ := Registrar.fails_of_register failed
  refine ⟨link, fails, equal, ?_, rfl⟩
  simp only [step, act, failed]
  rfl

/-- In every run a registration that fails leaves at most a lease behind, and that lease
lapses. -/
theorem failsToRegister_after
    (events : List RegistryEvent)
    {name address : String}
    {span : Duration}
    {fault : Fault}
    (failed : ((after events).registrar.register (after events).clock name address span).1 =
      .error fault) :
    (after events).FailsToRegister name address span := by
  have tidy := (faithful_after events).tidy
  have numbered := numbered_after events
  generalize after events = run at *
  obtain ⟨link, fails, registrar, handles, leaving⟩ := run.exists_step_register failed
  have renewals : (run.step (.register name address span)).registrar.renewals =
      run.registrar.renewals := by
    rw [registrar]
  have store : (run.step (.register name address span)).store = link.store := by
    rw [RegistryRun.store, registrar]
  rw [fails.store_eq] at store
  have granted : span ≠ 0 -> run.registrar.link.failing .grant = none ->
      (run.step (.register name address span)).store = (run.store.grant run.clock span).2 := by
    intro positive granting
    have reached : ¬ (span = 0 ∨ run.registrar.link.failing .grant ≠ none) := by
      simp [positive, granting]
    rw [store, if_neg reached]
    rfl
  have fresh : run.store.leases.find? run.store.nextLease = none := by
    rw [Option.eq_none_iff_forall_ne_some]
    intro term held
    exact Int.lt_irrefl _ (tidy.numbered _ _ held)
  refine ⟨renewals, handles, ?_, ?_, ?_, ?_⟩
  · rw [store]
    split
    · rfl
    · rfl
  · intro unreached
    rw [store, if_pos unreached]
    rfl
  · intro positive granting
    rw [granted positive granting]
    exact Assoc.insert_of_find?_eq_none fresh _
  · intro positive granting more foreign
    have owned : (run.step (.register name address span)).owned = run.owned := by
      rw [RegistryRun.owned, RegistryRun.owned, handles, leaving]
    have abandoned := numbered.abandoned tidy renewals owned (granted positive granting)
    exact (abandoned.resume foreign).leftToLapse

/-- There is such a registration: the binding fails when the lease has been granted. -/
theorem failsToRegister_of_refused_binding :
    (after [.fail .put (some (.connection "registry" "connection refused"))]).FailsToRegister
      "cart" "cart:50051" (Duration.ofSeconds 10) :=
  failsToRegister_after [.fail .put (some (.connection "registry" "connection refused"))] rfl

/-- The store is not as it was: it holds the lease that was granted. -/
theorem not_undone_by_register :
    ¬ ∀ (events : List RegistryEvent) (name address : String) (span : Duration) (fault : Fault),
      let run := after events
      let next := run.step (.register name address span)
      (run.registrar.register run.clock name address span).1 = .error fault ->
        next.store.leases = run.store.leases ∧ next.store.bindings = run.store.bindings ∧
          next.registrar.renewals = run.registrar.renewals := by
  intro undone
  obtain ⟨leases, -, -⟩ :=
    undone [.fail .put (some (.connection "registry" "connection refused"))]
      "cart" "cart:50051" (Duration.ofSeconds 10) _ rfl
  cases leases

end RegistryRun
end Registry
end MallFabric
