import MallFabric.Proofs.Registry.Fleet
import MallFabric.Proofs.Registry.Lasting

/-!
# The latest registration of a name

A name has one key, and every registration of the name writes it.  So a name is
resolved to the address that was registered for it last, while the lease of that
registration is live, and afterwards to nothing: an earlier registration that is
still live does not come back.
-/

namespace MallFabric
namespace Registry

/-- What a deed binds to a key. -/
def Deed.binding? (key : String) : Deed -> Option Binding
  | bound other value lease => if other = key then some ⟨value, lease⟩ else none
  | _ => none

namespace Deed

variable {deed : Deed} {key : String} {binding : Binding}

theorem binding?_eq_some_iff :
    deed.binding? key = some binding ↔ deed = .bound key binding.value binding.lease := by
  cases deed with
  | bound other value lease =>
      obtain ⟨last, owner⟩ := binding
      by_cases same : other = key
      · simp [binding?, same]
      · simp [binding?, same]
  | _ => simp [binding?]

theorem binding?_eq_none_iff :
    deed.binding? key = none ↔ ¬ deed.Binds key := by
  cases deed with
  | bound other value lease =>
      by_cases same : other = key
      · simp [binding?, Binds, same]
      · simp [binding?, Binds, same]
  | _ => simp [binding?, Binds]

end Deed

namespace History

/-- What was last bound to a key. -/
def lastBinding? (history : History) (key : String) : Option Binding :=
  history.findSome? fun record => record.deed.binding? key

/-- It is what the history tells. -/
theorem lastBinding?_eq_some_iff
    {history : History}
    {key : String}
    {binding : Binding} :
    history.lastBinding? key = some binding ↔ ∃ later, history.LastBound key binding later := by
  unfold lastBinding? LastBound
  simp only [List.findSome?_eq_some_iff, Deed.binding?_eq_none_iff, Deed.binding?_eq_some_iff]
  constructor
  · rintro ⟨later, ⟨instant, deed⟩, earlier, rfl, rfl, unbound⟩
    exact ⟨later, instant, earlier, rfl, unbound⟩
  · rintro ⟨later, instant, earlier, rfl, unbound⟩
    exact ⟨later, _, earlier, rfl, rfl, unbound⟩

end History

namespace StoreRun

variable {run : StoreRun} {key : String}

/-- What is shown under a key is what was last bound to it, while the lease is live. -/
theorem Faithful.get_eq
    (faithful : run.Faithful)
    (key : String) :
    run.store.get run.clock key =
      ((run.history.lastBinding? key).filter fun binding =>
        run.store.isLive run.clock binding.lease).map Binding.value := by
  have last_of_found : ∀ binding, run.store.bindings.find? key = some binding ->
      run.history.lastBinding? key = some binding :=
    fun binding found => History.lastBinding?_eq_some_iff.mpr (faithful.last key binding found)
  unfold Store.get
  cases found : run.store.bindings.find? key with
  | some binding =>
      cases live : run.store.isLive run.clock binding.lease with
      | true => simp [last_of_found binding found, live, Option.filter]
      | false => simp [last_of_found binding found, live, Option.filter]
  | none =>
      cases last : run.history.lastBinding? key with
      | none => rfl
      | some binding =>
          -- It went with its lease.
          have dead : run.store.isLive run.clock binding.lease = false := by
            rw [Bool.eq_false_iff]
            intro live
            obtain ⟨later, lastBound⟩ := History.lastBinding?_eq_some_iff.mp last
            cases found.symm.trans (faithful.there key binding later lastBound live)
          simp [dead, Option.filter]

/-- What was done decides what was last bound, if it bound the key. -/
theorem lastBinding?_serve
    (run : StoreRun)
    (request : Request)
    (key : String) :
    (run.serve request).history.lastBinding? key =
      ((run.store.deed? run.clock request).bind (Deed.binding? key)).or
        (run.history.lastBinding? key) := by
  unfold serve note History.lastBinding?
  cases run.store.deed? run.clock request with
  | none => rfl
  | some done =>
      simp only [Option.toList_some, List.map_singleton, List.singleton_append,
        List.findSome?_cons, Option.bind_some]
      cases done.binding? key with
      | none => rfl
      | some binding => rfl

end StoreRun

/-- A request that does not bind a key. -/
def Request.Leaves (key : String) : Request -> Prop
  | put other _ _ => other ≠ key
  | _ => True

namespace StoreRun

theorem binding?_of_leaves
    {store : Store}
    {now : Instant}
    {key : String}
    {request : Request}
    (leaves : request.Leaves key) :
    (store.deed? now request).bind (Deed.binding? key) = none := by
  cases request with
  | put other value lease =>
      simp only [Store.deed?]
      split
      · exact if_neg leaves
      · rfl
  | keepAlive lease =>
      simp only [Store.deed?]
      split
      · rfl
      · rfl
  | revoke lease =>
      simp only [Store.deed?]
      split
      · rfl
      · rfl
  | _ => rfl

/-- Requests that do not bind a key leave what was last bound to it. -/
theorem lastBinding?_resume
    (run : StoreRun)
    {key : String}
    {requests : List Request}
    (leave : ∀ request ∈ requests, request.Leaves key) :
    (run.resume (requests.map .serve)).history.lastBinding? key =
      run.history.lastBinding? key := by
  induction requests generalizing run with
  | nil => rfl
  | cons request rest inductionHypothesis =>
      have later := inductionHypothesis (run.serve request)
        fun other present => leave other (List.mem_cons_of_mem _ present)
      have first := run.lastBinding?_serve request key
      rw [binding?_of_leaves (leave request List.mem_cons_self), Option.none_or] at first
      exact later.trans first

end StoreRun

/-! ## Registrations and bindings -/

namespace Fleet

variable {fleet : Fleet}

/-- The registration of a name that was made last. -/
def latest? (fleet : Fleet) (name : String) : Option Registration :=
  fleet.registrations.find? fun registration => registration.name = name

/-- What was last bound to the key of a name is its latest registration. -/
def Recorded (fleet : Fleet) : Prop :=
  ∀ name, fleet.history.lastBinding? (serviceKey name) =
    (fleet.latest? name).map fun registration => ⟨registration.address, registration.lease⟩

/-- Only the second step of a registration binds a key. -/
theorem leaves_requests
    (fleet : Fleet)
    {event : FleetEvent}
    (other : ∀ lease, event ≠ .bind lease)
    (key : String) :
    ∀ request ∈ fleet.requests event, request.Leaves key := by
  intro request present
  cases event with
  | enrol client name address span =>
      simp only [requests] at present
      split at present
      · exact absurd present List.not_mem_nil
      · rw [List.mem_singleton.mp present]
        trivial
  | bind lease => exact absurd rfl (other lease)
  | wake client lease =>
      simp only [requests, Registrar.waking] at present
      split at present
      · rw [Link.mem_passes present]
        trivial
      · exact absurd present List.not_mem_nil
  | pass span => exact absurd present List.not_mem_nil
  | _ =>
      rw [List.mem_singleton.mp present]
      trivial

theorem registrations_act
    (fleet : Fleet)
    {event : FleetEvent}
    (other : ∀ lease, event ≠ .bind lease) :
    (fleet.act event).registrations = fleet.registrations := by
  cases event with
  | enrol client name address span =>
      simp only [act]
      split
      · rfl
      · rfl
  | bind lease => exact absurd rfl (other lease)
  | _ => rfl

/-- The second step of a registration binds the key of its name. -/
theorem Recorded.bind
    (recorded : fleet.Recorded)
    (lease : LeaseId) :
    (fleet.step (.bind lease)).Recorded := by
  intro name
  have before := recorded name
  cases enrolled : fleet.enrolments.find? lease with
  | none =>
      simp only [Fleet.step, act, storeEvents, requests, enrolled]
      exact before
  | some enrolment =>
      have served := fleet.stores.lastBinding?_serve
        (.put (serviceKey enrolment.name) enrolment.address lease) (serviceKey name)
      have history : (fleet.step (.bind lease)).history = (fleet.stores.serve
          (.put (serviceKey enrolment.name) enrolment.address lease)).history := by
        simp only [Fleet.step, storeEvents, requests, enrolled]
        rfl
      simp only [stores, Store.deed?] at served
      rw [history, stores, served]
      cases bound : (fleet.store.put fleet.clock (serviceKey enrolment.name) enrolment.address
          lease).1 with
      | error fault =>
          have registrations : (fleet.step (.bind lease)).registrations = fleet.registrations := by
            simp only [Fleet.step, act, enrolled, bound]
          simp only [Option.bind_none, Option.none_or, latest?, registrations]
          exact before
      | ok done =>
          have registrations : (fleet.step (.bind lease)).registrations =
              ⟨enrolment.client, enrolment.name, enrolment.address, lease⟩ ::
                fleet.registrations := by
            simp only [Fleet.step, act, enrolled, bound, registered]
          by_cases same : enrolment.name = name
          · simp [latest?, registrations, Deed.binding?, same]
          · have different : serviceKey enrolment.name ≠ serviceKey name :=
              fun equal => same (serviceKey_injective equal)
            simp only [latest?, registrations, Deed.binding?, different, same, Option.bind_some,
              if_false, Option.none_or, List.find?_cons, decide_false]
            exact before

/-- Every event keeps bindings and registrations in step. -/
theorem Recorded.step
    (recorded : fleet.Recorded)
    (event : FleetEvent) :
    (fleet.step event).Recorded := by
  have others : (∀ lease, event ≠ .bind lease) -> (∀ span, event ≠ .pass span) ->
      fleet.storeEvents event = (fleet.requests event).map .serve ->
        (fleet.step event).Recorded := by
    intro other timeless events name
    have leave := fleet.leaves_requests other (serviceKey name)
    have bindings := fleet.stores.lastBinding?_resume leave
    have registrations : (fleet.step event).registrations = fleet.registrations :=
      fleet.registrations_act other
    rw [latest?, registrations, Fleet.step, events, bindings]
    exact recorded name
  cases event with
  | bind lease => exact recorded.bind lease
  | pass span => exact recorded
  | _ => exact others (fun _ same => by cases same) (fun _ same => by cases same) rfl

theorem recorded_after (events : List FleetEvent) : (after events).Recorded := by
  unfold after
  apply List.foldlRecOn (motive := Recorded)
  · exact fun _ => rfl
  · exact fun fleet recorded event _ => recorded.step event

/-! ## Resolving a name -/

/-- A lease was not revoked and has not expired. -/
def IsLive (fleet : Fleet) (lease : LeaseId) : Prop :=
  ¬ fleet.history.Revoked lease ∧ fleet.history.Unexpired fleet.clock lease

/-- What a name is resolved to by a client. -/
structure ResolvesLatest (fleet : Fleet) (client : ClientId) (name : String) : Prop where
  /-- While the registration of the name that was made last is live, its address. -/
  found : ∀ registration, fleet.latest? name = some registration ->
    fleet.IsLive registration.lease ->
      ((fleet.registrar client).resolve fleet.clock name).1 = .ok registration.address
  /-- Otherwise nothing. -/
  missing : (∀ registration, fleet.latest? name = some registration ->
      ¬ fleet.IsLive registration.lease) ->
    ((fleet.registrar client).resolve fleet.clock name).1 =
      .error (.notFound s!"no live registration for {name}")

/-- What a client makes of what the store shows. -/
theorem resolve_eq
    (fleet : Fleet)
    (client : ClientId)
    (name : String) :
    ((fleet.registrar client).resolve fleet.clock name).1 =
      match fleet.store.get fleet.clock (serviceKey name) with
      | some address => .ok address
      | none => .error (.notFound s!"no live registration for {name}") := by
  simp only [Registrar.resolve, registrar, Link.reliable, Link.get, Link.call]
  cases fleet.store.get fleet.clock (serviceKey name) with
  | none => rfl
  | some address => rfl

/-- In every run of a fleet every client resolves a name to its latest registration while
that is live, and to nothing only when it is not. -/
theorem resolvesLatest_after
    (events : List FleetEvent)
    (client : ClientId)
    (name : String) :
    (after events).ResolvesLatest client name := by
  have faithful := faithful_after events
  have recorded := recorded_after events name
  generalize after events = fleet at faithful recorded
  have shown := faithful.get_eq (serviceKey name)
  have live_iff := fun lease => faithful.isLive_iff (Nat.le_refl _) lease
  simp only [stores] at shown live_iff
  rw [recorded] at shown
  constructor
  · intro registration latest live
    rw [latest, Option.map_some, Option.filter_some, if_pos ((live_iff _).mpr live)] at shown
    rw [resolve_eq, shown]
    rfl
  · intro dead
    have nothing : fleet.store.get fleet.clock (serviceKey name) = none := by
      rw [shown]
      cases latest : fleet.latest? name with
      | none => rfl
      | some registration =>
          have ended := (live_iff registration.lease).not.mpr (dead registration latest)
          simp [Option.filter, ended]
    rw [resolve_eq, nothing]

/-- Two clients register the same name, and the second one gives its registration up. -/
def secondGivesUp : List FleetEvent :=
  [.enrol 0 "cart" "10.0.0.1:50051" (Duration.ofSeconds 10), .bind 1,
    .enrol 1 "cart" "10.0.0.2:50051" (Duration.ofSeconds 10), .bind 2,
    .deregister 1 ⟨2, Duration.ofSeconds 10, "cart"⟩]

/-- The registration of the first one is still live and renewed, but the name is not
resolved. -/
theorem earlier_live_not_resolved :
    (after secondGivesUp).registrations.map (fun made => (made.name, made.lease)) =
        [("cart", 2), ("cart", 1)] ∧
      (after secondGivesUp).IsLive 1 ∧
      ((after secondGivesUp).registrar 0).isRenewing 1 = true ∧
      (((after secondGivesUp).registrar 0).resolve (after secondGivesUp).clock "cart").1 =
        .error (.notFound "no live registration for cart") := by
  refine ⟨by decide, ?_, by decide, by decide⟩
  have live : (after secondGivesUp).store.isLive (after secondGivesUp).clock 1 = true := by decide
  exact ((faithful_after secondGivesUp).isLive_iff (Nat.le_refl _) 1).mp live

end Fleet

end Registry
end MallFabric
