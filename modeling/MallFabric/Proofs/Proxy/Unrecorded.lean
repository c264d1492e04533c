import MallFabric.Proofs.Circuit.Overlap
import MallFabric.Proofs.Proxy.Begun
import MallFabric.Proofs.Proxy.Uses

/-!
# Calls that leave no trace

A call that ends with an error of its caller, a broken contract, a cancellation or the
deadline of its caller has given its permit up, if it ever got one, and nothing was counted
of it.  Others may use the circuit of its method all the while.  Unless the slot that the
call holds or the trial that it makes turns one of them away, they find the circuit as if
the call had not been made.
-/

namespace MallFabric

variable {Conn Peers : Type}

namespace Proxy.Deal

variable {id : CallId} {circuit after : Circuit} {stage later : CallStage} {traffic : Traffic}
variable {uses : List TrafficEvent} {told : List Rejection}

/-- A call reads the clock when the decision about it is made. -/
theorem timely
    (deal : Deal id traffic.clock circuit stage later uses told after) :
    traffic.Throughout Traffic.IsTimely uses := by
  cases deal with
  | aside attempt permit => trivial
  | decided decision => exact ⟨rfl, trivial⟩
  | refused decision idle => exact ⟨rfl, trivial⟩
  | admitted taken => exact ⟨trivial, trivial⟩
  | saturated full idle degraded => exact ⟨trivial, trivial, trivial⟩
  | @ended _ permit outcome _ held idle recorded =>
      cases outcome with
      | none => exact ⟨trivial, trivial⟩
      | some outcome => exact ⟨trivial, trivial⟩

/-- Where something is counted of a call, no fault reaches its caller as it is. -/
theorem uncounted
    {now : Instant}
    (deal : Deal id now circuit stage later uses told after) :
    traffic.Throughout (fun moment event => moment.counts? event = none) uses ∨
      later.SurfacesNothing := by
  cases deal with
  | aside attempt permit => exact .inl trivial
  | decided decision => exact .inl ⟨rfl, trivial⟩
  | refused decision idle => exact .inl ⟨rfl, trivial⟩
  | admitted taken => exact .inl ⟨rfl, trivial⟩
  | saturated full idle degraded => exact .inr degraded
  | ended held idle recorded =>
      rcases recorded with rfl | degraded
      · exact .inl ⟨rfl, trivial⟩
      · exact .inr degraded

end Proxy.Deal

/-- What is at the stage of a call that is over is a call. -/
theorem Fabric.exists_of_surfacesNothing
    {fabric : Fabric Conn Peers}
    {method : Method}
    {id : CallId}
    (holds : (fabric.placeAt method id).SurfacesNothing) :
    ∃ call, fabric.calls.find? id = some call ∧ call.stage.SurfacesNothing := by
  cases found : fabric.calls.find? id with
  | none =>
      rw [placeAt_of_absent found] at holds
      exact holds.elim
  | some call =>
      by_cases same : call.method = method
      · subst same
        exact ⟨call, rfl, placeAt_of_find? found ▸ holds⟩
      · rw [placeAt_of_ne found same] at holds
        exact holds.elim

namespace ProxyRun

variable {proxy : Proxy Conn Peers} {run : ProxyRun Conn Peers} {method : Method} {id : CallId}
variable {traffic : Traffic}

theorem Mirrors.timely
    (mirrors : run.Mirrors proxy method traffic)
    (events : List (ProxyEvent Peers)) :
    traffic.Throughout Traffic.IsTimely (run.trafficOf proxy method events) := by
  induction events generalizing run traffic with
  | nil => trivial
  | cons event rest inductionHypothesis =>
      refine Traffic.throughout_append.mpr ⟨?_, inductionHypothesis (mirrors.occur event)⟩
      cases event with
      | step id => exact (mirrors.clock ▸ deal_step proxy method run id).timely
      | abort id =>
          simp only [uses]
          split
          · exact ⟨trivial, trivial⟩
          · trivial
      | pass span => exact ⟨trivial, trivial⟩
      | _ => trivial

/-- Events that cannot be carried out may as well be left away. -/
theorem exists_resume
    (proxy : Proxy Conn Peers)
    (run : ProxyRun Conn Peers)
    (events : List (ProxyEvent Peers)) :
    ∃ carried, run.after proxy events = run.resume proxy carried := by
  induction events generalizing run with
  | nil => exact ⟨[], rfl⟩
  | cons event rest inductionHypothesis =>
      obtain ⟨carried, goesOn⟩ := inductionHypothesis (run.occur proxy event)
      change ∃ carried, (run.occur proxy event).after proxy rest = _
      have either : run.occur proxy event = run ∨
          run.occur proxy event = run.step proxy event := by
        cases event with
        | abort id =>
            simp only [occur]
            split
            · exact .inl rfl
            · exact .inr rfl
        | _ => exact .inr rfl
      rcases either with stays | steps
      · rw [stays] at goesOn ⊢
        exact ⟨carried, goesOn⟩
      · rw [steps] at goesOn ⊢
        exact ⟨event :: carried, goesOn⟩

/-- Once a call is over without a fault that reaches its caller, it remains so. -/
theorem surfacesNothing_after
    (counted : id < run.next)
    (first : ∀ call, run.fabric.calls.find? id = some call -> call.stage.SurfacesNothing)
    (events : List (ProxyEvent Peers)) :
    ∀ call, (run.after proxy events).fabric.calls.find? id = some call ->
      call.stage.SurfacesNothing := by
  obtain ⟨carried, same⟩ := exists_resume proxy run events
  rw [same]
  refine holds_resume counted first carried fun moment before after _ present holds found => ?_
  simp only [ProxyRun.step, Proxy.step, present] at found
  cases stage : before.stage with
  | storing key answer =>
      simp only [stage, Proxy.moved, Fabric.setCall, Assoc.find?_insert_self,
        Option.some.injEq] at found
      rw [← found]
      trivial
  | finished result =>
      simp only [stage, Proxy.blocked, present, Option.some.injEq] at found
      exact found ▸ holds
  | crashed =>
      simp only [stage, Proxy.blocked, present, Option.some.injEq] at found
      exact found ▸ holds
  | _ =>
      rw [stage] at holds
      exact holds.elim

theorem Mirrors.lt_next
    (mirrors : run.Mirrors proxy method traffic)
    {call : Call}
    (found : run.fabric.calls.find? id = some call) :
    id < run.next := by
  refine Nat.lt_of_not_le fun free => ?_
  cases (mirrors.fresh id free).symm.trans found

/-- Of a call that ends with a fault that is not recorded nothing is counted. -/
theorem Mirrors.uncounted
    (mirrors : run.Mirrors proxy method traffic)
    {events : List (ProxyEvent Peers)}
    {call : Call}
    {fault : Fault}
    (found : (run.after proxy events).fabric.calls.find? id = some call)
    (ended : call.stage = .finished (.error fault))
    (unrecorded : fault.Unrecorded) :
    traffic.Throughout
      (fun moment event => event.caller? = some id -> moment.counts? event = none)
      (run.trafficOf proxy method events) := by
  induction events generalizing run traffic with
  | nil => trivial
  | cons event rest inductionHypothesis =>
      refine Traffic.throughout_append.mpr ⟨?_, inductionHypothesis (mirrors.occur event) found⟩
      cases event with
      | step other =>
          have deal := deal_step proxy method run other
          by_cases same : other = id
          · subst same
            rcases deal.uncounted with quiet | marked
            · exact quiet.imp fun _ _ nothing _ => nothing
            · obtain ⟨reached, present, holds⟩ := Fabric.exists_of_surfacesNothing marked
              have first : ∀ now, (run.occur proxy (.step other)).fabric.calls.find? other =
                  some now -> now.stage.SurfacesNothing :=
                fun now there => Option.some.inj (present.symm.trans there) ▸ holds
              have last := surfacesNothing_after ((mirrors.occur (.step other)).lt_next present) first rest
                call found
              rw [ended] at last
              exact absurd unrecorded last
          · refine Traffic.throughout_of_mem (fun moment event used calls => ?_) traffic
            exact absurd (Option.some.inj ((deal.caller?_eq used).symm.trans calls)) same
      | abort other =>
          simp only [uses]
          split
          · exact ⟨fun _ => rfl, trivial⟩
          · trivial
      | pass span => exact ⟨fun _ => rfl, trivial⟩
      | _ => trivial

/-- Nobody else who comes to the circuit of a method is turned away because of a call. -/
def SparesOthers (proxy : Proxy Conn Peers) (method : Method) (id : CallId)
    (run : ProxyRun Conn Peers) (events : List (ProxyEvent Peers)) : Prop :=
  (Traffic.start proxy.config.circuit).Throughout
    (fun moment event => event.caller? ≠ some id -> ¬ moment.TurnsAway id event)
    (run.trafficOf proxy method events)

instance (proxy : Proxy Conn Peers) (method : Method) (id : CallId) (run : ProxyRun Conn Peers)
    (events : List (ProxyEvent Peers)) : Decidable (run.SparesOthers proxy method id events) :=
  inferInstanceAs (Decidable (Traffic.Throughout _ _ _))

variable {cache : CacheLink} {pool : Pool Conn} {peers : Peers}
variable {events : List (ProxyEvent Peers)} {call : Call} {fault : Fault}

/-- A call that ends with a fault that is not recorded, and because of which nobody is turned
away, is not noticed. -/
theorem unseen_of_unrecorded
    (found : ((new cache pool peers).after proxy events).fabric.calls.find? id = some call)
    (ended : call.stage = .finished (.error fault))
    (unrecorded : fault.Unrecorded)
    (spares : (new cache pool peers).SparesOthers proxy call.method id events) :
    Traffic.Unseen proxy.config.circuit id
      ((new cache pool peers).trafficOf proxy call.method events) := by
  have mirrors := mirrors_new proxy call.method cache pool peers
  have timely := mirrors.timely events
  have uncounted := mirrors.uncounted found ended unrecorded
  refine Traffic.unseen_of_spares (((timely.and uncounted).and spares).imp ?_)
  exact fun moment event holds => ⟨holds.1.1, holds.1.2, holds.2⟩

end ProxyRun

namespace ProxyRun

/-- A service that takes ten milliseconds to tell that a request was wrong, behind a circuit
with some slots. -/
def misguided (slots : Nat) : Proxy Unit Unit where
  config := { ProxyConfig.standard with
    circuit := { CircuitConfig.standard with maxConcurrent := slots } }
  table := DispatchTable.empty.register ⟨"cart", "GetCart"⟩ .getCartReq .getCartResp
    fun _ _ now _ peers =>
      (⟨now + Duration.ofMillis 10, .fault (.downstream 3 "no such user")⟩, peers)
  dialler := ⟨none, fun now _ peers => (⟨now, .ok ()⟩, peers)⟩
  fallback := .failFast

/-- The first call waits for its handler while the second one asks for admission. -/
def overlapping : List (ProxyEvent Unit) :=
  [.raw ⟨"cart", "GetCart"⟩ .fresh [], .raw ⟨"cart", "GetCart"⟩ .fresh []] ++
    List.replicate 9 (.step 0) ++ List.replicate 3 (.step 1) ++
      [.pass (Duration.ofMillis 10), .step 0]

/-- A proxy for one service. -/
def cartAsked : ProxyRun Unit Unit := new .off (Pool.new [⟨"cart", "localhost:1"⟩] false) ()

/-- The first call when its handler has told that the request was wrong. -/
def mistaken : Call :=
  ⟨⟨"cart", "GetCart"⟩, .fresh, [], false, .finished (.error (.downstream 3 "no such user"))⟩

end ProxyRun
end MallFabric
