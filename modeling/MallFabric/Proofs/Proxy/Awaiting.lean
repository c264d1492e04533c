import MallFabric.Proofs.Connection.Run
import MallFabric.Proofs.Proxy.Waiting

/-!
# Calls that wait for a connection

A call asks the pool for the connection to its service, and dials where nobody
else has done so.  The main statements are about every step of the call and
about everything else that can happen: the call is told a fault instead of the
connection only if the pool is closed, if its service is not known, or if a
dial of its own has failed.
-/

namespace MallFabric

variable {Conn Peers : Type}

namespace ProxyRun

/-- In the course of some events one of them happens in a state. -/
def Happens (proxy : Proxy Conn Peers) (run : ProxyRun Conn Peers)
    (events : List (ProxyEvent Peers)) (moment : ProxyRun Conn Peers) (event : ProxyEvent Peers) :
    Prop :=
  ∃ earlier, earlier ++ [event] <+: events ∧ moment = run.resume proxy earlier

section Happens

variable {proxy : Proxy Conn Peers} {run moment : ProxyRun Conn Peers}
variable {event : ProxyEvent Peers} {earlier later : List (ProxyEvent Peers)}

/-- The first event happens at first. -/
theorem happens_cons
    (proxy : Proxy Conn Peers)
    (run : ProxyRun Conn Peers)
    (event : ProxyEvent Peers)
    (later : List (ProxyEvent Peers)) :
    Happens proxy run (event :: later) run event :=
  ⟨[], List.prefix_append [event] later, rfl⟩

/-- What happens in the last part of a run happens in the run. -/
theorem Happens.of_last
    (happens : Happens proxy (run.resume proxy earlier) later moment event) :
    Happens proxy run (earlier ++ later) moment event := by
  obtain ⟨events, first, rfl⟩ := happens
  refine ⟨earlier ++ events, ?_, ?_⟩
  · rw [List.append_assoc]
    exact (List.prefix_append_right_inj earlier).mpr first
  · rw [resume, resume, resume, List.foldl_append]

theorem Happens.of_step
    {first : ProxyEvent Peers}
    (happens : Happens proxy (run.step proxy first) later moment event) :
    Happens proxy run (first :: later) moment event :=
  show Happens proxy run ([first] ++ later) moment event from Happens.of_last happens

end Happens

end ProxyRun

/-! ## What a call is told instead of a connection -/

/-- Something happens around a call that does not concern its connection. -/
structure Aside (id : CallId) (before after : Fabric Conn Peers) : Prop where
  dial : after.dials.find? id = before.dials.find? id
  caller : after.pool.callers.find? id = before.pool.callers.find? id

namespace Proxy

variable {proxy : Proxy Conn Peers} {now : Instant} {fabric : Fabric Conn Peers}
variable {id other : CallId}

/-- The steps of one call do not concern the connection of another one. -/
theorem Move.aside
    {call : Call}
    {result : StepResult Conn Peers}
    (move : Move proxy now other fabric call result)
    (different : id ≠ other) :
    Aside id fabric result.fabric := by
  have stepped := ((fabric.pool.move_step other).others different)
  cases move with
  | unconnected stage cause =>
      refine ⟨Assoc.find?_erase_of_ne _ different,
        (Pool.find?_callers_abort_of_ne _ different).trans ?_⟩
      cases cause with
      | waiting live noDial noResult waits expired => exact stepped
      | _ => rfl
  | admitted stage taken => exact ⟨rfl, Pool.find?_setPhase_of_ne _ different _ _⟩
  | carriedOut stage live noDial result inTime invocation =>
      exact ⟨rfl, Pool.find?_callers_abort_of_ne _ different⟩
  | dialEnded stage live dials due =>
      exact ⟨Assoc.find?_erase_of_ne _ different,
        (fabric.pool.dialEnd_finishDial other _).others different⟩
  | joined stage live noDial noResult progress => exact ⟨rfl, stepped⟩
  | turnAwaited stage live noDial noResult waits early => exact ⟨rfl, stepped⟩
  | dialled stage live noDial noResult progress dials =>
      exact ⟨Assoc.find?_insert_of_ne _ _ different, stepped⟩
  | _ => exact ⟨rfl, rfl⟩

/-- Neither does it concern that connection when another call is given up. -/
theorem aside_abort
    (proxy : Proxy Conn Peers)
    (fabric : Fabric Conn Peers)
    (different : id ≠ other) :
    Aside id fabric (proxy.abort other fabric).1 := by
  unfold abort
  cases fabric.calls.find? other with
  | none => exact ⟨rfl, rfl⟩
  | some call =>
      simp only
      cases call.stage with
      | connecting key permit limit expiry =>
          exact ⟨Assoc.find?_erase_of_ne _ different,
            fabric.pool.find?_callers_abort_of_ne different⟩
      | _ => exact ⟨rfl, rfl⟩

/-- Why a call is told a fault instead of a connection to its service. -/
inductive Unreached (proxy : Proxy Conn Peers)
    (happens : ProxyRun Conn Peers -> ProxyEvent Peers -> Prop) (id : CallId) (service : String) :
    Fault -> Prop where
  | unknown : Unreached proxy happens id service (.unknownService service)
  | closed : Unreached proxy happens id service (Pool.closedFault service)
  /-- The call dials the service, and the dial fails. -/
  | dial {moment fault}
      (happened : happens moment (.step id))
      (dials : (moment.fabric.pool.step id).2 = .dial service)
      (failed : (proxy.dialler.dial (moment.fabric.pool.step id).1 moment.clock service
        moment.fabric.peers).1.result = .error fault) :
      Unreached proxy happens id service fault

/-- What is known of the connection of a call: whom it is to, and why it is not there. -/
structure Awaited (proxy : Proxy Conn Peers)
    (happens : ProxyRun Conn Peers -> ProxyEvent Peers -> Prop) (id : CallId) (service : String)
    (fabric : Fabric Conn Peers) : Prop where
  name : ∀ caller, fabric.pool.callers.find? id = some caller -> caller.name = service
  dial : ∀ dial fault, fabric.dials.find? id = some dial -> dial.result = .error fault ->
    Unreached proxy happens id service fault
  told : ∀ fault, fabric.pool.result? id = some (.error fault) ->
    Unreached proxy happens id service fault

namespace Awaited

variable {happens : ProxyRun Conn Peers -> ProxyEvent Peers -> Prop} {service : String}
variable {before after : Fabric Conn Peers}

theorem aside
    (awaited : Awaited proxy happens id service before)
    (aside : Aside id before after) :
    Awaited proxy happens id service after where
  name := by
    rw [aside.caller]
    exact awaited.name
  dial := by
    rw [aside.dial]
    exact awaited.dial
  told := by
    rw [Pool.result?_congr aside.caller]
    exact awaited.told

/-- A call that has not asked for a connection waits for none. -/
theorem of_absent
    (noDial : fabric.dials.find? id = none)
    (noCaller : fabric.pool.callers.find? id = none) :
    Awaited proxy happens id service fabric where
  name := fun _ found => by cases noCaller.symm.trans found
  dial := fun _ _ found => by cases noDial.symm.trans found
  told := by
    intro fault told
    rw [Pool.result?, noCaller] at told
    cases told

/-- A step towards the connection keeps what is known. -/
theorem poolStep
    (awaited : Awaited proxy happens id service fabric) :
    Awaited proxy happens id service { fabric with pool := (fabric.pool.step id).1 } where
  name := by
    intro caller found
    obtain ⟨former, present, same⟩ := (fabric.pool.move_step id).name found
    exact same.trans (awaited.name former present)
  dial := awaited.dial
  told := by
    intro fault told
    rcases (fabric.pool.move_step id).refused told with old | ⟨caller, present, refusal⟩
    · exact awaited.told fault old
    · rw [awaited.name caller present] at refusal
      rcases refusal with rfl | rfl
      · exact .closed
      · exact .unknown

/-- So does the end of a dial. -/
theorem dialEnd
    (awaited : Awaited proxy happens id service fabric)
    {dial : Timed (Except Fault Conn)}
    (dials : fabric.dials.find? id = some dial) :
    Awaited proxy happens id service
      { fabric with
        pool := (fabric.pool.finishDial id dial.result).1, dials := fabric.dials.erase id } where
  name := by
    intro caller found
    obtain ⟨former, present, same⟩ := (fabric.pool.dialEnd_finishDial id dial.result).name found
    exact same.trans (awaited.name former present)
  dial := fun _ _ found => by cases (Assoc.find?_erase_self _ _).symm.trans found
  told := by
    intro fault told
    rcases (fabric.pool.dialEnd_finishDial id dial.result).told told with old | same
    · exact awaited.told fault old
    · exact awaited.dial dial fault dials same.symm

variable {run : ProxyRun Conn Peers}

/-- So does a dial that begins. -/
theorem beginDial
    (awaited : Awaited proxy happens id service run.fabric)
    (happened : happens run (.step id))
    {name : String}
    (progress : (run.fabric.pool.step id).2 = .dial name)
    {dial : Timed (Except Fault Conn)}
    {peers : Peers}
    (dials : proxy.dialler.dial (run.fabric.pool.step id).1 run.clock name run.fabric.peers =
      (dial, peers)) :
    Awaited proxy happens id service
      { run.fabric with
        pool := (run.fabric.pool.step id).1, peers, dials := run.fabric.dials.insert id dial } where
  name := awaited.poolStep.name
  dial := by
    intro other fault found failed
    obtain rfl : dial = other :=
      Option.some.inj ((Assoc.find?_insert_self _ _ _).symm.trans found)
    have move := run.fabric.pool.move_step id
    rw [progress] at move
    obtain ⟨caller, present, rfl⟩ := move.dials
    obtain rfl := awaited.name caller present
    refine .dial happened progress ?_
    rw [dials]
    exact failed
  told := awaited.poolStep.told

/-- A step of the call keeps what is known. -/
theorem move
    {call : Call}
    (awaited : Awaited proxy happens id call.method.service run.fabric)
    (happened : happens run (.step id))
    {result : StepResult Conn Peers}
    (move : Move proxy run.clock id run.fabric call result) :
    Awaited proxy happens id call.method.service result.fabric := by
  cases move with
  | unconnected stage cause =>
      exact .of_absent (Assoc.find?_erase_self _ _) (Pool.find?_callers_abort_self _ _)
  | carriedOut stage live noDial result inTime invocation =>
      exact .of_absent noDial (Pool.find?_callers_abort_self _ _)
  | admitted stage taken =>
      refine ⟨fun caller found => Pool.name_of_find?_setPhase found, awaited.dial, ?_⟩
      intro fault told
      cases Pool.eq_finished_of_told told
  | dialEnded stage live dials due => exact awaited.dialEnd dials
  | joined stage live noDial noResult progress => exact awaited.poolStep
  | turnAwaited stage live noDial noResult waits early => exact awaited.poolStep
  | dialled stage live noDial noResult progress dials =>
      exact awaited.beginDial happened progress dials
  | _ => exact awaited.aside ⟨rfl, rfl⟩

end Awaited

end Proxy

namespace ProxyRun

variable {id : CallId}

/-- Nothing that happens concerns the connection of a call that neither makes a step nor is
given up. -/
theorem aside_step
    (proxy : Proxy Conn Peers)
    (run : ProxyRun Conn Peers)
    {event : ProxyEvent Peers}
    (steps : event ≠ .step id)
    (aborts : event ≠ .abort id) :
    Aside id run.fabric (run.step proxy event).fabric := by
  have typed : ∀ request context cached,
      Aside id run.fabric (proxy.beginTyped run.next request context cached run.fabric) := by
    intro request context cached
    obtain ⟨call, begins, -⟩ := proxy.exists_beginTyped run.next request context cached run.fabric
    rw [begins]
    exact ⟨rfl, rfl⟩
  cases event with
  | call request context cached => exact typed request context cached
  | detach request context => exact typed request _ true
  | step other =>
      have different : id ≠ other := fun same => steps (same ▸ rfl)
      cases found : run.fabric.calls.find? other with
      | none =>
          rw [step_of_absent found]
          exact ⟨rfl, rfl⟩
      | some call => exact (Proxy.move_step found).aside different
  | abort other => exact proxy.aside_abort run.fabric fun same => aborts (same ▸ rfl)
  | closePool => exact ⟨rfl, congrArg (Assoc.find? · id) run.fabric.pool.callers_close⟩
  | _ => exact ⟨rfl, rfl⟩

end ProxyRun
end MallFabric
