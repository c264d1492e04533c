import MallFabric.Proofs.Assoc
import MallFabric.Proofs.Proxy.Run

/-!
# Calls under other tokens

The tokens of the calls, and the list of those that have fired, decide nothing but
who is cancelled.  If they are exchanged for others that leave everybody cancelled
who was, and that no handler tells apart, then every step of every call does what it
did before.
-/

namespace MallFabric

variable {Conn Peers : Type}

/-- The call under another token. -/
def Call.under (call : Call) (token : Token) : Call :=
  { call with context := { call.context with token } }

namespace Call

@[simp] theorem method_under (call : Call) (token : Token) :
    (call.under token).method = call.method := rfl

@[simp] theorem payload_under (call : Call) (token : Token) :
    (call.under token).payload = call.payload := rfl

@[simp] theorem stage_under (call : Call) (token : Token) :
    (call.under token).stage = call.stage := rfl

end Call

namespace Fabric

/-- The fabric with each call under the token that is chosen for it, and with the given
shared tokens fired. -/
def retoken (fabric : Fabric Conn Peers) (choose : CallId -> Token -> Token)
    (fired : List String) : Fabric Conn Peers :=
  { fabric with
    calls := fabric.calls.mapValues fun id call => call.under (choose id call.context.token)
    fired }

variable {fabric : Fabric Conn Peers} {choose : CallId -> Token -> Token} {fired : List String}

theorem find?_retoken
    (fabric : Fabric Conn Peers)
    (choose : CallId -> Token -> Token)
    (fired : List String)
    (id : CallId) :
    (fabric.retoken choose fired).calls.find? id =
      (fabric.calls.find? id).map fun call => call.under (choose id call.context.token) := by
  rw [retoken, Assoc.find?_mapValues]

theorem setCall_retoken
    (fabric : Fabric Conn Peers)
    (id : CallId)
    (call : Call)
    (choose : CallId -> Token -> Token)
    (fired : List String) :
    (fabric.retoken choose fired).setCall id (call.under (choose id call.context.token)) =
      (fabric.setCall id call).retoken choose fired := by
  simp only [setCall, retoken, Assoc.mapValues_insert]

/-- A call comes to the same result under every token. -/
theorem result?_retoken
    (fabric : Fabric Conn Peers)
    (choose : CallId -> Token -> Token)
    (fired : List String)
    (id : CallId) :
    (fabric.retoken choose fired).result? id = fabric.result? id := by
  rw [result?, result?, find?_retoken]
  cases fabric.calls.find? id with
  | none => rfl
  | some call => rfl

end Fabric

namespace Proxy

/-- What a step came to, with other tokens. -/
def StepResult.retoken (result : StepResult Conn Peers) (choose : CallId -> Token -> Token)
    (fired : List String) : StepResult Conn Peers :=
  { result with fabric := result.fabric.retoken choose fired }

/-- A call that is under another token is cancelled if it was, and its handler does not
tell the tokens apart. -/
structure Indifferent (proxy : Proxy Conn Peers) (before after : List String) (call : Call)
    (token : Token) : Prop where
  cancelled : token.isFired after = call.context.isCancelled before
  invoked : ∀ conn now peers,
    proxy.table.invokeRaw conn call.method (call.under token).context now call.payload peers =
      proxy.table.invokeRaw conn call.method call.context now call.payload peers

variable {proxy : Proxy Conn Peers} {now : Instant} {id : CallId} {fabric : Fabric Conn Peers}
variable {call : Call} {choose : CallId -> Token -> Token} {fired : List String}

theorem moved_retoken
    (fabric : Fabric Conn Peers)
    (id : CallId)
    (call : Call)
    (acts : List CallAct)
    (stage : CallStage)
    (choose : CallId -> Token -> Token)
    (fired : List String) :
    moved (fabric.retoken choose fired) id (call.under (choose id call.context.token)) acts stage =
      (moved fabric id call acts stage).retoken choose fired := by
  have kept := fabric.setCall_retoken id { call with stage } choose fired
  simp only [moved, StepResult.retoken, ← kept]
  rfl

theorem conclude_retoken
    (proxy : Proxy Conn Peers)
    (now : Instant)
    (fabric : Fabric Conn Peers)
    (id : CallId)
    (call : Call)
    (key : Option String)
    (permit : Permit)
    (limit : Duration)
    (reply : Reply Bytes)
    (choose : CallId -> Token -> Token)
    (fired : List String) :
    proxy.conclude now (fabric.retoken choose fired) id
        (call.under (choose id call.context.token)) key permit limit reply =
      (proxy.conclude now fabric id call key permit limit reply).retoken choose fired := by
  unfold conclude
  extract_lets circuit settlement
  exact moved_retoken
    (fabric.setCircuit call.method (circuit.endPermit now permit settlement.outcome)) id call _ _ _ _

theorem giveUp_retoken
    (proxy : Proxy Conn Peers)
    (now : Instant)
    (fabric : Fabric Conn Peers)
    (id : CallId)
    (call : Call)
    (key : Option String)
    (permit : Permit)
    (limit : Duration)
    (fault : Fault)
    (choose : CallId -> Token -> Token)
    (fired : List String) :
    proxy.giveUp now (fabric.retoken choose fired) id
        (call.under (choose id call.context.token)) key permit limit fault =
      (proxy.giveUp now fabric id call key permit limit fault).retoken choose fired := by
  have concluded := proxy.conclude_retoken now
    { fabric with pool := (fabric.pool.abort id).1, dials := fabric.dials.erase id } id call key
    permit limit (.fault fault) choose fired
  exact congrArg (fun result => { result with woken := (fabric.pool.abort id).2 }) concluded

theorem connect_retoken
    (proxy : Proxy Conn Peers)
    (now : Instant)
    (fabric : Fabric Conn Peers)
    (id : CallId)
    (call : Call)
    (indifferent : Indifferent proxy fabric.fired fired call (choose id call.context.token))
    (key : Option String)
    (permit : Permit)
    (limit : Duration)
    (expiry : Instant) :
    proxy.connect now (fabric.retoken choose fired) id
        (call.under (choose id call.context.token)) key permit limit expiry =
      (proxy.connect now fabric id call key permit limit expiry).retoken choose fired := by
  have gaveUp := fun (between : Fabric Conn Peers) fault =>
    proxy.giveUp_retoken now between id call key permit limit fault choose fired
  have goesTo := fun (between : Fabric Conn Peers) acts stage =>
    moved_retoken between id call acts stage choose fired
  have dials : (fabric.retoken choose fired).dials = fabric.dials := rfl
  have pool : (fabric.retoken choose fired).pool = fabric.pool := rfl
  have peers : (fabric.retoken choose fired).peers = fabric.peers := rfl
  unfold connect
  simp only [dials, pool, peers, Call.method_under, Call.payload_under]
  cases fabric.dials.find? id with
  | some dial =>
      by_cases due : dial.due ≤ now
      · simp only [due, if_true]
        rfl
      · by_cases expired : expiry ≤ now
        · simp only [due, expired, if_true, if_false]
          exact gaveUp fabric .timeout
        · simp only [due, expired, if_false]
          rfl
  | none =>
      cases fabric.pool.result? id with
      | some result =>
          cases result with
          | error fault => exact gaveUp fabric fault
          | ok conn =>
              simp only [indifferent.invoked conn now fabric.peers]
              by_cases hindered :
                  expiry ≤ now ∧ proxy.table.departs call.method call.payload = true
              · rw [if_pos hindered, if_pos hindered]
                exact gaveUp fabric .timeout
              · rw [if_neg hindered, if_neg hindered]
                exact goesTo { fabric with pool := _, peers := _ } _ _
      | none =>
          obtain ⟨⟨stepped, progress⟩, answer⟩ : ∃ answer, fabric.pool.step id = answer :=
            ⟨_, rfl⟩
          simp only [answer]
          cases progress with
          | moved => rfl
          | dial name => rfl
          | blocked =>
              by_cases expired : expiry ≤ now
              · simp only [expired, if_true]
                exact gaveUp { fabric with pool := stepped } .timeout
              · simp only [expired, if_false]
                rfl

/-- A step of a call whose handler does not tell the tokens apart is the same under the
other tokens. -/
theorem step_retoken
    (proxy : Proxy Conn Peers)
    (now : Instant)
    (id : CallId)
    (fabric : Fabric Conn Peers)
    (indifferent : ∀ call, fabric.calls.find? id = some call ->
      Indifferent proxy fabric.fired fired call (choose id call.context.token)) :
    proxy.step now id (fabric.retoken choose fired) =
      (proxy.step now id fabric).retoken choose fired := by
  unfold step
  rw [Fabric.find?_retoken]
  cases found : fabric.calls.find? id with
  | none => rfl
  | some call =>
      have alike := indifferent call found
      have cancelled : (call.under (choose id call.context.token)).context.isCancelled
          (fabric.retoken choose fired).fired = call.context.isCancelled fabric.fired :=
        alike.cancelled
      have circuit : ∀ method, (fabric.retoken choose fired).circuit proxy.config.circuit method =
          fabric.circuit proxy.config.circuit method := fun _ => rfl
      have cache : (fabric.retoken choose fired).cache = fabric.cache := rfl
      have goesTo := fun (between : Fabric Conn Peers) acts stage =>
        moved_retoken between id call acts stage choose fired
      simp only [Option.map_some, cancelled, circuit, cache, Call.method_under,
        Call.payload_under, Call.stage_under]
      cases stage : call.stage with
      | arriving =>
          simp only
          by_cases missing : (!proxy.table.contains call.method) = true
          · simp only [if_pos missing]
            exact goesTo fabric _ _
          · by_cases given : call.context.isCancelled fabric.fired = true
            · simp only [if_neg missing, if_pos given]
              exact goesTo fabric _ _
            · by_cases cached : call.useCache = true
              · simp only [if_neg missing, if_neg given]
                rw [if_pos (show (call.under (choose id call.context.token)).useCache = true from cached),
                  if_pos cached]
                exact goesTo fabric _ _
              · simp only [if_neg missing, if_neg given]
                rw [if_neg (show ¬ (call.under (choose id call.context.token)).useCache = true from
                  cached), if_neg cached]
                exact goesTo fabric _ _
      | lookingUp key =>
          cases found : (fabric.cache.get now key).1 with
          | some answer =>
              simp only [found]
              exact goesTo { fabric with cache := _ } _ _
          | none =>
              simp only [found]
              exact goesTo { fabric with cache := _ } _ _
      | admitting key =>
          obtain ⟨⟨verdict, decided⟩, decision⟩ :
              ∃ answer, (fabric.circuit proxy.config.circuit call.method).decide now = answer :=
            ⟨_, rfl⟩
          simp only [decision]
          cases verdict with
          | ok trial => exact goesTo (fabric.setCircuit call.method decided) _ _
          | error rejection => exact goesTo (fabric.setCircuit call.method decided) _ _
      | claiming key since trial =>
          cases taken : (fabric.circuit proxy.config.circuit call.method).takeSlot with
          | some holding =>
              exact goesTo { fabric.setCircuit call.method holding with pool := _ } _ _
          | none => exact goesTo (fabric.setCircuit call.method _) _ _
      | connecting key permit limit expiry =>
          cases given : call.context.isCancelled fabric.fired with
          | true => exact proxy.giveUp_retoken now fabric id call key permit limit .cancelled choose fired
          | false => exact connect_retoken _ _ _ _ _ alike _ _ _ _
      | handling key permit limit expiry reply =>
          have ended := fun ending =>
            proxy.conclude_retoken now fabric id call key permit limit ending choose fired
          cases given : call.context.isCancelled fabric.fired with
          | true => exact ended _
          | false =>
              by_cases due : reply.due ≤ now
              · simp only [due, if_true]
                exact ended _
              · by_cases expired : expiry ≤ now
                · simp only [due, expired, if_true, if_false]
                  exact ended _
                · simp only [due, expired, if_false]
                  rfl
      | storing key answer => exact goesTo { fabric with cache := _ } _ _
      | finished result => rfl
      | crashed => rfl

theorem abort_retoken
    (proxy : Proxy Conn Peers)
    (id : CallId)
    (fabric : Fabric Conn Peers)
    (choose : CallId -> Token -> Token)
    (fired : List String) :
    proxy.abort id (fabric.retoken choose fired) =
      ((proxy.abort id fabric).1.retoken choose fired, (proxy.abort id fabric).2) := by
  have forgotten : (fabric.retoken choose fired).calls.erase id =
      (fabric.calls.erase id).mapValues fun other call =>
        call.under (choose other call.context.token) := by
    rw [Assoc.mapValues_erase]
    rfl
  have circuit : ∀ method, (fabric.retoken choose fired).circuit proxy.config.circuit method =
      fabric.circuit proxy.config.circuit method := fun _ => rfl
  unfold abort
  simp only [Fabric.find?_retoken, forgotten, circuit]
  cases fabric.calls.find? id with
  | none => rfl
  | some call =>
      simp only [Option.map_some, Call.stage_under, Call.method_under]
      cases call.stage with
      | connecting key permit limit expiry => rfl
      | handling key permit limit expiry reply => rfl
      | _ => rfl

theorem begin_retoken
    (proxy : Proxy Conn Peers)
    (id : CallId)
    (method : Method)
    (context : CallContext)
    (payload : Bytes)
    (cached : Bool)
    (fabric : Fabric Conn Peers)
    (choose : CallId -> Token -> Token)
    (fired : List String) :
    proxy.begin id method { context with token := choose id context.token } payload cached
        (fabric.retoken choose fired) =
      (proxy.begin id method context payload cached fabric).retoken choose fired :=
  fabric.setCall_retoken id
    ⟨method, context, payload, cached && proxy.caches fabric.cache method, .arriving⟩ choose fired

theorem beginTyped_retoken
    (proxy : Proxy Conn Peers)
    (id : CallId)
    (typed : TypedRequest)
    (context : CallContext)
    (cached : Bool)
    (fabric : Fabric Conn Peers)
    (choose : CallId -> Token -> Token)
    (fired : List String) :
    proxy.beginTyped id typed { context with token := choose id context.token } cached
        (fabric.retoken choose fired) =
      (proxy.beginTyped id typed context cached fabric).retoken choose fired := by
  unfold beginTyped
  cases proxy.table.contract typed.method typed.request typed.response with
  | ok done =>
      exact proxy.begin_retoken id typed.method context typed.payload cached fabric choose fired
  | error fault =>
      exact fabric.setCall_retoken id
        ⟨typed.method, context, [], false, .finished (.error fault)⟩ choose fired

/-- A typed call begins as a call of its method in its context. -/
theorem exists_beginTyped
    (proxy : Proxy Conn Peers)
    (id : CallId)
    (typed : TypedRequest)
    (context : CallContext)
    (cached : Bool)
    (fabric : Fabric Conn Peers) :
    ∃ call : Call, proxy.beginTyped id typed context cached fabric = fabric.setCall id call ∧
      call.method = typed.method ∧ call.context = context := by
  unfold beginTyped
  cases proxy.table.contract typed.method typed.request typed.response with
  | ok done => exact ⟨_, rfl, rfl, rfl⟩
  | error fault => exact ⟨_, rfl, rfl, rfl⟩

theorem Move.sameFired
    {result : StepResult Conn Peers}
    (move : Move proxy now id fabric call result) :
    result.fabric.fired = fabric.fired := by
  cases move with
  | _ => rfl

/-- No step fires a token. -/
theorem fired_step
    (proxy : Proxy Conn Peers)
    (now : Instant)
    (id : CallId)
    (fabric : Fabric Conn Peers) :
    (proxy.step now id fabric).fabric.fired = fabric.fired := by
  cases found : fabric.calls.find? id with
  | none =>
      simp only [step, found]
      rfl
  | some call => exact (move_step found).sameFired

theorem fired_abort
    (proxy : Proxy Conn Peers)
    (id : CallId)
    (fabric : Fabric Conn Peers) :
    (proxy.abort id fabric).1.fired = fabric.fired := by
  unfold abort
  cases fabric.calls.find? id with
  | none => rfl
  | some call =>
      simp only
      cases call.stage with
      | _ => rfl

end Proxy

/-! ## Runs under other tokens -/

namespace ProxyEvent

/-- The tokens that have fired after an event. -/
def firing (event : ProxyEvent Peers) (fired : List String) : List String :=
  match event with
  | fire token => token :: fired
  | _ => fired

/-- The token of a call that begins attached to its caller. -/
def token? : ProxyEvent Peers -> Option Token
  | call _ context _ => some context.token
  | raw _ context _ => some context.token
  | _ => none

end ProxyEvent

namespace ProxyRun

/-- The run with each call under the token that is chosen for it, and with the given
shared tokens fired. -/
def retoken (run : ProxyRun Conn Peers) (choose : CallId -> Token -> Token)
    (fired : List String) : ProxyRun Conn Peers :=
  { run with fabric := run.fabric.retoken choose fired }

variable {proxy : Proxy Conn Peers} {run : ProxyRun Conn Peers}
variable {choose : CallId -> Token -> Token} {fired : List String}

/-- Only a token that fires is added to those that have. -/
theorem fired_step
    (proxy : Proxy Conn Peers)
    (run : ProxyRun Conn Peers)
    (event : ProxyEvent Peers) :
    (run.step proxy event).fabric.fired = event.firing run.fabric.fired := by
  have typed : ∀ id (typed : TypedRequest) context cached,
      (proxy.beginTyped id typed context cached run.fabric).fired = run.fabric.fired := by
    intro id typed context cached
    obtain ⟨call, begun, -⟩ := proxy.exists_beginTyped id typed context cached run.fabric
    rw [begun]
    rfl
  cases event with
  | call request context cached => exact typed _ _ _ _
  | detach request context => exact typed _ _ _ _
  | step id => exact Proxy.fired_step proxy run.clock id run.fabric
  | abort id => exact Proxy.fired_abort proxy id run.fabric
  | _ => rfl

/-- The same is seen of a call under another token. -/
theorem observe_retoken
    (run : ProxyRun Conn Peers)
    (id : CallId)
    (after : Fabric Conn Peers)
    (choose : CallId -> Token -> Token)
    (fired later : List String) :
    (run.retoken choose fired).observe id (after.retoken choose later) = run.observe id after := by
  unfold observe
  rw [retoken, Fabric.find?_retoken, Fabric.find?_retoken]
  cases run.fabric.calls.find? id with
  | none => rfl
  | some call =>
      cases after.calls.find? id with
      | none => rfl
      | some other => rfl

/-- What happens to a run happens in the same way to the run under other tokens, if
these change nothing for its calls, and not the token of a call that begins. -/
theorem step_retoken
    (proxy : Proxy Conn Peers)
    (run : ProxyRun Conn Peers)
    (event : ProxyEvent Peers)
    (indifferent : ∀ id call, run.fabric.calls.find? id = some call ->
      Proxy.Indifferent proxy run.fabric.fired fired call (choose id call.context.token))
    (attached : ∀ token ∈ event.token?, choose run.next token = token)
    (detached : choose run.next (.own false) = .own false) :
    (run.retoken choose fired).step proxy event =
      (run.step proxy event).retoken choose (event.firing fired) := by
  have typed : ∀ (request : TypedRequest) context cached,
      choose run.next context.token = context.token ->
        proxy.beginTyped run.next request context cached (run.fabric.retoken choose fired) =
          (proxy.beginTyped run.next request context cached run.fabric).retoken choose fired := by
    intro request context cached kept
    have alike := proxy.beginTyped_retoken run.next request context cached run.fabric choose fired
    rwa [kept] at alike
  cases event with
  | call request context cached =>
      exact congrArg run.begun (typed request context cached (attached _ rfl))
  | detach request context =>
      exact congrArg run.begun (typed request (Proxy.detachedContext context) true detached)
  | raw method context payload =>
      have alike := proxy.begin_retoken run.next method context payload true run.fabric choose
        fired
      rw [attached _ rfl] at alike
      exact congrArg run.begun alike
  | step id =>
      have alike := Proxy.step_retoken proxy run.clock id run.fabric (indifferent id)
      have seen := run.observe_retoken id (proxy.step run.clock id run.fabric).fabric choose fired
        fired
      simp only [step]
      rw [show (run.retoken choose fired).fabric = run.fabric.retoken choose fired from rfl,
        show (run.retoken choose fired).clock = run.clock from rfl, alike]
      exact congrArg
        (fun notes => ProxyRun.mk run.clock
          ((proxy.step run.clock id run.fabric).fabric.retoken choose fired) run.next
          (notes ++ run.notes)) seen
  | abort id =>
      have alike := proxy.abort_retoken id run.fabric choose fired
      exact congrArg (fun left => { run with fabric := left.1 }) alike
  | fire token => rfl
  | pass span => rfl
  | change peers => rfl
  | closePool => rfl

end ProxyRun
end MallFabric
