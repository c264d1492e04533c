import MallFabric.Proofs.Proxy.Provenance
import MallFabric.Proofs.Proxy.Waiting

/-!
# Detached calls

A detached call goes on as the attached one would whose caller never gives up, and
whoever waits for it learns the same.  When the waiter gives up, nothing but the wait
changes: not the call, and not what it leaves behind.
-/

namespace MallFabric

variable {Conn Peers : Type}

namespace ProxyRun

/-- Two runs that differ in the tokens of their calls at most: the same was seen of the
same calls, which came to the same results, and left circuits, cache, connections and
services the same. -/
structure SameEffects (first second : ProxyRun Conn Peers) : Prop where
  clock : second.clock = first.clock
  next : second.next = first.next
  notes : second.notes = first.notes
  cache : second.fabric.cache = first.fabric.cache
  circuits : second.fabric.circuits = first.fabric.circuits
  pool : second.fabric.pool = first.fabric.pool
  dials : second.fabric.dials = first.fabric.dials
  peers : second.fabric.peers = first.fabric.peers
  results : ∀ id, second.fabric.result? id = first.fabric.result? id

theorem sameEffects_retoken
    (run : ProxyRun Conn Peers)
    (choose : CallId -> Token -> Token)
    (fired : List String) :
    SameEffects run (run.retoken choose fired) where
  clock := rfl
  next := rfl
  notes := rfl
  cache := rfl
  circuits := rfl
  pool := rfl
  dials := rfl
  peers := rfl
  results := run.fabric.result?_retoken choose fired

variable {proxy : Proxy Conn Peers} {run : ProxyRun Conn Peers}

/-! ## Attached and detached -/

/-- The handler of a method does not tell the token of a context, which has not fired,
from one that nobody fires: all that a token tells is whether it has fired. -/
def TokenBlind (proxy : Proxy Conn Peers) (method : Method) (context : CallContext) : Prop :=
  ∀ conn now payload peers,
    proxy.table.invokeRaw conn method (Proxy.detachedContext context) now payload peers =
      proxy.table.invokeRaw conn method context now payload peers

/-- No event fires the token. -/
def Spared (token : Token) (events : List (ProxyEvent Peers)) : Prop :=
  ∀ name, token = .shared name -> .fire name ∉ events

/-- The call `number` gets a token of its own, and every other call keeps its token. -/
def detaching (number id : CallId) (token : Token) : Token :=
  if id = number then .own false else token

/-- A call that has begun in a context whose token has not fired. -/
structure Attended (run : ProxyRun Conn Peers) (number : CallId) (method : Method)
    (context : CallContext) : Prop where
  counted : number < run.next
  known : ∀ call, run.fabric.calls.find? number = some call ->
    call.method = method ∧ call.context = context
  live : context.token.isFired run.fabric.fired = false

namespace Attended

variable {number : CallId} {method : Method} {context : CallContext}

theorem step
    (attended : run.Attended number method context)
    (proxy : Proxy Conn Peers)
    (event : ProxyEvent Peers)
    (spared : ∀ name, context.token = .shared name -> event ≠ .fire name) :
    (run.step proxy event).Attended number method context where
  counted := Nat.lt_of_lt_of_le attended.counted (next_le_step proxy run event)
  known := by
    intro call found
    cases descends_of_find?_step found with
    | @older before stage present goesOn rests =>
        rw [goesOn]
        exact attended.known before present
    | begun same token => exact absurd same (Nat.ne_of_lt attended.counted)
  live := isFired_step attended.live spared

/-- An event does to the run in which the call is detached what it does to the run in
which it is attached. -/
theorem step_detaching
    (attended : run.Attended number method context)
    (blind : TokenBlind proxy method context)
    (event : ProxyEvent Peers) :
    (run.retoken (detaching number) run.fabric.fired).step proxy event =
      (run.step proxy event).retoken (detaching number) (run.step proxy event).fabric.fired := by
  rw [fired_step]
  have later : ∀ token, detaching number run.next token = token :=
    fun token => if_neg (Nat.ne_of_gt attended.counted)
  refine step_retoken proxy run event ?_ (fun token _ => later token) (later _)
  intro id call found
  by_cases same : id = number
  · subst same
    obtain ⟨rfl, inContext⟩ := attended.known call found
    refine ⟨?_, ?_⟩
    · rw [detaching, if_pos rfl, inContext]
      exact attended.live.symm
    · intro conn now peers
      rw [detaching, if_pos rfl, Call.under, inContext]
      exact blind conn now call.payload peers
  · rw [detaching, if_neg same]
    exact ⟨rfl, fun conn now peers => rfl⟩

/-- A run in which a call is detached goes on like the one in which it is attached. -/
theorem resume_detaching
    (attended : run.Attended number method context)
    (blind : TokenBlind proxy method context)
    (events : List (ProxyEvent Peers))
    (spared : Spared context.token events) :
    (run.retoken (detaching number) run.fabric.fired).resume proxy events =
      (run.resume proxy events).retoken (detaching number)
        (run.resume proxy events).fabric.fired := by
  induction events generalizing run with
  | nil => rfl
  | cons event rest inductionHypothesis =>
      have later := attended.step proxy event fun name shared same =>
        spared name shared (same ▸ List.mem_cons_self)
      have goesOn := inductionHypothesis later fun name shared fires =>
        spared name shared (List.mem_cons_of_mem _ fires)
      rw [resume, List.foldl_cons, attended.step_detaching blind event]
      exact goesOn

/-- Whoever looks at the detached call sees what the attached one has come to.  A call
that broke down tells its waiter that it is cancelled. -/
theorem advance_detaching
    (attended : run.Attended number method context) :
    Waiter.advance ⟨number, context.token, none⟩
        (run.retoken (detaching number) run.fabric.fired).fabric =
      ⟨number, context.token,
        (run.fabric.result? number).map (·.getD (.error .cancelled))⟩ := by
  rw [Waiter.advance_of_live rfl attended.live]
  congr 2
  exact run.fabric.result?_retoken _ _ number

/-- Who waits for the detached call learns what the caller of the attached one is
told. -/
theorem watch_detaching
    (attended : run.Attended number method context)
    (blind : TokenBlind proxy method context)
    (events : List (ProxyEvent Peers))
    (spared : Spared context.token events) :
    (watch proxy ⟨number, context.token, none⟩
        (run.retoken (detaching number) run.fabric.fired) events).outcome =
      (learnt proxy number run events).map (·.getD (.error .cancelled)) := by
  induction events generalizing run with
  | nil => rw [watch, attended.advance_detaching, learnt]
  | cons event rest inductionHypothesis =>
      rw [watch, attended.advance_detaching, learnt]
      cases ended : run.fabric.result? number with
      | some result =>
          rw [watch_of_outcome rfl]
          rfl
      | none =>
          have later := attended.step proxy event fun name shared same =>
            spared name shared (same ▸ List.mem_cons_self)
          rw [attended.step_detaching blind event, Option.none_or]
          exact inductionHypothesis later fun name shared fires =>
            spared name shared (List.mem_cons_of_mem _ fires)

end Attended

/-- A call begins attached as it begins detached. -/
theorem step_detach_eq
    (typed : TypedRequest)
    (context : CallContext)
    (fresh : run.fabric.calls.find? run.next = none) :
    run.step proxy (.detach typed context) =
      (run.step proxy (.call typed context true)).retoken (detaching run.next)
        run.fabric.fired := by
  have kept : run.fabric.retoken (detaching run.next) run.fabric.fired = run.fabric := by
    have same : run.fabric.calls.mapValues (fun id call =>
        call.under (detaching run.next id call.context.token)) = run.fabric.calls := by
      refine Assoc.mapValues_eq_self fun entry present => ?_
      have other : entry.1 ≠ run.next := by
        intro equal
        have absent := (Assoc.find?_eq_none_iff _ _).mp fresh
        exact absent (equal ▸ List.mem_map_of_mem present)
      rw [detaching, if_neg other]
      rfl
    rw [Fabric.retoken, same]
  have begins := proxy.beginTyped_retoken run.next typed context true run.fabric
    (detaching run.next) run.fabric.fired
  rw [kept, detaching, if_pos rfl] at begins
  exact congrArg run.begun begins

/-- A call that begins in a context whose token has not fired. -/
theorem attended_step_call
    (proxy : Proxy Conn Peers)
    (typed : TypedRequest)
    {context : CallContext}
    (cached : Bool)
    (live : context.token.isFired run.fabric.fired = false) :
    (run.step proxy (.call typed context cached)).Attended run.next typed.method context where
  counted := Nat.lt_succ_self _
  known := by
    intro call found
    obtain ⟨new, begun, method, inContext⟩ :=
      proxy.exists_beginTyped run.next typed context cached run.fabric
    simp only [step, ProxyRun.begun, begun, Fabric.setCall, Assoc.find?_insert_self] at found
    obtain rfl : new = call := Option.some.inj found
    exact ⟨method, inContext⟩
  live := by
    rw [fired_step]
    exact live

/-! ## A token that fires -/

/-- The fired tokens without one of them. -/
def silenced (name : String) (fired : List String) : List String :=
  fired.filter (· ≠ name)

/-- The run in which the token has not fired. -/
def silence (run : ProxyRun Conn Peers) (name : String) : ProxyRun Conn Peers :=
  run.retoken (fun _ token => token) (silenced name run.fabric.fired)

/-- No call of the run is under the token. -/
def Unattached (run : ProxyRun Conn Peers) (name : String) : Prop :=
  ∀ id call, run.fabric.calls.find? id = some call -> call.context.token ≠ .shared name

end ProxyRun

namespace ProxyEvent

/-- Whether an event fires the token. -/
def fires (name : String) : ProxyEvent Peers -> Bool
  | fire token => token = name
  | _ => false

end ProxyEvent

namespace ProxyRun

variable {proxy : Proxy Conn Peers} {run : ProxyRun Conn Peers} {name : String}

/-- The events without those that fire the token. -/
def sparing (name : String) (events : List (ProxyEvent Peers)) : List (ProxyEvent Peers) :=
  events.filter fun event => !event.fires name

theorem isFired_silenced
    {token : Token}
    (other : token ≠ .shared name)
    (fired : List String) :
    token.isFired (silenced name fired) = token.isFired fired := by
  cases token with
  | own given => rfl
  | shared shown =>
      have apart : shown ≠ name := fun same => other (same ▸ rfl)
      simp [Token.isFired, silenced, apart]

theorem not_isFired_silenced
    (name : String)
    (fired : List String) :
    (Token.shared name).isFired (silenced name fired) = false := by
  simp [Token.isFired, silenced]

theorem silenced_firing
    {event : ProxyEvent Peers}
    (other : event.fires name = false)
    (fired : List String) :
    silenced name (event.firing fired) = event.firing (silenced name fired) := by
  cases event with
  | fire token =>
      have apart : token ≠ name := by simpa [ProxyEvent.fires] using other
      simp [ProxyEvent.firing, silenced, apart]
  | _ => rfl

/-- Nobody is affected by a token that no call is under. -/
theorem Unattached.step
    (unattached : run.Unattached name)
    (proxy : Proxy Conn Peers)
    {event : ProxyEvent Peers}
    (begins : event.token? ≠ some (.shared name)) :
    (run.step proxy event).Unattached name := by
  intro id call found
  cases descends_of_find?_step found with
  | @older before stage present goesOn rests =>
      rw [goesOn]
      exact unattached id before present
  | begun same token =>
      intro equal
      rcases token with attached | detached
      · exact begins (equal ▸ attached)
      · rw [equal] at detached
        cases detached

/-- What does not fire the token happens to the run in which it has not fired as it
happens to the run. -/
theorem Unattached.step_silence
    (unattached : run.Unattached name)
    {event : ProxyEvent Peers}
    (other : event.fires name = false) :
    (run.silence name).step proxy event = (run.step proxy event).silence name := by
  rw [silence, silence, fired_step, silenced_firing other]
  refine step_retoken proxy run event ?_ (fun token _ => rfl) rfl
  intro id call found
  exact ⟨isFired_silenced (unattached id call found) _, fun conn now peers => rfl⟩

/-- Where the token has not fired, nothing is seen of its firing. -/
theorem silence_step_of_fires
    {event : ProxyEvent Peers}
    (fires : event.fires name = true) :
    (run.step proxy event).silence name = run.silence name := by
  cases event with
  | fire token =>
      obtain rfl : token = name := by simpa [ProxyEvent.fires] using fires
      have same : silenced token (token :: run.fabric.fired) = silenced token run.fabric.fired := by
        simp [silenced]
      simp only [step, silence, same]
      rfl
  | _ => cases fires

/-- A run in which a token fires that no call is under is like the run without it. -/
theorem Unattached.resume_sparing
    (unattached : run.Unattached name)
    (events : List (ProxyEvent Peers))
    (begins : ∀ event ∈ events, event.token? ≠ some (.shared name)) :
    (run.silence name).resume proxy (sparing name events) =
      (run.resume proxy events).silence name := by
  induction events generalizing run with
  | nil => rfl
  | cons event rest inductionHypothesis =>
      have later := unattached.step proxy (begins event List.mem_cons_self)
      have goesOn := inductionHypothesis later fun other present =>
        begins other (List.mem_cons_of_mem _ present)
      cases fires : event.fires name with
      | true =>
          rw [silence_step_of_fires fires] at goesOn
          rw [sparing, List.filter_cons_of_neg (by simp [fires])]
          exact goesOn
      | false =>
          rw [← unattached.step_silence fires] at goesOn
          rw [sparing, List.filter_cons_of_pos (by simp [fires])]
          exact goesOn

/-- Whoever waits under a token that has not fired sees the same where it never fires. -/
theorem advance_silence
    {waiter : Waiter}
    (under : waiter.token = .shared name)
    (live : (Token.shared name).isFired run.fabric.fired = false) :
    waiter.advance (run.silence name).fabric = waiter.advance run.fabric := by
  cases ended : waiter.outcome with
  | some outcome => rw [Waiter.advance_of_outcome ended, Waiter.advance_of_outcome ended]
  | none =>
      have silent : waiter.token.isFired (run.silence name).fabric.fired = false :=
        under ▸ not_isFired_silenced name run.fabric.fired
      have loud : waiter.token.isFired run.fabric.fired = false := under ▸ live
      rw [Waiter.advance_of_live ended silent, Waiter.advance_of_live ended loud]
      exact congrArg
        (fun seen => Waiter.mk waiter.call waiter.token (seen.map (·.getD (.error .cancelled))))
        (run.fabric.result?_retoken _ _ waiter.call)

/-- A wait that is not over when its token has fired is cancelled. -/
theorem watch_of_isFired
    {waiter : Waiter}
    (under : waiter.token = .shared name)
    (fired : (Token.shared name).isFired run.fabric.fired = true)
    (other : ProxyRun Conn Peers)
    (events others : List (ProxyEvent Peers)) :
    (watch proxy waiter run events).outcome = (watch proxy waiter other others).outcome ∨
      (name ∈ (run.resume proxy events).fabric.fired ∧
        (watch proxy waiter run events).outcome = some (.error .cancelled)) := by
  cases ended : waiter.outcome with
  | some outcome =>
      left
      rw [watch_of_outcome ended, watch_of_outcome ended]
  | none =>
      have given : name ∈ run.fabric.fired := by simpa [Token.isFired] using fired
      refine .inr ⟨fired_subset_resume proxy run events given, ?_⟩
      have cancelled := Waiter.advance_of_fired ended (under ▸ fired)
      rw [← watch_advance, cancelled, watch_of_outcome rfl]

/-- A wait under a token that may fire comes to what it would have come to without, or
the token has fired and it is cancelled. -/
theorem Unattached.watch_sparing
    (unattached : run.Unattached name)
    (waiter : Waiter)
    (under : waiter.token = .shared name)
    (events : List (ProxyEvent Peers))
    (begins : ∀ event ∈ events, event.token? ≠ some (.shared name)) :
    (watch proxy waiter run events).outcome =
        (watch proxy waiter (run.silence name) (sparing name events)).outcome ∨
      (name ∈ (run.resume proxy events).fabric.fired ∧
        (watch proxy waiter run events).outcome = some (.error .cancelled)) := by
  induction events generalizing run waiter with
  | nil =>
      cases fired : (Token.shared name).isFired run.fabric.fired with
      | true => exact watch_of_isFired under fired _ _ _
      | false => exact .inl (congrArg Waiter.outcome (advance_silence under fired).symm)
  | cons event rest inductionHypothesis =>
      cases fired : (Token.shared name).isFired run.fabric.fired with
      | true => exact watch_of_isFired under fired _ _ _
      | false =>
          have later := unattached.step proxy (begins event List.mem_cons_self)
          have looked := inductionHypothesis later (waiter.advance run.fabric)
            ((waiter.token_advance _).trans under)
            fun other present => begins other (List.mem_cons_of_mem _ present)
          have same := advance_silence under fired
          cases fires : event.fires name with
          | true =>
              rw [silence_step_of_fires fires, ← same, watch_advance] at looked
              rw [sparing, List.filter_cons_of_neg (by simp [fires]), watch, ← same]
              exact looked
          | false =>
              rw [← unattached.step_silence fires] at looked
              rw [sparing, List.filter_cons_of_pos (by simp [fires]), watch, watch, same]
              exact looked

/-- No step of a call under a token of its own depends on the shared ones. -/
theorem step_of_own
    (proxy : Proxy Conn Peers)
    (now : Instant)
    (id : CallId)
    (fabric : Fabric Conn Peers)
    {given : Bool}
    (own : ∀ call, fabric.calls.find? id = some call -> call.context.token = .own given)
    (fired : List String) :
    proxy.step now id { fabric with fired } =
      (proxy.step now id fabric).retoken (fun _ token => token) fired := by
  have same : fabric.calls.mapValues (fun _ call => call.under call.context.token) =
      fabric.calls :=
    Assoc.mapValues_eq_self fun entry present => rfl
  have kept : fabric.retoken (fun _ token => token) fired = { fabric with fired } := by
    rw [Fabric.retoken, same]
  rw [← kept]
  refine Proxy.step_retoken proxy now id fabric fun call found => ⟨?_, fun conn now peers => rfl⟩
  rw [CallContext.isCancelled, own call found]
  rfl

/-- To detach a call is to make it, and to give up the wait for it is to give up nothing
else. -/
structure DetachedAgrees (proxy : Proxy Conn Peers) (run : ProxyRun Conn Peers)
    (typed : TypedRequest) (context : CallContext) : Prop where
  /-- If the token of the caller never fires, the detached call does what the attached one
  does, and its waiter learns what the caller of the attached one is told. -/
  agrees :
    TokenBlind proxy typed.method context -> context.token.isFired run.fabric.fired = false ->
      ∀ events, Spared context.token events ->
        SameEffects ((run.step proxy (.call typed context true)).resume proxy events)
            ((run.step proxy (.detach typed context)).resume proxy events) ∧
          (watch proxy ⟨run.next, context.token, none⟩ (run.step proxy (.detach typed context))
              events).outcome =
            (learnt proxy run.next (run.step proxy (.call typed context true)) events).map
              (·.getD (.error .cancelled))
  /-- It begins in the same way under every token of its caller. -/
  tokenless : ∀ token,
    run.step proxy (.detach typed { context with token }) = run.step proxy (.detach typed context)
  /-- However many tokens have fired when it makes a step, it makes the same step. -/
  steps : ∀ events now fired,
    let later := (run.step proxy (.detach typed context)).resume proxy events
    proxy.step now run.next { later.fabric with fired } =
      (proxy.step now run.next later.fabric).retoken (fun _ token => token) fired
  /-- Whenever a token fires, before or after the call began, under which no attached call
  is, everything is as if it had never fired; only the wait under it may be cancelled. -/
  unaffected : ∀ name, run.Unattached name ->
    ∀ events, (∀ event ∈ events, event.token? ≠ some (.shared name)) ->
      SameEffects ((run.step proxy (.detach typed context)).resume proxy events)
          (((run.silence name).step proxy (.detach typed context)).resume proxy
            (sparing name events)) ∧
        (context.token = .shared name ->
          (watch proxy ⟨run.next, context.token, none⟩ (run.step proxy (.detach typed context))
                events).outcome =
              (watch proxy ⟨run.next, context.token, none⟩
                ((run.silence name).step proxy (.detach typed context))
                (sparing name events)).outcome ∨
            (name ∈ ((run.step proxy (.detach typed context)).resume proxy events).fabric.fired ∧
              (watch proxy ⟨run.next, context.token, none⟩
                (run.step proxy (.detach typed context)) events).outcome =
                some (.error .cancelled)))

/-- Detaching agrees, whatever has happened to the proxy before. -/
theorem detachedAgrees
    (proxy : Proxy Conn Peers)
    (run : ProxyRun Conn Peers)
    (typed : TypedRequest)
    (context : CallContext)
    (fresh : run.fabric.calls.find? run.next = none) :
    DetachedAgrees proxy run typed context where
  agrees := by
    intro blind live events spared
    have attended := attended_step_call proxy typed true live
    have fired : (run.step proxy (.call typed context true)).fabric.fired = run.fabric.fired :=
      fired_step proxy run (.call typed context true)
    rw [step_detach_eq typed context fresh, ← fired, attended.resume_detaching blind events spared]
    exact ⟨sameEffects_retoken _ _ _, attended.watch_detaching blind events spared⟩
  tokenless := fun token => rfl
  steps := by
    intro events now fired later
    have own : ∀ call, later.fabric.calls.find? run.next = some call ->
        call.context.token = .own false := by
      refine token_resume (Nat.lt_succ_self _) ?_ events
      intro call found
      obtain ⟨new, begun, -, inContext⟩ := proxy.exists_beginTyped run.next typed
        (Proxy.detachedContext context) true run.fabric
      simp only [step, ProxyRun.begun, Proxy.beginDetached, begun, Fabric.setCall,
        Assoc.find?_insert_self] at found
      obtain rfl : new = call := Option.some.inj found
      rw [inContext]
      rfl
    exact step_of_own proxy now run.next later.fabric own fired
  unaffected := by
    intro name unattached events begins
    have begun : (run.silence name).step proxy (.detach typed context) =
        (run.step proxy (.detach typed context)).silence name :=
      unattached.step_silence rfl
    have later : (run.step proxy (.detach typed context)).Unattached name :=
      unattached.step proxy (Option.some_ne_none _).symm
    rw [begun, later.resume_sparing events begins]
    exact ⟨sameEffects_retoken _ _ _, fun under => later.watch_sparing _ under events begins⟩

end ProxyRun

/-! ## The services of the mall -/

/-- A handler that does not look at the token of a context. -/
def DispatchEntry.Blind (entry : DispatchEntry Conn Peers) : Prop :=
  ∀ conn context token now message peers,
    entry.handler conn { context with token } now message peers =
      entry.handler conn context now message peers

/-- A table without a handler that looks at tokens. -/
def DispatchTable.Blind (table : DispatchTable Conn Peers) : Prop :=
  ∀ method entry, table.entries.find? method = some entry -> entry.Blind

namespace DispatchTable

theorem Blind.insert
    {table : DispatchTable Conn Peers}
    (blind : table.Blind)
    (method : Method)
    (entry : DispatchEntry Conn Peers)
    (entryBlind : entry.Blind) :
    Blind ⟨table.entries.insert method entry⟩ := by
  intro other found present
  by_cases same : other = method
  · subst same
    rw [Assoc.find?_insert_self, Option.some.injEq] at present
    exact present ▸ entryBlind
  · rw [Assoc.find?_insert_of_ne _ _ same] at present
    exact blind _ _ present

theorem Blind.markCacheable
    {table : DispatchTable Conn Peers}
    (blind : table.Blind)
    (method : Method) :
    (table.markCacheable method).Blind := by
  unfold DispatchTable.markCacheable
  cases found : table.entries.find? method with
  | none => exact blind
  | some entry =>
      have entryBlind := blind method entry found
      exact blind.insert method { entry with cacheable := true } entryBlind

end DispatchTable

namespace ServiceMethod

/-- Calls of services go by the id and the deadline of a context alone. -/
theorem blind_registerAt
    (service : Grpc.Service Peers)
    (path : String)
    (entry : ServiceMethod)
    {table : DispatchTable Conn Peers}
    (blind : table.Blind) :
    (entry.registerAt service path table).Blind := by
  have registered : (table.registerRemote entry.method entry.request entry.response
      (Grpc.unary service path entry.request entry.response)).Blind :=
    blind.insert entry.method _ fun conn context token now message peers => rfl
  unfold registerAt
  split
  · exact registered.markCacheable entry.method
  · exact registered

theorem blind_foldl
    (service : Grpc.Service Peers)
    (listed : List ServiceMethod)
    {table : DispatchTable Conn Peers}
    (blind : table.Blind) :
    (listed.foldl (fun table entry => entry.registerAt service entry.path table) table).Blind := by
  induction listed generalizing table with
  | nil => exact blind
  | cons first rest inductionHypothesis =>
      exact inductionHypothesis (blind_registerAt service first.path first blind)

/-- No handler of the mall looks at a token. -/
theorem tokenBlind_table
    (service : Grpc.Service Peers)
    {proxy : Proxy Conn Peers}
    (mall : proxy.table = table service)
    (method : Method)
    (context : CallContext) :
    ProxyRun.TokenBlind proxy method context := by
  intro conn now payload peers
  unfold DispatchTable.invokeRaw
  cases found : proxy.table.entries.find? method with
  | none => rfl
  | some entry =>
      simp only
      cases DispatchTable.decodeRequest method entry.request payload with
      | error fault => rfl
      | ok request =>
          rw [mall] at found
          have empty : (DispatchTable.empty : DispatchTable Conn Peers).Blind :=
            fun method entry absent => nomatch absent
          have blind := blind_foldl service all empty method entry found
          simp only [Proxy.detachedContext, blind conn context (.own false) now request peers]

end ServiceMethod

namespace ProxyRun

/-! ## A product that is asked for without waiting -/

/-- A product, asked for by its number. -/
def productFive : TypedRequest := ⟨getProduct, .getProductReq, .getProductResp, (5, ())⟩

/-- The context of a caller that may give up. -/
def impatient : CallContext := ⟨.given "r1", none, .shared "caller"⟩

/-- The caller gives up while the call is on its way to the service. -/
def givenUp : List (ProxyEvent Unit) :=
  List.replicate 5 (.step 0) ++ .fire "caller" :: List.replicate 7 (.step 0)

/-- Detaching agrees where the mall has a product to give: undisturbed, both callers get
it; when the caller gives up on the way, it is stored all the same, while the attached
call stores nothing. -/
theorem detachedAgrees_quiet :
    quiet.fabric.calls.find? quiet.next = none ∧
      TokenBlind catalogue productFive.method impatient ∧
      DetachedAgrees catalogue quiet productFive impatient ∧
      (learnt catalogue 0 (quiet.step catalogue (.call productFive impatient true))
        (List.replicate 12 (.step 0))) = some (some (.ok [10, 2, 8, 5])) ∧
      (watch catalogue ⟨0, impatient.token, none⟩
        (quiet.step catalogue (.detach productFive impatient)) givenUp).outcome =
          some (.error .cancelled) ∧
      ((quiet.step catalogue (.detach productFive impatient)).resume catalogue
        givenUp).held.length = 1 ∧
      ((quiet.step catalogue (.call productFive impatient true)).resume catalogue
        givenUp).held.length = 0 := by
  have agrees := detachedAgrees catalogue quiet productFive impatient rfl
  have table : catalogue.table =
      ServiceMethod.table fun now _ peers => (⟨now, .ok [10, 2, 8, 5]⟩, peers) := rfl
  have blind := ServiceMethod.tokenBlind_table _ table getProduct impatient
  refine ⟨rfl, blind, agrees, ?_, ?_, ?_, ?_⟩
  · decide +kernel
  · decide +kernel
  · decide +kernel
  · decide +kernel

end ProxyRun
end MallFabric
