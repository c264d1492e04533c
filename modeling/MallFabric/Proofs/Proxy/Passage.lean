import MallFabric.Proofs.Proxy.Life

/-!
# Calls and the cache

Of all the moves of a call few have to do with the response cache: it looks for
an answer, its handler replies, the answer is stored.  A passage tells those
apart, and what can be seen of them.
-/

namespace MallFabric

/-- What can be seen of a call as it goes on. -/
inductive Sight where
  /-- The handler of its method ran, and this is what it comes to. -/
  | carriedOut (reply : Timed (Reply Bytes))
  | stored (answer : Bytes)
  /-- It took its answer from the cache. -/
  | served (answer : Bytes)
deriving Repr

namespace CallStage

/-- What is seen when a call goes from one stage to another. -/
def sight? : CallStage -> CallStage -> Option Sight
  | .connecting _ _ _ _, .handling _ _ _ _ reply => some (.carriedOut reply)
  | .storing _ answer, .finished _ => some (.stored answer)
  | .lookingUp _, .finished (.ok answer) => some (.served answer)
  | _, _ => none

/-- The stages before the handler runs. -/
def IsUnderWay : CallStage -> Prop
  | .admitting _ => True
  | .claiming _ _ _ => True
  | .connecting _ _ _ _ => True
  | _ => False

/-- The stages of a call that is over. -/
def IsOver : CallStage -> Prop
  | .finished _ => True
  | .crashed => True
  | _ => False

@[simp] theorem sight?_self (stage : CallStage) : stage.sight? stage = none := by
  cases stage with
  | _ => rfl

/-- Nothing is seen of a call before its handler runs. -/
theorem IsUnderWay.sight?_eq_none
    {stage : CallStage}
    (underWay : stage.IsUnderWay)
    (before : CallStage) :
    before.sight? stage = none := by
  cases stage with
  | admitting key => cases before with | _ => rfl
  | claiming key since trial => cases before with | _ => rfl
  | connecting key permit limit expiry => cases before with | _ => rfl
  | _ => exact absurd underWay id

end CallStage

namespace Proxy

variable {Conn Peers : Type}

/-- What a step of a call is for the cache. -/
inductive Passage (proxy : Proxy Conn Peers) (now : Instant) (cache : CacheLink) (call : Call) :
    CallStage -> CacheLink -> Prop where
  | stays : Passage proxy now cache call call.stage cache
  | looksUp
      (stage : call.stage = .arriving)
      (registered : proxy.table.contains call.method = true)
      (cached : call.useCache = true) :
      Passage proxy now cache call (.lookingUp (call.method.cacheKey call.payload)) cache
  | misses {key}
      (stage : call.stage = .lookingUp key) :
      Passage proxy now cache call (.admitting (some key)) (cache.get now key).2
  | hits {key answer}
      (stage : call.stage = .lookingUp key)
      (found : (cache.get now key).1 = some answer) :
      Passage proxy now cache call (.finished (.ok answer)) (cache.get now key).2
  | goesOn {stage}
      (underWay : stage.IsUnderWay)
      (key : stage.key? = call.stage.key?) :
      Passage proxy now cache call stage cache
  | carriedOut {key permit limit expiry reply}
      (stage : call.stage = .connecting key permit limit expiry)
      (invocation : ∃ conn peers, (proxy.table.invokeRaw conn call.method call.context now
        call.payload peers).1 = reply) :
      Passage proxy now cache call (.handling key permit limit expiry reply) cache
  | answered {key permit limit expiry reply answer}
      (stage : call.stage = .handling (some key) permit limit expiry reply)
      (due : reply.due ≤ now)
      (result : reply.result = .answer answer) :
      Passage proxy now cache call (.storing key answer) cache
  | stores {key answer}
      (stage : call.stage = .storing key answer) :
      Passage proxy now cache call (.finished (.ok answer))
        (cache.set now key answer proxy.config.cacheSpan)
  | ends {stage}
      (ended : stage.IsOver)
      (unseen : call.stage.sight? stage = none) :
      Passage proxy now cache call stage cache

variable {proxy : Proxy Conn Peers} {now : Instant} {id : CallId} {fabric : Fabric Conn Peers}
variable {call : Call} {result : StepResult Conn Peers}

/-- A call whose attempt has failed is over. -/
theorem isOver_settle_fault
    (proxy : Proxy Conn Peers)
    (method : Method)
    (key : Option String)
    (limit : Duration)
    (fault : Fault) :
    ∃ result, (proxy.settle method key limit (.fault fault)).stage = .finished result := by
  cases judged : judge (limit < proxy.config.circuit.timeout) fault with
  | surfaces surfaced =>
      rw [settle_surfaces judged]
      exact ⟨_, rfl⟩
  | degrades outcome cause =>
      rw [settle_degrades judged]
      exact ⟨_, rfl⟩

/-- What the end of the work on a call is for the cache. -/
theorem passage_settle
    {cache : CacheLink}
    {key : Option String}
    {permit : Permit}
    {limit : Duration}
    {expiry : Instant}
    {reply : Timed (Reply Bytes)}
    {ending : Reply Bytes}
    (stage : call.stage = .handling key permit limit expiry reply)
    (ended : Ended now fabric call expiry reply ending) :
    Passage proxy now cache call (proxy.settle call.method key limit ending).stage cache := by
  have failed : ∀ fault, Passage proxy now cache call
      (proxy.settle call.method key limit (.fault fault)).stage cache := by
    intro fault
    obtain ⟨outcome, finished⟩ := isOver_settle_fault proxy call.method key limit fault
    rw [finished]
    refine .ends trivial ?_
    rw [stage]
    rfl
  cases ended with
  | cancelled given => exact failed .cancelled
  | timedOut live early expired => exact failed .timeout
  | replied live due =>
      cases result : reply.result with
      | fault fault => exact failed fault
      | crash =>
          refine .ends trivial ?_
          rw [stage]
          rfl
      | answer answer =>
          cases key with
          | some key => exact .answered stage due result
          | none =>
              refine .ends trivial ?_
              rw [stage]
              rfl

/-- Every move of a call is a passage. -/
theorem Move.passage
    (move : Move proxy now id fabric call result)
    (found : fabric.calls.find? id = some call) :
    ∃ stage, result.fabric.calls.find? id = some { call with stage } ∧
      Passage proxy now fabric.cache call stage result.fabric.cache := by
  have goesTo : ∀ (between : Fabric Conn Peers) (stage : CallStage),
      (between.setCall id { call with stage }).calls.find? id = some { call with stage } :=
    fun between stage => Assoc.find?_insert_self _ _ _
  have stays : ∃ stage, fabric.calls.find? id = some { call with stage } ∧
      Passage proxy now fabric.cache call stage fabric.cache :=
    ⟨call.stage, found, .stays⟩
  cases move with
  | unregistered stage missing =>
      exact ⟨_, goesTo _ _, .ends trivial (by rw [stage]; rfl)⟩
  | givenUp stage registered given =>
      exact ⟨_, goesTo _ _, .ends trivial (by rw [stage]; rfl)⟩
  | lookUp stage registered live cached => exact ⟨_, goesTo _ _, .looksUp stage registered cached⟩
  | pass stage registered live uncached =>
      exact ⟨_, goesTo _ _, .goesOn trivial (by rw [stage]; rfl)⟩
  | hit stage found => exact ⟨_, goesTo _ _, .hits stage found⟩
  | miss stage missing => exact ⟨_, goesTo _ _, .misses stage⟩
  | decided stage decision => exact ⟨_, goesTo _ _, .goesOn trivial (by rw [stage]; rfl)⟩
  | refused stage decision => exact ⟨_, goesTo _ _, .ends trivial (by rw [stage]; rfl)⟩
  | admitted stage taken => exact ⟨_, goesTo _ _, .goesOn trivial (by rw [stage]; rfl)⟩
  | saturated stage full => exact ⟨_, goesTo _ _, .ends trivial (by rw [stage]; rfl)⟩
  | @unconnected key permit limit expiry pool fault stage cause =>
      obtain ⟨outcome, finished⟩ := isOver_settle_fault proxy call.method key limit fault
      refine ⟨_, goesTo _ _, ?_⟩
      rw [finished]
      exact .ends trivial (by rw [stage]; rfl)
  | carriedOut stage live noDial result inTime invocation =>
      exact ⟨_, goesTo _ _, .carriedOut stage ⟨_, _, congrArg Prod.fst invocation⟩⟩
  | concluded stage ended => exact ⟨_, goesTo _ _, passage_settle stage ended⟩
  | stored stage => exact ⟨_, goesTo _ _, .stores stage⟩
  | dialEnded stage live dials due => exact stays
  | joined stage live noDial noResult progress => exact stays
  | dialled stage live noDial noResult progress dials => exact stays
  | dialAwaited stage live dials early => exact stays
  | turnAwaited stage live noDial noResult waits early => exact stays
  | replyAwaited stage live early => exact stays
  | ended stage => exact stays

end Proxy
end MallFabric
