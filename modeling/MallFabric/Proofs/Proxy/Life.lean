import MallFabric.Proofs.Proxy.Move

/-!
# The life of a call

A call goes on in steps of its own.  Between them everything else may happen:
other calls go on, tokens fire, time passes, services change.  What the call
does in its life is the list of what its steps do.
-/

namespace MallFabric

variable {Conn Peers : Type}

/-- What others do leaves a call and the presence of the cache as they are. -/
structure Undisturbed (id : CallId) (before after : Fabric Conn Peers) : Prop where
  call : after.calls.find? id = before.calls.find? id
  enabled : after.cache.isEnabled = before.cache.isEnabled

/-- The life of a call from a fabric on: what it did, and the fabric it has come
to. -/
inductive Life (proxy : Proxy Conn Peers) (id : CallId) (start : Fabric Conn Peers) :
    List CallAct -> Fabric Conn Peers -> Prop where
  | begun : Life proxy id start [] start
  | meanwhile {acts before after}
      (life : Life proxy id start acts before)
      (undisturbed : Undisturbed id before after) :
      Life proxy id start acts after
  | stepped {acts before}
      (life : Life proxy id start acts before)
      (now : Instant) :
      Life proxy id start (acts ++ (proxy.step now id before).acts)
        (proxy.step now id before).fabric

namespace CacheLink

@[simp] theorem isEnabled_get
    (link : CacheLink)
    (now : Instant)
    (key : String) :
    (link.get now key).2.isEnabled = link.isEnabled := by
  unfold get
  cases store : link.store with
  | none => simp [isEnabled, store]
  | some cache =>
      cases fails : link.failsReads with
      | true => simp [isEnabled, store]
      | false => simp [isEnabled, store]

@[simp] theorem isEnabled_set
    (link : CacheLink)
    (now : Instant)
    (key : String)
    (answer : Bytes)
    (span : Duration) :
    (link.set now key answer span).isEnabled = link.isEnabled := by
  unfold set
  cases store : link.store with
  | none => simp [isEnabled, store]
  | some cache =>
      cases fails : link.failsWrites with
      | true => simp [isEnabled, store]
      | false => simp [isEnabled, store]

end CacheLink

namespace Proxy

variable {proxy : Proxy Conn Peers} {now : Instant} {id : CallId} {fabric : Fabric Conn Peers}
variable {call : Call} {result : StepResult Conn Peers}

/-- A step of a call leaves the cache present or absent. -/
theorem Move.enabled
    (move : Move proxy now id fabric call result) :
    result.fabric.cache.isEnabled = fabric.cache.isEnabled := by
  cases move with
  | hit stage found => exact CacheLink.isEnabled_get _ _ _
  | miss stage missing => exact CacheLink.isEnabled_get _ _ _
  | stored stage => exact CacheLink.isEnabled_set _ _ _ _ _
  | _ => rfl

/-- A step of a call changes no other call. -/
theorem Move.undisturbed
    (move : Move proxy now id fabric call result)
    {other : CallId}
    (different : other ≠ id) :
    Undisturbed other fabric result.fabric := by
  refine ⟨?_, move.enabled⟩
  have kept : ∀ (between : Fabric Conn Peers) (stage : CallStage),
      between.calls = fabric.calls ->
        (between.setCall id { call with stage }).calls.find? other = fabric.calls.find? other := by
    intro between stage calls
    have others := Assoc.find?_insert_of_ne between.calls { call with stage } different
    exact others.trans (by rw [calls])
  cases move with
  | dialEnded => rfl
  | joined => rfl
  | dialled => rfl
  | dialAwaited => rfl
  | turnAwaited => rfl
  | replyAwaited => rfl
  | ended => rfl
  | _ => exact kept _ _ rfl

/-- The steps of one call are nothing to another one. -/
theorem undisturbed_step
    (proxy : Proxy Conn Peers)
    (now : Instant)
    (fabric : Fabric Conn Peers)
    {other : CallId}
    (different : other ≠ id) :
    Undisturbed other fabric (proxy.step now id fabric).fabric := by
  cases found : fabric.calls.find? id with
  | none =>
      simp only [step, found]
      exact ⟨rfl, rfl⟩
  | some call => exact (move_step found).undisturbed different

/-- A call that goes on until it waits or ends goes on in its life. -/
theorem life_advance
    {start : Fabric Conn Peers}
    {acts : List CallAct}
    (life : Life proxy id start acts fabric)
    (now : Instant)
    (fuel : Nat) :
    Life proxy id start (acts ++ (proxy.advance now id fuel fabric).acts)
      (proxy.advance now id fuel fabric).fabric := by
  induction fuel generalizing acts fabric with
  | zero => simpa [advance, blocked] using life
  | succ fuel inductionHypothesis =>
      have after := life.stepped now
      cases waits : (proxy.step now id fabric).waits with
      | some instants => simpa only [advance, waits] using after
      | none =>
          have rest := inductionHypothesis after
          simpa only [advance, waits, List.append_assoc] using rest

/-- A step leaves the cache present or absent. -/
theorem enabled_step
    (proxy : Proxy Conn Peers)
    (now : Instant)
    (id : CallId)
    (fabric : Fabric Conn Peers) :
    (proxy.step now id fabric).fabric.cache.isEnabled = fabric.cache.isEnabled := by
  cases found : fabric.calls.find? id with
  | none =>
      simp only [step, found]
      rfl
  | some call => exact (move_step found).enabled

end Proxy

/-! ## Calls past the cache -/

/-- The key under which a call asks the cache or stores its answer. -/
def CallStage.key? : CallStage -> Option String
  | .arriving => none
  | .lookingUp key => some key
  | .admitting key => key
  | .claiming key _ _ => key
  | .connecting key _ _ _ => key
  | .handling key _ _ _ _ => key
  | .storing key _ => some key
  | .finished _ => none
  | .crashed => none

/-- A call that has nothing to do with the cache. -/
structure Call.PastCache (call : Call) : Prop where
  uncached : call.useCache = false
  keyless : call.stage.key? = none

namespace Proxy

variable {proxy : Proxy Conn Peers} {now : Instant} {id : CallId} {fabric : Fabric Conn Peers}
variable {call : Call} {result : StepResult Conn Peers}

theorem keyless_settle
    (proxy : Proxy Conn Peers)
    (method : Method)
    (limit : Duration)
    (reply : Reply Bytes) :
    (proxy.settle method none limit reply).stage.key? = none := by
  cases reply with
  | answer answer => rfl
  | crash => rfl
  | fault fault =>
      cases judged : judge (limit < proxy.config.circuit.timeout) fault with
      | surfaces surfaced =>
          rw [settle_surfaces judged]
          rfl
      | degrades outcome cause =>
          rw [settle_degrades judged]
          rfl

/-- A call past the cache stays so, takes nothing from the cache and leaves it as
it is. -/
theorem Move.pastCache
    (move : Move proxy now id fabric call result)
    (found : fabric.calls.find? id = some call)
    (past : call.PastCache) :
    result.fabric.cache = fabric.cache ∧ .hit ∉ result.acts ∧
      ∃ later, result.fabric.calls.find? id = some later ∧ later.PastCache := by
  have keyless := past.keyless
  have goesTo : ∀ (between : Fabric Conn Peers) (stage : CallStage), stage.key? = none ->
      ∃ later, (between.setCall id { call with stage }).calls.find? id = some later ∧
        later.PastCache :=
    fun between stage without => ⟨_, Assoc.find?_insert_self _ _ _, past.uncached, without⟩
  have stays : ∃ later, fabric.calls.find? id = some later ∧ later.PastCache :=
    ⟨call, found, past⟩
  cases move with
  | lookUp stage registered live cached => cases past.uncached.symm.trans cached
  | hit stage found =>
      rw [stage] at keyless
      cases keyless
  | miss stage missing =>
      rw [stage] at keyless
      cases keyless
  | stored stage =>
      rw [stage] at keyless
      cases keyless
  | unregistered stage missing => exact ⟨rfl, List.not_mem_nil, goesTo _ _ rfl⟩
  | givenUp stage registered given => exact ⟨rfl, List.not_mem_nil, goesTo _ _ rfl⟩
  | pass stage registered live uncached => exact ⟨rfl, List.not_mem_nil, goesTo _ _ rfl⟩
  | decided stage decision =>
      rw [stage] at keyless
      exact ⟨rfl, List.not_mem_nil, goesTo _ _ keyless⟩
  | refused stage decision => exact ⟨rfl, by simp [moved], goesTo _ _ rfl⟩
  | admitted stage taken =>
      rw [stage] at keyless
      exact ⟨rfl, List.not_mem_nil, goesTo _ _ keyless⟩
  | saturated stage full => exact ⟨rfl, by simp [moved], goesTo _ _ rfl⟩
  | @unconnected key permit limit expiry pool fault stage cause =>
      rw [stage] at keyless
      obtain rfl : key = none := keyless
      exact ⟨rfl, by simp [giveUp, conclude, moved], goesTo _ _ (keyless_settle _ _ _ _)⟩
  | dialEnded stage live dials due => exact ⟨rfl, List.not_mem_nil, stays⟩
  | joined stage live noDial noResult progress => exact ⟨rfl, List.not_mem_nil, stays⟩
  | dialled stage live noDial noResult progress dials => exact ⟨rfl, by simp, stays⟩
  | dialAwaited stage live dials early => exact ⟨rfl, List.not_mem_nil, stays⟩
  | turnAwaited stage live noDial noResult waits early => exact ⟨rfl, List.not_mem_nil, stays⟩
  | carriedOut stage live noDial result inTime invocation =>
      rw [stage] at keyless
      refine ⟨rfl, ?_, goesTo _ _ keyless⟩
      simp only [moved]
      split
      · simp
      · exact List.not_mem_nil
  | @concluded key permit limit expiry reply ending stage ended =>
      rw [stage] at keyless
      obtain rfl : key = none := keyless
      exact ⟨rfl, by simp [conclude, moved], goesTo _ _ (keyless_settle _ _ _ _)⟩
  | replyAwaited stage live early => exact ⟨rfl, List.not_mem_nil, stays⟩
  | ended stage => exact ⟨rfl, List.not_mem_nil, stays⟩

end Proxy

namespace Life

variable {proxy : Proxy Conn Peers} {id : CallId} {start after : Fabric Conn Peers}
variable {acts : List CallAct}

/-- The cache stays present or absent. -/
theorem enabled
    (life : Life proxy id start acts after) :
    after.cache.isEnabled = start.cache.isEnabled := by
  induction life with
  | begun => rfl
  | meanwhile life undisturbed inductionHypothesis =>
      exact undisturbed.enabled.trans inductionHypothesis
  | stepped life now inductionHypothesis =>
      exact (Proxy.enabled_step proxy now id _).trans inductionHypothesis

/-- A call past the cache is no hit. -/
theorem not_hit
    (life : Life proxy id start acts after)
    {call : Call}
    (found : start.calls.find? id = some call)
    (past : call.PastCache) :
    .hit ∉ acts ∧ ∃ later, after.calls.find? id = some later ∧ later.PastCache := by
  induction life with
  | begun => exact ⟨List.not_mem_nil, call, found, past⟩
  | meanwhile life undisturbed inductionHypothesis =>
      rw [undisturbed.call]
      exact inductionHypothesis
  | stepped life now inductionHypothesis =>
      obtain ⟨noHit, current, present, stillPast⟩ := inductionHypothesis
      obtain ⟨-, noHitNow, later⟩ := (Proxy.move_step present).pastCache present stillPast
      refine ⟨fun hit => ?_, later⟩
      rcases List.mem_append.mp hit with before | last
      · exact noHit before
      · exact noHitNow last

end Life
end MallFabric
