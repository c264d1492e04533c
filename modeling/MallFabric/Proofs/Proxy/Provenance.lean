import MallFabric.Proofs.Cache.Key
import MallFabric.Proofs.Proxy.Run
import Mathlib.Data.Set.Function

/-!
# Where cached answers come from

The main statement is about every run of a proxy over a cache: what the cache
holds for a request was answered by the handler of its method, for this very
request, in an earlier call that used the cache; what is served from it was
stored less than the span of the cache before; and under the policy that says
so, only methods that are marked have entries.
-/

namespace MallFabric

variable {Conn Peers : Type}

namespace Proxy

/-- The answers of a method may be stored. -/
def MayStore (proxy : Proxy Conn Peers) (method : Method) : Prop :=
  proxy.config.policy = .all ∨ proxy.table.isCacheable method = true

/-- What earlier notes tell to be behind a note. -/
inductive Supported (proxy : Proxy Conn Peers) (earlier : List CallNote) : CallNote -> Prop where
  /-- What was carried out is what the handler of the method made of the request. -/
  | carriedOut {instant id method payload cached reply} (context : CallContext) (conn : Conn)
      (peers : Peers)
      (invocation : (proxy.table.invokeRaw conn method context instant payload peers).1 = reply) :
      Supported proxy earlier ⟨instant, id, method, payload, cached, .carriedOut reply⟩
  /-- What was stored is what the handler answered before in the same call, which uses
  the cache. -/
  | stored {instant id method payload answer} (begun due : Instant)
      (handled : ⟨begun, id, method, payload, true, .carriedOut ⟨due, .answer answer⟩⟩ ∈ earlier)
      (order : due ≤ instant) :
      Supported proxy earlier ⟨instant, id, method, payload, true, .stored answer⟩
  /-- What was served was stored for the same request less than the span of the cache
  before. -/
  | served {instant id method payload cached answer} (since : Instant) (other : CallId)
      (known : ⟨since, other, method, payload, true, .stored answer⟩ ∈ earlier)
      (order : since ≤ instant)
      (fresh : instant < since + proxy.config.cacheSpan) :
      Supported proxy earlier ⟨instant, id, method, payload, cached, .served answer⟩

/-- Every note is supported by those before it. -/
def AllSupported (proxy : Proxy Conn Peers) (notes : List CallNote) : Prop :=
  ∀ later note earlier, notes = later ++ note :: earlier -> proxy.Supported earlier note

theorem allSupported_nil (proxy : Proxy Conn Peers) : proxy.AllSupported [] := by
  intro later note earlier equal
  cases later with
  | nil => cases equal
  | cons first rest => cases equal

theorem AllSupported.cons
    {proxy : Proxy Conn Peers}
    {notes : List CallNote}
    {note : CallNote}
    (all : proxy.AllSupported notes)
    (newest : proxy.Supported notes note) :
    proxy.AllSupported (note :: notes) := by
  intro later other earlier equal
  cases later with
  | nil =>
      rw [List.nil_append, List.cons.injEq] at equal
      obtain ⟨rfl, rfl⟩ := equal
      exact newest
  | cons first rest =>
      rw [List.cons_append, List.cons.injEq] at equal
      exact all rest other earlier equal.2

/-- What was stored came from the handler. -/
theorem AllSupported.handled_of_stored
    {proxy : Proxy Conn Peers}
    {notes : List CallNote}
    (all : proxy.AllSupported notes)
    {since : Instant}
    {id : CallId}
    {method : Method}
    {payload answer : Bytes}
    {cached : Bool}
    (noted : ⟨since, id, method, payload, cached, .stored answer⟩ ∈ notes) :
    ∃ begun due,
      ⟨begun, id, method, payload, true, .carriedOut ⟨due, .answer answer⟩⟩ ∈ notes ∧
        due ≤ since := by
  obtain ⟨later, earlier, rfl⟩ := List.append_of_mem noted
  cases all later _ earlier rfl with
  | stored begun due handled order =>
      exact ⟨begun, due, List.mem_append_right _ (List.mem_cons_of_mem _ handled), order⟩

/-- An entry of the cache, and the call that stored it. -/
structure StoredBy (proxy : Proxy Conn Peers) (payloads : Set Bytes) (notes : List CallNote)
    (entry : String × CachedAnswer) (since : Instant) (id : CallId) (method : Method)
    (payload : Bytes) : Prop where
  key : entry.1 = method.cacheKey payload
  registered : proxy.table.contains method = true
  asked : payload ∈ payloads
  allowed : proxy.MayStore method
  noted : ⟨since, id, method, payload, true, .stored entry.2.answer⟩ ∈ notes
  expiry : entry.2.expiresAt = since + proxy.config.cacheSpan

/-- What is known of a call from its stage. -/
structure CallSound (proxy : Proxy Conn Peers) (payloads : Set Bytes) (clock : Instant)
    (notes : List CallNote) (id : CallId) (call : Call) : Prop where
  asked : call.useCache = true -> call.payload ∈ payloads
  allowed : call.useCache = true -> proxy.MayStore call.method
  keyed : ∀ key, call.stage.key? = some key ->
    call.useCache = true ∧ key = call.method.cacheKey call.payload ∧
      proxy.table.contains call.method = true
  handled : ∀ key permit limit expiry reply, call.stage = .handling key permit limit expiry reply ->
    ∃ begun, call.note begun id (.carriedOut reply) ∈ notes
  answered : ∀ key answer, call.stage = .storing key answer ->
    ∃ begun due, call.note begun id (.carriedOut ⟨due, .answer answer⟩) ∈ notes ∧ due ≤ clock

namespace CallSound

variable {proxy : Proxy Conn Peers} {payloads : Set Bytes} {clock later : Instant}
variable {notes more : List CallNote} {id : CallId} {call : Call} {stage : CallStage}

/-- What is known stays known. -/
theorem mono
    (sound : proxy.CallSound payloads clock notes id call)
    (order : clock ≤ later)
    (grows : notes ⊆ more) :
    proxy.CallSound payloads later more id call where
  asked := sound.asked
  allowed := sound.allowed
  keyed := sound.keyed
  handled := by
    intro key permit limit expiry reply handling
    obtain ⟨begun, noted⟩ := sound.handled key permit limit expiry reply handling
    exact ⟨begun, grows noted⟩
  answered := by
    intro key answer storing
    obtain ⟨begun, due, noted, passed⟩ := sound.answered key answer storing
    exact ⟨begun, due, grows noted, Nat.le_trans passed order⟩

/-- A call that goes to a stage at which nothing of its handler is kept. -/
theorem goTo
    (sound : proxy.CallSound payloads clock notes id call)
    (keyed : ∀ key, stage.key? = some key ->
      call.useCache = true ∧ key = call.method.cacheKey call.payload ∧
        proxy.table.contains call.method = true)
    (unhandled : ∀ key permit limit expiry reply, stage ≠ .handling key permit limit expiry reply)
    (unanswered : ∀ key answer, stage ≠ .storing key answer) :
    proxy.CallSound payloads clock notes id { call with stage } where
  asked := sound.asked
  allowed := sound.allowed
  keyed := keyed
  handled := fun key permit limit expiry reply same =>
    absurd same (unhandled key permit limit expiry reply)
  answered := fun key answer same => absurd same (unanswered key answer)

/-- So does a call that is over. -/
theorem finish
    (sound : proxy.CallSound payloads clock notes id call)
    (ended : stage.IsOver) :
    proxy.CallSound payloads clock notes id { call with stage } := by
  cases stage with
  | finished result => exact sound.goTo (by simp [CallStage.key?]) (by simp) (by simp)
  | crashed => exact sound.goTo (by simp [CallStage.key?]) (by simp) (by simp)
  | _ => exact False.elim ended

end CallSound

end Proxy

namespace ProxyRun

/-- What holds in every run of a proxy that is asked for some payloads. -/
structure Sound (proxy : Proxy Conn Peers) (payloads : Set Bytes) (run : ProxyRun Conn Peers) :
    Prop where
  past : ∀ note ∈ run.notes, note.instant ≤ run.clock
  supported : proxy.AllSupported run.notes
  entries : ∀ entry ∈ run.held,
    ∃ since id method payload,
      proxy.StoredBy payloads run.notes entry since id method payload
  calls : ∀ id call, run.fabric.calls.find? id = some call ->
    proxy.CallSound payloads run.clock run.notes id call

variable {proxy : Proxy Conn Peers} {payloads : Set Bytes} {run : ProxyRun Conn Peers}

theorem sound_start
    (proxy : Proxy Conn Peers)
    (payloads : Set Bytes)
    (capacity : Nat)
    (pool : Pool Conn)
    (peers : Peers) :
    Sound proxy payloads (start capacity pool peers) where
  past := fun _ present => absurd present List.not_mem_nil
  supported := proxy.allSupported_nil
  entries := fun _ present => absurd present List.not_mem_nil
  calls := fun _ _ found => by cases found

/-- The assumptions under which keys of the cache tell requests apart. -/
structure TellsApart (proxy : Proxy Conn Peers) (payloads : Set Bytes) : Prop where
  plain : ∀ method, proxy.table.contains method = true -> method.Plain
  injective : Set.InjOn Sha256.digest payloads

/-- What is found under the key of a request was stored for this request. -/
theorem Sound.storedBy_of_find?
    (sound : Sound proxy payloads run)
    (apart : TellsApart proxy payloads)
    {method : Method}
    {payload : Bytes}
    (asked : payload ∈ payloads)
    {cached : CachedAnswer}
    (found : run.held.find? (method.cacheKey payload) = some cached) :
    ∃ since id, proxy.StoredBy payloads run.notes (method.cacheKey payload, cached) since id
      method payload := by
  obtain ⟨since, id, owner, request, stored⟩ := sound.entries _ (Assoc.mem_of_find? found)
  obtain ⟨rfl, digests⟩ := Method.eq_of_cacheKey_eq (apart.plain owner stored.registered)
    stored.key.symm
  obtain rfl := apart.injective stored.asked asked digests
  exact ⟨since, id, stored⟩

section Step

variable {id : CallId} {call : Call} {stage : CallStage} {cache : CacheLink}

/-- What is seen of a call is supported by the notes before. -/
theorem Sound.supported_passage
    (sound : Sound proxy payloads run)
    (apart : TellsApart proxy payloads)
    (known : proxy.CallSound payloads run.clock run.notes id call)
    (passage : proxy.Passage run.clock run.fabric.cache call stage cache)
    {sight : Sight}
    (seen : call.stage.sight? stage = some sight) :
    proxy.Supported run.notes (call.note run.clock id sight) := by
  cases passage with
  | stays => simp at seen
  | looksUp before registered cached =>
      rw [before] at seen
      cases seen
  | misses before =>
      rw [before] at seen
      cases seen
  | @hits key answer before found =>
      rw [before] at seen
      cases seen
      obtain ⟨cached, held, rfl, early⟩ := CacheLink.find?_of_get found
      obtain ⟨uses, rfl, registered⟩ := known.keyed key (by rw [before]; rfl)
      obtain ⟨since, other, stored⟩ := sound.storedBy_of_find? apart (known.asked uses) held
      have order : since ≤ run.clock := sound.past _ stored.noted
      exact .served since other stored.noted order (stored.expiry ▸ early)
  | goesOn underWay key => cases (underWay.sight?_eq_none call.stage).symm.trans seen
  | carriedOut before invocation =>
      rw [before] at seen
      cases seen
      obtain ⟨conn, peers, invoked⟩ := invocation
      exact .carriedOut call.context conn peers invoked
  | answered before due result =>
      rw [before] at seen
      cases seen
  | @stores key answer before =>
      rw [before] at seen
      cases seen
      obtain ⟨uses, -, -⟩ := known.keyed key (by rw [before]; rfl)
      obtain ⟨begun, due, noted, passed⟩ := known.answered key answer before
      unfold Call.note at noted ⊢
      rw [uses] at noted ⊢
      exact .stored begun due noted passed
  | ends ended unseen => cases unseen.symm.trans seen

/-- What a call knows after a step. -/
theorem callSound_passage
    (known : proxy.CallSound payloads run.clock run.notes id call)
    (passage : proxy.Passage run.clock run.fabric.cache call stage cache)
    {notes : List CallNote}
    (grows : run.notes ⊆ notes)
    (noted : ∀ sight, call.stage.sight? stage = some sight ->
      call.note run.clock id sight ∈ notes) :
    proxy.CallSound payloads run.clock notes id { call with stage } := by
  have still := known.mono (Nat.le_refl run.clock) grows
  cases passage with
  | stays => exact still
  | looksUp before registered cached =>
      refine still.goTo ?_ (by simp) (by simp)
      rintro key same
      cases same
      exact ⟨cached, rfl, registered⟩
  | @misses current before =>
      refine still.goTo ?_ (by simp) (by simp)
      rintro key same
      cases same
      exact still.keyed current (by rw [before]; rfl)
  | hits before found => exact still.finish trivial
  | stores before => exact still.finish trivial
  | ends ended unseen => exact still.finish ended
  | goesOn underWay same =>
      refine still.goTo (fun key here => still.keyed key (same ▸ here)) ?_ ?_
      · rintro key permit limit expiry reply rfl
        exact underWay
      · rintro key answer rfl
        exact underWay
  | @carriedOut key permit limit expiry reply before invocation =>
      have seen := noted (.carriedOut reply) (by rw [before]; rfl)
      refine ⟨still.asked, still.allowed, ?_, ?_, ?_⟩
      · exact fun other same => still.keyed other (by rw [before]; exact same)
      · intro otherKey otherPermit otherLimit otherExpiry otherReply same
        cases same
        exact ⟨run.clock, seen⟩
      · exact fun otherKey answer same => by cases same
  | @answered key permit limit expiry reply answer before due result =>
      refine ⟨still.asked, still.allowed, ?_, ?_, ?_⟩
      · rintro other same
        cases same
        exact still.keyed key (by rw [before]; rfl)
      · exact fun otherKey otherPermit otherLimit otherExpiry otherReply same => by cases same
      · intro otherKey otherAnswer same
        cases same
        obtain ⟨begun, handled⟩ := still.handled _ _ _ _ _ before
        obtain ⟨dueAt, ending⟩ := reply
        obtain rfl : ending = .answer answer := result
        exact ⟨begun, dueAt, handled, due⟩

/-- What the cache holds after a step. -/
theorem Sound.entries_passage
    (sound : Sound proxy payloads run)
    (known : proxy.CallSound payloads run.clock run.notes id call)
    (passage : proxy.Passage run.clock run.fabric.cache call stage cache)
    {notes : List CallNote}
    (grows : run.notes ⊆ notes)
    (noted : ∀ sight, call.stage.sight? stage = some sight ->
      call.note run.clock id sight ∈ notes) :
    ∀ entry ∈ cache.entries,
      ∃ since id method payload, proxy.StoredBy payloads notes entry since id method payload := by
  have old : ∀ entry ∈ run.held,
      ∃ since id method payload, proxy.StoredBy payloads notes entry since id method payload := by
    intro entry present
    obtain ⟨since, other, method, payload, stored⟩ := sound.entries entry present
    exact ⟨since, other, method, payload, { stored with noted := grows stored.noted }⟩
  intro entry present
  cases passage with
  | misses before => exact old entry (CacheLink.mem_entries_get present)
  | hits before found => exact old entry (CacheLink.mem_entries_get present)
  | @stores key answer before =>
      rcases CacheLink.mem_entries_set present with rfl | remains
      · have seen := noted (.stored answer) (by rw [before]; rfl)
        obtain ⟨uses, rfl, registered⟩ := known.keyed key (by rw [before]; rfl)
        refine ⟨run.clock, id, call.method, call.payload, rfl, registered, known.asked uses,
          known.allowed uses, ?_, rfl⟩
        rw [Call.note, uses] at seen
        exact seen
      · exact old entry remains
  | _ => exact old entry present

/-- A step of a call keeps what holds. -/
theorem Sound.step
    (sound : Sound proxy payloads run)
    (apart : TellsApart proxy payloads)
    (id : CallId) :
    Sound proxy payloads (run.step proxy (.step id)) := by
  cases found : run.fabric.calls.find? id with
  | none =>
      rw [step_of_absent found]
      exact sound
  | some call =>
      have known := sound.calls id call found
      have move : proxy.Move run.clock id run.fabric call _ := Proxy.move_step found
      obtain ⟨stage, later, passage⟩ := move.passage found
      have notes : (run.step proxy (.step id)).notes =
          (call.stage.sight? stage).toList.map (call.note run.clock id) ++ run.notes := by
        rw [← observe_eq found later]
        rfl
      have grows : run.notes ⊆ (run.step proxy (.step id)).notes := by
        rw [notes]
        exact List.subset_append_right _ _
      have noted : ∀ sight, call.stage.sight? stage = some sight ->
          call.note run.clock id sight ∈ (run.step proxy (.step id)).notes := by
        intro sight seen
        rw [notes, seen]
        exact List.mem_cons_self
      refine ⟨?_, ?_, sound.entries_passage known passage grows noted, ?_⟩
      · rw [notes]
        intro note present
        rcases List.mem_append.mp present with new | old
        · obtain ⟨sight, -, rfl⟩ := List.mem_map.mp new
          exact Nat.le_refl _
        · exact sound.past note old
      · rw [notes]
        cases seen : call.stage.sight? stage with
        | none => exact sound.supported
        | some sight => exact sound.supported.cons (sound.supported_passage apart known passage seen)
      · intro other otherCall present
        by_cases same : other = id
        · subst same
          cases later.symm.trans present
          exact callSound_passage known passage grows noted
        · have before := (move.undisturbed same).call.symm.trans present
          exact (sound.calls other otherCall before).mono (Nat.le_refl _) grows

end Step

/-- What happens around the calls keeps what holds. -/
theorem Sound.keep
    (sound : Sound proxy payloads run)
    {after : ProxyRun Conn Peers}
    (clock : run.clock ≤ after.clock)
    (notes : after.notes = run.notes)
    (held : after.held = run.held)
    (calls : ∀ id call, after.fabric.calls.find? id = some call ->
      run.fabric.calls.find? id = some call) :
    Sound proxy payloads after where
  past := by
    rw [notes]
    exact fun note present => Nat.le_trans (sound.past note present) clock
  supported := by
    rw [notes]
    exact sound.supported
  entries := by
    rw [held, notes]
    exact sound.entries
  calls := by
    intro id call found
    rw [notes]
    exact (sound.calls id call (calls id call found)).mono clock (List.Subset.refl _)

/-- So does a call that begins, if enough is known of it. -/
theorem Sound.withCall
    (sound : Sound proxy payloads run)
    {id : CallId}
    {call : Call}
    (known : proxy.CallSound payloads run.clock run.notes id call) :
    Sound proxy payloads (run.begun (run.fabric.setCall id call)) where
  past := sound.past
  supported := sound.supported
  entries := sound.entries
  calls := by
    intro other otherCall found
    by_cases same : other = id
    · subst same
      cases (Assoc.find?_insert_self _ _ _).symm.trans found
      exact known
    · exact sound.calls other otherCall ((Assoc.find?_insert_of_ne _ _ same).symm.trans found)

theorem Sound.begin
    (sound : Sound proxy payloads run)
    (method : Method)
    (context : CallContext)
    {payload : Bytes}
    (asked : payload ∈ payloads)
    (cached : Bool) :
    Sound proxy payloads
      (run.begun (proxy.begin run.next method context payload cached run.fabric)) := by
  apply sound.withCall
  refine ⟨fun _ => asked, ?_, by simp [CallStage.key?], by simp, by simp⟩
  intro uses
  simp only [Proxy.caches, Bool.and_eq_true, Bool.or_eq_true, decide_eq_true_eq] at uses
  exact uses.2.2

theorem Sound.beginTyped
    (sound : Sound proxy payloads run)
    (typed : TypedRequest)
    (context : CallContext)
    (asked : typed.payload ∈ payloads)
    (cached : Bool) :
    Sound proxy payloads
      (run.begun (proxy.beginTyped run.next typed context cached run.fabric)) := by
  unfold Proxy.beginTyped
  split
  · exact sound.begin typed.method context asked cached
  · apply sound.withCall
    exact ⟨by simp, by simp, by simp [CallStage.key?], by simp, by simp⟩

/-- Every event keeps what holds. -/
theorem Sound.event
    (sound : Sound proxy payloads run)
    (apart : TellsApart proxy payloads)
    {event : ProxyEvent Peers}
    (asked : ∀ payload ∈ event.payload?, payload ∈ payloads) :
    Sound proxy payloads (run.step proxy event) := by
  have order : run.clock ≤ run.clock := Nat.le_refl _
  cases event with
  | call typed context cached => exact sound.beginTyped typed context (asked _ rfl) cached
  | detach typed context => exact sound.beginTyped typed _ (asked _ rfl) true
  | raw method context payload => exact sound.begin method context (asked _ rfl) true
  | step id => exact sound.step apart id
  | abort id =>
      obtain ⟨cache, calls⟩ := abort_eq proxy id run.fabric
      refine sound.keep order rfl (congrArg CacheLink.entries cache) ?_
      intro other call found
      simp only [ProxyRun.step, calls] at found
      by_cases same : other = id
      · rw [same] at found
        cases (Assoc.find?_erase_self _ _).symm.trans found
      · exact (Assoc.find?_erase_of_ne _ same).symm.trans found
  | fire token => exact sound.keep order rfl rfl fun _ _ found => found
  | pass span => exact sound.keep (Nat.le_add_right _ _) rfl rfl fun _ _ found => found
  | change peers => exact sound.keep order rfl rfl fun _ _ found => found
  | closePool => exact sound.keep order rfl rfl fun _ _ found => found

theorem Sound.resume
    (sound : Sound proxy payloads run)
    (apart : TellsApart proxy payloads)
    (events : List (ProxyEvent Peers))
    (asked : ∀ event ∈ events, ∀ payload ∈ event.payload?, payload ∈ payloads) :
    Sound proxy payloads (run.resume proxy events) := by
  induction events generalizing run with
  | nil => exact sound
  | cons event rest inductionHypothesis =>
      apply inductionHypothesis
      · exact sound.event apart (asked event List.mem_cons_self)
      · exact fun other present => asked other (List.mem_cons_of_mem _ present)

/-- What can be relied on in the cache of a proxy that is asked for some payloads. -/
structure CacheSound (proxy : Proxy Conn Peers) (payloads : Set Bytes)
    (run : ProxyRun Conn Peers) : Prop where
  /-- What was stored came from the handler, and what was served had been stored. -/
  supported : proxy.AllSupported run.notes
  /-- What is held for a request was answered by the handler for this request in a call
  that uses the cache, and stored by this call. -/
  held : ∀ method, ∀ payload ∈ payloads, ∀ cached,
    run.held.find? (method.cacheKey payload) = some cached ->
      ∃ begun due since id,
        ⟨begun, id, method, payload, true, .carriedOut ⟨due, .answer cached.answer⟩⟩ ∈
            run.notes ∧
          ⟨since, id, method, payload, true, .stored cached.answer⟩ ∈ run.notes ∧
          due ≤ since ∧ cached.expiresAt = since + proxy.config.cacheSpan
  /-- Where only marked methods may be stored, no other has an entry. -/
  marked : proxy.config.policy = .marked -> ∀ method payload,
    run.held.contains (method.cacheKey payload) = true -> proxy.table.isCacheable method = true

/-- In every run of a proxy over a new cache, what the cache holds is sound. -/
theorem cacheSound_resume
    (proxy : Proxy Conn Peers)
    (payloads : Set Bytes)
    (apart : TellsApart proxy payloads)
    (capacity : Nat)
    (pool : Pool Conn)
    (peers : Peers)
    (events : List (ProxyEvent Peers))
    (asked : ∀ event ∈ events, ∀ payload ∈ event.payload?, payload ∈ payloads) :
    CacheSound proxy payloads ((start capacity pool peers).resume proxy events) := by
  have sound := (sound_start proxy payloads capacity pool peers).resume apart events asked
  refine ⟨sound.supported, ?_, ?_⟩
  · intro method payload known cached found
    obtain ⟨since, id, stored⟩ := sound.storedBy_of_find? apart known found
    obtain ⟨begun, due, handled, order⟩ := sound.supported.handled_of_stored stored.noted
    exact ⟨begun, due, since, id, handled, stored.noted, order, stored.expiry⟩
  · intro marked method payload present
    obtain ⟨cached, found⟩ := Option.isSome_iff_exists.mp present
    obtain ⟨since, id, owner, request, stored⟩ := sound.entries _ (Assoc.mem_of_find? found)
    obtain ⟨rfl, -⟩ := Method.eq_of_cacheKey_eq (apart.plain owner stored.registered)
      stored.key.symm
    rcases stored.allowed with all | cacheable
    · cases marked.symm.trans all
    · exact cacheable

/-! ## A product that is asked for twice -/

/-- The mall over services that answer everything at once with one product, its proxy
storing what is marked for a second. -/
def catalogue : Proxy Unit Unit where
  config := ⟨CircuitConfig.standard, Duration.ofSeconds 1, .marked⟩
  table := ServiceMethod.table fun now _ peers => (⟨now, .ok [10, 2, 8, 5]⟩, peers)
  dialler := ⟨none, fun now _ peers => (⟨now, .ok ()⟩, peers)⟩
  fallback := .failFast

def getProduct : Method := ⟨"product", "GetProduct"⟩

/-- Two products, by the requests for them. -/
def products : Set Bytes := {[8, 5], [8, 6]}

/-- Both products are asked for, and the first one again half a second later. -/
def askedTwice : List (ProxyEvent Unit) :=
  .raw getProduct .fresh [8, 5] :: List.replicate 12 (.step 0) ++
    .raw getProduct .fresh [8, 6] :: List.replicate 12 (.step 1) ++
    .pass (Duration.ofMillis 500) :: .raw getProduct .fresh [8, 5] :: List.replicate 3 (.step 2)

/-- The mall before anybody has asked for anything. -/
def quiet : ProxyRun Unit Unit := start 16 (Pool.new [⟨"product", "a"⟩] false) ()

theorem tellsApart_products : TellsApart catalogue products where
  plain := fun _ present => ServiceMethod.plain_of_contains_table _ present
  injective := by
    have different : Sha256.digest [8, 5] ≠ Sha256.digest [8, 6] := by decide +kernel
    exact Set.injOn_pair.mpr fun same => absurd same different

/-- The cache is sound when both products are held and the first was served again. -/
theorem cacheSound_resume_askedTwice :
    TellsApart catalogue products ∧
      (∀ event ∈ askedTwice, ∀ payload ∈ event.payload?, payload ∈ products) ∧
      CacheSound catalogue products (quiet.resume catalogue askedTwice) ∧
      (quiet.resume catalogue askedTwice).held.length = 2 ∧
      (quiet.resume catalogue askedTwice).notes.head?.map (fun note => (note.instant, note.id)) =
        some (Duration.ofMillis 500, 2) := by
  have asked : ∀ event ∈ askedTwice, ∀ payload ∈ event.payload?, payload ∈ products := by
    simp [askedTwice, ProxyEvent.payload?, products]
  refine ⟨tellsApart_products, asked, ?_, by decide +kernel, by decide +kernel⟩
  exact cacheSound_resume catalogue products tellsApart_products 16 _ () askedTwice asked

end ProxyRun
end MallFabric
