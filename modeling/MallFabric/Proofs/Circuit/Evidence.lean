import MallFabric.Proofs.Circuit.Retention
import MallFabric.Proofs.Circuit.Sleep
import MallFabric.Proofs.Circuit.Traffic

/-!
# The evidence behind an opening

Any number of callers use a circuit at once, and some look at its counts.  A closed
circuit opens only when a call that is no trial fails or times out.  Its window then
holds a tail of what was counted since the circuit last closed, nothing of it older than
the span of the window, with enough completed calls and enough errors among them.
-/

namespace MallFabric

/-! ## What a window has to do with the operations of its circuit -/

namespace Circuit

variable {circuit : Circuit} {now : Instant}

@[simp] theorem window_rollback
    (circuit : Circuit)
    (now : Instant)
    (trial : Bool) :
    (circuit.rollback now trial).window = circuit.window.note now .rejection := by
  cases trial with
  | false => rfl
  | true => rfl

@[simp] theorem window_drop
    (circuit : Circuit)
    (permit : Permit) :
    (circuit.drop permit).window = circuit.window := by
  unfold drop abandon releaseSlot
  split
  · rfl
  · rfl

/-- An outcome is counted unless it closes the circuit. -/
theorem window_resolve
    {permit : Permit}
    {outcome : Outcome}
    (other : permit.trial = true -> outcome ≠ .success) :
    (circuit.resolve now permit outcome).window = circuit.window.note now outcome.event := by
  unfold resolve releaseSlot record
  extract_lets noted
  cases trial : permit.trial with
  | true =>
      rw [if_pos rfl, if_neg (other trial)]
  | false =>
      rw [if_neg Bool.false_ne_true]
      split
      · rfl
      · rfl

/-- With the success of a trial the circuit closes and everything is forgotten. -/
theorem closed_resolve
    (circuit : Circuit)
    (now : Instant)
    {permit : Permit}
    (trial : permit.trial = true) :
    (circuit.resolve now permit .success).state = .closed ∧
      (circuit.resolve now permit .success).window =
        (circuit.window.note now .success).reset := by
  unfold resolve releaseSlot record
  rw [trial]
  exact ⟨rfl, rfl⟩

/-- The circuit after somebody has looked at its counts. -/
def look (circuit : Circuit) (now : Instant) : Circuit :=
  { circuit with window := circuit.window.evict now }

end Circuit

namespace Traffic

/-- A permit is a trial's only of a circuit that is half open. -/
theorem Sound.halfOpen_of_trial
    {config : CircuitConfig}
    {traffic : Traffic}
    (sound : Sound config traffic)
    {id : AttemptId}
    {permit : Permit}
    (found : traffic.permits.find? id = some permit)
    (trial : permit.trial = true) :
    traffic.circuit.state = .halfOpen := by
  apply sound.balanced.halfOpen
  have live : permit = ⟨true⟩ := congrArg Permit.mk trial
  exact sound.trialInFlight_iff.mpr (Or.inl ⟨id, live ▸ found⟩)

/-- An event closes the circuit. -/
def Closes (before after : Traffic) : Prop :=
  before.circuit.state ≠ .closed ∧ after.circuit.state = .closed

instance (before after : Traffic) : Decidable (Closes before after) :=
  inferInstanceAs (Decidable (_ ∧ _))

/-- What an event does to the window of the circuit: everything is forgotten when the
circuit closes, and what is counted is noted otherwise. -/
inductive Shift (before after : Traffic) : Option CallEvent -> Prop where
  | emptied {counted} (read : Instant)
      (closes : before.Closes after)
      (window : after.circuit.window = (before.circuit.window.note read .success).reset) :
      Shift before after counted
  | kept
      (unclosed : ¬ before.Closes after)
      (window : after.circuit.window = before.circuit.window) :
      Shift before after none
  | noted {counted} (read : Instant)
      (unclosed : ¬ before.Closes after)
      (past : read ≤ before.clock)
      (window : after.circuit.window = before.circuit.window.note read counted) :
      Shift before after (some counted)

namespace Turn

variable {config : CircuitConfig} {traffic next : Traffic} {event : TrafficEvent}
variable {counted : Option CallEvent}

theorem clock_le
    (turn : Turn traffic event counted next) :
    traffic.clock ≤ next.clock := by
  cases turn with
  | passed span => exact Nat.le_add_right _ _
  | _ => exact Nat.le_refl _

/-- No admission has begun in the future. -/
theorem since_le
    (turn : Turn traffic event counted next)
    (begun : ∀ entry ∈ traffic.attempts, entry.2.since ≤ traffic.clock) :
    ∀ entry ∈ next.attempts, entry.2.since ≤ next.clock := by
  intro entry present
  cases turn with
  | passed span => exact Nat.le_add_right_of_le (begun entry present)
  | decided newAttempt newPermit past decision =>
      rcases Assoc.mem_insert present with rfl | before
      · exact past
      · exact begun entry before
  | @missed id attempt found =>
      rcases Assoc.mem_insert present with rfl | before
      · exact begun (id, attempt) (Assoc.mem_of_find? found)
      · exact begun entry before
  | claimed found taken => exact begun entry (List.mem_of_mem_filter present)
  | rolledBack found => exact begun entry (List.mem_of_mem_filter present)
  | _ => exact begun entry present

/-- Every turn shifts the window in one of these ways. -/
theorem shift
    (turn : Turn traffic event counted next)
    (sound : Sound config traffic)
    (begun : ∀ entry ∈ traffic.attempts, entry.2.since ≤ traffic.clock) :
    traffic.Shift next counted := by
  have stays : next.circuit.state = traffic.circuit.state -> ¬ traffic.Closes next :=
    fun same closes => closes.1 (same.symm.trans closes.2)
  cases turn with
  | idle => exact .kept (stays rfl) rfl
  | passed span => exact .kept (stays rfl) rfl
  | missed found => exact .kept (stays rfl) rfl
  | decided newAttempt newPermit past decision =>
      refine .kept ?_ (Circuit.window_of_decide decision)
      exact fun closes => Circuit.decide_ne_closed closes.1 decision closes.2
  | claimed found taken =>
      obtain ⟨free, -, rfl⟩ := (Circuit.takeSlot_eq_some_iff _ _).mp taken
      exact .kept (stays rfl) rfl
  | @rolledBack id attempt found =>
      refine .noted attempt.since (stays (Circuit.state_rollback _ _ _)) ?_
        (Circuit.window_rollback _ _ _)
      exact begun (id, attempt) (Assoc.mem_of_find? found)
  | dropped found =>
      exact .kept (stays (Circuit.state_drop _ _)) (Circuit.window_drop _ _)
  | @resolved id permit read outcome found past =>
      by_cases succeeds : permit.trial = true ∧ outcome = .success
      · obtain ⟨trial, rfl⟩ := succeeds
        obtain ⟨closed, emptied⟩ := traffic.circuit.closed_resolve read trial
        have halfOpen := sound.halfOpen_of_trial found trial
        have outside : traffic.circuit.state ≠ .closed := by simp [halfOpen]
        exact .emptied read ⟨outside, closed⟩ emptied
      · have other : permit.trial = true -> outcome ≠ .success :=
          fun trial success => succeeds ⟨trial, success⟩
        refine .noted read ?_ past (Circuit.window_resolve other)
        exact fun closes => Circuit.resolve_ne_closed closes.1 other closes.2

/-- A closed circuit is opened by the error of a call that is no trial, and only when its
window is due with it. -/
theorem opens
    (turn : Turn traffic event counted next)
    (sound : Sound config traffic)
    (closed : traffic.circuit.state = .closed)
    (opened : next.circuit.state = .opened) :
    ∃ id read outcome, event = .resolve id read outcome ∧ counted = some outcome.event ∧
      traffic.permits.find? id = some ⟨false⟩ ∧ read ≤ traffic.clock ∧ outcome ≠ .success ∧
      (next.circuit.counts read).Due config := by
  have unopened : traffic.circuit.state ≠ .opened := by simp [closed]
  cases turn with
  | decided newAttempt newPermit past decision =>
      exact absurd (Circuit.opened_of_decide decision opened) unopened
  | claimed found taken =>
      obtain ⟨free, -, rfl⟩ := (Circuit.takeSlot_eq_some_iff _ _).mp taken
      exact absurd opened unopened
  | rolledBack found =>
      exact absurd ((Circuit.state_rollback _ _ _).symm.trans opened) unopened
  | dropped found => exact absurd ((Circuit.state_drop _ _).symm.trans opened) unopened
  | @resolved id permit read outcome found past =>
      obtain ⟨trial⟩ := permit
      cases trial with
      | true =>
          have halfOpen := sound.halfOpen_of_trial found rfl
          cases halfOpen.symm.trans closed
      | false =>
          obtain ⟨failed, due⟩ := (Circuit.opened_record_iff closed read outcome).mp opened
          rw [sound.balanced.config_eq] at due
          exact ⟨id, read, outcome, rfl, rfl, found, past, failed, due⟩
  | _ => exact absurd opened unopened

end Turn

namespace Shift

variable {before after : Traffic} {counted : Option CallEvent} {log : List Noted}

/-- The window keeps its span. -/
theorem span_eq
    (shift : before.Shift after counted) :
    after.circuit.window.span = before.circuit.window.span := by
  cases shift with
  | emptied read closes window => rw [window, Window.reset, Window.span_note]
  | kept unclosed window => rw [window]
  | noted read unclosed past window => rw [window, Window.span_note]

/-- The window retains what is counted until the circuit closes. -/
theorem retains
    (shift : before.Shift after counted)
    (order : before.clock ≤ after.clock)
    (retains : before.circuit.window.Retains before.clock log) :
    after.circuit.window.Retains after.clock
      (if before.Closes after then []
        else log ++ counted.toList.map fun event => ⟨before.clock, event⟩) := by
  refine Window.Retains.later ?_ order
  cases shift with
  | emptied read closes window =>
      rw [if_pos closes, window]
      exact Window.Retains.reset _ _
  | kept unclosed window =>
      rw [if_neg unclosed, window, Option.toList_none, List.map_nil, List.append_nil]
      exact retains
  | noted read unclosed past window =>
      rw [if_neg unclosed, window]
      exact retains.note past _

end Shift
end Traffic

/-! ## Circuits whose history is known -/

/-- What may happen next around a circuit. -/
inductive WatchedEvent where
  | use (event : TrafficEvent)
  /-- Somebody looks at the counts.  The clock may have been read a while before. -/
  | look (read : Instant)
deriving Repr

/-- A circuit with its callers, and what was counted since it was last closed. -/
structure Watched where
  traffic : Traffic
  /-- What was counted, oldest first. -/
  log : List Noted
deriving Repr

namespace Watched

def start (config : CircuitConfig) : Watched := ⟨Traffic.start config, []⟩

def circuit (run : Watched) : Circuit := run.traffic.circuit

def clock (run : Watched) : Instant := run.traffic.clock

/-- Carry out an event.  The log begins anew when the circuit closes. -/
def step (run : Watched) : WatchedEvent -> Watched
  | .use event =>
      let next := run.traffic.step event
      ⟨next,
        if run.traffic.Closes next then []
        else run.log ++
          (run.traffic.counts? event).toList.map fun event => ⟨run.traffic.clock, event⟩⟩
  | .look read =>
      if run.clock < read then run
      else { run with traffic := { run.traffic with circuit := run.circuit.look read } }

/-- A circuit after a run of events. -/
def after (config : CircuitConfig) (events : List WatchedEvent) : Watched :=
  events.foldl step (start config)

/-- What holds in every run. -/
structure Sound (config : CircuitConfig) (run : Watched) : Prop where
  traffic : run.traffic.Sound config
  /-- No admission has begun in the future. -/
  begun : ∀ entry ∈ run.traffic.attempts, entry.2.since ≤ run.clock
  span : run.circuit.window.span = config.rollingWindow
  retains : run.circuit.window.Retains run.clock run.log

variable {config : CircuitConfig} {run : Watched}

theorem sound_start (config : CircuitConfig) : Sound config (start config) where
  traffic := Traffic.Sound.start config
  begun := fun _ absent => absurd absent List.not_mem_nil
  span := rfl
  retains := Window.Retains.reset (Window.new config.rollingWindow config.rollingBuckets) 0

theorem Sound.use
    (sound : Sound config run)
    (event : TrafficEvent) :
    Sound config (run.step (.use event)) := by
  have turn := run.traffic.turn_step event
  have shift := turn.shift sound.traffic sound.begun
  exact ⟨sound.traffic.step event, turn.since_le sound.begun, shift.span_eq.trans sound.span,
    shift.retains turn.clock_le sound.retains⟩

theorem Sound.look
    (sound : Sound config run)
    (read : Instant) :
    Sound config (run.step (.look read)) := by
  simp only [step]
  split
  · exact sound
  · have balanced := sound.traffic.balanced
    refine ⟨⟨sound.traffic.attempts_distinct, sound.traffic.permits_distinct, sound.traffic.apart,
      ?_⟩, sound.begun, sound.span, sound.retains.evict read⟩
    exact ⟨balanced.config_eq, balanced.slots, balanced.trials_eq, balanced.halfOpen,
      balanced.openedAt⟩

/-- What is behind the opening of a closed circuit by the outcome of a call. -/
structure Evidence (config : CircuitConfig) (before after : Watched) (id : AttemptId)
    (read : Instant) (outcome : Outcome) (kept : List Noted) : Prop where
  /-- The call is no trial, and it failed or timed out. -/
  permit : before.traffic.permits.find? id = some ⟨false⟩
  past : read ≤ before.clock
  failed : outcome ≠ .success
  /-- Its outcome is counted. -/
  logged : after.log = before.log ++ [⟨before.clock, outcome.event⟩]
  /-- The window holds a tail of what was counted since the circuit last closed, all of it
  counted less than the span of the window before. -/
  tail : kept <:+ after.log
  counted : after.circuit.counts read = Counts.ofLog kept
  recent : ∀ noted ∈ kept, read < noted.instant + config.rollingWindow
  /-- Enough calls were completed, and enough of them were errors. -/
  volume : config.requestVolumeThreshold ≤ kept.countP fun noted => noted.IsCall
  share : config.errorPercentThreshold * (kept.countP fun noted => noted.IsCall) ≤
    (kept.countP fun noted => noted.IsError) * 100

/-- Every event that opens the circuit while it is closed has its evidence. -/
def OpensOnEvidence (run : Watched) (config : CircuitConfig) : Prop :=
  ∀ event, run.circuit.state = .closed -> (run.step event).circuit.state = .opened ->
    ∃ id read outcome kept, event = .use (.resolve id read outcome) ∧
      Evidence config run (run.step event) id read outcome kept

theorem Sound.step
    (sound : Sound config run)
    (event : WatchedEvent) :
    Sound config (run.step event) := by
  cases event with
  | use event => exact sound.use event
  | look read => exact sound.look read

theorem Sound.after
    (config : CircuitConfig)
    (events : List WatchedEvent) :
    Sound config (after config events) := by
  suffices kept : ∀ run, Sound config run -> Sound config (events.foldl Watched.step run) from
    kept _ (sound_start config)
  induction events with
  | nil => exact fun _ sound => sound
  | cons event rest inductionHypothesis =>
      exact fun _ sound => inductionHypothesis _ (sound.step event)

/-- The evidence is found in the window. -/
theorem Sound.opensOnEvidence
    (sound : Sound config run) :
    run.OpensOnEvidence config := by
  intro event closed opened
  have next := sound.step event
  cases event with
  | look read =>
      have same : (run.step (.look read)).circuit.state = run.circuit.state := by
        simp only [Watched.step]
        split
        · rfl
        · rfl
      cases (same.trans closed).symm.trans opened
  | use event =>
      have turn := run.traffic.turn_step event
      obtain ⟨id, read, outcome, rfl, counted, found, past, failed, due⟩ :=
        turn.opens sound.traffic closed opened
      obtain ⟨kept, tail, totals, recent⟩ := next.retains.exists_totals read
      have unclosed : ¬ run.traffic.Closes (run.traffic.step (.resolve id read outcome)) :=
        fun closes => closes.1 closed
      obtain ⟨volume, share⟩ := due
      have same : ((run.traffic.step (.resolve id read outcome)).circuit.counts read) =
          Counts.ofLog kept :=
        totals
      rw [same, Counts.completed_ofLog] at volume
      rw [same, Counts.completed_ofLog, Counts.errors_ofLog] at share
      refine ⟨id, read, outcome, kept, rfl,
        ⟨found, past, failed, ?_, tail, totals, ?_, volume, share⟩⟩
      · simp only [Watched.step, if_neg unclosed, counted, Option.toList_some, List.map_singleton]
        rfl
      · intro noted present
        exact next.span ▸ recent noted present

/-- In every run a closed circuit opens on evidence only. -/
theorem opensOnEvidence_after
    (config : CircuitConfig)
    (events : List WatchedEvent) :
    (after config events).OpensOnEvidence config :=
  (Sound.after config events).opensOnEvidence

/-- Of three calls under way two fail, ten seconds after each other.  The first failure is
forgotten by then, and the second one makes half of two completed calls errors. -/
example :
    let run := after { CircuitConfig.standard with requestVolumeThreshold := 2 }
      [.use (.decide 0 0), .use (.claim 0), .use (.decide 1 0), .use (.claim 1),
        .use (.decide 2 0), .use (.claim 2), .use (.resolve 0 0 .failure),
        .use (.pass (Duration.ofSeconds 10)), .look (Duration.ofSeconds 10),
        .use (.resolve 1 (Duration.ofSeconds 10) .success)]
    let next := run.step (.use (.resolve 2 (Duration.ofSeconds 10) .failure))
    run.circuit.state = .closed ∧ next.circuit.state = .opened ∧ next.log.length = 3 ∧
      (next.circuit.counts (Duration.ofSeconds 10)).completed = 2 := by
  decide

end Watched
end MallFabric
