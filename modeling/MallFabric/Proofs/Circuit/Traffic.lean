import MallFabric.Proofs.Assoc
import MallFabric.Proofs.Circuit.Balance

/-!
# Traffic through one circuit

Any number of callers use a circuit at once.  An admission makes its decision,
its attempt at a slot and, if no slot was free, its rollback in separate steps,
between which every other caller may do something; a permit may end at any
later time, in any state that the circuit has reached by then.

The main statement is about every run: slots, trial flag, state and instant of
opening stay in agreement with the permits that are live and the admissions
that are under way.
-/

namespace MallFabric

/-- What an admission does next. -/
inductive AttemptPhase where
  /-- It tries to take a slot. -/
  | claiming
  /-- No slot was free, and it undoes its decision. -/
  | missed
deriving DecidableEq, Repr

/-- An admission that the state of the circuit let pass. -/
structure Attempt where
  /-- The reading of the clock with which it began. -/
  since : Instant
  trial : Bool
  phase : AttemptPhase
deriving DecidableEq, Repr

abbrev AttemptId := Nat

/-- A circuit with its callers. -/
structure Traffic where
  clock : Instant
  circuit : Circuit
  /-- The admissions under way. -/
  attempts : Assoc AttemptId Attempt
  /-- The live permits. -/
  permits : Assoc AttemptId Permit
deriving Repr

/-- What may happen next.  A reading of the clock may be older than the step
that uses it, since others may come between the two. -/
inductive TrafficEvent where
  /-- Time passes. -/
  | pass (span : Duration)
  /-- A new admission makes its decision. -/
  | decide (id : AttemptId) (since : Instant)
  /-- An admission tries to take a slot. -/
  | claim (id : AttemptId)
  /-- An admission without a slot undoes its decision. -/
  | rollback (id : AttemptId)
  /-- A permit ends with an outcome. -/
  | resolve (id : AttemptId) (read : Instant) (outcome : Outcome)
  /-- A permit ends without an outcome. -/
  | drop (id : AttemptId)
deriving DecidableEq, Repr

namespace TrafficEvent

/-- Who does it.  Time passes by itself. -/
def caller? : TrafficEvent -> Option AttemptId
  | .pass _ => none
  | .decide id _ => some id
  | .claim id => some id
  | .rollback id => some id
  | .resolve id _ _ => some id
  | .drop id => some id

end TrafficEvent

namespace Traffic

/-- A circuit that nobody has used. -/
def start (config : CircuitConfig) : Traffic := ⟨0, Circuit.new config, [], []⟩

/-- Carry out an event.  One that cannot happen changes nothing. -/
def step (traffic : Traffic) : TrafficEvent -> Traffic
  | .pass span => { traffic with clock := traffic.clock + span }
  | .decide id since =>
      if traffic.clock < since || traffic.attempts.contains id || traffic.permits.contains id then
        traffic
      else
        match traffic.circuit.decide since with
        | (.ok trial, circuit) =>
            { traffic with
              circuit, attempts := traffic.attempts.insert id ⟨since, trial, .claiming⟩ }
        | (.error _, circuit) => { traffic with circuit }
  | .claim id =>
      match traffic.attempts.find? id with
      | some ⟨since, trial, .claiming⟩ =>
          match traffic.circuit.takeSlot with
          | some circuit =>
              { traffic with
                circuit
                attempts := traffic.attempts.erase id
                permits := traffic.permits.insert id ⟨trial⟩ }
          | none =>
              { traffic with attempts := traffic.attempts.insert id ⟨since, trial, .missed⟩ }
      | _ => traffic
  | .rollback id =>
      match traffic.attempts.find? id with
      | some ⟨since, trial, .missed⟩ =>
          { traffic with
            circuit := traffic.circuit.rollback since trial
            attempts := traffic.attempts.erase id }
      | _ => traffic
  | .resolve id read outcome =>
      match traffic.permits.find? id with
      | some permit =>
          if traffic.clock < read then traffic
          else
            { traffic with
              circuit := traffic.circuit.resolve read permit outcome
              permits := traffic.permits.erase id }
      | none => traffic
  | .drop id =>
      match traffic.permits.find? id with
      | some permit =>
          { traffic with
            circuit := traffic.circuit.drop permit, permits := traffic.permits.erase id }
      | none => traffic

/-- Traffic goes on. -/
def resume (traffic : Traffic) (events : List TrafficEvent) : Traffic := events.foldl step traffic

/-- The traffic after a run of events. -/
def run (config : CircuitConfig) (events : List TrafficEvent) : Traffic :=
  (start config).resume events

/-- What is counted with an event. -/
def counts? (traffic : Traffic) : TrafficEvent -> Option CallEvent
  | .rollback id =>
      match traffic.attempts.find? id with
      | some ⟨_, _, .missed⟩ => some .rejection
      | _ => none
  | .resolve id read outcome =>
      match traffic.permits.find? id with
      | some _ => if traffic.clock < read then none else some outcome.event
      | none => none
  | _ => none

/-- What an admission is answered, by the event with which it is over. -/
def answer? (traffic : Traffic) : TrafficEvent -> Option (Except Rejection Permit)
  | .decide id since =>
      if traffic.clock < since || traffic.attempts.contains id || traffic.permits.contains id then
        none
      else
        match traffic.circuit.decide since with
        | (.error rejection, _) => some (.error rejection)
        | (.ok _, _) => none
  | .claim id =>
      match traffic.attempts.find? id with
      | some ⟨_, trial, .claiming⟩ =>
          match traffic.circuit.takeSlot with
          | some _ => some (.ok ⟨trial⟩)
          | none => none
      | _ => none
  | .rollback id =>
      match traffic.attempts.find? id with
      | some ⟨_, _, .missed⟩ => some (.error .saturated)
      | _ => none
  | _ => none

/-- The rejections that are answered in the course of some events. -/
def refusals (traffic : Traffic) : List TrafficEvent -> List Rejection
  | [] => []
  | event :: rest =>
      match traffic.answer? event with
      | some (.error rejection) => rejection :: refusals (traffic.step event) rest
      | _ => refusals (traffic.step event) rest

theorem refusals_append
    (traffic : Traffic)
    (earlier later : List TrafficEvent) :
    traffic.refusals (earlier ++ later) =
      traffic.refusals earlier ++ (traffic.resume earlier).refusals later := by
  induction earlier generalizing traffic with
  | nil => rfl
  | cons event rest inductionHypothesis =>
      have goesOn := inductionHypothesis (traffic.step event)
      simp only [List.cons_append, refusals]
      split
      · rw [goesOn]
        rfl
      · exact goesOn

/-- Everything that an event can do, and what is counted with it. -/
inductive Turn (traffic : Traffic) : TrafficEvent -> Option CallEvent -> Traffic -> Prop where
  | idle {event} : Turn traffic event none traffic
  | passed (span : Duration) :
      Turn traffic (.pass span) none { traffic with clock := traffic.clock + span }
  | decided {id since trial circuit}
      (newAttempt : traffic.attempts.find? id = none)
      (newPermit : traffic.permits.find? id = none)
      (past : since ≤ traffic.clock)
      (decision : traffic.circuit.decide since = (.ok trial, circuit)) :
      Turn traffic (.decide id since) none
        { traffic with
          circuit, attempts := traffic.attempts.insert id ⟨since, trial, .claiming⟩ }
  | claimed {id attempt circuit}
      (found : traffic.attempts.find? id = some attempt)
      (taken : traffic.circuit.takeSlot = some circuit) :
      Turn traffic (.claim id) none
        { traffic with
          circuit
          attempts := traffic.attempts.erase id
          permits := traffic.permits.insert id ⟨attempt.trial⟩ }
  | missed {id attempt}
      (found : traffic.attempts.find? id = some attempt) :
      Turn traffic (.claim id) none
        { traffic with attempts := traffic.attempts.insert id { attempt with phase := .missed } }
  | rolledBack {id attempt}
      (found : traffic.attempts.find? id = some attempt) :
      Turn traffic (.rollback id) (some .rejection)
        { traffic with
          circuit := traffic.circuit.rollback attempt.since attempt.trial
          attempts := traffic.attempts.erase id }
  | resolved {id permit read outcome}
      (found : traffic.permits.find? id = some permit)
      (past : read ≤ traffic.clock) :
      Turn traffic (.resolve id read outcome) (some outcome.event)
        { traffic with
          circuit := traffic.circuit.resolve read permit outcome
          permits := traffic.permits.erase id }
  | dropped {id permit}
      (found : traffic.permits.find? id = some permit) :
      Turn traffic (.drop id) none
        { traffic with circuit := traffic.circuit.drop permit, permits := traffic.permits.erase id }

/-- Every event is one of the turns. -/
theorem turn_step
    (traffic : Traffic)
    (event : TrafficEvent) :
    Turn traffic event (traffic.counts? event) (traffic.step event) := by
  cases event with
  | pass span => exact .passed span
  | decide id since =>
      simp only [step, counts?]
      split
      · exact .idle
      · next possible =>
          simp only [Bool.or_eq_true, decide_eq_true_eq, not_or, Assoc.contains, Bool.not_eq_true,
            Option.isSome_eq_false_iff, Option.isNone_iff_eq_none] at possible
          obtain ⟨⟨past, newAttempt⟩, newPermit⟩ := possible
          split
          · next trial circuit decision =>
              exact .decided newAttempt newPermit (Nat.le_of_not_lt past) decision
          · next rejection circuit refused =>
              rw [Circuit.eq_of_decide_eq_error refused]
              exact .idle
  | claim id =>
      simp only [step, counts?]
      split
      · next since trial found =>
          split
          · next circuit taken => exact .claimed found taken
          · exact .missed found
      · exact .idle
  | rollback id =>
      simp only [step, counts?]
      cases found : traffic.attempts.find? id with
      | none => exact .idle
      | some attempt =>
          obtain ⟨since, trial, phase⟩ := attempt
          cases phase with
          | claiming => exact .idle
          | missed => exact .rolledBack found
  | resolve id read outcome =>
      simp only [step, counts?]
      cases found : traffic.permits.find? id with
      | none => exact .idle
      | some permit =>
          by_cases early : traffic.clock < read
          · simpa [early] using Turn.idle
          · simpa [early] using Turn.resolved found (Nat.le_of_not_lt early)
  | drop id =>
      simp only [step, counts?]
      cases found : traffic.permits.find? id with
      | none => exact .idle
      | some permit => exact .dropped found

/-- Others do not concern what a caller has. -/
theorem find?_step_of_ne
    {event : TrafficEvent}
    {id : AttemptId}
    (other : event.caller? ≠ some id)
    (traffic : Traffic) :
    (traffic.step event).attempts.find? id = traffic.attempts.find? id ∧
      (traffic.step event).permits.find? id = traffic.permits.find? id := by
  have turn := traffic.turn_step event
  generalize traffic.counts? event = counted, traffic.step event = after at turn
  have different : ∀ caller, event.caller? = some caller -> id ≠ caller := by
    rintro caller calls rfl
    exact other calls
  cases turn with
  | idle => exact ⟨rfl, rfl⟩
  | passed span => exact ⟨rfl, rfl⟩
  | decided newAttempt newPermit past decision =>
      exact ⟨Assoc.find?_insert_of_ne _ _ (different _ rfl), rfl⟩
  | claimed found taken =>
      exact ⟨Assoc.find?_erase_of_ne _ (different _ rfl),
        Assoc.find?_insert_of_ne _ _ (different _ rfl)⟩
  | missed found => exact ⟨Assoc.find?_insert_of_ne _ _ (different _ rfl), rfl⟩
  | rolledBack found => exact ⟨Assoc.find?_erase_of_ne _ (different _ rfl), rfl⟩
  | resolved found past => exact ⟨rfl, Assoc.find?_erase_of_ne _ (different _ rfl)⟩
  | dropped found => exact ⟨rfl, Assoc.find?_erase_of_ne _ (different _ rfl)⟩

/-- How many trials are live or under way. -/
def trials (traffic : Traffic) : Nat :=
  traffic.attempts.countP (fun entry => entry.2.trial) +
    traffic.permits.countP fun entry => entry.2.trial

/-- A trial has its permit. -/
def TrialLive (traffic : Traffic) : Prop :=
  ∃ id, traffic.permits.find? id = some ⟨true⟩

/-- The admission of a trial has come to a phase: it stands between its decision
and its attempt at a slot, or between an attempt that found no slot and the
rollback that concludes it. -/
def TrialAt (traffic : Traffic) (phase : AttemptPhase) : Prop :=
  ∃ id since, traffic.attempts.find? id = some ⟨since, true, phase⟩

/-- The circuit agrees with its callers. -/
structure Sound (config : CircuitConfig) (traffic : Traffic) : Prop where
  attempts_distinct : traffic.attempts.Distinct
  permits_distinct : traffic.permits.Distinct
  /-- Nobody has a permit before the admission is over. -/
  apart : ∀ id, traffic.attempts.find? id = none ∨ traffic.permits.find? id = none
  balanced : traffic.circuit.Balanced config traffic.permits.length traffic.trials

namespace Sound

variable {config : CircuitConfig} {traffic : Traffic}

theorem start (config : CircuitConfig) : Sound config (start config) where
  attempts_distinct := Assoc.distinct_nil
  permits_distinct := Assoc.distinct_nil
  apart := fun _ => Or.inl rfl
  balanced := Circuit.Balanced.new config

/-- An admission that has passed its decision is under way. -/
theorem enter
    (sound : Sound config traffic)
    {id : AttemptId}
    (newAttempt : traffic.attempts.find? id = none)
    (newPermit : traffic.permits.find? id = none)
    {since : Instant}
    {trial : Bool}
    {circuit : Circuit}
    (decided : traffic.circuit.decide since = (.ok trial, circuit)) :
    Sound config { traffic with
      circuit, attempts := traffic.attempts.insert id ⟨since, trial, .claiming⟩ } := by
  refine ⟨sound.attempts_distinct.insert _ _, sound.permits_distinct, ?_, ?_⟩
  · exact Assoc.apart_insert sound.apart newPermit _
  · have counted : traffic.trials + trial.toNat =
        trials { traffic with
          circuit, attempts := traffic.attempts.insert id ⟨since, trial, .claiming⟩ } := by
      have came := Assoc.countP_insert_of_find?_eq_none newAttempt
        (⟨since, trial, .claiming⟩ : Attempt) fun entry => entry.2.trial
      simp only [trials] at came ⊢
      omega
    rw [← counted]
    exact sound.balanced.decide decided

/-- An admission that finds a slot becomes a permit. -/
theorem grant
    (sound : Sound config traffic)
    {id : AttemptId}
    {attempt : Attempt}
    (found : traffic.attempts.find? id = some attempt)
    {circuit : Circuit}
    (taken : traffic.circuit.takeSlot = some circuit) :
    Sound config { traffic with
      circuit
      attempts := traffic.attempts.erase id
      permits := traffic.permits.insert id ⟨attempt.trial⟩ } := by
  have newPermit := Assoc.free_of_apart sound.apart found
  refine ⟨sound.attempts_distinct.erase _, sound.permits_distinct.insert _ _, ?_, ?_⟩
  · exact Assoc.apart_move sound.apart id _
  · have counted : traffic.trials =
        trials { traffic with
          circuit
          attempts := traffic.attempts.erase id
          permits := traffic.permits.insert id ⟨attempt.trial⟩ } := by
      have left := Assoc.countP_erase_of_find? sound.attempts_distinct found
        fun entry => entry.2.trial
      have came := Assoc.countP_insert_of_find?_eq_none newPermit (⟨attempt.trial⟩ : Permit)
        fun entry => entry.2.trial
      simp only [trials] at left came ⊢
      omega
    have held := Assoc.length_insert_of_find?_eq_none newPermit (⟨attempt.trial⟩ : Permit)
    rw [← counted, held]
    exact sound.balanced.takeSlot taken

/-- An admission that finds no slot is still under way. -/
theorem miss
    (sound : Sound config traffic)
    {id : AttemptId}
    {attempt : Attempt}
    (found : traffic.attempts.find? id = some attempt) :
    Sound config { traffic with
      attempts := traffic.attempts.insert id { attempt with phase := .missed } } := by
  refine ⟨sound.attempts_distinct.insert _ _, sound.permits_distinct, ?_, ?_⟩
  · exact Assoc.apart_insert sound.apart (Assoc.free_of_apart sound.apart found) _
  · have counted : traffic.trials =
        trials { traffic with
          attempts := traffic.attempts.insert id { attempt with phase := .missed } } := by
      have replaced := Assoc.countP_insert_of_find? found { attempt with phase := .missed }
        fun entry => entry.2.trial
      simp only [trials] at replaced ⊢
      omega
    rw [← counted]
    exact sound.balanced

/-- An admission that is rolled back is over. -/
theorem rollback
    (sound : Sound config traffic)
    {id : AttemptId}
    {attempt : Attempt}
    (found : traffic.attempts.find? id = some attempt)
    (since : Instant) :
    Sound config { traffic with
      circuit := traffic.circuit.rollback since attempt.trial
      attempts := traffic.attempts.erase id } := by
  refine ⟨sound.attempts_distinct.erase _, sound.permits_distinct, ?_, ?_⟩
  · exact Assoc.apart_erase sound.apart id
  · have counted : traffic.trials =
        trials { traffic with
          circuit := traffic.circuit.rollback since attempt.trial
          attempts := traffic.attempts.erase id } + attempt.trial.toNat := by
      have left := Assoc.countP_erase_of_find? sound.attempts_distinct found
        fun entry => entry.2.trial
      simp only [trials] at left ⊢
      omega
    have balanced := sound.balanced
    rw [counted] at balanced
    exact balanced.rollback since

/-- A permit that ends takes its slot and its trial with it, provided that the
circuit gives both back. -/
theorem finish
    (sound : Sound config traffic)
    {id : AttemptId}
    {permit : Permit}
    (found : traffic.permits.find? id = some permit)
    {circuit : Circuit}
    (ended : ∀ held trials,
      traffic.circuit.Balanced config (held + 1) (trials + permit.trial.toNat) ->
        circuit.Balanced config held trials) :
    Sound config { traffic with circuit, permits := traffic.permits.erase id } := by
  refine ⟨sound.attempts_distinct, sound.permits_distinct.erase _, ?_, ?_⟩
  · intro other
    exact (Assoc.apart_erase (fun key => (sound.apart key).symm) id other).symm
  · have counted : traffic.trials =
        trials { traffic with circuit, permits := traffic.permits.erase id } +
          permit.trial.toNat := by
      have left := Assoc.countP_erase_of_find? sound.permits_distinct found
        fun entry => entry.2.trial
      simp only [trials] at left ⊢
      omega
    have balanced := sound.balanced
    rw [counted, ← Assoc.length_erase_of_find? sound.permits_distinct found] at balanced
    exact ended _ _ balanced

/-- Every turn keeps the circuit in agreement with its callers. -/
theorem turn
    (sound : Sound config traffic)
    {event : TrafficEvent}
    {counted : Option CallEvent}
    {after : Traffic}
    (turn : Turn traffic event counted after) :
    Sound config after := by
  cases turn with
  | idle => exact sound
  | passed span =>
      exact ⟨sound.attempts_distinct, sound.permits_distinct, sound.apart, sound.balanced⟩
  | decided newAttempt newPermit past decision => exact sound.enter newAttempt newPermit decision
  | claimed found taken => exact sound.grant found taken
  | missed found => exact sound.miss found
  | rolledBack found => exact sound.rollback found _
  | resolved found past => exact sound.finish found fun _ _ balanced => balanced.resolve _ _
  | dropped found => exact sound.finish found fun _ _ balanced => balanced.drop

theorem step
    (sound : Sound config traffic)
    (event : TrafficEvent) :
    Sound config (traffic.step event) :=
  sound.turn (traffic.turn_step event)

theorem resume
    (sound : Sound config traffic)
    (events : List TrafficEvent) :
    Sound config (traffic.resume events) := by
  induction events generalizing traffic with
  | nil => exact sound
  | cons event rest inductionHypothesis => exact inductionHypothesis (sound.step event)

/-- Every run keeps the circuit in agreement with its callers. -/
theorem run
    (config : CircuitConfig)
    (events : List TrafficEvent) :
    Sound config (run config events) :=
  (start config).resume events

theorem trialLive_iff
    (sound : Sound config traffic) :
    traffic.TrialLive ↔ 0 < traffic.permits.countP fun entry => entry.2.trial := by
  rw [List.countP_pos_iff]
  constructor
  · rintro ⟨id, found⟩
    exact ⟨_, Assoc.mem_of_find? found, rfl⟩
  · rintro ⟨⟨id, ⟨trial⟩⟩, present, isTrial⟩
    cases isTrial
    exact ⟨id, sound.permits_distinct.find?_of_mem present⟩

/-- The admission of a trial that is under way has come to one of two phases. -/
theorem trialAt_iff
    (sound : Sound config traffic) :
    traffic.TrialAt .claiming ∨ traffic.TrialAt .missed ↔
      0 < traffic.attempts.countP fun entry => entry.2.trial := by
  rw [List.countP_pos_iff]
  constructor
  · rintro (⟨id, since, found⟩ | ⟨id, since, found⟩)
    · exact ⟨_, Assoc.mem_of_find? found, rfl⟩
    · exact ⟨_, Assoc.mem_of_find? found, rfl⟩
  · rintro ⟨⟨id, ⟨since, trial, phase⟩⟩, present, isTrial⟩
    cases isTrial
    have found := sound.attempts_distinct.find?_of_mem present
    cases phase with
    | claiming => exact Or.inl ⟨id, since, found⟩
    | missed => exact Or.inr ⟨id, since, found⟩

/-- The flag of the circuit is set exactly while a trial is live or under way. -/
theorem trialInFlight_iff
    (sound : Sound config traffic) :
    traffic.circuit.trialInFlight = true ↔
      traffic.TrialLive ∨ traffic.TrialAt .claiming ∨ traffic.TrialAt .missed := by
  have counted := sound.balanced.trials_eq
  rw [sound.trialLive_iff, sound.trialAt_iff]
  cases flagged : traffic.circuit.trialInFlight with
  | false =>
      simp only [trials, flagged, Bool.toNat_false] at counted
      simp only [Bool.false_eq_true, false_iff]
      omega
  | true =>
      simp only [trials, flagged, Bool.toNat_true] at counted
      simp only [true_iff]
      omega

end Sound

/-- In every run the free slots and the live permits make up the slots of the
circuit, at most one live permit is a trial's, the trial flag is set exactly
while a trial is live or its admission under way, a live trial finds the
circuit half open, and the instant of the opening is missing exactly when the
circuit is closed. -/
theorem slots_trials_state_agree
    (config : CircuitConfig)
    (events : List TrafficEvent) :
    (run config events).circuit.freeSlots + (run config events).permits.length =
        max 1 config.maxConcurrent ∧
      (run config events).permits.countP (fun entry => entry.2.trial) ≤ 1 ∧
      ((run config events).circuit.trialInFlight = true ↔
        (run config events).TrialLive ∨
          (run config events).TrialAt .claiming ∨ (run config events).TrialAt .missed) ∧
      ((run config events).TrialLive -> (run config events).circuit.state = .halfOpen) ∧
      ((run config events).circuit.openedAt = none ↔
        (run config events).circuit.state = .closed) := by
  have sound := Sound.run config events
  have bound := sound.balanced.trials_le_one
  refine ⟨sound.balanced.slots, ?_, sound.trialInFlight_iff, ?_, sound.balanced.openedAt⟩
  · simp only [trials] at bound
    omega
  · intro live
    exact sound.balanced.halfOpen (sound.trialInFlight_iff.mpr (Or.inl live))

/-- A circuit with one slot that opens with the first failure. -/
def fragile : CircuitConfig :=
  { CircuitConfig.standard with maxConcurrent := 1, requestVolumeThreshold := 1 }

/-- Two callers pass the decision of a closed circuit.  The failure of one opens it, and when it
is time for a trial the other one takes the only slot, which the trial misses. -/
def trialMissed : List TrafficEvent :=
  [.decide 0 0, .decide 1 0, .claim 1, .resolve 1 0 .failure, .pass (Duration.ofSeconds 5),
    .claim 0, .decide 2 (Duration.ofSeconds 5), .claim 2]

/-- The flag says more than that a trial is live or has yet to try for a slot: it stays set until
an admission that missed its slot has undone its decision. -/
theorem not_trialInFlight_iff_live_or_claiming :
    ¬ ∀ (config : CircuitConfig) (events : List TrafficEvent),
      (run config events).circuit.trialInFlight = true ↔
        (run config events).TrialLive ∨ (run config events).TrialAt .claiming := by
  intro agrees
  have flagged : (run fragile trialMissed).circuit.trialInFlight = true := by decide +kernel
  have permits : (run fragile trialMissed).permits = [(0, ⟨false⟩)] := by decide +kernel
  have attempts : (run fragile trialMissed).attempts =
      [(2, ⟨Duration.ofSeconds 5, true, .missed⟩)] := by decide +kernel
  rcases (agrees fragile trialMissed).mp flagged with ⟨id, found⟩ | ⟨id, since, found⟩
  · simp [permits, Assoc.find?] at found
  · simp [attempts, Assoc.find?] at found

end Traffic
end MallFabric
