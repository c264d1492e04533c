import MallFabric.Proofs.Circuit.Traffic

/-!
# Runs of a circuit

Any number of callers ask a circuit for admission, each in one step, and end
their permits in any order and at any later time.  Every event of such a run is
one of few turns, which tell what is noted of it.  A run is traffic in which no
admission is interrupted, so that the circuit agrees with the live permits.
-/

namespace MallFabric

namespace Circuit

/-- What an attempt to be admitted comes to: the state of the circuit refuses it,
it gets a slot, or it finds no slot and undoes its decision. -/
inductive Admission (circuit : Circuit) (now : Instant) :
    Except Rejection Permit -> Circuit -> Prop where
  | refused {rejection}
      (decision : circuit.decide now = (.error rejection, circuit)) :
      Admission circuit now (.error rejection) circuit
  | granted {trial decided holding}
      (decision : circuit.decide now = (.ok trial, decided))
      (taken : decided.takeSlot = some holding) :
      Admission circuit now (.ok ⟨trial⟩) holding
  | saturated {trial decided}
      (decision : circuit.decide now = (.ok trial, decided))
      (full : decided.takeSlot = none) :
      Admission circuit now (.error .saturated) (decided.rollback now trial)

theorem admission_tryAcquire
    (circuit : Circuit)
    (now : Instant) :
    Admission circuit now (circuit.tryAcquire now).1 (circuit.tryAcquire now).2 := by
  obtain ⟨⟨verdict, decided⟩, decision⟩ : ∃ answer, circuit.decide now = answer := ⟨_, rfl⟩
  unfold tryAcquire
  cases verdict with
  | error rejection =>
      have same := eq_of_decide_eq_error decision
      subst same
      simpa only [decision] using Admission.refused decision
  | ok trial =>
      cases taken : decided.takeSlot with
      | some holding => simpa only [decision, taken] using Admission.granted decision taken
      | none => simpa only [decision, taken] using Admission.saturated decision taken

/-- Whom the state lets pass is admitted if a slot is free. -/
theorem tryAcquire_of_free
    {circuit decided : Circuit}
    {now : Instant}
    {trial : Bool}
    (decision : circuit.decide now = (.ok trial, decided))
    (free : 0 < circuit.freeSlots) :
    (circuit.tryAcquire now).1 = .ok ⟨trial⟩ := by
  have kept : decided.freeSlots = circuit.freeSlots := by
    rw [← freeSlots_decide circuit now, decision]
  obtain ⟨left, some_free⟩ := Nat.exists_eq_add_one_of_ne_zero (Nat.ne_of_gt (kept ▸ free))
  have taken := (takeSlot_eq_some_iff decided _).mpr ⟨left, some_free, rfl⟩
  simp only [tryAcquire, decision, taken]

end Circuit

abbrev PermitId := Nat

/-- What may happen to a circuit next. -/
inductive CircuitEvent where
  /-- Time passes. -/
  | pass (span : Duration)
  /-- Somebody asks for admission. -/
  | acquire (id : PermitId)
  /-- A permit ends with an outcome.  The clock may have been read a while before. -/
  | report (id : PermitId) (read : Instant) (outcome : Outcome)
  /-- A permit ends without an outcome. -/
  | drop (id : PermitId)
deriving DecidableEq, Repr

/-- What is noted of an event. -/
inductive CircuitNote where
  | granted (permit : Permit)
  | refused (rejection : Rejection)
  | reported (permit : Permit) (outcome : Outcome)
  | dropped (permit : Permit)
deriving DecidableEq, Repr

/-- A circuit in use. -/
structure CircuitRun where
  clock : Instant
  circuit : Circuit
  /-- The live permits. -/
  permits : Assoc PermitId Permit
deriving DecidableEq, Repr

namespace CircuitRun

/-- A circuit that nobody has used. -/
def start (config : CircuitConfig) : CircuitRun := ⟨0, Circuit.new config, []⟩

/-- What an attempt to be admitted now is answered. -/
def answer (run : CircuitRun) : Except Rejection Permit :=
  (run.circuit.tryAcquire run.clock).1

/-- Carry out an event.  One that cannot happen changes nothing. -/
def step (run : CircuitRun) : CircuitEvent -> CircuitRun
  | .pass span => { run with clock := run.clock + span }
  | .acquire id =>
      if run.permits.contains id then run
      else match run.circuit.tryAcquire run.clock with
        | (.ok permit, circuit) => { run with circuit, permits := run.permits.insert id permit }
        | (.error _, circuit) => { run with circuit }
  | .report id read outcome =>
      match run.permits.find? id with
      | some permit =>
          if run.clock < read then run
          else
            { run with
              circuit := run.circuit.resolve read permit outcome
              permits := run.permits.erase id }
      | none => run
  | .drop id =>
      match run.permits.find? id with
      | some permit =>
          { run with circuit := run.circuit.drop permit, permits := run.permits.erase id }
      | none => run

/-- What is noted of an event, if it happens. -/
def note? (run : CircuitRun) : CircuitEvent -> Option CircuitNote
  | .pass _ => none
  | .acquire id =>
      if run.permits.contains id then none
      else match run.answer with
        | .ok permit => some (.granted permit)
        | .error rejection => some (.refused rejection)
  | .report id read outcome =>
      match run.permits.find? id with
      | some permit => if run.clock < read then none else some (.reported permit outcome)
      | none => none
  | .drop id => (run.permits.find? id).map .dropped

/-- A run goes on. -/
def resume (run : CircuitRun) (events : List CircuitEvent) : CircuitRun :=
  events.foldl step run

/-- What is noted as a run goes on, in order. -/
def notes (run : CircuitRun) : List CircuitEvent -> List CircuitNote
  | [] => []
  | event :: rest => (run.note? event).toList ++ (run.step event).notes rest

/-- The circuit after a run of events. -/
def after (config : CircuitConfig) (events : List CircuitEvent) : CircuitRun :=
  (start config).resume events

/-- What is not noted as a run goes on is noted neither of its first event nor later. -/
theorem not_mem_notes_cons
    {run : CircuitRun}
    {event : CircuitEvent}
    {rest : List CircuitEvent}
    {note : CircuitNote}
    (absent : note ∉ run.notes (event :: rest)) :
    run.note? event ≠ some note ∧ note ∉ (run.step event).notes rest := by
  rw [notes, List.mem_append, not_or, Option.mem_toList] at absent
  exact absent

/-- Everything that an event can do, and what is noted of it. -/
inductive Turn (run : CircuitRun) : CircuitEvent -> Option CircuitNote -> CircuitRun -> Prop where
  | idle {event} : Turn run event none run
  | passed (span : Duration) :
      Turn run (.pass span) none { run with clock := run.clock + span }
  | granted {id permit circuit}
      (fresh : run.permits.find? id = none)
      (answer : run.circuit.tryAcquire run.clock = (.ok permit, circuit)) :
      Turn run (.acquire id) (some (.granted permit))
        { run with circuit, permits := run.permits.insert id permit }
  | refused {id rejection circuit}
      (answer : run.circuit.tryAcquire run.clock = (.error rejection, circuit)) :
      Turn run (.acquire id) (some (.refused rejection)) { run with circuit }
  | reported {id permit read outcome}
      (found : run.permits.find? id = some permit)
      (past : read ≤ run.clock) :
      Turn run (.report id read outcome) (some (.reported permit outcome))
        { run with
          circuit := run.circuit.resolve read permit outcome
          permits := run.permits.erase id }
  | dropped {id permit}
      (found : run.permits.find? id = some permit) :
      Turn run (.drop id) (some (.dropped permit))
        { run with circuit := run.circuit.drop permit, permits := run.permits.erase id }

/-- Every event is one of the turns. -/
theorem turn_step
    (run : CircuitRun)
    (event : CircuitEvent) :
    Turn run event (run.note? event) (run.step event) := by
  cases event with
  | pass span => exact .passed span
  | acquire id =>
      simp only [step, note?, CircuitRun.answer]
      cases known : run.permits.find? id with
      | some permit => simpa [Assoc.contains, known] using Turn.idle
      | none =>
          obtain ⟨⟨verdict, circuit⟩, answer⟩ :
              ∃ answer, run.circuit.tryAcquire run.clock = answer := ⟨_, rfl⟩
          cases verdict with
          | ok permit => simpa [Assoc.contains, known, answer] using Turn.granted known answer
          | error rejection => simpa [Assoc.contains, known, answer] using Turn.refused answer
  | report id read outcome =>
      simp only [step, note?]
      cases found : run.permits.find? id with
      | none => exact .idle
      | some permit =>
          by_cases early : run.clock < read
          · simpa [early] using Turn.idle
          · simpa [early] using Turn.reported found (Nat.le_of_not_lt early)
  | drop id =>
      simp only [step, note?]
      cases found : run.permits.find? id with
      | none => exact .idle
      | some permit => exact .dropped found

/-- The clock never goes back. -/
theorem clock_le_step
    (run : CircuitRun)
    (event : CircuitEvent) :
    run.clock ≤ (run.step event).clock := by
  have turn := run.turn_step event
  generalize run.note? event = note, run.step event = after at turn
  cases turn with
  | passed span => exact Nat.le_add_right _ _
  | _ => exact Nat.le_refl _

theorem clock_le_resume
    (run : CircuitRun)
    (events : List CircuitEvent) :
    run.clock ≤ (run.resume events).clock := by
  induction events generalizing run with
  | nil => exact Nat.le_refl _
  | cons event rest inductionHypothesis =>
      exact Nat.le_trans (run.clock_le_step event) (inductionHypothesis _)

/-! ## Runs as traffic -/

/-- A circuit in use, with no admission under way. -/
def traffic (run : CircuitRun) : Traffic := ⟨run.clock, run.circuit, [], run.permits⟩

/-- The steps of the callers that make up an event.  An admission makes all of its steps at
once. -/
def trafficEvents (run : CircuitRun) : CircuitEvent -> List TrafficEvent
  | .pass span => [.pass span]
  | .acquire id => [.decide id run.clock, .claim id, .rollback id]
  | .report id read outcome => [.resolve id read outcome]
  | .drop id => [.drop id]

/-- An admission whose steps follow one another is that of the circuit itself. -/
theorem traffic_step_acquire
    (run : CircuitRun)
    (id : PermitId) :
    (run.step (.acquire id)).traffic = run.traffic.resume (run.trafficEvents (.acquire id)) := by
  have idle : Assoc.contains ([] : Assoc AttemptId Attempt) id = false := rfl
  cases known : run.permits.contains id with
  | true => simp [step, trafficEvents, traffic, Traffic.resume, Traffic.step, known]
  | false =>
      obtain ⟨⟨verdict, decided⟩, decision⟩ :
          ∃ answer, run.circuit.decide run.clock = answer := ⟨_, rfl⟩
      cases verdict with
      | error rejection =>
          simp [step, trafficEvents, traffic, Traffic.resume, Traffic.step, idle, known, decision,
            Circuit.tryAcquire]
      | ok trial =>
          cases taken : decided.takeSlot with
          | some holding =>
              simp [step, trafficEvents, traffic, Traffic.resume, Traffic.step, idle, known,
                decision, taken, Circuit.tryAcquire, Assoc.insert, Assoc.find?, Assoc.erase]
          | none =>
              simp [step, trafficEvents, traffic, Traffic.resume, Traffic.step, idle, known,
                decision, taken, Circuit.tryAcquire, Assoc.insert, Assoc.find?, Assoc.erase]

/-- Every event of a run is some steps of traffic. -/
theorem traffic_step
    (run : CircuitRun)
    (event : CircuitEvent) :
    (run.step event).traffic = run.traffic.resume (run.trafficEvents event) := by
  cases event with
  | pass span => rfl
  | acquire id => exact run.traffic_step_acquire id
  | report id read outcome =>
      cases found : run.permits.find? id with
      | none => simp [step, trafficEvents, traffic, Traffic.resume, Traffic.step, found]
      | some permit =>
          by_cases early : run.clock < read
          · simp [step, trafficEvents, traffic, Traffic.resume, Traffic.step, found, early]
          · simp [step, trafficEvents, traffic, Traffic.resume, Traffic.step, found, early]
  | drop id =>
      cases found : run.permits.find? id with
      | none => simp [step, trafficEvents, traffic, Traffic.resume, Traffic.step, found]
      | some permit => simp [step, trafficEvents, traffic, Traffic.resume, Traffic.step, found]

/-- The live permits that are a trial's. -/
def trials (run : CircuitRun) : Nat := run.permits.countP fun entry => entry.2.trial

/-- The circuit agrees with the live permits. -/
def Sound (config : CircuitConfig) (run : CircuitRun) : Prop := run.traffic.Sound config

namespace Sound

variable {config : CircuitConfig} {run : CircuitRun}

theorem start (config : CircuitConfig) : Sound config (start config) := Traffic.Sound.start config

theorem balanced
    (sound : Sound config run) :
    run.circuit.Balanced config run.permits.length run.trials := by
  have balanced := Traffic.Sound.balanced sound
  rw [Traffic.trials, traffic, List.countP_nil, Nat.zero_add] at balanced
  exact balanced

theorem step
    (sound : Sound config run)
    (event : CircuitEvent) :
    Sound config (run.step event) := by
  have goesOn := Traffic.Sound.resume sound (run.trafficEvents event)
  rw [← run.traffic_step event] at goesOn
  exact goesOn

theorem resume
    (sound : Sound config run)
    (events : List CircuitEvent) :
    Sound config (run.resume events) := by
  induction events generalizing run with
  | nil => exact sound
  | cons event rest inductionHypothesis => exact inductionHypothesis (sound.step event)

/-- Every run keeps the circuit in agreement with the live permits. -/
theorem after
    (config : CircuitConfig)
    (events : List CircuitEvent) :
    Sound config (after config events) :=
  (start config).resume events

/-- While no trial is in flight no live permit is a trial's. -/
theorem trial_eq_false
    (sound : Sound config run)
    (idle : run.circuit.trialInFlight = false)
    {id : PermitId}
    {permit : Permit}
    (found : run.permits.find? id = some permit) :
    permit.trial = false := by
  have counted := sound.balanced.trials_eq
  rw [idle, Bool.toNat_false, trials, List.countP_eq_zero] at counted
  exact Bool.eq_false_iff.mpr (counted _ (Assoc.mem_of_find? found))

/-- Trials are made of half-open circuits. -/
theorem halfOpen_of_trial
    (sound : Sound config run)
    {id : PermitId}
    {permit : Permit}
    (found : run.permits.find? id = some permit)
    (trial : permit.trial = true) :
    run.circuit.state = .halfOpen := by
  apply sound.balanced.halfOpen
  cases flagged : run.circuit.trialInFlight with
  | true => rfl
  | false => exact absurd trial (Bool.eq_false_iff.mp (sound.trial_eq_false flagged found))

end Sound
end CircuitRun
end MallFabric
