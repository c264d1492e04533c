import MallFabric.Proofs.Circuit.Run

/-!
# Open circuits are honoured

A circuit that opens turns everybody away until its sleep window has passed.
Then the first attempt that finds a free slot makes a trial, and nobody passes
otherwise until a trial has succeeded.  Permits that were granted before the
opening may end at any time and in any way; while the circuit is not closed,
their outcomes move neither its state nor the instant of its opening.
-/

namespace MallFabric

namespace Circuit

variable {circuit : Circuit} {now since : Instant}

/-- An open circuit whose sleep window has not passed turns everybody away. -/
theorem decide_asleep
    (opened : circuit.state = .opened)
    (openedAt : circuit.openedAt = some since)
    (asleep : now < since + circuit.config.sleepWindow) :
    circuit.decide now = (.error .circuitOpen, circuit) := by
  have early : ¬ since + circuit.config.sleepWindow ≤ now := Nat.not_le.mpr asleep
  simp [decide, opened, sleptEnough, openedAt, early]

/-- One whose sleep window has passed lets a trial pass. -/
theorem decide_awake
    (opened : circuit.state = .opened)
    (openedAt : circuit.openedAt = some since)
    (awake : since + circuit.config.sleepWindow ≤ now) :
    circuit.decide now =
      (.ok true, { circuit with state := .halfOpen, trialInFlight := true }) := by
  simp [decide, opened, sleptEnough, openedAt, awake]

/-- So does a half-open circuit without a trial. -/
theorem decide_halfOpen
    (halfOpen : circuit.state = .halfOpen)
    (idle : circuit.trialInFlight = false) :
    circuit.decide now = (.ok true, { circuit with trialInFlight := true }) := by
  simp [decide, halfOpen, idle]

/-- Only a closed circuit lets a call pass that is no trial. -/
theorem closed_of_decide
    {decided : Circuit}
    (passed : circuit.decide now = (.ok false, decided)) :
    circuit.state = .closed := by
  cases state : circuit.state with
  | closed => rfl
  | opened =>
      simp only [decide, state] at passed
      split at passed
      · simp at passed
      · simp at passed
  | halfOpen =>
      simp only [decide, state] at passed
      split at passed
      · simp at passed
      · simp at passed

/-- A call that is no trial draws no conclusions for a circuit that is not closed. -/
theorem record_of_ne_closed
    (outside : circuit.state ≠ .closed)
    (now : Instant)
    (outcome : Outcome) :
    circuit.record now false outcome =
      { circuit with window := circuit.window.note now outcome.event } := by
  simp [record, outside]

/-- No decision closes a circuit. -/
theorem decide_ne_closed
    (outside : circuit.state ≠ .closed)
    {verdict : Except Rejection Bool}
    {decided : Circuit}
    (decision : circuit.decide now = (verdict, decided)) :
    decided.state ≠ .closed := by
  unfold decide at decision
  repeat' split at decision
  all_goals
    obtain ⟨-, rfl⟩ := Prod.mk.inj decision
    simp [outside]

@[simp] theorem state_rollback
    (circuit : Circuit)
    (now : Instant)
    (trial : Bool) :
    (circuit.rollback now trial).state = circuit.state := by
  cases trial with
  | false => rfl
  | true => rfl

/-- Neither does an attempt to be admitted. -/
theorem tryAcquire_ne_closed
    (outside : circuit.state ≠ .closed)
    {verdict : Except Rejection Permit}
    {after : Circuit}
    (answer : circuit.tryAcquire now = (verdict, after)) :
    after.state ≠ .closed := by
  have admission := circuit.admission_tryAcquire now
  rw [answer] at admission
  cases admission with
  | refused decision => exact outside
  | @granted trial decided holding decision taken =>
      obtain ⟨free, -, rfl⟩ := (takeSlot_eq_some_iff decided _).mp taken
      have kept := decide_ne_closed outside decision
      exact kept
  | @saturated trial decided decision full =>
      exact ne_of_eq_of_ne (state_rollback decided now trial) (decide_ne_closed outside decision)

/-- A circuit that is closed by an outcome was closed before, or its trial succeeded. -/
theorem resolve_ne_closed
    (outside : circuit.state ≠ .closed)
    {permit : Permit}
    {outcome : Outcome}
    (other : permit.trial = true -> outcome ≠ .success) :
    (circuit.resolve now permit outcome).state ≠ .closed := by
  unfold resolve releaseSlot
  cases trial : permit.trial with
  | false =>
      rw [record_of_ne_closed outside]
      exact outside
  | true => simp [record, other trial]

/-- No decision opens a circuit. -/
theorem opened_of_decide
    {verdict : Except Rejection Bool}
    {decided : Circuit}
    (decision : circuit.decide now = (verdict, decided))
    (opened : decided.state = .opened) :
    circuit.state = .opened := by
  unfold decide at decision
  repeat' split at decision
  all_goals
    obtain ⟨-, rfl⟩ := Prod.mk.inj decision
    simp_all

/-- Neither does an attempt to be admitted. -/
theorem opened_of_tryAcquire
    {verdict : Except Rejection Permit}
    {after : Circuit}
    (answer : circuit.tryAcquire now = (verdict, after))
    (opened : after.state = .opened) :
    circuit.state = .opened := by
  have admission := circuit.admission_tryAcquire now
  rw [answer] at admission
  cases admission with
  | refused decision => exact opened
  | granted decision taken =>
      obtain ⟨free, -, rfl⟩ := (takeSlot_eq_some_iff _ _).mp taken
      exact opened_of_decide decision opened
  | @saturated trial decided decision full =>
      exact opened_of_decide decision ((state_rollback decided now trial).symm.trans opened)

/-- An outcome that opens a circuit is no success, and a closed circuit's unless it is
a trial's.  The opening is dated to the instant of the outcome. -/
theorem blamed_of_resolve
    {permit : Permit}
    {outcome : Outcome}
    (before : circuit.state ≠ .opened)
    (opened : (circuit.resolve now permit outcome).state = .opened) :
    (outcome ≠ .success ∧ (permit.trial = false -> circuit.state = .closed)) ∧
      (circuit.resolve now permit outcome).openedAt = some now := by
  simp only [resolve, releaseSlot, record] at opened ⊢
  cases trial : permit.trial with
  | true =>
      by_cases succeeded : outcome = .success
      · simp [trial, succeeded] at opened
      · simp [succeeded]
  | false =>
      by_cases opens : circuit.state = .closed ∧ outcome ≠ .success ∧
          ({ circuit with window := circuit.window.note now outcome.event }).shouldOpen now
      · rw [if_neg Bool.false_ne_true, if_pos opens]
        exact ⟨⟨opens.2.1, fun _ => opens.1⟩, rfl⟩
      · rw [trial, if_neg Bool.false_ne_true, if_neg opens] at opened
        exact absurd opened before

@[simp] theorem state_drop
    (circuit : Circuit)
    (permit : Permit) :
    (circuit.drop permit).state = circuit.state := by
  unfold drop abandon releaseSlot
  split
  · rfl
  · rfl

end Circuit

namespace CircuitRun

/-- An event opens the circuit. -/
def Opens (run : CircuitRun) (event : CircuitEvent) : Prop :=
  run.circuit.state ≠ .opened ∧ (run.step event).circuit.state = .opened

/-- An event is a report, made at an instant, that a call failed or timed out while
the circuit was closed, or that its trial did. -/
def Blames (run : CircuitRun) (event : CircuitEvent) (since : Instant) : Prop :=
  ∃ id permit outcome, event = .report id since outcome ∧
    run.permits.find? id = some permit ∧ outcome ≠ .success ∧
    (permit.trial = false ∧ run.circuit.state = .closed ∨
      permit.trial = true ∧ run.circuit.state = .halfOpen)

/-- What can be relied on when the circuit was opened at an instant, however the run
goes on. -/
structure HonouredSince (opened : CircuitRun) (config : CircuitConfig) (since : Instant) :
    Prop where
  /-- Until the sleep window has passed everybody is turned away. -/
  asleep : ∀ more, (opened.resume more).clock < since + config.sleepWindow ->
    (opened.resume more).answer = .error .circuitOpen
  /-- Then the first attempt that finds a free slot makes a trial. -/
  awake : ∀ more, since + config.sleepWindow ≤ (opened.resume more).clock ->
    (∀ permit, .granted permit ∉ opened.notes more) ->
      0 < (opened.resume more).circuit.freeSlots -> (opened.resume more).answer = .ok ⟨true⟩
  /-- Nobody else is admitted until a trial has succeeded. -/
  probation : ∀ more, .reported ⟨true⟩ .success ∉ opened.notes more ->
    (opened.resume more).answer ≠ .ok ⟨false⟩

/-- How a circuit deals with being open. -/
structure OpenHonoured (run : CircuitRun) (config : CircuitConfig) : Prop where
  /-- The circuit is opened by a report that blames the service, and stays honoured
  from the instant of that report. -/
  openings : ∀ event, run.Opens event ->
    ∃ since, run.Blames event since ∧ (run.step event).HonouredSince config since
  /-- The outcome of a call that is no trial moves only a closed circuit. -/
  unmoved : ∀ id permit read outcome, run.permits.find? id = some permit ->
    permit.trial = false -> run.circuit.state ≠ .closed ->
      (run.step (.report id read outcome)).circuit.state = run.circuit.state ∧
        (run.step (.report id read outcome)).circuit.openedAt = run.circuit.openedAt

/-! ## Until a trial has succeeded -/

/-- A circuit that is not closed stays so until a trial succeeds. -/
theorem step_ne_closed
    {run : CircuitRun}
    (outside : run.circuit.state ≠ .closed)
    {event : CircuitEvent}
    (unproven : run.note? event ≠ some (.reported ⟨true⟩ .success)) :
    (run.step event).circuit.state ≠ .closed := by
  have turn := run.turn_step event
  generalize run.note? event = note, run.step event = after at turn unproven
  cases turn with
  | idle => exact outside
  | passed span => exact outside
  | granted fresh answer => exact Circuit.tryAcquire_ne_closed outside answer
  | refused answer => exact Circuit.tryAcquire_ne_closed outside answer
  | @reported id permit read outcome found past =>
      apply Circuit.resolve_ne_closed outside
      rintro trial rfl
      obtain ⟨isTrial⟩ := permit
      exact unproven (by rw [show isTrial = true from trial])
  | dropped found =>
      rw [Circuit.state_drop]
      exact outside

theorem resume_ne_closed
    {run : CircuitRun}
    (outside : run.circuit.state ≠ .closed)
    {events : List CircuitEvent}
    (unproven : .reported ⟨true⟩ .success ∉ run.notes events) :
    (run.resume events).circuit.state ≠ .closed := by
  induction events generalizing run with
  | nil => exact outside
  | cons event rest inductionHypothesis =>
      obtain ⟨first, later⟩ := not_mem_notes_cons unproven
      exact inductionHypothesis (step_ne_closed outside first) later

/-- While the circuit is not closed, whoever is admitted makes a trial. -/
theorem answer_ne_of_ne_closed
    {run : CircuitRun}
    (outside : run.circuit.state ≠ .closed) :
    run.answer ≠ .ok ⟨false⟩ := by
  intro granted
  have admission := run.circuit.admission_tryAcquire run.clock
  rw [show (run.circuit.tryAcquire run.clock).1 = .ok ⟨false⟩ from granted] at admission
  cases admission with
  | granted decision taken => exact outside (Circuit.closed_of_decide decision)

/-! ## Until somebody is admitted -/

/-- The circuit was opened at an instant and has admitted nobody since: it is open
still, or attempts have found its sleep window passed but no free slot. -/
def Resting (run : CircuitRun) (since : Instant) : Prop :=
  run.circuit.state = .opened ∧ run.circuit.openedAt = some since ∨
    run.circuit.state = .halfOpen ∧ run.circuit.trialInFlight = false ∧
      since + run.circuit.config.sleepWindow ≤ run.clock

namespace Resting

variable {config : CircuitConfig} {run : CircuitRun} {since : Instant}

theorem ne_closed
    (resting : run.Resting since) :
    run.circuit.state ≠ .closed := by
  rcases resting with ⟨opened, -⟩ | ⟨halfOpen, -⟩
  · simp [opened]
  · simp [halfOpen]

/-- A circuit at rest has no trial. -/
theorem idle
    (resting : run.Resting since)
    (sound : Sound config run) :
    run.circuit.trialInFlight = false := by
  rcases resting with ⟨opened, -⟩ | ⟨-, idle, -⟩
  · exact sound.balanced.idle (by simp [opened])
  · exact idle

/-- Once the sleep window has passed a circuit at rest lets a trial pass. -/
theorem exists_decide
    (resting : run.Resting since)
    (awake : since + run.circuit.config.sleepWindow ≤ run.clock) :
    run.circuit.decide run.clock =
      (.ok true, { run.circuit with state := .halfOpen, trialInFlight := true }) := by
  rcases resting with ⟨opened, openedAt⟩ | ⟨halfOpen, idle, -⟩
  · exact Circuit.decide_awake opened openedAt awake
  · rw [Circuit.decide_halfOpen halfOpen idle, ← halfOpen]

/-- Until then it turns everybody away. -/
theorem answer_asleep
    (resting : run.Resting since)
    (asleep : run.clock < since + run.circuit.config.sleepWindow) :
    run.circuit.tryAcquire run.clock = (.error .circuitOpen, run.circuit) := by
  rcases resting with ⟨opened, openedAt⟩ | ⟨-, -, awake⟩
  · simp only [Circuit.tryAcquire, Circuit.decide_asleep opened openedAt asleep]
  · exact absurd awake (Nat.not_le.mpr asleep)

/-- An attempt that is turned away leaves the circuit at rest. -/
theorem refused
    (resting : run.Resting since)
    {rejection : Rejection}
    {circuit : Circuit}
    (answer : run.circuit.tryAcquire run.clock = (.error rejection, circuit)) :
    Resting { run with circuit } since := by
  by_cases awake : since + run.circuit.config.sleepWindow ≤ run.clock
  · -- The attempt found the sleep window passed, but no slot, and undid its decision.
    have decision := resting.exists_decide awake
    have admission := run.circuit.admission_tryAcquire run.clock
    rw [answer] at admission
    cases admission with
    | refused refusal => cases refusal.symm.trans decision
    | saturated passed full =>
        cases passed.symm.trans decision
        exact Or.inr ⟨rfl, rfl, awake⟩
  · cases answer.symm.trans (resting.answer_asleep (Nat.lt_of_not_le awake))
    exact resting

/-- What is neither state, opening, trial nor configuration of a circuit does not
disturb its rest. -/
theorem congr
    (resting : run.Resting since)
    {circuit : Circuit}
    (state : circuit.state = run.circuit.state)
    (openedAt : circuit.openedAt = run.circuit.openedAt)
    (trialInFlight : circuit.trialInFlight = run.circuit.trialInFlight)
    (unconfigured : circuit.config = run.circuit.config)
    (permits : Assoc PermitId Permit) :
    Resting { run with circuit, permits } since := by
  simpa only [Resting, state, openedAt, trialInFlight, unconfigured] using resting

/-- A circuit at rest stays so until somebody is admitted. -/
theorem step
    (resting : run.Resting since)
    (sound : Sound config run)
    {event : CircuitEvent}
    (unadmitted : ∀ permit, run.note? event ≠ some (.granted permit)) :
    (run.step event).Resting since := by
  have idle := resting.idle sound
  have turn := run.turn_step event
  generalize run.note? event = note, run.step event = after at turn unadmitted
  cases turn with
  | idle => exact resting
  | passed span =>
      refine resting.imp id fun ⟨halfOpen, idle, awake⟩ => ⟨halfOpen, idle, ?_⟩
      exact Nat.le_trans awake (Nat.le_add_right _ _)
  | granted fresh answer => exact absurd rfl (unadmitted _)
  | refused answer => exact resting.refused answer
  | @reported id permit read outcome found past =>
      have noTrial := sound.trial_eq_false idle found
      have recorded := Circuit.record_of_ne_closed resting.ne_closed read outcome
      simp only [Circuit.resolve, noTrial, recorded]
      exact resting.congr rfl rfl rfl rfl _
  | @dropped id permit found =>
      have noTrial := sound.trial_eq_false idle found
      simp only [Circuit.drop, noTrial]
      exact resting.congr rfl rfl rfl rfl (run.permits.erase id)

theorem resume
    (resting : run.Resting since)
    (sound : Sound config run)
    {events : List CircuitEvent}
    (unadmitted : ∀ permit, .granted permit ∉ run.notes events) :
    (run.resume events).Resting since := by
  induction events generalizing run with
  | nil => exact resting
  | cons event rest inductionHypothesis =>
      apply inductionHypothesis
      · exact resting.step sound fun permit => (not_mem_notes_cons (unadmitted permit)).1
      · exact sound.step event
      · exact fun permit => (not_mem_notes_cons (unadmitted permit)).2

/-- Until the sleep window has passed nobody is admitted, so the circuit stays at rest. -/
theorem resume_asleep
    (resting : run.Resting since)
    (sound : Sound config run)
    {events : List CircuitEvent}
    (asleep : (run.resume events).clock < since + config.sleepWindow) :
    (run.resume events).Resting since := by
  induction events generalizing run with
  | nil => exact resting
  | cons event rest inductionHypothesis =>
      refine inductionHypothesis (resting.step sound fun permit noted => ?_) (sound.step event)
        asleep
      have early : run.clock < since + run.circuit.config.sleepWindow := by
        rw [sound.balanced.config_eq]
        exact Nat.lt_of_le_of_lt (run.clock_le_resume (event :: rest)) asleep
      have refusal := resting.answer_asleep early
      have turn := run.turn_step event
      rw [noted] at turn
      generalize run.step event = after at turn
      cases turn with
      | granted fresh answer => cases answer.symm.trans refusal

/-- A circuit at rest is honoured. -/
theorem honoured
    (resting : run.Resting since)
    (sound : Sound config run) :
    run.HonouredSince config since := by
  have configured : ∀ more, (run.resume more).circuit.config = config :=
    fun more => (sound.resume more).balanced.config_eq
  refine ⟨?_, ?_, ?_⟩
  · intro more asleep
    have stays := resting.resume_asleep sound asleep
    exact congrArg Prod.fst (stays.answer_asleep ((configured more).symm ▸ asleep))
  · intro more awake unadmitted free
    have stays := resting.resume sound unadmitted
    exact Circuit.tryAcquire_of_free (stays.exists_decide ((configured more).symm ▸ awake)) free
  · intro more unproven
    exact answer_ne_of_ne_closed (resume_ne_closed resting.ne_closed unproven)

end Resting

/-! ## Openings -/

/-- A circuit is opened by a report that blames the service, at its instant. -/
theorem Sound.blames
    {config : CircuitConfig}
    {run : CircuitRun}
    (sound : Sound config run)
    {event : CircuitEvent}
    (opens : run.Opens event) :
    ∃ since, run.Blames event since ∧ (run.step event).Resting since := by
  obtain ⟨before, opened⟩ := opens
  have turn := run.turn_step event
  generalize run.note? event = note, run.step event = after at turn opened
  cases turn with
  | idle => exact absurd opened before
  | passed span => exact absurd opened before
  | granted fresh answer =>
      exact absurd (Circuit.opened_of_tryAcquire answer opened) before
  | refused answer =>
      exact absurd (Circuit.opened_of_tryAcquire answer opened) before
  | @reported id permit read outcome found past =>
      obtain ⟨blamed, openedAt⟩ := Circuit.blamed_of_resolve before opened
      refine ⟨read, ⟨id, permit, outcome, rfl, found, blamed.1, ?_⟩, Or.inl ⟨opened, openedAt⟩⟩
      cases trial : permit.trial with
      | false => exact Or.inl ⟨rfl, blamed.2 trial⟩
      | true => exact Or.inr ⟨rfl, sound.halfOpen_of_trial found trial⟩
  | dropped found =>
      rw [Circuit.state_drop] at opened
      exact absurd opened before

/-- In every run an open circuit is honoured. -/
theorem openHonoured_after
    (config : CircuitConfig)
    (events : List CircuitEvent) :
    (after config events).OpenHonoured config := by
  have sound := Sound.after config events
  refine ⟨?_, ?_⟩
  · intro event opens
    obtain ⟨since, blames, resting⟩ := sound.blames opens
    exact ⟨since, blames, resting.honoured (sound.step event)⟩
  · intro id permit read outcome found noTrial outside
    have turn := (after config events).turn_step (.report id read outcome)
    generalize (after config events).note? (.report id read outcome) = note,
      (after config events).step (.report id read outcome) = later at turn
    cases turn with
    | idle => exact ⟨rfl, rfl⟩
    | reported foundAgain past =>
        cases found.symm.trans foundAgain
        simp only [Circuit.resolve, noTrial, Circuit.record_of_ne_closed outside]
        exact ⟨rfl, rfl⟩

/-- A failure opens the circuit of a method that is judged by its first call; five seconds
later it makes a trial. -/
example :
    let run := after { CircuitConfig.standard with requestVolumeThreshold := 1 }
      [.acquire 0, .report 0 0 .failure]
    run.answer = .error .circuitOpen ∧
      (run.step (.pass (Duration.ofSeconds 5))).answer = .ok ⟨true⟩ := by
  decide

end CircuitRun
end MallFabric
