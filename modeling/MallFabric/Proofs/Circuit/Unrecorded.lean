import MallFabric.Proofs.Circuit.Evidence

/-!
# Admissions that leave no trace

Somebody is admitted to a circuit and gives the permit up at once.  A closed circuit and
one that is half open are the same again.  An open circuit whose sleep window has passed
is half open afterwards, and nobody can tell but by asking for its state: it admits and
rejects the same calls as if it had been left alone, and counts the same.
-/

namespace MallFabric

namespace Circuit

/-- The instant of an opening is known, so a circuit that has slept enough has done so
later on as well. -/
theorem sleptEnough_mono
    {circuit : Circuit}
    {since now : Instant}
    (slept : circuit.sleptEnough since = true)
    (order : since ≤ now) :
    circuit.sleptEnough now = true := by
  unfold sleptEnough at slept ⊢
  cases openedAt : circuit.openedAt with
  | none => simp [openedAt] at slept
  | some instant =>
      simp only [openedAt, decide_eq_true_eq] at slept ⊢
      exact Nat.le_trans slept order

/-- The circuit after a trial was admitted and given up. -/
def woken (circuit : Circuit) : Circuit :=
  { circuit with state := .halfOpen, trialInFlight := false }

/-- Two circuits are the same, or the first one is open, has slept enough by an instant
and has not been woken, while the second one has. -/
inductive UpToWaking (since : Instant) (circuit : Circuit) : Circuit -> Prop where
  | same : UpToWaking since circuit circuit
  | woken
      (opened : circuit.state = .opened)
      (slept : circuit.sleptEnough since = true) :
      UpToWaking since circuit circuit.woken

/-- A slot that is taken and given back is free again. -/
theorem drop_of_takeSlot
    {decided holding : Circuit}
    (taken : decided.takeSlot = some holding)
    (permit : Permit) :
    holding.drop permit = decided.abandon permit.trial := by
  obtain ⟨free, slots, rfl⟩ := (takeSlot_eq_some_iff _ _).mp taken
  obtain ⟨trial⟩ := permit
  cases trial with
  | false => simp only [drop, abandon, releaseSlot, Bool.false_eq_true, if_false, ← slots]
  | true => simp only [drop, abandon, releaseSlot, if_true, ← slots]

/-- A decision that is taken back leaves the circuit as it was, but for waking it. -/
theorem upToWaking_abandon
    {circuit decided : Circuit}
    {since : Instant}
    {trial : Bool}
    (decision : circuit.decide since = (.ok trial, decided)) :
    UpToWaking since circuit (decided.abandon trial) := by
  cases state : circuit.state with
  | closed =>
      simp only [decide, state, Prod.mk.injEq, Except.ok.injEq] at decision
      obtain ⟨rfl, rfl⟩ := decision
      exact .same
  | opened =>
      simp only [decide, state] at decision
      split at decision
      · next slept =>
          obtain ⟨rfl, rfl⟩ : true = trial ∧ _ = decided := by
            simpa only [Prod.mk.injEq, Except.ok.injEq] using decision
          exact .woken state slept
      · simp at decision
  | halfOpen =>
      cases idle : circuit.trialInFlight with
      | true => simp [decide, state, idle] at decision
      | false =>
          rw [decide_halfOpen state idle] at decision
          obtain ⟨rfl, rfl⟩ : true = trial ∧ _ = decided := by
            simpa only [Prod.mk.injEq, Except.ok.injEq] using decision
          have restored : ({ circuit with trialInFlight := true }).abandon true = circuit := by
            simp only [abandon, if_true, ← idle]
          rw [restored]
          exact .same

/-- Whoever is admitted and gives the permit up at once leaves the circuit as it was, but
for waking it. -/
theorem upToWaking_drop
    {circuit admitted : Circuit}
    {since : Instant}
    {permit : Permit}
    (answer : circuit.tryAcquire since = (.ok permit, admitted)) :
    UpToWaking since circuit (admitted.drop permit) := by
  have admission := circuit.admission_tryAcquire since
  rw [answer] at admission
  cases admission with
  | @granted trial decided _ decision taken =>
      rw [drop_of_takeSlot taken]
      exact upToWaking_abandon decision

namespace UpToWaking

variable {since now : Instant} {left right : Circuit}

/-- A decision is the same from the instant on, and wakes the first circuit too. -/
theorem exists_decide
    (alike : UpToWaking since left right)
    (order : since ≤ now) :
    ∃ verdict first second, left.decide now = (verdict, first) ∧
      right.decide now = (verdict, second) ∧ UpToWaking since first second := by
  cases alike with
  | same => exact ⟨_, _, _, rfl, rfl, .same⟩
  | woken opened slept =>
      have awake : left.decide now =
          (.ok true, { left with state := .halfOpen, trialInFlight := true }) := by
        simp [Circuit.decide, opened, sleptEnough_mono slept order]
      exact ⟨_, _, _, awake, decide_halfOpen rfl rfl, .same⟩

/-- A slot is free in both circuits or in none. -/
theorem takeSlot
    (alike : UpToWaking since left right) :
    (left.takeSlot = none ∧ right.takeSlot = none) ∨
      ∃ first second, left.takeSlot = some first ∧ right.takeSlot = some second ∧
        UpToWaking since first second := by
  cases alike with
  | same =>
      cases taken : left.takeSlot with
      | none => exact .inl ⟨rfl, rfl⟩
      | some holding => exact .inr ⟨holding, holding, rfl, rfl, .same⟩
  | woken opened slept =>
      cases taken : left.takeSlot with
      | none =>
          refine .inl ⟨rfl, ?_⟩
          cases free : left.freeSlots with
          | zero => simp only [Circuit.takeSlot, Circuit.woken, free]
          | succ rest => simp [Circuit.takeSlot, free] at taken
      | some holding =>
          obtain ⟨free, slots, rfl⟩ := (takeSlot_eq_some_iff _ _).mp taken
          have other : left.woken.takeSlot = some { left.woken with freeSlots := free } :=
            (takeSlot_eq_some_iff _ _).mpr ⟨free, slots, rfl⟩
          exact .inr ⟨_, _, rfl, other, .woken opened slept⟩

theorem rollback
    (alike : UpToWaking since left right)
    (now : Instant)
    (trial : Bool) :
    UpToWaking since (left.rollback now trial) (right.rollback now trial) := by
  cases alike with
  | same => exact .same
  | woken opened slept =>
      cases trial with
      | false => exact .woken opened slept
      | true => exact .woken opened slept

theorem drop
    (alike : UpToWaking since left right)
    (permit : Permit) :
    UpToWaking since (left.drop permit) (right.drop permit) := by
  cases alike with
  | same => exact .same
  | woken opened slept =>
      obtain ⟨trial⟩ := permit
      cases trial with
      | false => exact .woken opened slept
      | true => exact .woken opened slept

/-- An outcome is counted alike.  A trial's leads both circuits into the same state, and
another one moves neither of two that are not closed. -/
theorem resolve
    (alike : UpToWaking since left right)
    (now : Instant)
    (permit : Permit)
    (outcome : Outcome) :
    UpToWaking since (left.resolve now permit outcome) (right.resolve now permit outcome) := by
  cases alike with
  | same => exact .same
  | woken opened slept =>
      obtain ⟨trial⟩ := permit
      cases trial with
      | false =>
          have outside : left.state ≠ .closed := by simp [opened]
          have awake : left.woken.state ≠ .closed := by simp [Circuit.woken]
          simp only [Circuit.resolve, record_of_ne_closed outside, record_of_ne_closed awake]
          exact .woken opened slept
      | true =>
          cases outcome with
          | _ => exact .same

theorem look
    (alike : UpToWaking since left right)
    (read : Instant) :
    UpToWaking since (left.look read) (right.look read) := by
  cases alike with
  | same => exact .same
  | woken opened slept => exact .woken opened slept

theorem counts_eq
    (alike : UpToWaking since left right)
    (read : Instant) :
    left.counts read = right.counts read := by
  cases alike with
  | same => rfl
  | woken opened slept => rfl

/-- The states are the same, or the first circuit has slept enough and the second one is
awake. -/
theorem states
    (alike : UpToWaking since left right) :
    left.state = right.state ∨
      left.state = .opened ∧ left.sleptEnough since = true ∧ right.state = .halfOpen := by
  cases alike with
  | same => exact .inl rfl
  | woken opened slept => exact .inr ⟨opened, slept, rfl⟩

end UpToWaking
end Circuit

/-! ## Two circuits in the same use -/

/-- An admission that begins with an event reads the clock at an instant or later. -/
def TrafficEvent.BeginsFrom (since : Instant) : TrafficEvent -> Prop
  | .decide _ read => since ≤ read
  | _ => True

namespace Traffic

/-- Two circuits have the same callers and are the same up to waking. -/
inductive UpToWaking (since : Instant) : Traffic -> Traffic -> Prop where
  | sharing {clock first second attempts permits}
      (past : since ≤ clock)
      (circuit : first.UpToWaking since second) :
      UpToWaking since ⟨clock, first, attempts, permits⟩ ⟨clock, second, attempts, permits⟩

namespace UpToWaking

variable {since : Instant} {left right : Traffic}

theorem circuit
    (alike : UpToWaking since left right) :
    left.circuit.UpToWaking since right.circuit := by
  cases alike with
  | sharing past circuit => exact circuit

/-- Whatever the callers do, they go on in the same way. -/
theorem step
    (alike : UpToWaking since left right)
    {event : TrafficEvent}
    (begins : event.BeginsFrom since) :
    UpToWaking since (left.step event) (right.step event) := by
  cases alike with
  | @sharing clock first second attempts permits past circuit =>
      cases event with
      | pass span => exact .sharing (Nat.le_add_right_of_le past) circuit
      | decide id read =>
          obtain ⟨verdict, one, two, decision, otherDecision, decided⟩ :=
            circuit.exists_decide begins
          simp only [Traffic.step, decision, otherDecision]
          split
          · exact .sharing past circuit
          · cases verdict with
            | ok trial => exact .sharing past decided
            | error rejection => exact .sharing past decided
      | claim id =>
          simp only [Traffic.step]
          split
          · rcases circuit.takeSlot with ⟨full, otherFull⟩ | ⟨one, two, taken, otherTaken, held⟩
            · rw [full, otherFull]
              exact .sharing past circuit
            · rw [taken, otherTaken]
              exact .sharing past held
          · exact .sharing past circuit
      | rollback id =>
          simp only [Traffic.step]
          split
          · exact .sharing past (circuit.rollback _ _)
          · exact .sharing past circuit
      | resolve id read outcome =>
          simp only [Traffic.step]
          split
          · split
            · exact .sharing past circuit
            · exact .sharing past (circuit.resolve _ _ _)
          · exact .sharing past circuit
      | drop id =>
          simp only [Traffic.step]
          split
          · exact .sharing past (circuit.drop _)
          · exact .sharing past circuit

/-- Every admission is answered in the same way. -/
theorem answer?_eq
    (alike : UpToWaking since left right)
    {event : TrafficEvent}
    (begins : event.BeginsFrom since) :
    left.answer? event = right.answer? event := by
  cases alike with
  | @sharing clock first second attempts permits past circuit =>
      cases event with
      | decide id read =>
          obtain ⟨verdict, one, two, decision, otherDecision, -⟩ := circuit.exists_decide begins
          simp only [answer?, decision, otherDecision]
          cases verdict with
          | ok trial => rfl
          | error rejection => rfl
      | claim id =>
          rcases circuit.takeSlot with ⟨full, otherFull⟩ | ⟨one, two, taken, otherTaken, -⟩
          · simp only [answer?, full, otherFull]
          · simp only [answer?, taken, otherTaken]
      | _ => rfl

end UpToWaking
end Traffic

/-- An admission that begins with an event reads the clock at an instant or later. -/
def WatchedEvent.BeginsFrom (since : Instant) : WatchedEvent -> Prop
  | .use event => event.BeginsFrom since
  | .look _ => True

namespace Watched

/-- A run goes on. -/
def resume (run : Watched) (events : List WatchedEvent) : Watched := events.foldl step run

/-- What an admission is answered that is over with an event. -/
def answer? (run : Watched) : WatchedEvent -> Option (Except Rejection Permit)
  | .use event => run.traffic.answer? event
  | .look _ => none

/-- What can be seen of two circuits whose callers do the same from now on.  No admission
that begins has read the clock before an instant. -/
structure SeenAlike (since : Instant) (left right : Watched) : Prop where
  /-- Every admission is answered alike. -/
  answers : ∀ more event, (∀ earlier ∈ more, earlier.BeginsFrom since) ->
    event.BeginsFrom since ->
      (left.resume more).answer? event = (right.resume more).answer? event
  /-- Every look finds the same counts. -/
  counts : ∀ more read, (∀ earlier ∈ more, earlier.BeginsFrom since) ->
    (left.resume more).circuit.counts read = (right.resume more).circuit.counts read
  /-- The states are the same, or one circuit is open and has slept enough while the other
  one is half open. -/
  states : ∀ more, (∀ earlier ∈ more, earlier.BeginsFrom since) ->
    (left.resume more).circuit.state = (right.resume more).circuit.state ∨
      (left.resume more).circuit.state = .opened ∧
        (left.resume more).circuit.sleptEnough (left.resume more).clock = true ∧
          (right.resume more).circuit.state = .halfOpen

variable {since : Instant} {left right : Watched}

theorem upToWaking_step
    (alike : left.traffic.UpToWaking since right.traffic)
    {event : WatchedEvent}
    (begins : event.BeginsFrom since) :
    (left.step event).traffic.UpToWaking since (right.step event).traffic := by
  cases event with
  | use event => exact alike.step begins
  | look read =>
      obtain ⟨first, log⟩ := left
      obtain ⟨second, otherLog⟩ := right
      cases alike with
      | @sharing now one two attempts permits past circuit =>
          by_cases future : now < read
          · simp only [step, clock, future, if_true]
            exact .sharing past circuit
          · simp only [step, clock, future, if_false]
            exact .sharing past (circuit.look read)

theorem upToWaking_resume
    (alike : left.traffic.UpToWaking since right.traffic)
    {events : List WatchedEvent}
    (begin : ∀ event ∈ events, event.BeginsFrom since) :
    (left.resume events).traffic.UpToWaking since (right.resume events).traffic := by
  induction events generalizing left right with
  | nil => exact alike
  | cons event rest inductionHypothesis =>
      obtain ⟨first, later⟩ := List.forall_mem_cons.mp begin
      exact inductionHypothesis (upToWaking_step alike first) later

/-- Circuits with the same callers that are the same up to waking cannot be told apart but
by their state. -/
theorem seenAlike_of_upToWaking
    (alike : left.traffic.UpToWaking since right.traffic) :
    SeenAlike since left right := by
  refine ⟨fun more event begin begins => ?_, fun more read begin => ?_, fun more begin => ?_⟩
  · have later := upToWaking_resume alike begin
    cases event with
    | use event => exact later.answer?_eq begins
    | look read => rfl
  · exact (upToWaking_resume alike begin).circuit.counts_eq read
  · have later := upToWaking_resume alike begin
    generalize left.resume more = one, right.resume more = two at later
    obtain ⟨first, log⟩ := one
    obtain ⟨second, otherLog⟩ := two
    cases later with
    | sharing past circuit =>
        refine circuit.states.imp id fun asleep => ?_
        exact ⟨asleep.1, Circuit.sleptEnough_mono asleep.2.1 past, asleep.2.2⟩

/-! ## Somebody comes and goes -/

/-- Somebody asks for admission, having just read the clock, and gives the permit up at
once. -/
def visit (id : AttemptId) (since : Instant) : List WatchedEvent :=
  [.use (.decide id since), .use (.claim id), .use (.drop id)]

/-- Nobody is known by a name. -/
def Unknown (run : Watched) (id : AttemptId) : Prop :=
  run.traffic.attempts.find? id = none ∧ run.traffic.permits.find? id = none

/-- Whoever is admitted and gives the permit up at once is not noticed by anybody who comes
later, that is, who reads the clock no earlier than the visitor did. -/
def VisitsUnseen (run : Watched) : Prop :=
  ∀ id since permit, run.Unknown id ->
    (run.step (.use (.decide id since))).answer? (.use (.claim id)) = some (.ok permit) ->
      SeenAlike since run (run.resume (visit id since))

/-- A visit comes to the admission of its visitor and the end of the permit. -/
theorem upToWaking_visit
    {run : Watched}
    {id : AttemptId}
    {permit : Permit}
    (unknown : run.Unknown id)
    (admitted : (run.step (.use (.decide id since))).answer? (.use (.claim id)) =
      some (.ok permit)) :
    run.traffic.UpToWaking since (run.resume (visit id since)).traffic := by
  obtain ⟨⟨clock, circuit, attempts, permits⟩, log⟩ := run
  obtain ⟨newAttempt, newPermit⟩ := unknown
  simp only at newAttempt newPermit
  have noAttempt : attempts.contains id = false := by
    rw [Assoc.contains, newAttempt, Option.isSome_none]
  have noPermit : permits.contains id = false := by
    rw [Assoc.contains, newPermit, Option.isSome_none]
  by_cases future : clock < since
  · simp [step, answer?, Traffic.step, Traffic.answer?, future, newAttempt] at admitted
  · obtain ⟨⟨verdict, decided⟩, decision⟩ : ∃ answer, circuit.decide since = answer := ⟨_, rfl⟩
    cases verdict with
    | error rejection =>
        simp [step, answer?, Traffic.step, Traffic.answer?, future, newAttempt, noAttempt, noPermit,
          decision] at admitted
    | ok trial =>
        cases taken : decided.takeSlot with
        | none =>
            simp [step, answer?, Traffic.step, Traffic.answer?, future, noAttempt, noPermit,
              decision, taken, Assoc.find?_insert_self] at admitted
        | some holding =>
            have answer : circuit.tryAcquire since = (.ok ⟨trial⟩, holding) := by
              simp only [Circuit.tryAcquire, decision, taken]
            have visited : ((⟨⟨clock, circuit, attempts, permits⟩, log⟩ : Watched).resume
                (visit id since)).traffic =
                  ⟨clock, holding.drop ⟨trial⟩, attempts, permits⟩ := by
              simp [resume, visit, step, Traffic.step, future, noAttempt, noPermit, decision, taken,
                Assoc.find?_insert_self, Assoc.erase_insert_of_find?_eq_none newAttempt,
                Assoc.erase_insert_of_find?_eq_none newPermit]
            rw [visited]
            exact .sharing (Nat.le_of_not_lt future) (Circuit.upToWaking_drop answer)

/-- In every run a visit is not noticed by those who come later. -/
theorem visitsUnseen
    (run : Watched) :
    run.VisitsUnseen :=
  fun _ _ _ unknown admitted => seenAlike_of_upToWaking (upToWaking_visit unknown admitted)

/-- A call has opened the circuit of its method five seconds ago. -/
def openedOnce : List WatchedEvent :=
  [.use (.decide 0 0), .use (.claim 0), .use (.resolve 0 0 .failure),
    .use (.pass (Duration.ofSeconds 5))]

/-- A visit leaves the circuit half open, and the next caller makes the same trial as without the
visit. -/
example :
    let opened := after Traffic.fragile openedOnce
    let visited := opened.resume (visit 1 (Duration.ofSeconds 5))
    let asking := WatchedEvent.use (.decide 2 (Duration.ofSeconds 5))
    opened.circuit.state = .opened ∧ visited.circuit.state = .halfOpen ∧
      (opened.step asking).answer? (.use (.claim 2)) = some (.ok ⟨true⟩) ∧
        (visited.step asking).answer? (.use (.claim 2)) = some (.ok ⟨true⟩) := by
  decide

end Watched
end MallFabric
