import MallFabric.Proofs.Circuit.Unrecorded

/-!
# A caller that is not noticed by the others

Somebody is admitted to a circuit and gives the permit up without an outcome, while others
use the circuit.  As long as the slot and the trial of that caller turn nobody away, the
others find the circuit as if the caller did not exist: each of their admissions is answered
alike, and the counts are the same.

The two runs are compared at every moment.  What the caller has taken is given back to the
circuit of the one run, and then the two circuits are the same up to waking.
-/

namespace MallFabric

/-! ## What one caller has of a circuit -/

/-- What a caller has taken of a circuit. -/
structure Share where
  trial : Bool
  slots : Nat
deriving DecidableEq, Repr

namespace Circuit

variable {circuit : Circuit} {share : Share}

/-- The circuit without what a caller has taken of it. -/
def relieve (circuit : Circuit) (share : Share) : Circuit :=
  { circuit.abandon share.trial with freeSlots := circuit.freeSlots + share.slots }

@[simp] theorem relieve_nothing (circuit : Circuit) : circuit.relieve ⟨false, 0⟩ = circuit := rfl

@[simp] theorem window_relieve (circuit : Circuit) (share : Share) :
    (circuit.relieve share).window = circuit.window := by
  obtain ⟨trial, slots⟩ := share
  cases trial <;> rfl

@[simp] theorem state_relieve (circuit : Circuit) (share : Share) :
    (circuit.relieve share).state = circuit.state := by
  obtain ⟨trial, slots⟩ := share
  cases trial <;> rfl

theorem abandon_eq_relieve (circuit : Circuit) (trial : Bool) :
    circuit.abandon trial = circuit.relieve ⟨trial, 0⟩ := by
  cases trial <;> rfl

theorem drop_eq_relieve (circuit : Circuit) (permit : Permit) :
    circuit.drop permit = circuit.relieve ⟨permit.trial, 1⟩ := by
  obtain ⟨trial⟩ := permit
  cases trial <;> rfl

/-- Where a caller makes the trial, nobody else is let through. -/
theorem decide_of_trial
    (halfOpen : circuit.state = .halfOpen)
    (flagged : circuit.trialInFlight = true)
    (now : Instant) :
    circuit.decide now = (.error .circuitOpen, circuit) := by
  simp [decide, halfOpen, flagged]

@[simp] theorem sleptEnough_relieve (circuit : Circuit) (share : Share) (now : Instant) :
    (circuit.relieve share).sleptEnough now = circuit.sleptEnough now := by
  obtain ⟨trial, slots⟩ := share
  cases trial <;> rfl

/-- A caller that makes no trial does not concern the decisions about the others. -/
theorem decide_relieve
    (noTrial : share.trial = false)
    (now : Instant) :
    (circuit.relieve share).decide now =
      ((circuit.decide now).1, (circuit.decide now).2.relieve share) := by
  have idle : (circuit.relieve share).trialInFlight = circuit.trialInFlight := by
    simp [relieve, abandon, noTrial]
  obtain ⟨trial, slots⟩ := share
  cases noTrial
  cases state : circuit.state with
  | closed => simp only [decide, state_relieve, state]
  | opened =>
      simp only [decide, state_relieve, state, sleptEnough_relieve]
      split_ifs <;> rfl
  | halfOpen =>
      simp only [decide, state_relieve, state, idle]
      split_ifs <;> rfl

/-- A slot that was free is free without the caller too. -/
theorem takeSlot_relieve
    {holding : Circuit}
    (taken : circuit.takeSlot = some holding)
    (share : Share) :
    (circuit.relieve share).takeSlot = some (holding.relieve share) := by
  obtain ⟨free, slots, rfl⟩ := (takeSlot_eq_some_iff _ _).mp taken
  obtain ⟨trial, taken⟩ := share
  refine (takeSlot_eq_some_iff _ _).mpr ⟨free + taken, ?_, ?_⟩
  · simp only [relieve, slots]
    omega
  · cases trial <;> rfl

/-- Where the caller holds no slot, none is free without it either. -/
theorem takeSlot_relieve_of_none
    (full : circuit.takeSlot = none)
    (noSlot : share.slots = 0) :
    (circuit.relieve share).takeSlot = none := by
  have none_free : (circuit.relieve share).freeSlots = circuit.freeSlots := by
    simp only [relieve, noSlot, Nat.add_zero]
  cases free : circuit.freeSlots with
  | zero => simp only [takeSlot, none_free, free]
  | succ rest => simp [takeSlot, free] at full

theorem rollback_relieve
    (circuit : Circuit)
    (share : Share)
    (now : Instant)
    (trial : Bool) :
    (circuit.relieve share).rollback now trial = (circuit.rollback now trial).relieve share := by
  obtain ⟨own, slots⟩ := share
  cases own <;> cases trial <;> rfl

theorem drop_relieve
    (circuit : Circuit)
    (share : Share)
    (permit : Permit) :
    (circuit.relieve share).drop permit = (circuit.drop permit).relieve share := by
  obtain ⟨own, slots⟩ := share
  obtain ⟨trial⟩ := permit
  have order : circuit.freeSlots + slots + 1 = circuit.freeSlots + 1 + slots :=
    Nat.add_right_comm _ _ _
  cases own <;> cases trial <;> simp [relieve, drop, abandon, releaseSlot, order]

theorem record_relieve
    (noTrial : share.trial = false)
    (now : Instant)
    (trial : Bool)
    (outcome : Outcome) :
    (circuit.relieve share).record now trial outcome =
      (circuit.record now trial outcome).relieve share := by
  obtain ⟨own, slots⟩ := share
  cases noTrial
  have opens : ({ circuit with
      freeSlots := circuit.freeSlots + slots
      window := circuit.window.note now outcome.event } : Circuit).shouldOpen now =
    ({ circuit with window := circuit.window.note now outcome.event } : Circuit).shouldOpen now :=
      rfl
  simp only [record, relieve, abandon, Bool.false_eq_true, if_false, opens]
  split_ifs <;> rfl

/-- The outcomes of the others lead to the same with and without the caller.  Where the caller
makes the trial, nobody else does, and their outcomes are only counted. -/
theorem resolve_relieve
    {permit : Permit}
    (alone : share.trial = true -> circuit.state = .halfOpen ∧ permit.trial = false)
    (now : Instant)
    (outcome : Outcome) :
    (circuit.relieve share).resolve now permit outcome =
      (circuit.resolve now permit outcome).relieve share := by
  have released : ∀ circuit : Circuit,
      (circuit.relieve share).releaseSlot = circuit.releaseSlot.relieve share := by
    intro circuit
    obtain ⟨own, slots⟩ := share
    have order : circuit.freeSlots + slots + 1 = circuit.freeSlots + 1 + slots :=
      Nat.add_right_comm _ _ _
    cases own <;> simp [relieve, abandon, releaseSlot, order]
  rw [resolve, resolve, ← released]
  cases own : share.trial with
  | false => rw [record_relieve own]
  | true =>
      obtain ⟨halfOpen, noTrial⟩ := alone own
      have outside : circuit.state ≠ .closed := by simp [halfOpen]
      have relieved : (circuit.relieve share).state ≠ .closed := by simp [halfOpen]
      rw [noTrial, record_of_ne_closed outside, record_of_ne_closed relieved]
      simp [relieve, own, abandon]

end Circuit

/-! ## Traffic without one of its callers -/

namespace Traffic

variable {config : CircuitConfig} {traffic : Traffic} {id : AttemptId} {event : TrafficEvent}

/-- What a caller has taken of the circuit. -/
def share (traffic : Traffic) (id : AttemptId) : Share :=
  match traffic.permits.find? id, traffic.attempts.find? id with
  | some permit, _ => ⟨permit.trial, 1⟩
  | none, some attempt => ⟨attempt.trial, 0⟩
  | none, none => ⟨false, 0⟩

/-- The traffic as if a caller had not come. -/
def without (traffic : Traffic) (id : AttemptId) : Traffic where
  clock := traffic.clock
  circuit := traffic.circuit.relieve (traffic.share id)
  attempts := traffic.attempts.erase id
  permits := traffic.permits.erase id

/-- Whether an admission tries for a slot while none is free. -/
def misses (traffic : Traffic) : TrafficEvent -> Bool
  | .claim id =>
      match traffic.attempts.find? id with
      | some ⟨_, _, .claiming⟩ => traffic.circuit.takeSlot.isNone
      | _ => false
  | _ => false

/-- The trial or the slot of a caller stands in the way of an admission. -/
def TurnsAway (traffic : Traffic) (id : AttemptId) (event : TrafficEvent) : Prop :=
  (traffic.share id).trial = true ∧ traffic.answer? event = some (.error .circuitOpen) ∨
    (traffic.share id).slots ≠ 0 ∧ traffic.misses event = true

instance (traffic : Traffic) (id : AttemptId) (event : TrafficEvent) :
    Decidable (traffic.TurnsAway id event) :=
  inferInstanceAs (Decidable (_ ∨ _))

theorem share_step_of_ne
    (other : event.caller? ≠ some id)
    (traffic : Traffic) :
    (traffic.step event).share id = traffic.share id := by
  obtain ⟨attempts, permits⟩ := find?_step_of_ne other traffic
  simp only [share, attempts, permits]

/-- A trial is the caller's, or it is made without that caller too. -/
theorem Sound.trials_without
    (sound : Sound config traffic)
    (id : AttemptId) :
    (traffic.without id).trials + (traffic.share id).trial.toNat = traffic.trials := by
  simp only [trials, without, share]
  cases held : traffic.permits.find? id with
  | some permit =>
      have free := (sound.apart id).resolve_right (by simp [held])
      have left := Assoc.countP_erase_of_find? sound.permits_distinct held
        fun entry => entry.2.trial
      rw [Assoc.erase_of_find?_eq_none free]
      simp only at left ⊢
      omega
  | none =>
      rw [Assoc.erase_of_find?_eq_none held]
      cases tries : traffic.attempts.find? id with
      | some attempt =>
          have left := Assoc.countP_erase_of_find? sound.attempts_distinct tries
            fun entry => entry.2.trial
          simp only at left ⊢
          omega
      | none => rw [Assoc.erase_of_find?_eq_none tries, Bool.toNat_false, Nat.add_zero]

/-- Where a caller makes the trial, the flag is set. -/
theorem Sound.trialInFlight_of_share
    (sound : Sound config traffic)
    (own : (traffic.share id).trial = true) :
    traffic.circuit.trialInFlight = true := by
  have counted := sound.trials_without id
  rw [own, sound.balanced.trials_eq, Bool.toNat_true] at counted
  have bound := Bool.toNat_le traffic.circuit.trialInFlight
  exact Bool.toNat_eq_one.mp (by omega)

/-- Where a caller makes the trial, nobody else makes one. -/
theorem Sound.trial_eq_false_of_share
    (sound : Sound config traffic)
    (own : (traffic.share id).trial = true)
    {other : AttemptId}
    (different : other ≠ id)
    {permit : Permit}
    (found : traffic.permits.find? other = some permit) :
    permit.trial = false := by
  have bound := sound.balanced.trials_le_one
  have counted := sound.trials_without id
  have none_other : ((traffic.permits.erase id).countP fun entry => entry.2.trial) = 0 := by
    simp only [own, Bool.toNat_true, trials, without] at counted
    simp only [trials] at bound
    omega
  have present : (other, permit) ∈ traffic.permits.erase id :=
    Assoc.mem_of_find? ((Assoc.find?_erase_of_ne _ different).trans found)
  exact Bool.not_eq_true _ ▸ List.countP_eq_zero.mp none_other _ present

/-- A decision about another caller is the same without the caller, unless it makes the trial
for whose sake the other one is turned away. -/
theorem Sound.decide_without
    (sound : Sound config traffic)
    {other : AttemptId}
    {since : Instant}
    (possible : (traffic.clock < since || traffic.attempts.contains other ||
      traffic.permits.contains other) = false)
    (spared : ¬ traffic.TurnsAway id (.decide other since)) :
    (traffic.circuit.relieve (traffic.share id)).decide since =
      ((traffic.circuit.decide since).1,
        (traffic.circuit.decide since).2.relieve (traffic.share id)) := by
  refine Circuit.decide_relieve (Bool.eq_false_iff.mpr fun own => spared (.inl ⟨own, ?_⟩)) since
  have flagged := sound.trialInFlight_of_share own
  simp [answer?, possible, Circuit.decide_of_trial (sound.balanced.halfOpen flagged) flagged]

/-- A try for a slot comes to the same without the caller, unless it misses the caller's. -/
theorem takeSlot_without
    {other : AttemptId}
    {since : Instant}
    {trial : Bool}
    (found : traffic.attempts.find? other = some ⟨since, trial, .claiming⟩)
    (spared : ¬ traffic.TurnsAway id (.claim other)) :
    (traffic.circuit.relieve (traffic.share id)).takeSlot =
      traffic.circuit.takeSlot.map fun holding => holding.relieve (traffic.share id) := by
  cases taken : traffic.circuit.takeSlot with
  | some holding => exact Circuit.takeSlot_relieve taken _
  | none =>
      refine Circuit.takeSlot_relieve_of_none taken (Classical.not_not.mp fun holds => spared ?_)
      exact .inr ⟨holds, by simp only [misses, found, taken, Option.isNone_none]⟩

/-- A permit of another caller ends the same without the caller. -/
theorem Sound.resolve_without
    (sound : Sound config traffic)
    {other : AttemptId}
    (different : other ≠ id)
    {permit : Permit}
    (found : traffic.permits.find? other = some permit)
    (read : Instant)
    (outcome : Outcome) :
    (traffic.circuit.relieve (traffic.share id)).resolve read permit outcome =
      (traffic.circuit.resolve read permit outcome).relieve (traffic.share id) := by
  refine Circuit.resolve_relieve (fun own => ?_) read outcome
  exact ⟨sound.balanced.halfOpen (sound.trialInFlight_of_share own),
    sound.trial_eq_false_of_share own different found⟩

/-- Unless they are turned away, the others do the same without the caller. -/
theorem Sound.step_without
    (sound : Sound config traffic)
    (other : event.caller? ≠ some id)
    (spared : ¬ traffic.TurnsAway id event) :
    (traffic.without id).step event = (traffic.step event).without id := by
  have same := share_step_of_ne other traffic
  have apart : ∀ caller, event.caller? = some caller -> caller ≠ id := by
    rintro caller calls rfl
    exact other calls
  cases event with
  | pass span => rfl
  | decide caller since =>
      have attempts := Assoc.contains_erase_of_ne traffic.attempts (apart caller rfl)
      have permits := Assoc.contains_erase_of_ne traffic.permits (apart caller rfl)
      simp only [without, same]
      cases possible : (traffic.clock < since || traffic.attempts.contains caller ||
          traffic.permits.contains caller) with
      | true => simp only [Traffic.step, attempts, permits, possible, if_true]
      | false =>
          have decision := sound.decide_without possible spared
          simp only [Traffic.step, attempts, permits, possible, decision, Bool.false_eq_true, if_false]
          generalize traffic.circuit.decide since = answer
          obtain ⟨verdict, decided⟩ := answer
          cases verdict with
          | ok trial => simp only [Assoc.erase_insert_of_ne _ (apart caller rfl)]
          | error rejection => rfl
  | claim caller =>
      have attempts := Assoc.find?_erase_of_ne traffic.attempts (apart caller rfl)
      simp only [without, same]
      cases found : traffic.attempts.find? caller with
      | none => simp only [Traffic.step, attempts, found]
      | some attempt =>
          obtain ⟨since, trial, phase⟩ := attempt
          cases phase with
          | missed => simp only [Traffic.step, attempts, found]
          | claiming =>
              have slot := takeSlot_without found spared
              simp only [Traffic.step, attempts, found, slot]
              cases taken : traffic.circuit.takeSlot with
              | none => simp only [Option.map_none, Assoc.erase_insert_of_ne _ (apart caller rfl)]
              | some holding =>
                  simp only [Option.map_some, Assoc.erase_insert_of_ne _ (apart caller rfl),
                    Assoc.erase_comm _ caller id]
  | rollback caller =>
      have attempts := Assoc.find?_erase_of_ne traffic.attempts (apart caller rfl)
      simp only [without, same]
      cases found : traffic.attempts.find? caller with
      | none => simp only [Traffic.step, attempts, found]
      | some attempt =>
          obtain ⟨since, trial, phase⟩ := attempt
          cases phase with
          | claiming => simp only [Traffic.step, attempts, found]
          | missed =>
              simp only [Traffic.step, attempts, found, Circuit.rollback_relieve,
                Assoc.erase_comm _ caller id]
  | resolve caller read outcome =>
      have permits := Assoc.find?_erase_of_ne traffic.permits (apart caller rfl)
      simp only [without, same]
      cases found : traffic.permits.find? caller with
      | none => simp only [Traffic.step, permits, found]
      | some permit =>
          by_cases early : traffic.clock < read
          · simp only [Traffic.step, permits, found, early, if_true]
          · have ends := sound.resolve_without (apart caller rfl) found read outcome
            simp only [Traffic.step, permits, found, early, if_false, ends,
              Assoc.erase_comm _ caller id]
  | drop caller =>
      have permits := Assoc.find?_erase_of_ne traffic.permits (apart caller rfl)
      simp only [without, same]
      cases found : traffic.permits.find? caller with
      | none => simp only [Traffic.step, permits, found]
      | some permit =>
          simp only [Traffic.step, permits, found, Circuit.drop_relieve,
            Assoc.erase_comm _ caller id]

/-- Unless they are turned away, the others are answered alike without the caller. -/
theorem Sound.answer?_without
    (sound : Sound config traffic)
    (other : event.caller? ≠ some id)
    (spared : ¬ traffic.TurnsAway id event) :
    (traffic.without id).answer? event = traffic.answer? event := by
  have apart : ∀ caller, event.caller? = some caller -> caller ≠ id := by
    rintro caller calls rfl
    exact other calls
  cases event with
  | decide caller since =>
      have attempts := Assoc.contains_erase_of_ne traffic.attempts (apart caller rfl)
      have permits := Assoc.contains_erase_of_ne traffic.permits (apart caller rfl)
      simp only [without]
      cases possible : (traffic.clock < since || traffic.attempts.contains caller ||
          traffic.permits.contains caller) with
      | true => simp only [answer?, attempts, permits, possible, if_true]
      | false =>
          have decision := sound.decide_without possible spared
          simp only [answer?, attempts, permits, possible, decision, Bool.false_eq_true, if_false]
          generalize traffic.circuit.decide since = answer
          obtain ⟨verdict, decided⟩ := answer
          cases verdict <;> rfl
  | claim caller =>
      have attempts := Assoc.find?_erase_of_ne traffic.attempts (apart caller rfl)
      simp only [without]
      cases found : traffic.attempts.find? caller with
      | none => simp only [answer?, attempts, found]
      | some attempt =>
          obtain ⟨since, trial, phase⟩ := attempt
          cases phase with
          | missed => simp only [answer?, attempts, found]
          | claiming =>
              have slot := takeSlot_without found spared
              simp only [answer?, attempts, found, slot]
              cases traffic.circuit.takeSlot <;> rfl
  | rollback caller =>
      have attempts := Assoc.find?_erase_of_ne traffic.attempts (apart caller rfl)
      simp only [answer?, without, attempts]
  | _ => rfl

/-! ## What the caller does -/

/-- The decisions of an event read the clock when they are made. -/
def IsTimely (traffic : Traffic) : TrafficEvent -> Prop
  | .decide _ since => since = traffic.clock
  | _ => True

namespace UpToWaking

variable {since : Instant} {left middle right : Traffic}

theorem refl (traffic : Traffic) : UpToWaking traffic.clock traffic traffic :=
  .sharing (Nat.le_refl _) .same

theorem trans
    (first : UpToWaking since left middle)
    (second : UpToWaking since middle right) :
    UpToWaking since left right := by
  cases first with
  | sharing past alike =>
      cases second with
      | sharing past other =>
          refine .sharing past ?_
          cases alike with
          | same => exact other
          | woken opened slept =>
              cases other with
              | same => exact .woken opened slept
              | woken again => cases again

/-- The instant may be any that the clock has reached. -/
theorem now
    (alike : UpToWaking since left right) :
    UpToWaking right.clock left right := by
  cases alike with
  | sharing past circuit =>
      refine .sharing (Nat.le_refl _) ?_
      cases circuit with
      | same => exact .same
      | woken opened slept => exact .woken opened (Circuit.sleptEnough_mono slept past)

end UpToWaking

/-- A caller that does nothing is not noticed, by an entry that is not there. -/
theorem without_of_absent
    (noAttempt : traffic.attempts.find? id = none)
    (noPermit : traffic.permits.find? id = none) :
    traffic.without id = traffic := by
  simp only [without, share, noAttempt, noPermit, Circuit.relieve_nothing,
    Assoc.erase_of_find?_eq_none noAttempt, Assoc.erase_of_find?_eq_none noPermit]

/-- What a caller does is not noticed, unless it is counted. -/
theorem Sound.upToWaking_without
    (sound : Sound config traffic)
    (own : event.caller? = some id)
    (timely : traffic.IsTimely event)
    (uncounted : traffic.counts? event = none) :
    UpToWaking traffic.clock (traffic.without id) ((traffic.step event).without id) := by
  have turn := traffic.turn_step event
  rw [uncounted] at turn
  generalize traffic.step event = after at turn
  cases turn with
  | idle => exact .refl (traffic.without id)
  | passed span => cases own
  | @decided caller since trial circuit newAttempt newPermit past decision =>
      cases own
      cases timely
      rw [without_of_absent newAttempt newPermit]
      simp only [without, share, newPermit, Assoc.find?_insert_self, Assoc.erase_insert_self,
        Assoc.erase_of_find?_eq_none newAttempt, Assoc.erase_of_find?_eq_none newPermit,
        ← Circuit.abandon_eq_relieve]
      exact .sharing past (Circuit.upToWaking_abandon decision)
  | @claimed caller attempt holding found taken =>
      cases own
      have newPermit := Assoc.free_of_apart sound.apart found
      have given : holding.relieve ⟨attempt.trial, 1⟩ =
          traffic.circuit.relieve ⟨attempt.trial, 0⟩ := by
        rw [← Circuit.abandon_eq_relieve, ← Circuit.drop_of_takeSlot taken ⟨attempt.trial⟩,
          Circuit.drop_eq_relieve]
      simp only [without, share, newPermit, found, Assoc.find?_insert_self,
        Assoc.erase_insert_self, Assoc.erase_of_find?_eq_none newPermit, given,
        Assoc.erase_of_find?_eq_none (Assoc.find?_erase_self traffic.attempts id)]
      exact .sharing (Nat.le_refl _) .same
  | @missed caller attempt found =>
      cases own
      have newPermit := Assoc.free_of_apart sound.apart found
      simp only [without, share, newPermit, found, Assoc.find?_insert_self,
        Assoc.erase_insert_self]
      exact .sharing (Nat.le_refl _) .same
  | @dropped caller permit found =>
      cases own
      have newAttempt := (sound.apart id).resolve_right (by simp [found])
      simp only [without, share, newAttempt, found, Assoc.find?_erase_self,
        Circuit.drop_eq_relieve, Circuit.relieve_nothing,
        Assoc.erase_of_find?_eq_none (Assoc.find?_erase_self traffic.permits id)]
      exact .sharing (Nat.le_refl _) .same

/-! ## Runs with and without the caller -/

/-- What a caller does is not counted, and it stands in nobody's way. -/
structure Spares (id : AttemptId) (traffic : Traffic) (event : TrafficEvent) : Prop where
  timely : traffic.IsTimely event
  uncounted : event.caller? = some id -> traffic.counts? event = none
  spared : event.caller? ≠ some id -> ¬ traffic.TurnsAway id event

/-- Something holds whenever an event comes. -/
def Throughout (property : Traffic -> TrafficEvent -> Prop) : Traffic -> List TrafficEvent -> Prop
  | _, [] => True
  | traffic, event :: rest =>
      property traffic event ∧ Throughout property (traffic.step event) rest

theorem throughout_append
    {property : Traffic -> TrafficEvent -> Prop}
    {earlier later : List TrafficEvent} :
    Throughout property traffic (earlier ++ later) ↔
      Throughout property traffic earlier ∧
        Throughout property (traffic.resume earlier) later := by
  induction earlier generalizing traffic with
  | nil => exact ⟨fun holds => ⟨trivial, holds⟩, fun holds => holds.2⟩
  | cons event rest inductionHypothesis =>
      rw [List.cons_append, Throughout, Throughout, inductionHypothesis, and_assoc]
      rfl

instance decidableThroughout (property : Traffic -> TrafficEvent -> Prop)
    [∀ moment event, Decidable (property moment event)] :
    (traffic : Traffic) -> (events : List TrafficEvent) ->
      Decidable (traffic.Throughout property events)
  | _, [] => .isTrue trivial
  | traffic, event :: rest =>
      have := decidableThroughout property (traffic.step event) rest
      inferInstanceAs (Decidable (_ ∧ _))

theorem Throughout.and
    {first second : Traffic -> TrafficEvent -> Prop}
    {events : List TrafficEvent}
    (left : traffic.Throughout first events)
    (right : traffic.Throughout second events) :
    traffic.Throughout (fun moment event => first moment event ∧ second moment event) events := by
  induction events generalizing traffic with
  | nil => trivial
  | cons event rest inductionHypothesis =>
      exact ⟨⟨left.1, right.1⟩, inductionHypothesis left.2 right.2⟩

theorem Throughout.imp
    {property other : Traffic -> TrafficEvent -> Prop}
    {events : List TrafficEvent}
    (holds : traffic.Throughout property events)
    (implies : ∀ moment event, property moment event -> other moment event) :
    traffic.Throughout other events := by
  induction events generalizing traffic with
  | nil => trivial
  | cons event rest inductionHypothesis =>
      exact ⟨implies _ _ holds.1, inductionHypothesis holds.2⟩

theorem throughout_of_mem
    {property : Traffic -> TrafficEvent -> Prop}
    {events : List TrafficEvent}
    (holds : ∀ moment, ∀ event ∈ events, property moment event)
    (traffic : Traffic) :
    traffic.Throughout property events := by
  induction events generalizing traffic with
  | nil => trivial
  | cons event rest inductionHypothesis =>
      refine ⟨holds _ _ List.mem_cons_self, inductionHypothesis (fun moment later present => ?_) _⟩
      exact holds moment later (List.mem_cons_of_mem _ present)

/-- The events of the other callers, and the passing of time. -/
def others (id : AttemptId) (events : List TrafficEvent) : List TrafficEvent :=
  events.filter fun event => event.caller? ≠ some id

/-- A run without a caller beside the run with it: but for what the caller has taken, the
circuits are the same up to waking. -/
def Beside (id : AttemptId) (left right : Traffic) : Prop :=
  UpToWaking right.clock left (right.without id)

namespace Beside

variable {left right : Traffic}

theorem step_own
    (beside : Beside id left right)
    (sound : Sound config right)
    (own : event.caller? = some id)
    (spares : Spares id right event) :
    Beside id left (right.step event) :=
  (beside.trans (sound.upToWaking_without own spares.timely (spares.uncounted own))).now

theorem step_other
    (beside : Beside id left right)
    (sound : Sound config right)
    (other : event.caller? ≠ some id)
    (spares : Spares id right event) :
    Beside id (left.step event) (right.step event) := by
  have begins : event.BeginsFrom right.clock := by
    cases event with
    | decide caller since => exact Nat.le_of_eq spares.timely.symm
    | _ => trivial
  have stepped := UpToWaking.step beside begins
  rw [sound.step_without other (spares.spared other)] at stepped
  exact stepped.now

theorem answer?_eq
    (beside : Beside id left right)
    (sound : Sound config right)
    (other : event.caller? ≠ some id)
    (spares : Spares id right event) :
    left.answer? event = right.answer? event := by
  have begins : event.BeginsFrom right.clock := by
    cases event with
    | decide caller since => exact Nat.le_of_eq spares.timely.symm
    | _ => trivial
  exact (UpToWaking.answer?_eq beside begins).trans
    (sound.answer?_without other (spares.spared other))

theorem resume
    (beside : Beside id left right)
    (sound : Sound config right)
    {events : List TrafficEvent}
    (spares : Throughout (Spares id) right events) :
    Beside id (left.resume (others id events)) (right.resume events) := by
  induction events generalizing left right with
  | nil => exact beside
  | cons event rest inductionHypothesis =>
      obtain ⟨first, later⟩ := spares
      by_cases own : event.caller? = some id
      · have skipped : others id (event :: rest) = others id rest := by simp [others, own]
        rw [skipped]
        exact inductionHypothesis (beside.step_own sound own first) (sound.step event) later
      · have kept : others id (event :: rest) = event :: others id rest := by
          simp [others, own]
        rw [kept]
        exact inductionHypothesis (beside.step_other sound own first) (sound.step event) later

end Beside

/-- Nobody can tell at any moment of a run that a caller was there. -/
structure Unseen (config : CircuitConfig) (id : AttemptId) (events : List TrafficEvent) :
    Prop where
  /-- Every admission of another caller is answered alike. -/
  answers : ∀ earlier event later, events = earlier ++ event :: later ->
    event.caller? ≠ some id ->
      (run config (others id earlier)).answer? event = (run config earlier).answer? event
  /-- The counts are the same. -/
  counts : ∀ earlier later, events = earlier ++ later -> ∀ read,
    (run config (others id earlier)).circuit.counts read = (run config earlier).circuit.counts read
  /-- The states are the same, or the circuit is open and has slept enough without the caller,
  and half open with it. -/
  states : ∀ earlier later, events = earlier ++ later ->
    (run config (others id earlier)).circuit.state = (run config earlier).circuit.state ∨
      (run config (others id earlier)).circuit.state = .opened ∧
        (run config (others id earlier)).circuit.sleptEnough (run config earlier).clock = true ∧
          (run config earlier).circuit.state = .halfOpen

/-- A caller of whom nothing is counted, and who stands in nobody's way, is not noticed. -/
theorem unseen_of_spares
    {events : List TrafficEvent}
    (spares : Throughout (Spares id) (start config) events) :
    Unseen config id events := by
  have beside : ∀ earlier later, events = earlier ++ later ->
      Beside id (run config (others id earlier)) (run config earlier) := by
    rintro earlier later rfl
    have alone : Beside id (start config) (start config) := by
      rw [Beside, without_of_absent rfl rfl]
      exact .refl _
    exact alone.resume (.start config) (throughout_append.mp spares).1
  refine ⟨?_, fun earlier later split read => ?_, fun earlier later split => ?_⟩
  · rintro earlier event later rfl other
    obtain ⟨-, now, -⟩ := throughout_append.mp spares
    exact (beside earlier _ rfl).answer?_eq (.run config earlier) other now
  · have same := (beside earlier later split).circuit.counts_eq read
    simpa only [without, Circuit.counts, Circuit.window_relieve] using same
  · have alike := (beside earlier later split).circuit.states
    simpa only [without, Circuit.state_relieve] using alike

end Traffic
end MallFabric
