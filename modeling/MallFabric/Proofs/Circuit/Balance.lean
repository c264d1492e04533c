import MallFabric.Circuit.Basic

/-!
# Circuits in balance

A circuit keeps its slots, its trial flag, its state and the instant of its
opening in agreement.  The agreement is stated against two numbers that only
the callers know: how many permits hold a slot, and how many trials are under
way.  Every operation of a circuit moves these numbers in its own way and keeps
the agreement.
-/

namespace MallFabric
namespace Circuit

/-- The circuit agrees with its callers, of whom `held` have a slot and
`trials` make a trial. -/
structure Balanced
    (config : CircuitConfig)
    (circuit : Circuit)
    (held trials : Nat) : Prop where
  /-- A circuit is never configured anew. -/
  config_eq : circuit.config = config
  /-- Every slot is free or held. -/
  slots : circuit.freeSlots + held = config.slots
  /-- The flag counts the trials under way, of which there is one at most. -/
  trials_eq : trials = circuit.trialInFlight.toNat
  /-- Trials are made in the half-open state only. -/
  halfOpen : circuit.trialInFlight = true -> circuit.state = .halfOpen
  /-- The instant of the opening is known exactly unless the circuit is closed. -/
  openedAt : circuit.openedAt = none ↔ circuit.state = .closed

namespace Balanced

variable {config : CircuitConfig} {circuit : Circuit} {held trials : Nat}

theorem new (config : CircuitConfig) : Balanced config (Circuit.new config) 0 0 where
  config_eq := rfl
  slots := rfl
  trials_eq := rfl
  halfOpen := by simp [Circuit.new]
  openedAt := by simp [Circuit.new]

theorem trials_le_one (balanced : Balanced config circuit held trials) : trials ≤ 1 := by
  rw [balanced.trials_eq]
  exact Bool.toNat_le circuit.trialInFlight

/-- Outside the half-open state there is no trial. -/
theorem idle
    (balanced : Balanced config circuit held trials)
    (other : circuit.state ≠ .halfOpen) :
    circuit.trialInFlight = false := by
  cases flagged : circuit.trialInFlight with
  | false => rfl
  | true => exact absurd (balanced.halfOpen flagged) other

/-- A decision that lets a trial pass begins a trial, another one nothing. -/
theorem decide
    (balanced : Balanced config circuit held trials)
    {now : Instant}
    {trial : Bool}
    {decided : Circuit}
    (passed : circuit.decide now = (.ok trial, decided)) :
    Balanced config decided held (trials + trial.toNat) := by
  have trials_eq := balanced.trials_eq
  have opened := balanced.openedAt
  cases state : circuit.state with
  | closed =>
      simp only [Circuit.decide, state, Prod.mk.injEq, Except.ok.injEq] at passed
      obtain ⟨rfl, rfl⟩ := passed
      exact balanced
  | opened =>
      -- An open circuit has no trial, so the new one is the only one.
      have idle := balanced.idle (by simp [state])
      simp only [Circuit.decide, state] at passed
      split at passed
      · simp only [Prod.mk.injEq, Except.ok.injEq] at passed
        obtain ⟨rfl, rfl⟩ := passed
        refine ⟨balanced.config_eq, balanced.slots, ?_, fun _ => rfl, ?_⟩
        · simp [trials_eq, idle]
        · simpa [state] using opened
      · simp at passed
  | halfOpen =>
      simp only [Circuit.decide, state] at passed
      split at passed
      · simp at passed
      · next idle =>
          simp only [Prod.mk.injEq, Except.ok.injEq] at passed
          obtain ⟨rfl, rfl⟩ := passed
          refine ⟨balanced.config_eq, balanced.slots, ?_, fun _ => rfl, ?_⟩
          · simp [trials_eq, idle]
          · simpa [state] using opened

/-- A slot that is taken is held. -/
theorem takeSlot
    (balanced : Balanced config circuit held trials)
    {holding : Circuit}
    (taken : circuit.takeSlot = some holding) :
    Balanced config holding (held + 1) trials := by
  obtain ⟨free, some_free, rfl⟩ := (takeSlot_eq_some_iff circuit holding).mp taken
  have slots := balanced.slots
  refine ⟨balanced.config_eq, ?_, balanced.trials_eq, balanced.halfOpen, balanced.openedAt⟩
  show free + (held + 1) = config.slots
  omega

/-- Whoever gives up a trial ends it. -/
theorem abandon
    {trial : Bool}
    (balanced : Balanced config circuit held (trials + trial.toNat)) :
    Balanced config (circuit.abandon trial) held trials := by
  have trials_eq := balanced.trials_eq
  have bound := Bool.toNat_le circuit.trialInFlight
  cases trial with
  | false => exact balanced
  | true =>
      refine ⟨balanced.config_eq, balanced.slots, ?_, by simp [Circuit.abandon], balanced.openedAt⟩
      simp only [Bool.toNat_true] at trials_eq
      simp only [Circuit.abandon, if_true, Bool.toNat_false]
      omega

theorem rollback
    {trial : Bool}
    (balanced : Balanced config circuit held (trials + trial.toNat))
    (since : Instant) :
    Balanced config (circuit.rollback since trial) held trials := by
  have abandoned := balanced.abandon
  exact ⟨abandoned.config_eq, abandoned.slots, abandoned.trials_eq, abandoned.halfOpen,
    abandoned.openedAt⟩

/-- The outcome of a call ends its trial if it made one. -/
theorem record
    {trial : Bool}
    (balanced : Balanced config circuit held (trials + trial.toNat))
    (now : Instant)
    (outcome : Outcome) :
    Balanced config (circuit.record now trial outcome) held trials := by
  have trials_eq := balanced.trials_eq
  have bound := Bool.toNat_le circuit.trialInFlight
  cases trial with
  | true =>
      have ended : trials = 0 := by
        simp only [Bool.toNat_true] at trials_eq
        omega
      by_cases success : outcome = .success
      · simp only [Circuit.record, if_true, success]
        exact ⟨balanced.config_eq, balanced.slots, ended, by simp, by simp⟩
      · simp only [Circuit.record, if_true, success, if_false]
        exact ⟨balanced.config_eq, balanced.slots, ended, by simp, by simp⟩
  | false =>
      simp only [Circuit.record, Bool.false_eq_true, if_false]
      split
      · next opens =>
          -- Only a closed circuit opens here, and a closed circuit has no trial.
          have idle := balanced.idle (by simp [opens.1])
          exact ⟨balanced.config_eq, balanced.slots, trials_eq, by simp [idle], by simp⟩
      · exact ⟨balanced.config_eq, balanced.slots, trials_eq, balanced.halfOpen,
          balanced.openedAt⟩

theorem releaseSlot
    (balanced : Balanced config circuit (held + 1) trials) :
    Balanced config circuit.releaseSlot held trials := by
  have slots := balanced.slots
  refine ⟨balanced.config_eq, ?_, balanced.trials_eq, balanced.halfOpen, balanced.openedAt⟩
  show circuit.freeSlots + 1 + held = config.slots
  omega

/-- A permit that ends with an outcome gives back its slot and its trial. -/
theorem resolve
    {permit : Permit}
    (balanced : Balanced config circuit (held + 1) (trials + permit.trial.toNat))
    (now : Instant)
    (outcome : Outcome) :
    Balanced config (circuit.resolve now permit outcome) held trials :=
  (balanced.record now outcome).releaseSlot

/-- A permit that ends without an outcome gives back its slot and its trial. -/
theorem drop
    {permit : Permit}
    (balanced : Balanced config circuit (held + 1) (trials + permit.trial.toNat)) :
    Balanced config (circuit.drop permit) held trials :=
  balanced.abandon.releaseSlot

end Balanced

/-- A refused admission changes nothing. -/
theorem eq_of_decide_eq_error
    {circuit decided : Circuit}
    {now : Instant}
    {rejection : Rejection}
    (refused : circuit.decide now = (.error rejection, decided)) :
    decided = circuit := by
  unfold decide at refused
  repeat' split at refused
  all_goals simp_all

end Circuit
end MallFabric
