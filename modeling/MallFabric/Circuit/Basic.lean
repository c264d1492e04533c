import MallFabric.Circuit.Window
import MallFabric.Fault

/-!
# Circuits

A circuit guards one method.  While it is closed calls pass; once enough of
the recent calls failed it opens and rejects calls for a while; then it lets
a single trial through, whose outcome closes it or opens it again.  In every
state the calls under way are bounded by the number of concurrency slots.

Admission has two steps, the decision on the state and the attempt at a slot.
Other calls may come between them.
-/

namespace MallFabric

/-- How a circuit judges and bounds the calls of a method. -/
structure CircuitConfig where
  /-- The longest that one call may take. -/
  timeout : Duration
  maxConcurrent : Nat
  errorPercentThreshold : Nat
  /-- Completed calls that the window must hold before the errors among them count. -/
  requestVolumeThreshold : Nat
  sleepWindow : Duration
  rollingWindow : Duration
  rollingBuckets : Nat
deriving DecidableEq, Repr, Inhabited

namespace CircuitConfig

/-- The configuration of a circuit about which nothing is said. -/
def standard : CircuitConfig where
  timeout := Duration.ofSeconds 1
  maxConcurrent := 100
  errorPercentThreshold := 50
  requestVolumeThreshold := 20
  sleepWindow := Duration.ofSeconds 5
  rollingWindow := Duration.ofSeconds 10
  rollingBuckets := 10

/-- The number of concurrency slots, one at least. -/
def slots (config : CircuitConfig) : Nat := max 1 config.maxConcurrent

end CircuitConfig

inductive CircuitState where
  | closed
  /-- Calls are rejected. -/
  | opened
  /-- One trial at a time is admitted. -/
  | halfOpen
deriving DecidableEq, Repr, Inhabited

/-- Why a call is not admitted. -/
inductive Rejection where
  | circuitOpen
  | saturated
deriving DecidableEq, Repr, Inhabited

namespace Rejection

def toFault (method : Method) : Rejection -> Fault
  | circuitOpen => .circuitOpen method
  | saturated => .saturated method

end Rejection

/-- How an admitted call ended, where its end says something of the service. -/
inductive Outcome where
  | success
  | failure
  | timeout
deriving DecidableEq, Repr, Inhabited

namespace Outcome

def event : Outcome -> CallEvent
  | success => .success
  | failure => .failure
  | timeout => .timeout

end Outcome

/-- The right to make one call, which holds a slot of the circuit. -/
structure Permit where
  /-- Whether the call is the trial of a circuit that is half open. -/
  trial : Bool
deriving DecidableEq, Repr, Inhabited

/-- The guard of one method. -/
structure Circuit where
  config : CircuitConfig
  state : CircuitState
  openedAt : Option Instant
  /-- Whether a trial is admitted and has not ended. -/
  trialInFlight : Bool
  window : Window
  freeSlots : Nat
deriving DecidableEq, Repr, Inhabited

namespace Circuit

/-- A closed circuit that has seen no call. -/
def new (config : CircuitConfig) : Circuit where
  config := config
  state := .closed
  openedAt := none
  trialInFlight := false
  window := Window.new config.rollingWindow config.rollingBuckets
  freeSlots := config.slots

/-- Whether the sleep window of an open circuit has passed. -/
def sleptEnough (circuit : Circuit) (now : Instant) : Bool :=
  match circuit.openedAt with
  | some openedAt => openedAt + circuit.config.sleepWindow ≤ now
  | none => false

/-- First step of an admission: whether the state lets a call pass, and
whether that call is a trial. -/
def decide (circuit : Circuit) (now : Instant) : Except Rejection Bool × Circuit :=
  match circuit.state with
  | .closed => (.ok false, circuit)
  | .opened =>
      if circuit.sleptEnough now then
        (.ok true, { circuit with state := .halfOpen, trialInFlight := true })
      else (.error .circuitOpen, circuit)
  | .halfOpen =>
      if circuit.trialInFlight then (.error .circuitOpen, circuit)
      else (.ok true, { circuit with trialInFlight := true })

/-- Second step of an admission: take a slot if one is free. -/
def takeSlot (circuit : Circuit) : Option Circuit :=
  match circuit.freeSlots with
  | 0 => none
  | free + 1 => some { circuit with freeSlots := free }

/-- Give up the trial if the call was one. -/
def abandon (circuit : Circuit) (trial : Bool) : Circuit :=
  if trial then { circuit with trialInFlight := false } else circuit

/-- Undo the first step of an admission for which no slot was free; the
rejection is counted at the instant of that first step. -/
def rollback (circuit : Circuit) (now : Instant) (trial : Bool) : Circuit :=
  let abandoned := circuit.abandon trial
  { abandoned with window := abandoned.window.note now .rejection }

/-- Both steps of an admission at once. -/
def tryAcquire (circuit : Circuit) (now : Instant) : Except Rejection Permit × Circuit :=
  match circuit.decide now with
  | (.error rejection, decided) => (.error rejection, decided)
  | (.ok trial, decided) =>
      match decided.takeSlot with
      | some holding => (.ok ⟨trial⟩, holding)
      | none => (.error .saturated, decided.rollback now trial)

/-- Whether the recent calls are bad enough to open a closed circuit. -/
def shouldOpen (circuit : Circuit) (now : Instant) : Bool :=
  let totals := circuit.window.totals now
  circuit.config.requestVolumeThreshold ≤ totals.completed &&
    circuit.config.errorPercentThreshold * totals.completed ≤ totals.errors * 100

/-- Count the outcome of a call and draw the conclusions: a trial closes or
opens the circuit, another call may open it if it is closed. -/
def record (circuit : Circuit) (now : Instant) (trial : Bool) (outcome : Outcome) : Circuit :=
  let noted := { circuit with window := circuit.window.note now outcome.event }
  if trial then
    if outcome = .success then
      { noted with
        trialInFlight := false, state := .closed, openedAt := none, window := noted.window.reset }
    else
      { noted with trialInFlight := false, state := .opened, openedAt := some now }
  else if noted.state = .closed ∧ outcome ≠ .success ∧ noted.shouldOpen now then
    { noted with state := .opened, openedAt := some now }
  else noted

/-- Give a slot back. -/
def releaseSlot (circuit : Circuit) : Circuit :=
  { circuit with freeSlots := circuit.freeSlots + 1 }

/-- End a permit with an outcome. -/
def resolve (circuit : Circuit) (now : Instant) (permit : Permit) (outcome : Outcome) : Circuit :=
  (circuit.record now permit.trial outcome).releaseSlot

/-- End a permit without an outcome. -/
def drop (circuit : Circuit) (permit : Permit) : Circuit :=
  (circuit.abandon permit.trial).releaseSlot

/-- End a permit, with an outcome if there is one. -/
def endPermit (circuit : Circuit) (now : Instant) (permit : Permit) : Option Outcome -> Circuit
  | some outcome => circuit.resolve now permit outcome
  | none => circuit.drop permit

@[simp] theorem freeSlots_decide (circuit : Circuit) (now : Instant) :
    (circuit.decide now).2.freeSlots = circuit.freeSlots := by
  unfold decide
  repeat' split
  all_goals rfl

/-- A slot is taken exactly if one is free. -/
theorem takeSlot_eq_some_iff (circuit holding : Circuit) :
    circuit.takeSlot = some holding ↔
      ∃ free, circuit.freeSlots = free + 1 ∧ holding = { circuit with freeSlots := free } := by
  unfold takeSlot
  split
  · next none_free => simp [none_free]
  · next free some_free =>
      constructor
      · intro taken
        exact ⟨free, some_free, (Option.some.inj taken).symm⟩
      · rintro ⟨other, same, rfl⟩
        have equal : other = free := by omega
        simp [equal]

/-- What the window of the circuit holds now. -/
def counts (circuit : Circuit) (now : Instant) : Counts := circuit.window.totals now

end Circuit

end MallFabric
