import MallFabric.Registry.Store

/-!
# The reaper

Reads already hide what has expired; the reaper bounds what expired leases
still hold.  It sweeps the store at intervals until its token fires.  Between two
sweeps it waits for the token and for the end of the interval, and when it finds
both at once it may go on with either.
-/

namespace MallFabric
namespace Registry

/-- What ends the wait of a sweeper. -/
inductive SweeperBranch where
  /-- Its token has fired. -/
  | token
  /-- The interval is over. -/
  | sleep
deriving DecidableEq, Repr, Inhabited

/-- Where a sweeper stands. -/
inductive SweeperPhase where
  /-- It waits for its token and for an instant. -/
  | waiting (due : Instant)
  /-- It has read the clock and is to give up what had expired by then. -/
  | sweeping (since : Instant)
  | ended
deriving DecidableEq, Repr, Inhabited

/-- A task that sweeps a store at intervals. -/
structure Sweeper where
  interval : Duration
  /-- Whether its token has fired. -/
  cancelled : Bool
  phase : SweeperPhase
deriving DecidableEq, Repr, Inhabited

namespace Sweeper

/-- A sweeper that begins to wait now. -/
def begin (now : Instant) (interval : Duration) : Sweeper :=
  ⟨interval, false, .waiting (Instant.timer (now + interval))⟩

def isRunning (sweeper : Sweeper) : Bool := sweeper.phase != .ended

/-- The instant that a sweeper waits for. -/
def due? (sweeper : Sweeper) : Option Instant :=
  match sweeper.phase with
  | .waiting due => some due
  | _ => none

/-- The instant of the sweep that is under way. -/
def sweeping? (sweeper : Sweeper) : Option Instant :=
  match sweeper.phase with
  | .sweeping since => some since
  | _ => none

/-- Whether the interval of a sweeper that waits is over. -/
def isDue (sweeper : Sweeper) (now : Instant) : Bool := sweeper.due?.any fun due => due ≤ now

theorem isDue_of_waiting
    {sweeper : Sweeper}
    {due : Instant}
    (waits : sweeper.phase = .waiting due)
    (now : Instant) :
    sweeper.isDue now = decide (due ≤ now) := by
  rw [isDue, due?, waits]
  rfl

/-- Fire the token.  The sweeper goes on as it was until it looks at it. -/
def cancel (sweeper : Sweeper) : Sweeper := { sweeper with cancelled := true }

/-- The wait ends with a branch, if that branch is ready.  No branch comes first. -/
def select (sweeper : Sweeper) (now : Instant) : SweeperBranch -> Sweeper
  | .token =>
      if sweeper.due?.isSome && sweeper.cancelled then { sweeper with phase := .ended }
      else sweeper
  | .sleep => if sweeper.isDue now then { sweeper with phase := .sweeping now } else sweeper

/-- The instant up to which a sweeper can be left alone: a task that can go on does so
before time passes. -/
def rest? (sweeper : Sweeper) (now : Instant) : Option Instant :=
  match sweeper.phase with
  | .waiting due => some (if sweeper.cancelled then now else due)
  | .sweeping _ => some now
  | .ended => none

end Sweeper

/-- A store and the sweeper that runs over it. -/
structure Reaper extends Sweeper where
  store : Store
deriving DecidableEq, Repr, Inhabited

namespace Reaper

/-- The time between sweeps if nothing is said. -/
def standardInterval : Duration := Duration.ofSeconds 1

/-- A reaper that begins to wait now. -/
def begin (store : Store) (now : Instant) (interval : Duration) : Reaper :=
  ⟨Sweeper.begin now interval, store⟩

def isRunning (reaper : Reaper) : Bool := reaper.toSweeper.isRunning

/-- Sweep the store, if a sweep is under way, and wait for another interval. -/
def sweep (reaper : Reaper) (now : Instant) : Reaper :=
  match reaper.sweeping? with
  | some since =>
      { reaper with
        store := (reaper.store.purgeExpired since).2
        phase := .waiting (Instant.timer (now + reaper.interval)) }
  | none => reaper

/-- Go on with a branch until there is something to wait for again. -/
def goOn (reaper : Reaper) (now : Instant) (branch : SweeperBranch) : Reaper :=
  { reaper with toSweeper := reaper.select now branch }.sweep now

/-- Fire the token and let the reaper, which waits, look at it. -/
def shutdown (reaper : Reaper) : Reaper :=
  { reaper with toSweeper := reaper.cancel.select 0 .token }

end Reaper

end Registry
end MallFabric
