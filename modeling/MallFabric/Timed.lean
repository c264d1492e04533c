import MallFabric.Clock
import MallFabric.Fault

/-!
# Results that take time

An activity of the fabric ends by an instant of its own with a result, or it
breaks down.  Waiting for it is left to whoever keeps the clock.
-/

namespace MallFabric

/-- A result that is there from an instant on. -/
structure Timed (Result : Type) where
  due : Instant
  result : Result
deriving Repr

namespace Timed

def map {First Second : Type} (function : First -> Second) (timed : Timed First) : Timed Second :=
  ⟨timed.due, function timed.result⟩

end Timed

/-- How the work on a call ends. -/
inductive Reply (Answer : Type) where
  | answer (value : Answer)
  | fault (cause : Fault)
  /-- The task that worked on the call broke down. -/
  | crash
deriving Repr

namespace Reply

/-- Go on with an answer. -/
def bind {First Second : Type} (reply : Reply First) (next : First -> Except Fault Second) :
    Reply Second :=
  match reply with
  | answer first =>
      match next first with
      | .ok second => .answer second
      | .error cause => .fault cause
  | fault cause => .fault cause
  | crash => .crash

end Reply

end MallFabric
