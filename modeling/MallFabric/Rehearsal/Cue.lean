import MallFabric.Assoc
import MallFabric.Clock
import MallFabric.Fault

/-!
# Cues

In a rehearsal every peer of the fabric plays from cues.  A peer takes its
cues in order and repeats the last one for ever.
-/

namespace MallFabric.Rehearsal

/-- The cues of each peer. -/
abbrev Cues (Cue : Type) := Assoc String (List Cue)

namespace Cues

variable {Cue : Type}

/-- The next cue of a list, and what is left of it. -/
def next : List Cue -> Option Cue × List Cue
  | [] => (none, [])
  | [cue] => (some cue, [cue])
  | cue :: rest => (some cue, rest)

/-- The next cue of a peer; a peer without cues has none. -/
def take (cues : Cues Cue) (peer : String) : Option Cue × Cues Cue :=
  match cues.find? peer with
  | none => (none, cues)
  | some queue =>
      let taken := next queue
      (taken.1, cues.insert peer taken.2)

end Cues

/-- The instant at which a wait that begins now is over.  Waiting for nothing
takes no time. -/
def dueAfter (now : Instant) (delay : Duration) : Instant :=
  if delay = 0 then now else Instant.timer (now + delay)

/-- How a dial goes. -/
structure DialCue where
  delay : Duration
  fault : Option Fault
deriving Repr, Inhabited

/-- What discovery says of a name. -/
inductive LookupCue where
  | address (address : String)
  | missing
  | fault (cause : Fault)
deriving Repr, Inhabited

end MallFabric.Rehearsal
