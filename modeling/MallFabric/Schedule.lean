import MallFabric.Clock

/-!
# Schedules

Tasks that share a state wait for instants or for each other.  An agenda
holds the wake-ups to come, earliest first and, at one instant, in the order
in which they happen.  Running a schedule carries them out one after the
other; nothing but that moves its clock.
-/

namespace MallFabric

/-- A task and the instant at which it goes on. -/
structure Wakeup (Task : Type) where
  due : Instant
  task : Task
  /-- Whether it comes before the others of its instant. -/
  first : Bool
deriving Repr

/-- Wake-ups to come, in the order in which they happen. -/
abbrev Agenda (Task : Type) := List (Wakeup Task)

namespace Agenda

variable {Task : Type}

/-- Enter a wake-up among those of its instant. -/
def insert (agenda : Agenda Task) (wakeup : Wakeup Task) : Agenda Task :=
  match agenda with
  | [] => [wakeup]
  | next :: rest =>
      if wakeup.due < next.due ∨ (wakeup.first ∧ wakeup.due = next.due) then
        wakeup :: next :: rest
      else next :: insert rest wakeup

def insertAll (agenda : Agenda Task) (wakeups : List (Wakeup Task)) : Agenda Task :=
  wakeups.foldl insert agenda

end Agenda

/-- How tasks go on: a woken task changes the state and asks for wake-ups. -/
abbrev Wake (State Task : Type) :=
  Instant -> Task -> State -> State × List (Wakeup Task)

/-- A state with a clock and the wake-ups to come. -/
structure Schedule (State Task : Type) where
  clock : Instant
  agenda : Agenda Task
  state : State

namespace Schedule

variable {State Task : Type}

/-- A schedule at the origin of time. -/
def start (state : State) : Schedule State Task := ⟨0, [], state⟩

/-- Change the state without waking anything. -/
def change (schedule : Schedule State Task) (function : State -> State) : Schedule State Task :=
  { schedule with state := function schedule.state }

/-- Change the state and enter wake-ups. -/
def advance (schedule : Schedule State Task) (change : Instant -> State -> State × List (Wakeup Task)) :
    Schedule State Task :=
  let result := change schedule.clock schedule.state
  { schedule with state := result.1, agenda := schedule.agenda.insertAll result.2 }

/-- Carry out wake-ups up to the instant `limit`, if one is given, and until
the state satisfies `done`. -/
def run (wake : Wake State Task) (limit : Option Instant) (done : State -> Bool) :
    (fuel : Nat) -> Schedule State Task -> Schedule State Task
  | 0, schedule => schedule
  | fuel + 1, schedule =>
      if done schedule.state then schedule
      else match schedule.agenda with
        | [] => schedule
        | next :: rest =>
            if limit.any fun instant => instant < next.due then schedule
            else
              let clock := max schedule.clock next.due
              let result := wake clock next.task schedule.state
              run wake limit done fuel ⟨clock, Agenda.insertAll rest result.2, result.1⟩

/-- A bound on the wake-ups of one run that no schedule comes near. -/
def generousFuel : Nat := 1 <<< 40

/-- Carry out everything that can happen at the present instant. -/
def settle (wake : Wake State Task) (schedule : Schedule State Task) : Schedule State Task :=
  schedule.run wake (some schedule.clock) (fun _ => false) generousFuel

/-- Let a span of time pass, and everything happen that is due by its end. -/
def sleep (wake : Wake State Task) (span : Duration) (schedule : Schedule State Task) :
    Schedule State Task :=
  let target := Instant.timer (schedule.clock + span)
  let passed := schedule.run wake (some target) (fun _ => false) generousFuel
  { passed with clock := max passed.clock target }

/-- Wait until the state satisfies `done` or nothing is left to happen. -/
def waitFor (wake : Wake State Task) (done : State -> Bool) (schedule : Schedule State Task) :
    Schedule State Task :=
  schedule.run wake none done generousFuel

end Schedule

end MallFabric
