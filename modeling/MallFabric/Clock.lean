/-!
# Instants, durations and timers

Time is counted in whole nanoseconds from an arbitrary origin.  Timers have
millisecond resolution: one that is set for an instant fires at the first
whole millisecond that is not before it.
-/

namespace MallFabric

/-- A span of time, in nanoseconds. -/
abbrev Duration := Nat

/-- A reading of the clock, in nanoseconds since its origin. -/
abbrev Instant := Nat

namespace Duration

def ofMicros (count : Nat) : Duration := count * 1000

def ofMillis (count : Nat) : Duration := count * 1000000

def ofSeconds (count : Nat) : Duration := count * 1000000000

/-- Whole seconds of a span. -/
def seconds (span : Duration) : Nat := span / 1000000000

/-- Nanoseconds of a span beyond its whole seconds. -/
def subsecondNanos (span : Duration) : Nat := span % 1000000000

/-- Whole milliseconds of a span. -/
def wholeMillis (span : Duration) : Nat := span / 1000000

end Duration

namespace Instant

/-- The instant at which a timer set for `deadline` fires: the first whole
millisecond that is not before it. -/
def timer (deadline : Instant) : Instant :=
  (deadline + 999999) / 1000000 * 1000000

theorem le_timer (deadline : Instant) : deadline ≤ timer deadline := by
  unfold timer
  lia

theorem timer_lt (deadline : Instant) : timer deadline < deadline + 1000000 := by
  unfold timer
  lia

theorem timer_mono {first second : Instant} (order : first ≤ second) :
    timer first ≤ timer second := by
  unfold timer
  lia

/-- A timer that is set for the instant at which one fires, fires at this instant. -/
theorem timer_timer (deadline : Instant) : timer (timer deadline) = timer deadline := by
  unfold timer
  lia

/-- A timer that is set on a whole millisecond fires after its span, rounded up. -/
theorem timer_add {since : Instant} (whole : timer since = since) (span : Duration) :
    timer (since + span) = since + timer span := by
  unfold timer at whole ⊢
  lia

/-- Whole milliseconds put a timer off by as much. -/
theorem timer_add_ofMillis (deadline : Instant) (count : Nat) :
    timer (deadline + Duration.ofMillis count) = timer deadline + Duration.ofMillis count := by
  have whole : timer (Duration.ofMillis count) = Duration.ofMillis count := by
    unfold timer Duration.ofMillis
    lia
  rw [Nat.add_comm, timer_add whole, Nat.add_comm]

/-- Time from `now` to `deadline`, nothing once it has passed. -/
def timeLeft (now deadline : Instant) : Duration := deadline - now

end Instant

end MallFabric
