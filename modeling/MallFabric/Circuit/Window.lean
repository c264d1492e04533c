import MallFabric.Clock

/-!
# Rolling windows

A window counts what happened to the calls of a circuit during the last span
of time.  Events are counted in buckets of one width each; a bucket is
forgotten as a whole once the span has passed since it was begun.
-/

namespace MallFabric

/-- What a window counts. -/
inductive CallEvent where
  | success
  | failure
  | timeout
  | rejection
deriving DecidableEq, Repr, Inhabited

/-- How often each event happened. -/
structure Counts where
  successes : Nat
  failures : Nat
  timeouts : Nat
  rejections : Nat
deriving DecidableEq, Repr, Inhabited

namespace Counts

def zero : Counts := ⟨0, 0, 0, 0⟩

def add (left right : Counts) : Counts :=
  ⟨left.successes + right.successes, left.failures + right.failures,
    left.timeouts + right.timeouts, left.rejections + right.rejections⟩

/-- One more event. -/
def note (counts : Counts) : CallEvent -> Counts
  | .success => { counts with successes := counts.successes + 1 }
  | .failure => { counts with failures := counts.failures + 1 }
  | .timeout => { counts with timeouts := counts.timeouts + 1 }
  | .rejection => { counts with rejections := counts.rejections + 1 }

/-- Calls that were answered or timed out. -/
def completed (counts : Counts) : Nat :=
  counts.successes + counts.failures + counts.timeouts

/-- Completed calls that were not successful. -/
def errors (counts : Counts) : Nat := counts.failures + counts.timeouts

/-- The percentage of errors among completed calls, rounded down; zero
without traffic. -/
def errorPercent (counts : Counts) : Nat :=
  counts.errors * 100 / counts.completed

end Counts

/-- Events that happened during one width of time. -/
structure Bucket where
  start : Instant
  counts : Counts
deriving DecidableEq, Repr, Inhabited

/-- The events of the last span of time, oldest bucket first. -/
structure Window where
  span : Duration
  width : Duration
  buckets : List Bucket
deriving DecidableEq, Repr, Inhabited

namespace Window

/-- An empty window whose span is cut into the given number of buckets, each
of a millisecond at least. -/
def new (span : Duration) (bucketCount : Nat) : Window :=
  ⟨span, max (span / max 1 bucketCount) (Duration.ofMillis 1), []⟩

/-- Forget the buckets at the front that were begun a span ago or earlier. -/
def evict (window : Window) (now : Instant) : Window :=
  { window with
    buckets := window.buckets.dropWhile fun bucket => bucket.start + window.span ≤ now }

/-- Note an event in the last bucket, or in a new one if its width has passed. -/
def noteLast (width : Duration) (now : Instant) (event : CallEvent) : List Bucket -> List Bucket
  | [] => [⟨now, Counts.zero.note event⟩]
  | [bucket] =>
      if bucket.start + width ≤ now then [bucket, ⟨now, Counts.zero.note event⟩]
      else [{ bucket with counts := bucket.counts.note event }]
  | bucket :: next :: rest => bucket :: noteLast width now event (next :: rest)

/-- Count an event that happens now. -/
def note (window : Window) (now : Instant) (event : CallEvent) : Window :=
  let kept := window.evict now
  { kept with buckets := noteLast window.width now event kept.buckets }

/-- The events of the span that ends now. -/
def totals (window : Window) (now : Instant) : Counts :=
  (window.evict now).buckets.foldl (fun sum bucket => sum.add bucket.counts) Counts.zero

/-- Forget every event. -/
def reset (window : Window) : Window := { window with buckets := [] }

@[simp] theorem span_note (window : Window) (now : Instant) (event : CallEvent) :
    (window.note now event).span = window.span := rfl

end Window

end MallFabric
