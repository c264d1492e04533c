import MallFabric.Proofs.Circuit.Retention
import Mathlib.Algebra.Order.Floor.Div
import Mathlib.Data.List.Forall2

/-!
# How exact a rolling window is

Events are noted in a window and its totals are asked for while time passes, and now and
then it is reset.  A bucket counts what happened during one width from its start, and is
forgotten as a whole, so that the totals err by less than a width: nothing that is older
than the span is counted, and nothing is missed that is younger than the span by a width.

The main statement is about every run of a window, and adds that its buckets are a width
apart, which bounds their number.
-/

namespace MallFabric

/-- A bucket counts a stretch of the log, all of it noted during its width. -/
structure Bucket.Holds (width : Duration) (bucket : Bucket) (stretch : List Noted) : Prop where
  counted : bucket.counts = Counts.ofLog stretch
  begun : ∀ noted ∈ stretch, bucket.start ≤ noted.instant
  within : ∀ noted ∈ stretch, noted.instant < bucket.start + width

namespace Bucket.Holds

variable {width : Duration} {now : Instant} {bucket : Bucket} {stretch : List Noted}

/-- A new bucket holds the event for which it is begun. -/
theorem single
    (positive : 0 < width)
    (now : Instant)
    (event : CallEvent) :
    Holds width ⟨now, Counts.zero.note event⟩ [⟨now, event⟩] where
  counted := (Counts.ofLog_singleton ⟨now, event⟩).symm
  begun := by simp
  within := by simpa using positive

/-- A bucket whose width has not passed holds one more event. -/
theorem note
    (holds : bucket.Holds width stretch)
    (begun : bucket.start ≤ now)
    (young : now < bucket.start + width)
    (event : CallEvent) :
    Holds width { bucket with counts := bucket.counts.note event }
      (stretch ++ [⟨now, event⟩]) := by
  refine ⟨?_, ?_, ?_⟩
  · rw [Counts.ofLog_concat, holds.counted]
  · intro noted present
    rcases List.mem_append.mp present with before | new
    · exact holds.begun noted before
    · rw [List.mem_singleton.mp new]
      exact begun
  · intro noted present
    rcases List.mem_append.mp present with before | new
    · exact holds.within noted before
    · rw [List.mem_singleton.mp new]
      exact young

end Bucket.Holds

section Stretches

variable {width : Duration} {buckets : List Bucket} {stretches : List (List Noted)}

/-- Buckets that hold the stretches of a log cut it. -/
theorem cuts_of_holds
    (held : List.Forall₂ (Bucket.Holds width) buckets stretches) :
    Cuts buckets stretches.flatten := by
  induction held with
  | nil => exact .nil
  | cons holds rest inductionHypothesis =>
      exact .cons holds.counted holds.begun inductionHypothesis

/-- When buckets are forgotten from the front, so are their stretches. -/
theorem exists_forgotten
    (held : List.Forall₂ (Bucket.Holds width) buckets stretches)
    (old : Bucket -> Bool) :
    ∃ forgotten kept, stretches = forgotten ++ kept ∧
      List.Forall₂ (Bucket.Holds width) (buckets.dropWhile old) kept ∧
      ∀ noted ∈ forgotten.flatten,
        ∃ bucket, old bucket = true ∧ noted.instant < bucket.start + width := by
  induction held with
  | nil => exact ⟨[], [], rfl, .nil, by simp⟩
  | @cons bucket stretch buckets stretches holds rest inductionHypothesis =>
      cases isOld : old bucket with
      | true =>
          obtain ⟨forgotten, kept, rfl, still, gone⟩ := inductionHypothesis
          rw [List.dropWhile_cons_of_pos isOld]
          refine ⟨stretch :: forgotten, kept, rfl, still, fun noted present => ?_⟩
          rw [List.flatten_cons, List.mem_append] at present
          rcases present with first | later
          · exact ⟨bucket, isOld, holds.within noted first⟩
          · exact gone noted later
      | false =>
          rw [List.dropWhile_cons_of_neg (by simp [isOld])]
          exact ⟨[], _, rfl, .cons holds rest, by simp⟩

end Stretches

namespace Window

/-- What becomes of the buckets when an event is noted in the last of them: a new one is
begun if the width of every other has passed, or the last one counts the event. -/
inductive NotedLast (width : Duration) (now : Instant) (event : CallEvent) :
    List Bucket -> List Bucket -> Prop where
  | opened {buckets}
      (passed : ∀ bucket ∈ buckets, bucket.start + width ≤ now) :
      NotedLast width now event buckets (buckets ++ [⟨now, Counts.zero.note event⟩])
  | counted {front last}
      (young : now < last.start + width) :
      NotedLast width now event (front ++ [last])
        (front ++ [{ last with counts := last.counts.note event }])

variable {width : Duration} {now : Instant} {event : CallEvent} {buckets after : List Bucket}

theorem Spaced.notedLast
    (spaced : Spaced width buckets)
    (now : Instant)
    (event : CallEvent) :
    NotedLast width now event buckets (Window.noteLast width now event buckets) := by
  induction buckets with
  | nil => exact .opened (fun _ absent => absurd absent List.not_mem_nil)
  | cons first rest inductionHypothesis =>
      obtain ⟨gaps, spacedRest⟩ := List.pairwise_cons.mp spaced
      cases rest with
      | nil =>
          simp only [Window.noteLast]
          split
          · next passed => exact @NotedLast.opened width now event [first] (by simpa using passed)
          · next young => exact @NotedLast.counted width now event [] first (Nat.lt_of_not_le young)
      | cons next rest =>
          have behind := inductionHypothesis spacedRest
          rw [Window.noteLast]
          generalize Window.noteLast width now event (next :: rest) = after at behind ⊢
          generalize listed : next :: rest = buckets at behind
          cases behind with
          | opened passed =>
              refine @NotedLast.opened width now event (first :: buckets) fun bucket present => ?_
              rcases List.mem_cons.mp present with rfl | later
              · have gap := gaps next List.mem_cons_self
                have nextPassed := passed next (listed ▸ List.mem_cons_self)
                exact Nat.le_trans gap (Nat.le_of_add_right_le nextPassed)
              · exact passed bucket later
          | @counted front last young =>
              exact @NotedLast.counted width now event (first :: front) last young

/-- Buckets a width apart whose widths have all passed fill the time since the first of
them. -/
theorem Spaced.start_add_le
    {first : Bucket}
    {rest : List Bucket}
    (spaced : Spaced width (first :: rest))
    (passed : ∀ bucket ∈ first :: rest, bucket.start + width ≤ now) :
    first.start + width * (rest.length + 1) ≤ now := by
  induction rest generalizing first with
  | nil => simpa using passed first List.mem_cons_self
  | cons next rest inductionHypothesis =>
      obtain ⟨gaps, spacedRest⟩ := List.pairwise_cons.mp spaced
      have behind := inductionHypothesis spacedRest fun bucket present =>
        passed bucket (List.mem_cons_of_mem _ present)
      have gap := gaps next List.mem_cons_self
      rw [List.length_cons, Nat.mul_add_one width]
      lia

/-- A new bucket is begun only while there is room for one more within the span. -/
theorem NotedLast.length_le
    (noted : NotedLast width now event buckets after)
    (positive : 0 < width)
    (spaced : Spaced width buckets)
    {span : Duration}
    (young : ∀ first rest, buckets = first :: rest -> now < first.start + span)
    (bounded : buckets.length ≤ max 1 (span ⌈/⌉ width)) :
    after.length ≤ max 1 (span ⌈/⌉ width) := by
  cases noted with
  | counted last => simpa using bounded
  | opened passed =>
      cases buckets with
      | nil => exact Nat.le_max_left 1 _
      | cons first rest =>
          have filled := spaced.start_add_le passed
          have live := young first rest rfl
          have room : ¬ span ≤ width * (rest.length + 1) := by lia
          rw [← ceilDiv_le_iff_le_mul positive] at room
          refine Nat.le_trans ?_ (Nat.le_max_right 1 _)
          rw [List.length_append, List.length_cons, List.length_singleton]
          lia

/-- A new bucket adds the event to the log as a stretch of its own, and the last one adds
it to its stretch. -/
theorem NotedLast.exists_stretches
    (noted : NotedLast width now event buckets after)
    {stretches : List (List Noted)}
    (held : List.Forall₂ (Bucket.Holds width) buckets stretches)
    (positive : 0 < width)
    (begun : ∀ bucket ∈ buckets, bucket.start ≤ now) :
    ∃ longer, longer.flatten = stretches.flatten ++ [⟨now, event⟩] ∧
      List.Forall₂ (Bucket.Holds width) after longer := by
  cases noted with
  | opened passed =>
      refine ⟨stretches ++ [[⟨now, event⟩]], by simp, ?_⟩
      exact List.rel_append held (.cons (.single positive now event) .nil)
  | @counted front last young =>
      have first := List.forall₂_take front.length held
      have second := List.forall₂_drop front.length held
      rw [List.take_left' rfl] at first
      rw [List.drop_left' rfl, List.forall₂_cons_left_iff] at second
      obtain ⟨stretch, none, holds, nothing, split⟩ := second
      rw [List.forall₂_nil_left_iff] at nothing
      subst nothing
      have whole := List.take_append_drop front.length stretches
      rw [split] at whole
      generalize List.take front.length stretches = older at first whole
      subst whole
      refine ⟨older ++ [stretch ++ [⟨now, event⟩]], by simp, ?_⟩
      have present : last ∈ front ++ [last] := List.mem_append_right _ List.mem_cons_self
      exact List.rel_append first (.cons (holds.note (begun last present) young event) .nil)

/-- A window agrees with the log of what was noted in it, each event when it happened. -/
structure Files (window : Window) (clock : Instant) (log : List Noted) : Prop where
  spaced : Spaced window.width window.buckets
  /-- No bucket is begun in the future. -/
  begun : ∀ bucket ∈ window.buckets, bucket.start ≤ clock
  /-- No more buckets are kept than have their start within one span. -/
  bounded : window.buckets.length ≤ max 1 (window.span ⌈/⌉ window.width)
  /-- The buckets hold a tail of the log, and what is forgotten is old. -/
  filed : ∃ forgotten stretches, log = forgotten ++ stretches.flatten ∧
    List.Forall₂ (Bucket.Holds window.width) window.buckets stretches ∧
    ∀ noted ∈ forgotten, noted.instant + window.span < clock + window.width

namespace Files

variable {window : Window} {clock : Instant} {log : List Noted}

theorem empty
    (window : Window)
    (clock : Instant) :
    window.reset.Files clock [] where
  spaced := List.Pairwise.nil
  begun := fun _ absent => absurd absent List.not_mem_nil
  bounded := Nat.zero_le _
  filed := ⟨[], [], rfl, .nil, fun _ absent => absurd absent List.not_mem_nil⟩

theorem later
    (files : window.Files clock log)
    (span : Duration) :
    window.Files (clock + span) log where
  spaced := files.spaced
  begun := fun bucket present => Nat.le_add_right_of_le (files.begun bucket present)
  bounded := files.bounded
  filed := by
    obtain ⟨forgotten, stretches, equal, held, old⟩ := files.filed
    refine ⟨forgotten, stretches, equal, held, fun noted present => ?_⟩
    have before := old noted present
    lia

/-- What a bucket held was old when the bucket is forgotten. -/
theorem evict
    (files : window.Files clock log) :
    (window.evict clock).Files clock log where
  spaced := files.spaced.sublist (List.dropWhile_sublist _)
  begun := fun bucket present => files.begun bucket ((List.dropWhile_sublist _).subset present)
  bounded := Nat.le_trans (List.dropWhile_sublist _).length_le files.bounded
  filed := by
    obtain ⟨forgotten, stretches, rfl, held, old⟩ := files.filed
    obtain ⟨more, kept, rfl, still, gone⟩ := exists_forgotten held
      fun bucket => bucket.start + window.span ≤ clock
    refine ⟨forgotten ++ more.flatten, kept, by simp, still, fun noted present => ?_⟩
    rcases List.mem_append.mp present with before | now
    · exact old noted before
    · obtain ⟨bucket, passed, within⟩ := gone noted now
      have passed := of_decide_eq_true passed
      simp only [evict]
      lia

theorem note
    (files : window.Files clock log)
    (positive : 0 < window.width)
    (event : CallEvent) :
    (window.note clock event).Files clock (log ++ [⟨clock, event⟩]) := by
  have evicted := files.evict
  have noted := evicted.spaced.notedLast clock event
  have young : ∀ first rest, (window.evict clock).buckets = first :: rest ->
      clock < first.start + window.span := fun _ _ kept => lt_of_evict_cons kept
  refine ⟨evicted.spaced.noteLast clock event, ?_, ?_, ?_⟩
  · intro bucket present
    rcases evicted.spaced.start_of_mem_noteLast present with ⟨before, known, same⟩ | ⟨new, -⟩
    · exact same ▸ evicted.begun before known
    · exact Nat.le_of_eq new
  · exact noted.length_le positive evicted.spaced young evicted.bounded
  · obtain ⟨forgotten, stretches, rfl, held, old⟩ := evicted.filed
    obtain ⟨longer, same, stillHeld⟩ := noted.exists_stretches held positive evicted.begun
    exact ⟨forgotten, longer, by rw [same, List.append_assoc], stillHeld, old⟩

/-- The totals count a tail of the log: all of it is younger than the span, and what they
leave out is old. -/
theorem exists_totals
    (files : window.Files clock log) :
    ∃ forgotten kept, log = forgotten ++ kept ∧ window.totals clock = Counts.ofLog kept ∧
      (∀ noted ∈ forgotten, noted.instant + window.span < clock + window.width) ∧
      ∀ noted ∈ kept, clock < noted.instant + window.span := by
  have evicted := files.evict
  obtain ⟨forgotten, stretches, equal, held, old⟩ := evicted.filed
  have cuts := cuts_of_holds held
  refine ⟨forgotten, stretches.flatten, equal, ?_, old,
    evicted.spaced.lt_of_cuts cuts⟩
  rw [totals, cuts.foldl_add, Counts.zero_add]

end Files
end Window

/-! ## Runs -/

/-- What may happen next to a window. -/
inductive WindowEvent where
  /-- Something happens that is noted. -/
  | note (event : CallEvent)
  /-- Somebody asks for the totals. -/
  | look
  | reset
  /-- Time passes. -/
  | pass (span : Duration)
deriving DecidableEq, Repr

/-- A window in use. -/
structure WindowRun where
  clock : Instant
  window : Window
  /-- What was noted since the last reset, oldest first. -/
  log : List Noted
deriving DecidableEq, Repr

namespace WindowRun

/-- A window in which nothing was noted. -/
def start (span : Duration) (bucketCount : Nat) : WindowRun :=
  ⟨0, Window.new span bucketCount, []⟩

/-- Carry out an event.  Asking for the totals forgets what they do not count. -/
def step (run : WindowRun) : WindowEvent -> WindowRun
  | .note event =>
      { run with
        window := run.window.note run.clock event
        log := run.log ++ [⟨run.clock, event⟩] }
  | .look => { run with window := run.window.evict run.clock }
  | .reset => { run with window := run.window.reset, log := [] }
  | .pass span => { run with clock := run.clock + span }

/-- A window after a run of events. -/
def after (span : Duration) (bucketCount : Nat) (events : List WindowEvent) : WindowRun :=
  events.foldl step (start span bucketCount)

/-- How exact a window with a span and buckets of a width is. -/
structure Accurate (span width : Duration) (run : WindowRun) : Prop where
  /-- The totals count the later part of what was noted since the last reset, each event
  once.  All of it is younger than the span, and with a width added everything before it
  is older than the span. -/
  counted : ∃ forgotten kept, run.log = forgotten ++ kept ∧
    run.window.totals run.clock = Counts.ofLog kept ∧
    (∀ noted ∈ forgotten, noted.instant + span < run.clock + width) ∧
    ∀ noted ∈ kept, run.clock < noted.instant + span
  /-- Every bucket is begun later than those before it, by a width at least. -/
  spaced : run.window.buckets.Pairwise fun earlier later =>
    earlier.start < later.start ∧ earlier.start + width ≤ later.start
  bounded : run.window.buckets.length ≤ max 1 (span ⌈/⌉ width)

/-- What holds in every run. -/
structure Sound (span width : Duration) (run : WindowRun) : Prop where
  span_eq : run.window.span = span
  width_eq : run.window.width = width
  files : run.window.Files run.clock run.log

variable {span width : Duration} {run : WindowRun}

theorem Sound.step
    (sound : Sound span width run)
    (positive : 0 < width)
    (event : WindowEvent) :
    Sound span width (run.step event) := by
  obtain ⟨rfl, rfl, files⟩ := sound
  cases event with
  | note event => exact ⟨rfl, rfl, files.note positive event⟩
  | look => exact ⟨rfl, rfl, files.evict⟩
  | reset => exact ⟨rfl, rfl, .empty run.window run.clock⟩
  | pass span => exact ⟨rfl, rfl, files.later span⟩

theorem Sound.resume
    (sound : Sound span width run)
    (positive : 0 < width)
    (events : List WindowEvent) :
    Sound span width (events.foldl WindowRun.step run) := by
  induction events generalizing run with
  | nil => exact sound
  | cons event rest inductionHypothesis => exact inductionHypothesis (sound.step positive event)

theorem Sound.accurate
    (sound : Sound span width run)
    (positive : 0 < width) :
    run.Accurate span width := by
  obtain ⟨rfl, rfl, files⟩ := sound
  refine ⟨files.exists_totals, ?_, files.bounded⟩
  apply files.spaced.imp
  intro earlier later apart
  exact ⟨Nat.lt_of_lt_of_le (Nat.lt_add_of_pos_right positive) apart, apart⟩

/-- In every run the totals of a window err by less than the width of a bucket, and its
buckets stay apart and few. -/
theorem accurate_after
    (span : Duration)
    (bucketCount : Nat)
    (events : List WindowEvent) :
    (after span bucketCount events).Accurate span (Window.new span bucketCount).width := by
  have positive : 0 < (Window.new span bucketCount).width :=
    Nat.lt_of_lt_of_le (by decide) (Nat.le_max_right _ (Duration.ofMillis 1))
  have begun : Sound span (Window.new span bucketCount).width (start span bucketCount) :=
    ⟨rfl, rfl, .empty (Window.new span bucketCount) 0⟩
  exact (begun.resume positive events).accurate positive

/-- A failure at the end of a bucket of one second is forgotten with what the bucket was
begun for, almost a second before it is as old as the span of ten seconds. -/
example :
    let run := after (Duration.ofSeconds 10) 10
      [.note .success, .pass (Duration.ofMillis 999), .note .failure,
        .pass (Duration.ofMillis 9001)]
    run.log.length = 2 ∧ run.window.totals run.clock = Counts.zero ∧
      run.window.totals (run.clock - 1) = ⟨1, 1, 0, 0⟩ := by
  decide

end WindowRun
end MallFabric
