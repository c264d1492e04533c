import MallFabric.Proofs.Circuit.Run

/-!
# When a closed circuit opens

A closed circuit is due to open when its window holds enough completed calls and
enough errors among them.  The rule is applied when a call fails or times out, with
that call counted.  A success may complete the volume, so that the rule holds, and
leave the circuit closed all the same; the next error then opens it.
-/

namespace MallFabric

namespace Counts

/-- Enough calls were completed and enough of them were errors for a circuit to open. -/
def Due (counts : Counts) (config : CircuitConfig) : Prop :=
  config.requestVolumeThreshold ≤ counts.completed ∧
    config.errorPercentThreshold * counts.completed ≤ counts.errors * 100

instance (counts : Counts) (config : CircuitConfig) : Decidable (counts.Due config) :=
  inferInstanceAs (Decidable (_ ∧ _))

theorem add_note_zero
    (counts : Counts)
    (event : CallEvent) :
    counts.add (zero.note event) = counts.note event := by
  cases event with
  | _ => rfl

theorem add_note
    (left right : Counts)
    (event : CallEvent) :
    left.add (right.note event) = (left.add right).note event := by
  cases event with
  | _ => rfl

/-- What is due stays so with one more error, unless no share of errors is enough. -/
theorem Due.note
    {counts : Counts}
    {config : CircuitConfig}
    (due : counts.Due config)
    (possible : config.errorPercentThreshold ≤ 100)
    {outcome : Outcome}
    (failed : outcome ≠ .success) :
    (counts.note outcome.event).Due config := by
  obtain ⟨volume, share⟩ := due
  have completed : (counts.note outcome.event).completed = counts.completed + 1 := by
    cases outcome with
    | success => exact absurd rfl failed
    | failure => simp only [Outcome.event, Counts.note, Counts.completed]; omega
    | timeout => simp only [Outcome.event, Counts.note, Counts.completed]; omega
  have errors : (counts.note outcome.event).errors = counts.errors + 1 := by
    cases outcome with
    | success => exact absurd rfl failed
    | failure => simp only [Outcome.event, Counts.note, Counts.errors]; omega
    | timeout => simp only [Outcome.event, Counts.note, Counts.errors]; omega
  refine ⟨?_, ?_⟩
  · rw [completed]
    exact Nat.le_succ_of_le volume
  · rw [completed, errors, Nat.mul_add, Nat.mul_one, Nat.add_mul]
    exact Nat.add_le_add share (by omega)

end Counts

namespace Window

/-- The sum of the buckets counts one more event when it is noted in the last of them. -/
theorem foldl_noteLast
    (width : Duration)
    (now : Instant)
    (event : CallEvent)
    (buckets : List Bucket)
    (sum : Counts) :
    (noteLast width now event buckets).foldl (fun sum bucket => sum.add bucket.counts) sum =
      (buckets.foldl (fun sum bucket => sum.add bucket.counts) sum).note event := by
  induction buckets generalizing sum with
  | nil => exact Counts.add_note_zero sum event
  | cons bucket rest inductionHypothesis =>
      cases rest with
      | nil =>
          simp only [noteLast]
          split
          · exact Counts.add_note_zero _ event
          · exact Counts.add_note sum bucket.counts event
      | cons next rest => exact inductionHypothesis (sum.add bucket.counts)

/-- The front bucket keeps its place and its start when an event is noted. -/
theorem exists_noteLast_cons
    (width : Duration)
    (now : Instant)
    (event : CallEvent)
    (bucket : Bucket)
    (rest : List Bucket) :
    ∃ counts later,
      noteLast width now event (bucket :: rest) = ⟨bucket.start, counts⟩ :: later := by
  cases rest with
  | nil =>
      simp only [noteLast]
      split
      · exact ⟨_, _, rfl⟩
      · exact ⟨_, _, rfl⟩
  | cons next rest => exact ⟨_, _, rfl⟩

/-- A bucket that is left at the front is not forgotten. -/
theorem lt_of_evict_cons
    {window : Window}
    {now : Instant}
    {bucket : Bucket}
    {rest : List Bucket}
    (kept : (window.evict now).buckets = bucket :: rest) :
    now < bucket.start + window.span := by
  have front := List.head?_dropWhile_not
    (fun bucket : Bucket => decide (bucket.start + window.span ≤ now)) window.buckets
  rw [show window.buckets.dropWhile (fun bucket => decide (bucket.start + window.span ≤ now)) =
    bucket :: rest from kept] at front
  simpa using front

/-- An event that is noted now is counted now, but for a window without a span, which
holds nothing. -/
theorem totals_note
    (window : Window)
    (now : Instant)
    (event : CallEvent) :
    (window.note now event).totals now = (window.totals now).note event ∨
      window.span = 0 ∧ (window.note now event).totals now = Counts.zero ∧
        window.totals now = Counts.zero := by
  have counted := foldl_noteLast window.width now event (window.evict now).buckets Counts.zero
  have afterwards : ((window.note now event).evict now).buckets =
      (noteLast window.width now event (window.evict now).buckets).dropWhile
        fun bucket => bucket.start + window.span ≤ now := rfl
  -- Nothing is forgotten after the note unless the bucket at the front is.
  have unforgotten : ∀ front later,
      noteLast window.width now event (window.evict now).buckets = front :: later ->
        now < front.start + window.span ->
          (window.note now event).totals now = (window.totals now).note event := by
    intro front later noted live
    have stays : ((window.note now event).evict now).buckets = front :: later := by
      rw [afterwards, noted, List.dropWhile_cons_of_neg (by simpa using live)]
    rw [totals, stays, ← noted, counted, totals]
  cases kept : (window.evict now).buckets with
  | nil =>
      rw [kept] at unforgotten
      rcases Nat.eq_zero_or_pos window.span with spanless | positive
      · refine Or.inr ⟨spanless, ?_, by rw [totals, kept]; rfl⟩
        rw [totals, afterwards, kept]
        simp [noteLast, spanless]
      · exact Or.inl (unforgotten _ _ rfl (Nat.lt_add_of_pos_right positive))
  | cons bucket rest =>
      obtain ⟨counts, later, noted⟩ := exists_noteLast_cons window.width now event bucket rest
      rw [kept] at unforgotten
      have live := lt_of_evict_cons kept
      exact Or.inl (unforgotten _ _ noted live)

end Window

namespace Circuit

variable {circuit : Circuit} {now : Instant} {outcome : Outcome}

theorem shouldOpen_iff
    (circuit : Circuit)
    (now : Instant) :
    circuit.shouldOpen now = true ↔ (circuit.counts now).Due circuit.config := by
  simp [shouldOpen, counts, Counts.Due]

/-- What the window holds when the outcome of a call that is no trial was recorded. -/
theorem counts_record
    (circuit : Circuit)
    (now : Instant)
    (outcome : Outcome) :
    (circuit.record now false outcome).counts now =
      (circuit.window.note now outcome.event).totals now := by
  unfold record
  extract_lets noted
  rw [if_neg Bool.false_ne_true]
  split
  · rfl
  · rfl

/-- The outcome of a call that is no trial opens a closed circuit exactly if it is an
error and the window is due with it. -/
theorem opened_record_iff
    (closed : circuit.state = .closed)
    (now : Instant)
    (outcome : Outcome) :
    (circuit.record now false outcome).state = .opened ↔
      outcome ≠ .success ∧ ((circuit.record now false outcome).counts now).Due circuit.config := by
  rw [counts_record]
  unfold record
  extract_lets noted
  have due : noted.shouldOpen now = true ↔
      ((circuit.window.note now outcome.event).totals now).Due circuit.config :=
    shouldOpen_iff noted now
  rw [if_neg Bool.false_ne_true]
  split
  · next opens => exact iff_of_true rfl ⟨opens.2.1, due.mp opens.2.2⟩
  · next stays =>
      refine iff_of_false (by simp [noted, closed]) fun ⟨failed, isDue⟩ => ?_
      exact stays ⟨closed, failed, due.mpr isDue⟩

/-- An error opens a closed circuit whose window was due before it already. -/
theorem opened_record_of_due
    (closed : circuit.state = .closed)
    (possible : circuit.config.errorPercentThreshold ≤ 100)
    (due : (circuit.counts now).Due circuit.config)
    (failed : outcome ≠ .success) :
    (circuit.record now false outcome).state = .opened := by
  refine (opened_record_iff closed now outcome).mpr ⟨failed, ?_⟩
  rw [counts_record]
  rcases circuit.window.totals_note now outcome.event with counted | ⟨-, nothing, before⟩
  · rw [counted]
    exact due.note possible failed
  · rw [nothing, ← before]
    exact due

/-- A closed circuit that an outcome does not open stays closed. -/
theorem closed_record_of_ne_opened
    (closed : circuit.state = .closed)
    (unopened : (circuit.record now false outcome).state ≠ .opened) :
    (circuit.record now false outcome).state = .closed := by
  simp only [record, Bool.false_eq_true, if_false] at unopened ⊢
  split at unopened
  · exact absurd rfl unopened
  · next stays =>
      rw [if_neg stays]
      exact closed

/-! ## The span of the window -/

theorem span_record
    (circuit : Circuit)
    (now : Instant)
    (trial : Bool)
    (outcome : Outcome) :
    (circuit.record now trial outcome).window.span = circuit.window.span := by
  unfold record
  extract_lets noted
  repeat' split
  all_goals rfl

/-- A decision counts nothing. -/
theorem window_of_decide
    {verdict : Except Rejection Bool}
    {decided : Circuit}
    (decision : circuit.decide now = (verdict, decided)) :
    decided.window = circuit.window := by
  unfold decide at decision
  repeat' split at decision
  all_goals
    obtain ⟨-, rfl⟩ := Prod.mk.inj decision
    rfl

theorem span_tryAcquire
    (circuit : Circuit)
    (now : Instant) :
    (circuit.tryAcquire now).2.window.span = circuit.window.span := by
  have admission := circuit.admission_tryAcquire now
  generalize (circuit.tryAcquire now).1 = answer, (circuit.tryAcquire now).2 = after at admission
  cases admission with
  | refused decision => rfl
  | granted decision taken =>
      obtain ⟨free, -, rfl⟩ := (takeSlot_eq_some_iff _ _).mp taken
      have kept := congrArg Window.span (window_of_decide decision)
      exact kept
  | @saturated trial later decision full =>
      have kept := congrArg Window.span (window_of_decide decision)
      cases trial with
      | false => exact kept
      | true => exact kept

end Circuit

namespace CircuitRun

/-- The window of a circuit keeps its span. -/
theorem span_step
    (run : CircuitRun)
    (event : CircuitEvent) :
    (run.step event).circuit.window.span = run.circuit.window.span := by
  have turn := run.turn_step event
  generalize run.note? event = note, run.step event = after at turn
  cases turn with
  | idle => rfl
  | passed span => rfl
  | granted fresh answer =>
      have kept := run.circuit.span_tryAcquire run.clock
      rwa [answer] at kept
  | refused answer =>
      have kept := run.circuit.span_tryAcquire run.clock
      rwa [answer] at kept
  | reported found past => exact run.circuit.span_record _ _ _
  | @dropped id permit found =>
      obtain ⟨trial⟩ := permit
      cases trial with
      | false => rfl
      | true => rfl

theorem span_after
    (config : CircuitConfig)
    (events : List CircuitEvent) :
    (after config events).circuit.window.span = config.rollingWindow := by
  suffices kept : ∀ run : CircuitRun,
      (run.resume events).circuit.window.span = run.circuit.window.span from
    kept (start config)
  induction events with
  | nil => exact fun run => rfl
  | cons event rest inductionHypothesis =>
      exact fun run => (inductionHypothesis (run.step event)).trans (run.span_step event)

/-- How a closed circuit takes the outcome of a call that completes. -/
structure Judges (config : CircuitConfig) (before after : Circuit) (read : Instant)
    (outcome : Outcome) : Prop where
  /-- The outcome is counted. -/
  counted : 0 < config.rollingWindow ->
    after.counts read = (before.counts read).note outcome.event
  /-- It opens the circuit exactly if it is an error and the window is due with it. -/
  opens : after.state = .opened ↔ outcome ≠ .success ∧ (after.counts read).Due config
  /-- Otherwise the circuit stays closed. -/
  stays : after.state ≠ .opened -> after.state = .closed
  /-- Where the window was due before, the next error opens the circuit. -/
  overdue : config.errorPercentThreshold ≤ 100 -> (before.counts read).Due config ->
    outcome ≠ .success -> after.state = .opened

/-- Every outcome that is reported while the circuit is closed is judged, and none of
them is a trial's. -/
def ReportsJudged (run : CircuitRun) (config : CircuitConfig) : Prop :=
  ∀ id permit read outcome, run.circuit.state = .closed ->
    run.permits.find? id = some permit -> read ≤ run.clock ->
      permit.trial = false ∧
        Judges config run.circuit (run.step (.report id read outcome)).circuit read outcome

/-- In every run a closed circuit opens by an error with which its window is due, and
by nothing else; a success is counted and leaves it closed. -/
theorem reportsJudged_after
    (config : CircuitConfig)
    (events : List CircuitEvent) :
    (after config events).ReportsJudged config := by
  intro id permit read outcome closed found past
  have sound := Sound.after config events
  have configured := sound.balanced.config_eq
  have spanned := span_after config events
  generalize after config events = run at *
  have noTrial := sound.trial_eq_false (sound.balanced.idle (by simp [closed])) found
  have recorded : (run.step (.report id read outcome)).circuit =
      (run.circuit.record read false outcome).releaseSlot := by
    simp only [step, found, Nat.not_lt.mpr past, if_false, Circuit.resolve, noTrial]
  refine ⟨noTrial, ?_⟩
  rw [recorded]
  refine ⟨fun positive => ?_, ?_, fun unopened => ?_, fun possible due failed => ?_⟩
  · rcases run.circuit.window.totals_note read outcome.event with counted | ⟨spanless, -⟩
    · exact (run.circuit.counts_record read outcome).trans counted
    · exact absurd (spanned.symm.trans spanless) (Nat.ne_of_gt positive)
  · rw [← configured]
    exact Circuit.opened_record_iff closed read outcome
  · exact Circuit.closed_record_of_ne_opened closed unopened
  · rw [← configured] at possible due
    exact Circuit.opened_record_of_due closed possible due failed

/-- A call that fails and one that succeeds after it make half of two completed calls
errors, and the circuit stays closed. -/
theorem not_opened_by_success :
    ¬ ∀ (config : CircuitConfig) (events : List CircuitEvent) (id : PermitId) (permit : Permit)
        (read : Instant) (outcome : Outcome),
      let run := after config events
      let later := (run.step (.report id read outcome)).circuit
      run.circuit.state = .closed -> run.permits.find? id = some permit ->
        permit.trial = false -> read ≤ run.clock -> (later.counts read).Due config ->
          later.state = .opened := by
  intro complete
  have opened := complete { CircuitConfig.standard with requestVolumeThreshold := 2 }
    [.acquire 0, .report 0 0 .failure, .acquire 1] 1 ⟨false⟩ 0 .success
    (by decide) (by decide) (by decide) (by decide) (by decide)
  exact absurd opened (by decide)

end CircuitRun
end MallFabric
