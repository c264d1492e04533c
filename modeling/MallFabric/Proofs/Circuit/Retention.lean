import MallFabric.Proofs.Circuit.Opening

/-!
# What a rolling window retains

A window forgets whole buckets, and only from the front.  So what it holds is a tail of
the log of what was noted in it: its buckets cut this tail into stretches, and each of
them counts its own.  No bucket is begun after what it counts, so that nothing is
retained for the span of the window or longer.
-/

namespace MallFabric

/-- An event that was noted in a window, and when. -/
structure Noted where
  instant : Instant
  event : CallEvent
deriving DecidableEq, Repr

namespace Noted

/-- A call was completed. -/
def IsCall (noted : Noted) : Prop := noted.event ≠ .rejection

/-- A call was completed without success. -/
def IsError (noted : Noted) : Prop := noted.event = .failure ∨ noted.event = .timeout

instance (noted : Noted) : Decidable noted.IsCall :=
  inferInstanceAs (Decidable (_ ≠ _))

instance (noted : Noted) : Decidable noted.IsError :=
  inferInstanceAs (Decidable (_ ∨ _))

end Noted

namespace Counts

/-- How often each event stands in a log. -/
def ofLog (log : List Noted) : Counts where
  successes := log.countP fun noted => noted.event = .success
  failures := log.countP fun noted => noted.event = .failure
  timeouts := log.countP fun noted => noted.event = .timeout
  rejections := log.countP fun noted => noted.event = .rejection

theorem ofLog_append (first second : List Noted) :
    ofLog (first ++ second) = (ofLog first).add (ofLog second) := by
  simp only [ofLog, add, List.countP_append]

theorem ofLog_singleton (noted : Noted) : ofLog [noted] = zero.note noted.event := by
  obtain ⟨instant, event⟩ := noted
  cases event with
  | _ => rfl

theorem ofLog_concat (log : List Noted) (noted : Noted) :
    ofLog (log ++ [noted]) = (ofLog log).note noted.event := by
  rw [ofLog_append, ofLog_singleton, add_note_zero]

theorem add_assoc (first second third : Counts) :
    (first.add second).add third = first.add (second.add third) := by
  simp only [add, Nat.add_assoc]

theorem zero_add (counts : Counts) : zero.add counts = counts := by
  simp only [add, zero, Nat.zero_add]

theorem completed_add (left right : Counts) :
    (left.add right).completed = left.completed + right.completed := by
  simp only [add, completed]
  omega

theorem errors_add (left right : Counts) :
    (left.add right).errors = left.errors + right.errors := by
  simp only [add, errors]
  omega

/-- The completed calls of a log are those that were not rejected. -/
theorem completed_ofLog (log : List Noted) :
    (ofLog log).completed = log.countP fun noted => noted.IsCall := by
  induction log with
  | nil => rfl
  | cons noted rest inductionHypothesis =>
      have first : (zero.note noted.event).completed = if noted.IsCall then 1 else 0 := by
        obtain ⟨instant, event⟩ := noted
        cases event with
        | _ => rfl
      rw [← List.singleton_append, ofLog_append, completed_add, inductionHypothesis,
        ofLog_singleton, first, List.countP_append, List.countP_singleton]
      simp only [decide_eq_true_eq]

/-- Its errors are the failures and the calls that timed out. -/
theorem errors_ofLog (log : List Noted) :
    (ofLog log).errors = log.countP fun noted => noted.IsError := by
  induction log with
  | nil => rfl
  | cons noted rest inductionHypothesis =>
      have first : (zero.note noted.event).errors = if noted.IsError then 1 else 0 := by
        obtain ⟨instant, event⟩ := noted
        cases event with
        | _ => rfl
      rw [← List.singleton_append, ofLog_append, errors_add, inductionHypothesis,
        ofLog_singleton, first, List.countP_append, List.countP_singleton]
      simp only [decide_eq_true_eq]

end Counts

/-- Buckets that cut a log into stretches: each of them counts its own stretch, and was
not begun after anything that stands there. -/
inductive Cuts : List Bucket -> List Noted -> Prop where
  | nil : Cuts [] []
  | cons {bucket buckets stretch log}
      (counted : bucket.counts = Counts.ofLog stretch)
      (begun : ∀ noted ∈ stretch, bucket.start ≤ noted.instant)
      (rest : Cuts buckets log) :
      Cuts (bucket :: buckets) (stretch ++ log)

namespace Cuts

variable {buckets : List Bucket} {log : List Noted}

/-- The sum of the buckets counts the whole log. -/
theorem foldl_add
    (cuts : Cuts buckets log)
    (sum : Counts) :
    buckets.foldl (fun sum bucket => sum.add bucket.counts) sum = sum.add (Counts.ofLog log) := by
  induction cuts generalizing sum with
  | nil => rfl
  | @cons bucket buckets stretch log counted begun rest inductionHypothesis =>
      rw [List.foldl_cons, inductionHypothesis, counted, Counts.ofLog_append, Counts.add_assoc]

/-- When buckets are forgotten from the front, a tail of the log is left. -/
theorem dropWhile
    (cuts : Cuts buckets log)
    (old : Bucket -> Bool) :
    ∃ kept, kept <:+ log ∧ Cuts (buckets.dropWhile old) kept := by
  induction cuts with
  | nil => exact ⟨[], List.suffix_rfl, .nil⟩
  | @cons bucket buckets stretch log counted begun rest inductionHypothesis =>
      cases forgotten : old bucket with
      | true =>
          obtain ⟨kept, tail, still⟩ := inductionHypothesis
          rw [List.dropWhile_cons_of_pos forgotten]
          exact ⟨kept, tail.trans (List.suffix_append stretch log), still⟩
      | false =>
          rw [List.dropWhile_cons_of_neg (by simp [forgotten])]
          exact ⟨_, List.suffix_rfl, .cons counted begun rest⟩

/-- What is noted in the last bucket, or in a new one, is added to the log. -/
theorem noteLast
    (cuts : Cuts buckets log)
    (width : Duration)
    {now clock : Instant}
    (past : now ≤ clock)
    (begun : ∀ bucket ∈ buckets, bucket.start ≤ clock)
    (event : CallEvent) :
    Cuts (Window.noteLast width now event buckets) (log ++ [⟨clock, event⟩]) := by
  have anew : Cuts [⟨now, Counts.zero.note event⟩] ([⟨clock, event⟩] ++ []) := by
    refine .cons (Counts.ofLog_singleton ⟨clock, event⟩).symm ?_ .nil
    rintro noted present
    rw [List.mem_singleton.mp present]
    exact past
  induction cuts with
  | nil => exact anew
  | @cons bucket buckets stretch log counted since rest inductionHypothesis =>
      have front := begun bucket List.mem_cons_self
      have behind := inductionHypothesis fun bucket present =>
        begun bucket (List.mem_cons_of_mem _ present)
      cases rest with
      | nil =>
          simp only [Window.noteLast, List.append_nil]
          split
          · exact .cons counted since anew
          · rw [← List.append_nil (stretch ++ [_])]
            refine .cons ?_ ?_ .nil
            · rw [Counts.ofLog_concat, counted]
            · intro noted present
              rcases List.mem_append.mp present with before | new
              · exact since noted before
              · rw [List.mem_singleton.mp new]
                exact front
      | cons countedNext sinceNext restNext =>
          rw [List.append_assoc]
          exact .cons counted since behind

/-- Nothing in the log is older than the oldest bucket. -/
theorem le_instant
    (cuts : Cuts buckets log)
    {start : Instant}
    (first : ∀ bucket ∈ buckets, start ≤ bucket.start) :
    ∀ noted ∈ log, start ≤ noted.instant := by
  induction cuts with
  | nil => exact fun _ present => absurd present List.not_mem_nil
  | cons counted begun rest inductionHypothesis =>
      intro noted present
      rcases List.mem_append.mp present with here | later
      · exact Nat.le_trans (first _ List.mem_cons_self) (begun noted here)
      · refine inductionHypothesis (fun bucket behind => ?_) noted later
        exact first bucket (List.mem_cons_of_mem _ behind)

end Cuts

namespace Window

/-- Every bucket is begun one width at least after those before it. -/
def Spaced (width : Duration) (buckets : List Bucket) : Prop :=
  buckets.Pairwise fun earlier later => earlier.start + width ≤ later.start

/-- A bucket after an event is noted has its start from before, or is the new one, begun
when the width of every other one has passed. -/
theorem Spaced.start_of_mem_noteLast
    {width : Duration}
    {now : Instant}
    {event : CallEvent}
    {buckets : List Bucket}
    (spaced : Spaced width buckets)
    {bucket : Bucket}
    (present : bucket ∈ noteLast width now event buckets) :
    (∃ before ∈ buckets, bucket.start = before.start) ∨
      bucket.start = now ∧ ∀ before ∈ buckets, before.start + width ≤ now := by
  induction buckets with
  | nil =>
      rw [List.mem_singleton.mp present]
      exact Or.inr ⟨rfl, fun _ absent => absurd absent List.not_mem_nil⟩
  | cons first rest inductionHypothesis =>
      obtain ⟨gaps, spacedRest⟩ := List.pairwise_cons.mp spaced
      cases rest with
      | nil =>
          simp only [noteLast] at present
          split at present
          · next passed =>
              rcases List.mem_pair.mp present with rfl | rfl
              · exact Or.inl ⟨_, List.mem_cons_self, rfl⟩
              · refine Or.inr ⟨rfl, fun before known => ?_⟩
                rw [List.mem_singleton.mp known]
                exact passed
          · rw [List.mem_singleton.mp present]
            exact Or.inl ⟨_, List.mem_cons_self, rfl⟩
      | cons next rest =>
          rcases List.mem_cons.mp present with rfl | behind
          · exact Or.inl ⟨_, List.mem_cons_self, rfl⟩
          · rcases inductionHypothesis spacedRest behind with ⟨before, known, same⟩ | ⟨new, passed⟩
            · exact Or.inl ⟨before, List.mem_cons_of_mem _ known, same⟩
            · refine Or.inr ⟨new, fun before known => ?_⟩
              rcases List.mem_cons.mp known with rfl | known
              · have gap := gaps next List.mem_cons_self
                have nextPassed := passed next List.mem_cons_self
                exact Nat.le_trans gap (Nat.le_of_add_right_le nextPassed)
              · exact passed before known

theorem Spaced.noteLast
    {width : Duration}
    {buckets : List Bucket}
    (spaced : Spaced width buckets)
    (now : Instant)
    (event : CallEvent) :
    Spaced width (noteLast width now event buckets) := by
  induction buckets with
  | nil => exact List.pairwise_singleton _ _
  | cons first rest inductionHypothesis =>
      obtain ⟨gaps, others⟩ := List.pairwise_cons.mp spaced
      have spacedRest : Spaced width rest := others
      cases rest with
      | nil =>
          simp only [Window.noteLast]
          split
          · next passed => exact List.pairwise_pair.mpr passed
          · exact List.pairwise_singleton _ _
      | cons next rest =>
          refine List.pairwise_cons.mpr ⟨fun bucket present => ?_, inductionHypothesis spacedRest⟩
          rcases spacedRest.start_of_mem_noteLast present with ⟨before, known, same⟩ | ⟨new, passed⟩
          · exact same ▸ gaps before known
          · have gap := gaps next List.mem_cons_self
            have nextPassed := passed next List.mem_cons_self
            exact new ▸ Nat.le_trans gap (Nat.le_of_add_right_le nextPassed)

/-- Nothing that is counted by the buckets that are left after forgetting is as old as the
span of the window. -/
theorem Spaced.lt_of_cuts
    {window : Window}
    {now : Instant}
    {kept : List Noted}
    (spaced : Spaced window.width (window.evict now).buckets)
    (cuts : Cuts (window.evict now).buckets kept) :
    ∀ noted ∈ kept, now < noted.instant + window.span := by
  cases front : (window.evict now).buckets with
  | nil =>
      rw [front] at cuts
      cases cuts
      exact fun _ absent => absurd absent List.not_mem_nil
  | cons first rest =>
      have young := lt_of_evict_cons front
      have oldest : ∀ bucket ∈ (window.evict now).buckets, first.start ≤ bucket.start := by
        rw [front] at spaced ⊢
        intro bucket present
        rcases List.mem_cons.mp present with rfl | behind
        · exact Nat.le_refl _
        · exact Nat.le_of_add_right_le ((List.pairwise_cons.mp spaced).1 bucket behind)
      intro noted present
      exact Nat.lt_of_lt_of_le young
        (Nat.add_le_add_right (cuts.le_instant oldest noted present) window.span)

/-- What a window has to do with the log of what was noted in it. -/
structure Retains (window : Window) (clock : Instant) (log : List Noted) : Prop where
  spaced : Spaced window.width window.buckets
  /-- No bucket is begun in the future. -/
  begun : ∀ bucket ∈ window.buckets, bucket.start ≤ clock
  /-- The window holds a tail of the log. -/
  cuts : ∃ kept, kept <:+ log ∧ Cuts window.buckets kept

namespace Retains

variable {window : Window} {clock now : Instant} {log : List Noted}

theorem reset
    (window : Window)
    (clock : Instant) :
    window.reset.Retains clock [] where
  spaced := List.Pairwise.nil
  begun := fun _ present => absurd present List.not_mem_nil
  cuts := ⟨[], List.suffix_rfl, .nil⟩

theorem later
    (retains : window.Retains clock log)
    {later : Instant}
    (order : clock ≤ later) :
    window.Retains later log where
  spaced := retains.spaced
  begun := fun bucket present => Nat.le_trans (retains.begun bucket present) order
  cuts := retains.cuts

theorem evict
    (retains : window.Retains clock log)
    (now : Instant) :
    (window.evict now).Retains clock log where
  spaced := retains.spaced.sublist (List.dropWhile_sublist _)
  begun := fun bucket present =>
    retains.begun bucket ((List.dropWhile_sublist _).subset present)
  cuts := by
    obtain ⟨kept, tail, cuts⟩ := retains.cuts
    obtain ⟨still, shorter, left⟩ := cuts.dropWhile fun bucket => bucket.start + window.span ≤ now
    exact ⟨still, shorter.trans tail, left⟩

/-- What is noted is retained, even where the clock was read a while before. -/
theorem note
    (retains : window.Retains clock log)
    (past : now ≤ clock)
    (event : CallEvent) :
    (window.note now event).Retains clock (log ++ [⟨clock, event⟩]) := by
  have evicted := retains.evict now
  refine ⟨evicted.spaced.noteLast now event, ?_, ?_⟩
  · intro bucket present
    rcases evicted.spaced.start_of_mem_noteLast present with ⟨before, known, same⟩ | ⟨new, -⟩
    · exact same ▸ evicted.begun before known
    · exact new ▸ past
  · obtain ⟨kept, tail, cuts⟩ := evicted.cuts
    obtain ⟨forgotten, rfl⟩ := tail
    refine ⟨kept ++ [⟨clock, event⟩], ⟨forgotten, (List.append_assoc _ _ _).symm⟩, ?_⟩
    exact cuts.noteLast window.width past evicted.begun event

/-- The totals count a tail of the log, all of it noted less than the span before. -/
theorem exists_totals
    (retains : window.Retains clock log)
    (now : Instant) :
    ∃ kept, kept <:+ log ∧ window.totals now = Counts.ofLog kept ∧
      ∀ noted ∈ kept, now < noted.instant + window.span := by
  have evicted := retains.evict now
  obtain ⟨kept, tail, cuts⟩ := evicted.cuts
  refine ⟨kept, tail, ?_, evicted.spaced.lt_of_cuts cuts⟩
  rw [totals, cuts.foldl_add, Counts.zero_add]

end Retains
end Window
end MallFabric
