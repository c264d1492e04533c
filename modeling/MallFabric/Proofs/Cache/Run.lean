import MallFabric.Proofs.Cache.Entries

/-!
# Runs of a cache

A cache is read and written while time passes.  What was written and when makes up
its history, newest first.  Every entry that is held was written, so that what is read
under a key was written under this key, less than its span before.
-/

namespace MallFabric

/-- What may happen next around a cache. -/
inductive CacheEvent where
  /-- An answer is stored, and a certain key dropped by preference. -/
  | set (key : String) (answer : Bytes) (span : Duration) (preferred : Option String)
  | get (key : String)
  /-- Time passes. -/
  | pass (span : Duration)
deriving DecidableEq, Repr

/-- An answer that was written, and when. -/
structure Written where
  instant : Instant
  key : String
  answer : Bytes
  span : Duration
deriving DecidableEq, Repr

/-- A cache and what was written so far, newest first. -/
structure CacheRun where
  clock : Instant
  cache : MemoryCache
  history : List Written
deriving Repr

namespace CacheRun

/-- A cache that nobody has used. -/
def start (capacity : Nat) : CacheRun := ⟨0, MemoryCache.new capacity, []⟩

/-- What an event does to a cache. -/
def step (run : CacheRun) : CacheEvent -> CacheRun
  | .set key answer span preferred =>
      { run with
        cache := run.cache.setPreferring preferred run.clock key answer span
        history := ⟨run.clock, key, answer, span⟩ :: run.history }
  | .get key => { run with cache := (run.cache.get run.clock key).2 }
  | .pass span => { run with clock := run.clock + span }

/-- A run goes on. -/
def resume (run : CacheRun) (events : List CacheEvent) : CacheRun := events.foldl step run

/-- A cache after a run of events. -/
def after (capacity : Nat) (events : List CacheEvent) : CacheRun := (start capacity).resume events

/-- What would be read now. -/
def read (run : CacheRun) (key : String) : Option Bytes := (run.cache.get run.clock key).1

/-- What is held was written: every entry of the cache is one of its history. -/
def Recorded (run : CacheRun) : Prop :=
  ∀ entry ∈ run.cache.entries, ∃ written ∈ run.history,
    written.key = entry.1 ∧ written.answer = entry.2.answer ∧
      entry.2.expiresAt = written.instant + written.span

theorem recorded_start (capacity : Nat) : (start capacity).Recorded :=
  fun _ present => absurd present List.not_mem_nil

variable {run : CacheRun}

theorem Recorded.step
    (recorded : run.Recorded)
    (event : CacheEvent) :
    (run.step event).Recorded := by
  intro entry present
  cases event with
  | set key answer span preferred =>
      rcases MemoryCache.mem_setPreferring present with rfl | old
      · exact ⟨_, List.mem_cons_self, rfl, rfl, rfl⟩
      · obtain ⟨written, noted, told⟩ := recorded entry old
        exact ⟨written, List.mem_cons_of_mem _ noted, told⟩
  | get key => exact recorded entry (MemoryCache.mem_get present)
  | pass span => exact recorded entry present

theorem Recorded.resume
    (recorded : run.Recorded)
    (events : List CacheEvent) :
    (run.resume events).Recorded := by
  induction events generalizing run with
  | nil => exact recorded
  | cons event rest inductionHypothesis => exact inductionHypothesis (recorded.step event)

/-- What is read was written under the same key, less than its span before. -/
theorem Recorded.exists_written
    (recorded : run.Recorded)
    {key : String}
    {answer : Bytes}
    (found : run.read key = some answer) :
    ∃ written ∈ run.history, written.key = key ∧ written.answer = answer ∧
      run.clock < written.instant + written.span := by
  obtain ⟨cached, held, rfl, early⟩ := MemoryCache.find?_of_get found
  obtain ⟨written, noted, sameKey, sameAnswer, expiry⟩ := recorded _ (Assoc.mem_of_find? held)
  exact ⟨written, noted, sameKey, sameAnswer, expiry ▸ early⟩

/-- What a history tells was written by an event. -/
theorem set_mem_of_mem_history
    {events : List CacheEvent}
    {written : Written}
    (noted : written ∈ (run.resume events).history) :
    written ∈ run.history ∨
      ∃ preferred, .set written.key written.answer written.span preferred ∈ events := by
  induction events generalizing run with
  | nil => exact Or.inl noted
  | cons event rest inductionHypothesis =>
      rcases inductionHypothesis noted with before | ⟨preferred, later⟩
      · cases event with
        | set key answer span preferred =>
            rcases List.mem_cons.mp before with rfl | earlier
            · exact Or.inr ⟨preferred, List.mem_cons_self⟩
            · exact Or.inl earlier
        | get key => exact Or.inl before
        | pass span => exact Or.inl before
      · exact Or.inr ⟨preferred, List.mem_cons_of_mem _ later⟩

end CacheRun
end MallFabric
