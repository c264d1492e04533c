import MallFabric.Proofs.Cache.Run
import Mathlib.Data.List.Induction

/-!
# A bounded map whose answers expire

A cache holds no more answers than its capacity, and tells of each key what was stored last,
until that expires.  Only one thing makes it lose an answer sooner: another key is stored
while the cache is full of answers that have not expired, and no other of them expires
earlier.
-/

namespace MallFabric

/-! ## What a full cache drops -/

namespace MemoryCache

/-- An entry that expires first is found unless there is none. -/
theorem exists_firstToExpire
    {entries : Assoc String CachedAnswer}
    (inhabited : entries ≠ []) :
    ∃ key cached, firstToExpire entries = some (key, cached.expiresAt) ∧
      (key, cached) ∈ entries ∧ ∀ entry ∈ entries, cached.expiresAt ≤ entry.2.expiresAt := by
  induction entries with
  | nil => exact absurd rfl inhabited
  | cons front rest inductionHypothesis =>
      obtain ⟨name, own⟩ := front
      by_cases last : rest = []
      · subst last
        refine ⟨name, own, rfl, List.mem_cons_self, ?_⟩
        simp
      · obtain ⟨key, cached, found, present, first⟩ := inductionHypothesis last
        by_cases earlier : cached.expiresAt < own.expiresAt
        · refine ⟨key, cached, by simp [firstToExpire, found, earlier],
            List.mem_cons_of_mem _ present, List.forall_mem_cons.mpr ⟨Nat.le_of_lt earlier, first⟩⟩
        · refine ⟨name, own, by simp [firstToExpire, found, earlier], List.mem_cons_self,
            List.forall_mem_cons.mpr ⟨Nat.le_refl _, fun entry there => ?_⟩⟩
          exact Nat.le_trans (Nat.le_of_not_lt earlier) (first entry there)

/-- A key is found whose entry expires first, unless there is none. -/
theorem exists_victim?
    {entries : Assoc String CachedAnswer}
    (distinct : entries.Distinct)
    (inhabited : entries ≠ [])
    (preferred : Option String) :
    ∃ key cached, victim? entries preferred = some key ∧ entries.find? key = some cached ∧
      ∀ entry ∈ entries, cached.expiresAt ≤ entry.2.expiresAt := by
  obtain ⟨key, cached, found, present, first⟩ := exists_firstToExpire inhabited
  unfold victim?
  rw [found]
  cases preferred with
  | none => exact ⟨key, cached, rfl, distinct.find?_of_mem present, first⟩
  | some other =>
      cases held : entries.find? other with
      | none => exact ⟨key, cached, by simp [held], distinct.find?_of_mem present, first⟩
      | some chosen =>
          by_cases same : chosen.expiresAt = cached.expiresAt
          · exact ⟨other, chosen, by simp [held, same], held, same ▸ first⟩
          · exact ⟨key, cached, by simp [held, same], distinct.find?_of_mem present, first⟩

/-- Whichever key it is whose entry expires first, it is dropped if it is preferred. -/
theorem victim?_of_first
    {entries : Assoc String CachedAnswer}
    {key : String}
    {cached : CachedAnswer}
    (held : entries.find? key = some cached)
    (first : ∀ entry ∈ entries, cached.expiresAt ≤ entry.2.expiresAt) :
    victim? entries (some key) = some key := by
  have inhabited : entries ≠ [] := List.ne_nil_of_mem (Assoc.mem_of_find? held)
  obtain ⟨other, earliest, found, present, least⟩ := exists_firstToExpire inhabited
  have same : cached.expiresAt = earliest.expiresAt :=
    Nat.le_antisymm (first _ present) (least _ (Assoc.mem_of_find? held))
  simp [victim?, found, held, same]

/-- A cache holds no key twice and no more answers than its capacity. -/
structure Tidy (cache : MemoryCache) : Prop where
  distinct : cache.entries.Distinct
  bounded : cache.size ≤ cache.capacity
  positive : 0 < cache.capacity

/-- The entries next to which an answer is stored under a key.  Of several answers that
expire first any one may be displaced. -/
inductive Room (cache : MemoryCache) (now : Instant) (key : String) :
    Assoc String CachedAnswer -> Prop where
  /-- The key is present or the cache is not full. -/
  | kept (roomy : cache.entries.contains key = true ∨ cache.size < cache.capacity) :
      Room cache now key cache.entries
  /-- The cache is full, and something in it has expired. -/
  | swept
      (roomy : (cache.entries.filter fun entry => now < entry.2.expiresAt).length <
        cache.capacity) :
      Room cache now key (cache.entries.filter fun entry => now < entry.2.expiresAt)
  /-- The cache is full of other answers, none of which has expired. -/
  | displaced {victim cached}
      (absent : cache.entries.contains key = false)
      (full : cache.size = cache.capacity)
      (unexpired : ∀ entry ∈ cache.entries, now < entry.2.expiresAt)
      (held : cache.entries.find? victim = some cached)
      (first : ∀ entry ∈ cache.entries, cached.expiresAt ≤ entry.2.expiresAt) :
      Room cache now key (cache.entries.erase victim)

variable {cache : MemoryCache} {now : Instant}

/-- An answer is stored next to what is left when room was made for it. -/
theorem Tidy.exists_room
    (tidy : cache.Tidy)
    (preferred : Option String)
    (now : Instant)
    (key : String)
    (answer : Bytes)
    (span : Duration) :
    ∃ room, cache.Room now key room ∧
      (cache.setPreferring preferred now key answer span).entries =
        Assoc.insert room key ⟨answer, now + span⟩ := by
  by_cases cramped : cache.capacity ≤ cache.size ∧ !cache.entries.contains key
  · have made : (cache.setPreferring preferred now key answer span).entries =
        Assoc.insert (cache.makeRoom now preferred) key ⟨answer, now + span⟩ := by
      simp only [setPreferring, if_pos cramped]
    refine ⟨_, ?_, made⟩
    obtain ⟨full, absent⟩ := cramped
    by_cases roomy :
        (cache.entries.filter fun entry => now < entry.2.expiresAt).length < cache.capacity
    · simpa only [makeRoom, if_pos roomy] using Room.swept roomy
    · have size : cache.size = cache.capacity := Nat.le_antisymm tidy.bounded full
      have all : (cache.entries.filter fun entry => now < entry.2.expiresAt) = cache.entries := by
        refine List.filter_sublist.eq_of_length_le ?_
        exact Nat.le_trans (Nat.le_of_eq size) (Nat.le_of_not_lt roomy)
      have inhabited : cache.entries ≠ [] := by
        intro empty
        have none : cache.size = 0 := by rw [MemoryCache.size, empty, List.length_nil]
        exact absurd (none.symm.trans size) (Nat.ne_of_lt tidy.positive)
      obtain ⟨victim, cached, found, held, first⟩ :=
        exists_victim? tidy.distinct inhabited preferred
      have unexpired : ∀ entry ∈ cache.entries, now < entry.2.expiresAt := by
        simpa using List.filter_eq_self.mp all
      have room : cache.makeRoom now preferred = cache.entries.erase victim := by
        rw [all] at roomy
        simp only [makeRoom, all, if_neg roomy, found]
      rw [room]
      exact .displaced (by simpa using absent) size unexpired held first
  · have kept : (cache.setPreferring preferred now key answer span).entries =
        Assoc.insert cache.entries key ⟨answer, now + span⟩ := by
      simp only [setPreferring, if_neg cramped]
    refine ⟨_, .kept ?_, kept⟩
    by_cases present : cache.entries.contains key = true
    · exact .inl present
    · exact .inr (Nat.lt_of_not_le fun full => cramped ⟨full, by simpa using present⟩)

/-- The room for an answer holds no key twice. -/
theorem Room.distinct
    {key : String}
    {room : Assoc String CachedAnswer}
    (made : cache.Room now key room)
    (tidy : cache.Tidy) :
    room.Distinct := by
  cases made with
  | kept roomy => exact tidy.distinct
  | swept roomy => exact tidy.distinct.filter _
  | displaced absent full unexpired held first => exact tidy.distinct.erase _

/-- What is left when room was made was held before. -/
theorem Room.find?_of_find?
    {key other : String}
    {room : Assoc String CachedAnswer}
    {cached : CachedAnswer}
    (made : cache.Room now key room)
    (tidy : cache.Tidy)
    (held : room.find? other = some cached) :
    cache.entries.find? other = some cached := by
  cases made with
  | kept roomy => exact held
  | swept roomy =>
      rw [tidy.distinct.find?_filter] at held
      exact (Option.filter_eq_some_iff.mp held).1
  | @displaced victim _ absent full unexpired found first =>
      by_cases chosen : other = victim
      · subst chosen
        cases (Assoc.find?_erase_self _ _).symm.trans held
      · rwa [Assoc.find?_erase_of_ne _ chosen] at held

/-- With the new answer the cache holds no more than before, unless it was not full. -/
theorem Room.length_insert_le
    {key : String}
    {room : Assoc String CachedAnswer}
    (made : cache.Room now key room)
    (tidy : cache.Tidy)
    (stored : CachedAnswer) :
    (Assoc.insert room key stored).length ≤ cache.capacity := by
  have grown := Assoc.length_insert_le room key stored
  cases made with
  | kept roomy =>
      rcases roomy with present | free
      · rw [Assoc.length_insert_of_contains _ _ present]
        exact tidy.bounded
      · exact Nat.le_trans grown free
  | swept roomy => exact Nat.le_trans grown roomy
  | displaced absent full unexpired held first =>
      rw [Assoc.length_erase_of_find? tidy.distinct held] at grown
      exact Nat.le_trans grown tidy.bounded

theorem Tidy.setPreferring
    (tidy : cache.Tidy)
    (preferred : Option String)
    (now : Instant)
    (key : String)
    (answer : Bytes)
    (span : Duration) :
    (cache.setPreferring preferred now key answer span).Tidy := by
  obtain ⟨room, made, stored⟩ := tidy.exists_room preferred now key answer span
  refine ⟨?_, ?_, tidy.positive⟩
  · rw [stored]
    exact (made.distinct tidy).insert _ _
  · rw [size, stored]
    exact made.length_insert_le tidy _

/-- Reading drops the answer under the key if it has expired, and nothing else. -/
theorem get_eq
    (cache : MemoryCache)
    (now : Instant)
    (key : String) :
    (cache.get now key).2 = cache ∨
      ∃ cached, cache.entries.find? key = some cached ∧ cached.expiresAt ≤ now ∧
        (cache.get now key).2 = { cache with entries := cache.entries.erase key } := by
  unfold get
  cases held : cache.entries.find? key with
  | none => exact .inl rfl
  | some cached =>
      by_cases early : now < cached.expiresAt
      · exact .inl (by simp [early])
      · exact .inr ⟨cached, rfl, Nat.le_of_not_lt early, by simp [early]⟩

@[simp] theorem capacity_get
    (cache : MemoryCache)
    (now : Instant)
    (key : String) :
    (cache.get now key).2.capacity = cache.capacity := by
  rcases cache.get_eq now key with same | ⟨_, -, -, dropped⟩
  · rw [same]
  · rw [dropped]

theorem Tidy.get
    (tidy : cache.Tidy)
    (now : Instant)
    (key : String) :
    (cache.get now key).2.Tidy := by
  rcases cache.get_eq now key with same | ⟨_, -, -, dropped⟩
  · rw [same]
    exact tidy
  · rw [dropped]
    refine ⟨tidy.distinct.erase key, ?_, tidy.positive⟩
    exact Nat.le_trans (List.length_filter_le _ _) tidy.bounded

/-- What is held after reading was held before. -/
theorem find?_of_find?_get
    {key asked : String}
    {cached : CachedAnswer}
    (held : (cache.get now asked).2.entries.find? key = some cached) :
    cache.entries.find? key = some cached := by
  rcases cache.get_eq now asked with same | ⟨_, -, -, dropped⟩
  · rwa [same] at held
  · rw [dropped] at held
    by_cases own : key = asked
    · subst own
      cases (Assoc.find?_erase_self _ _).symm.trans held
    · rwa [Assoc.find?_erase_of_ne _ own] at held

/-- What has not expired is still held after reading. -/
theorem find?_get_of_lt
    {key : String}
    {cached : CachedAnswer}
    (held : cache.entries.find? key = some cached)
    (early : now < cached.expiresAt)
    (asked : String) :
    (cache.get now asked).2.entries.find? key = some cached := by
  rcases cache.get_eq now asked with same | ⟨other, present, expired, dropped⟩
  · rwa [same]
  · rw [dropped]
    have different : key ≠ asked := by
      rintro rfl
      cases held.symm.trans present
      exact absurd early (Nat.not_lt.mpr expired)
    rwa [Assoc.find?_erase_of_ne _ different]

end MemoryCache

/-! ## What a run tells of a key -/

/-- The entry with which an answer is held. -/
def Written.cached (written : Written) : CachedAnswer :=
  ⟨written.answer, written.instant + written.span⟩

namespace CacheRun

/-- What was stored last under a key. -/
def latest? (run : CacheRun) (key : String) : Option Written :=
  run.history.find? fun written => written.key = key

/-- What was stored has not expired. -/
def Fresh (run : CacheRun) (written : Written) : Prop :=
  run.clock < written.instant + written.span

/-- An event makes the cache lose an answer that has not expired. -/
structure Displaces (run : CacheRun) (written : Written) (event : CacheEvent) : Prop where
  /-- Another key is stored that is absent. -/
  stores : ∃ key answer span preferred, event = .set key answer span preferred ∧
    run.cache.entries.contains key = false
  full : run.cache.size = run.cache.capacity
  unexpired : ∀ entry ∈ run.cache.entries, run.clock < entry.2.expiresAt
  held : run.cache.entries.find? written.key = some written.cached
  /-- No other answer expires earlier. -/
  first : ∀ entry ∈ run.cache.entries, written.cached.expiresAt ≤ entry.2.expiresAt
  lost : (run.step event).cache.entries.find? written.key = none

/-- In a run the answer stored last under a key was displaced. -/
def Displaced (capacity : Nat) (events : List CacheEvent) (written : Written) : Prop :=
  ∃ earlier event later, events = earlier ++ event :: later ∧
    (after capacity earlier).latest? written.key = some written ∧
      (after capacity earlier).Displaces written event ∧
        ∀ answer span preferred, .set written.key answer span preferred ∉ later

/-- A cache is a bounded map whose answers expire. -/
structure BoundedMap (capacity : Nat) (events : List CacheEvent) : Prop where
  bounded : (after capacity events).cache.size ≤ max 1 capacity
  /-- What is read was stored last, and has not expired. -/
  latest : ∀ key answer, (after capacity events).read key = some answer ->
    ∃ written, (after capacity events).latest? key = some written ∧ written.answer = answer ∧
      (after capacity events).Fresh written
  /-- What was stored last and has not expired is read, unless it was displaced. -/
  complete : ∀ key written, (after capacity events).latest? key = some written ->
    (after capacity events).Fresh written -> (after capacity events).read key = none ->
      Displaced capacity events written

/-- What is known of a cache after a run. -/
structure Sound (capacity : Nat) (events : List CacheEvent) : Prop where
  tidy : (after capacity events).cache.Tidy
  capacity_eq : (after capacity events).cache.capacity = max 1 capacity
  current : ∀ key cached, (after capacity events).cache.entries.find? key = some cached ->
    ∃ written, (after capacity events).latest? key = some written ∧ cached = written.cached
  kept : ∀ key written, (after capacity events).latest? key = some written ->
    (after capacity events).Fresh written ->
      (after capacity events).cache.entries.find? key = some written.cached ∨
        Displaced capacity events written

theorem after_concat
    (capacity : Nat)
    (events : List CacheEvent)
    (event : CacheEvent) :
    after capacity (events ++ [event]) = (after capacity events).step event := by
  simp only [after, resume, List.foldl_append, List.foldl_cons, List.foldl_nil]

theorem key_of_latest?
    {run : CacheRun}
    {key : String}
    {written : Written}
    (stored : run.latest? key = some written) :
    written.key = key := by
  simpa using List.find?_some stored

theorem latest?_set_self
    (run : CacheRun)
    (key : String)
    (answer : Bytes)
    (span : Duration)
    (preferred : Option String) :
    (run.step (.set key answer span preferred)).latest? key =
      some ⟨run.clock, key, answer, span⟩ := by
  simp [latest?, step]

theorem latest?_set_of_ne
    (run : CacheRun)
    {key name : String}
    (other : key ≠ name)
    {answer : Bytes}
    {span : Duration}
    {preferred : Option String} :
    (run.step (.set name answer span preferred)).latest? key = run.latest? key := by
  simp [latest?, step, other.symm]

/-- What was displaced stays so until its key is stored again. -/
theorem Displaced.concat
    {capacity : Nat}
    {events : List CacheEvent}
    {written : Written}
    (displaced : Displaced capacity events written)
    {event : CacheEvent}
    (other : ∀ answer span preferred, event ≠ .set written.key answer span preferred) :
    Displaced capacity (events ++ [event]) written := by
  obtain ⟨earlier, cause, later, rfl, latest, displaces, unstored⟩ := displaced
  refine ⟨earlier, cause, later ++ [event], by simp, latest, displaces, ?_⟩
  intro answer span preferred again
  rcases List.mem_append.mp again with before | last
  · exact unstored answer span preferred before
  · exact other answer span preferred (List.mem_singleton.mp last).symm

theorem sound_nil (capacity : Nat) : Sound capacity [] where
  tidy := ⟨Assoc.distinct_nil, Nat.zero_le _, Nat.le_max_left 1 capacity⟩
  capacity_eq := rfl
  current := fun _ _ held => by cases held
  kept := fun _ _ stored => by cases stored

namespace Sound

variable {capacity : Nat} {events : List CacheEvent}

theorem pass
    (sound : Sound capacity events)
    (span : Duration) :
    Sound capacity (events ++ [.pass span]) := by
  refine ⟨?_, ?_, ?_, fun key written stored fresh => ?_⟩
  · rw [after_concat]
    exact sound.tidy
  · rw [after_concat]
    exact sound.capacity_eq
  · rw [after_concat]
    exact sound.current
  · rw [after_concat] at stored fresh ⊢
    have before : (after capacity events).Fresh written :=
      Nat.lt_of_le_of_lt (Nat.le_add_right _ span) fresh
    rcases sound.kept key written stored before with held | displaced
    · exact .inl held
    · exact .inr (displaced.concat fun answer span preferred => CacheEvent.noConfusion)

theorem get
    (sound : Sound capacity events)
    (asked : String) :
    Sound capacity (events ++ [.get asked]) := by
  refine ⟨?_, ?_, fun key cached held => ?_, fun key written stored fresh => ?_⟩
  · rw [after_concat]
    exact sound.tidy.get _ _
  · rw [after_concat]
    exact (MemoryCache.capacity_get _ _ _).trans sound.capacity_eq
  · rw [after_concat] at held ⊢
    exact sound.current key cached (MemoryCache.find?_of_find?_get held)
  · rw [after_concat] at stored fresh ⊢
    rcases sound.kept key written stored fresh with held | displaced
    · exact .inl (MemoryCache.find?_get_of_lt held fresh asked)
    · exact .inr (displaced.concat fun answer span preferred => CacheEvent.noConfusion)

/-- What was stored last under another key is held, or the event displaces it. -/
theorem held_or_displaced
    (sound : Sound capacity events)
    {key name : String}
    {answer : Bytes}
    {span : Duration}
    {preferred : Option String}
    {room : Assoc String CachedAnswer}
    (made : (after capacity events).cache.Room (after capacity events).clock name room)
    (result : ((after capacity events).step (.set name answer span preferred)).cache.entries =
      Assoc.insert room name ⟨answer, (after capacity events).clock + span⟩)
    (other : key ≠ name)
    {written : Written}
    (stored : (after capacity events).latest? key = some written)
    (fresh : (after capacity events).Fresh written)
    (held : (after capacity events).cache.entries.find? key = some written.cached) :
    ((after capacity events).step (.set name answer span preferred)).cache.entries.find? key =
        some written.cached ∨
      Displaced capacity (events ++ [.set name answer span preferred]) written := by
  obtain rfl := key_of_latest? stored
  have kept := Assoc.find?_insert_of_ne room
    (⟨answer, (after capacity events).clock + span⟩ : CachedAnswer) other
  rw [result, kept]
  cases made with
  | kept roomy => exact .inl held
  | swept roomy =>
      have early : (after capacity events).clock < written.cached.expiresAt := fresh
      refine .inl ?_
      rw [sound.tidy.distinct.find?_filter, held]
      simp [Option.filter, early]
  | @displaced victim cached absent full unexpired found first =>
      by_cases chosen : written.key = victim
      · subst chosen
        obtain rfl : written.cached = cached := Option.some.inj (held.symm.trans found)
        refine .inr ⟨events, _, [], rfl, stored, ⟨⟨_, _, _, _, rfl, absent⟩, full, unexpired,
          held, first, ?_⟩, fun _ _ _ => List.not_mem_nil⟩
        rw [result, kept, Assoc.find?_erase_self]
      · rw [Assoc.find?_erase_of_ne _ chosen]
        exact .inl held

theorem set
    (sound : Sound capacity events)
    (name : String)
    (answer : Bytes)
    (span : Duration)
    (preferred : Option String) :
    Sound capacity (events ++ [.set name answer span preferred]) := by
  obtain ⟨room, made, result⟩ :=
    sound.tidy.exists_room preferred (after capacity events).clock name answer span
  refine ⟨?_, ?_, fun key cached held => ?_, fun key written stored fresh => ?_⟩
  · rw [after_concat]
    exact sound.tidy.setPreferring _ _ _ _ _
  · rw [after_concat]
    exact sound.capacity_eq
  · rw [after_concat] at held ⊢
    simp only [step] at held
    rw [result] at held
    by_cases own : key = name
    · subst own
      cases (Assoc.find?_insert_self _ _ _).symm.trans held
      exact ⟨_, latest?_set_self _ _ _ _ _, rfl⟩
    · rw [Assoc.find?_insert_of_ne _ _ own] at held
      rw [latest?_set_of_ne _ own]
      exact sound.current key cached (made.find?_of_find? sound.tidy held)
  · rw [after_concat] at stored fresh ⊢
    by_cases own : key = name
    · subst own
      obtain rfl : ⟨_, key, answer, span⟩ = written :=
        Option.some.inj ((latest?_set_self _ _ _ _ _).symm.trans stored)
      refine .inl ?_
      simp only [step]
      rw [result]
      exact Assoc.find?_insert_self _ _ _
    · rw [latest?_set_of_ne _ own] at stored
      rcases sound.kept key written stored fresh with held | displaced
      · exact sound.held_or_displaced made result own stored fresh held
      · refine .inr (displaced.concat fun _ _ _ same => own ?_)
        rw [← key_of_latest? stored]
        cases same
        rfl

/-- What is known holds after every run. -/
theorem after
    (capacity : Nat)
    (events : List CacheEvent) :
    Sound capacity events := by
  induction events using List.reverseRecOn with
  | nil => exact sound_nil capacity
  | append_singleton earlier event inductionHypothesis =>
      cases event with
      | set key answer span preferred => exact inductionHypothesis.set key answer span preferred
      | get key => exact inductionHypothesis.get key
      | pass span => exact inductionHypothesis.pass span

end Sound

/-- In every run a cache is a bounded map whose answers expire. -/
theorem boundedMap_after
    (capacity : Nat)
    (events : List CacheEvent) :
    BoundedMap capacity events := by
  have sound := Sound.after capacity events
  refine ⟨?_, fun key answer found => ?_, fun key written stored fresh missed => ?_⟩
  · rw [← sound.capacity_eq]
    exact sound.tidy.bounded
  · obtain ⟨cached, held, rfl, early⟩ := MemoryCache.find?_of_get found
    obtain ⟨written, stored, rfl⟩ := sound.current key cached held
    exact ⟨written, stored, rfl, early⟩
  · rcases sound.kept key written stored fresh with held | displaced
    · have early : (after capacity events).clock < written.cached.expiresAt := fresh
      simp [read, MemoryCache.get, held, early] at missed
    · exact displaced

/-- In a cache for two answers a third one displaces the one that expires first. -/
example :
    let run := after 2 [.set "cart" [1] 10 none, .set "order" [2] 5 none, .pass 4,
      .set "user" [3] 10 (some "cart")]
    run.read "cart" = some [1] ∧ run.read "order" = none ∧ run.read "user" = some [3] := by
  decide

/-- Of two answers that expire together it may displace either. -/
example :
    let run := fun preferred =>
      after 2 [.set "cart" [1] 10 none, .set "order" [2] 10 none, .set "user" [3] 5 preferred]
    (run (some "cart")).read "cart" = none ∧ (run (some "cart")).read "order" = some [2] ∧
      (run (some "order")).read "order" = none ∧ (run (some "order")).read "cart" = some [1] := by
  decide

end CacheRun
end MallFabric
