import MallFabric.Proofs.Assoc
import MallFabric.Proxy.Basic

/-!
# Entries of the response cache

Reading a cache adds no entry, storing an answer adds its own and no other, and
what is read stands in the cache and has not expired.
-/

namespace MallFabric

namespace MemoryCache

variable {cache : MemoryCache} {now : Instant} {key : String} {entry : String × CachedAnswer}

theorem mem_makeRoom
    {preferred : Option String}
    (present : entry ∈ cache.makeRoom now preferred) :
    entry ∈ cache.entries := by
  simp only [makeRoom] at present
  split at present
  · exact List.mem_of_mem_filter present
  · split at present
    · exact List.mem_of_mem_filter (List.mem_of_mem_filter present)
    · exact List.mem_of_mem_filter present

theorem mem_get
    (present : entry ∈ (cache.get now key).2.entries) :
    entry ∈ cache.entries := by
  unfold get at present
  split at present
  · exact present
  · split at present
    · exact present
    · exact List.mem_of_mem_filter present

theorem mem_setPreferring
    {preferred : Option String}
    {answer : Bytes}
    {span : Duration}
    (present : entry ∈ (cache.setPreferring preferred now key answer span).entries) :
    entry = (key, ⟨answer, now + span⟩) ∨ entry ∈ cache.entries := by
  rcases Assoc.mem_insert present with new | old
  · exact Or.inl new
  · split at old
    · exact Or.inr (mem_makeRoom old)
    · exact Or.inr old

/-- What is read stands in the cache and has not expired. -/
theorem find?_of_get
    {answer : Bytes}
    (found : (cache.get now key).1 = some answer) :
    ∃ cached, cache.entries.find? key = some cached ∧ cached.answer = answer ∧
      now < cached.expiresAt := by
  unfold get at found
  cases held : cache.entries.find? key with
  | none => simp [held] at found
  | some cached =>
      by_cases early : now < cached.expiresAt
      · simp only [held, early, if_true, Option.some.injEq] at found
        exact ⟨cached, rfl, found, early⟩
      · simp [held, early] at found

end MemoryCache

namespace CacheLink

/-- The entries of the cache behind a link. -/
def entries (link : CacheLink) : Assoc String CachedAnswer :=
  match link.store with
  | some cache => cache.entries
  | none => []

variable {link : CacheLink} {now : Instant} {key : String} {entry : String × CachedAnswer}

theorem mem_entries_get
    (present : entry ∈ (link.get now key).2.entries) :
    entry ∈ link.entries := by
  unfold get entries at present
  unfold entries
  cases store : link.store with
  | none => simp [store] at present
  | some cache =>
      cases fails : link.failsReads with
      | true => simpa [store, fails] using present
      | false =>
          simp only [store, fails] at present
          exact MemoryCache.mem_get present

theorem mem_entries_set
    {answer : Bytes}
    {span : Duration}
    (present : entry ∈ (link.set now key answer span).entries) :
    entry = (key, ⟨answer, now + span⟩) ∨ entry ∈ link.entries := by
  unfold set entries at present
  unfold entries
  cases store : link.store with
  | none => simp [store] at present
  | some cache =>
      cases fails : link.failsWrites with
      | true => simpa [store, fails] using Or.inr present
      | false =>
          simp only [store, fails] at present
          exact MemoryCache.mem_setPreferring present

theorem find?_of_get
    {answer : Bytes}
    (found : (link.get now key).1 = some answer) :
    ∃ cached, link.entries.find? key = some cached ∧ cached.answer = answer ∧
      now < cached.expiresAt := by
  unfold get at found
  unfold entries
  cases store : link.store with
  | none => simp [store] at found
  | some cache =>
      cases fails : link.failsReads with
      | true => simp [store, fails] at found
      | false =>
          simp only [store, fails] at found
          exact MemoryCache.find?_of_get found

end CacheLink
end MallFabric
