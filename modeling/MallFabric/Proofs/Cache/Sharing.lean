import MallFabric.Proofs.Cache.Key
import MallFabric.Proofs.Cache.Run
import Mathlib.Data.List.TFAE
import Mathlib.Tactic.TFAE

/-!
# Methods that share a cache

All methods of a proxy keep their answers in one cache.  A method whose names have no
colon has its keys for itself, and is served nothing that was stored for another one.
The colons in the names of a method are not told from those that join them: any method
with such a colon shares its keys with another one, and is served its answers.
-/

namespace MallFabric

/-- What may happen next around a cache that methods share. -/
inductive SharedEvent where
  /-- The answer of a method to a request is stored, and a certain key dropped by
  preference. -/
  | store (method : Method) (payload answer : Bytes) (span : Duration)
      (preferred : Option String)
  /-- A method looks for the answer to a request. -/
  | ask (method : Method) (payload : Bytes)
  /-- Time passes. -/
  | pass (span : Duration)
deriving DecidableEq, Repr

namespace SharedEvent

/-- What comes of an event in the cache. -/
def onCache : SharedEvent -> CacheEvent
  | store method payload answer span preferred =>
      .set (method.cacheKey payload) answer span preferred
  | ask method payload => .get (method.cacheKey payload)
  | pass span => .pass span

/-- Only an answer that is stored is written. -/
theorem exists_store
    {events : List SharedEvent}
    {key : String}
    {answer : Bytes}
    {span : Duration}
    {preferred : Option String}
    (written : .set key answer span preferred ∈ events.map onCache) :
    ∃ method payload, method.cacheKey payload = key ∧
      .store method payload answer span preferred ∈ events := by
  obtain ⟨event, present, same⟩ := List.mem_map.mp written
  cases event with
  | store method payload stored kept dropped =>
      cases same
      exact ⟨method, payload, rfl, present⟩
  | ask method payload => cases same
  | pass kept => cases same

end SharedEvent

namespace Method

variable {method : Method}

/-- The keys of a method are its own, and different for requests with different
digests. -/
def KeysApart (method : Method) : Prop :=
  ∀ other payload otherPayload, method.cacheKey payload = other.cacheKey otherPayload ->
    method = other ∧ Sha256.digest payload = Sha256.digest otherPayload

/-- What a method is served from a cache of any capacity, whoever else uses the cache, was
stored for the method itself and for a request with the same digest. -/
def ServedApart (method : Method) : Prop :=
  ∀ (capacity : Nat) (events : List SharedEvent) (payload answer : Bytes),
    (CacheRun.after capacity (events.map SharedEvent.onCache)).read (method.cacheKey payload) =
        some answer ->
      ∃ otherPayload span preferred,
        .store method otherPayload answer span preferred ∈ events ∧
        Sha256.digest payload = Sha256.digest otherPayload

/-- A method with a colon in its names can be joined from other names as well. -/
theorem exists_ne_of_not_plain
    (colon : ¬ method.Plain) :
    ∃ other, method ≠ other ∧
      method.service.toList ++ ':' :: method.name.toList =
        other.service.toList ++ ':' :: other.name.toList := by
  rw [Plain, not_and_or, not_not, not_not] at colon
  rcases colon with inService | inName
  · obtain ⟨before, behind, split⟩ := List.append_of_mem inService
    refine ⟨⟨String.ofList before, String.ofList (behind ++ ':' :: method.name.toList)⟩, ?_, ?_⟩
    · intro same
      have services := congrArg (fun method => method.service.toList.length) same
      simp only [split, String.toList_ofList, List.length_append, List.length_cons] at services
      omega
    · simp [split]
  · obtain ⟨before, behind, split⟩ := List.append_of_mem inName
    refine ⟨⟨String.ofList (method.service.toList ++ ':' :: before), String.ofList behind⟩, ?_, ?_⟩
    · intro same
      have names := congrArg (fun method => method.name.toList.length) same
      simp only [split, String.toList_ofList, List.length_append, List.length_cons] at names
      omega
    · simp [split]

/-- A method with keys of its own is served its own answers. -/
theorem KeysApart.servedApart
    (apart : method.KeysApart) :
    method.ServedApart := by
  intro capacity events payload answer found
  have recorded := (CacheRun.recorded_start capacity).resume (events.map SharedEvent.onCache)
  obtain ⟨written, noted, key, rfl, -⟩ := recorded.exists_written found
  rcases CacheRun.set_mem_of_mem_history noted with before | ⟨preferred, set⟩
  · exact absurd before List.not_mem_nil
  · obtain ⟨other, otherPayload, otherKey, stored⟩ := SharedEvent.exists_store set
    obtain ⟨rfl, digests⟩ := apart other payload otherPayload (otherKey.trans key).symm
    exact ⟨otherPayload, _, preferred, stored, digests⟩

/-- Exactly the methods without colons have keys of their own, and exactly these are
served nothing that was stored for another method. -/
theorem plain_tfae
    (method : Method) :
    List.TFAE [method.Plain, method.KeysApart, method.ServedApart] := by
  tfae_have 1 → 2 := fun plain _ _ _ same => eq_of_cacheKey_eq plain same
  tfae_have 2 → 3 := KeysApart.servedApart
  tfae_have 3 → 1 := by
    intro apart
    by_contra colon
    obtain ⟨other, different, names⟩ := exists_ne_of_not_plain colon
    have shared : method.cacheKey [] = other.cacheKey [] := cacheKey_eq_iff.mpr ⟨names, rfl⟩
    have served : (CacheRun.after 1 [.set (other.cacheKey []) [] 1 none]).read
        (method.cacheKey []) = some [] := by
      rw [shared]
      exact MemoryCache.get_setPreferring_self _ _ _ _ Nat.one_pos
    obtain ⟨payload, span, preferred, stored, -⟩ :=
      apart 1 [.store other [] [] 1 none] [] [] served
    cases List.mem_singleton.mp stored
    exact different rfl
  tfae_finish

/-- Two methods that differ in where the colon stands have one key. -/
theorem cacheKey_not_apart :
    ¬ ∀ (method other : Method) (payload otherPayload : Bytes),
      method.cacheKey payload = other.cacheKey otherPayload ->
        method = other ∧ Sha256.digest payload = Sha256.digest otherPayload := by
  intro apart
  have shared := apart ⟨"product", "GetProduct:Beta"⟩ ⟨"product:GetProduct", "Beta"⟩ [] []
    (cacheKey_eq_iff.mpr ⟨by decide, rfl⟩)
  exact absurd shared.1 (by decide)

end Method
end MallFabric
