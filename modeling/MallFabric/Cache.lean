import MallFabric.Assoc
import MallFabric.Clock
import MallFabric.Digest.Sha256
import MallFabric.Method
import MallFabric.Text.Utf8

/-!
# The response cache

Encoded answers are kept for a while under a key made of the method and a
digest of the request.  A full cache makes room by dropping what has expired
or, if nothing has, the entry that expires first.  Of several that expire first
it may drop any one.
-/

namespace MallFabric

/-- The key of a request to a method. -/
def Method.cacheKey (method : Method) (request : Bytes) : String :=
  s!"mall:{method.service}:{method.name}:" ++ Hex.encode (Sha256.digest request)

/-- An answer and the instant from which it is no longer served. -/
structure CachedAnswer where
  answer : Bytes
  expiresAt : Instant
deriving DecidableEq, Repr, Inhabited

/-- A bounded cache in the memory of one process. -/
structure MemoryCache where
  capacity : Nat
  entries : Assoc String CachedAnswer
deriving DecidableEq, Repr, Inhabited

namespace MemoryCache

/-- An empty cache for the given number of answers, one at least. -/
def new (capacity : Nat) : MemoryCache := ⟨max 1 capacity, []⟩

/-- The number of answers that a cache holds if nothing is said. -/
def standardCapacity : Nat := 10000

def size (cache : MemoryCache) : Nat := cache.entries.length

/-- The answer under a key.  An expired one is dropped. -/
def get (cache : MemoryCache) (now : Instant) (key : String) : Option Bytes × MemoryCache :=
  match cache.entries.find? key with
  | none => (none, cache)
  | some cached =>
      if now < cached.expiresAt then (some cached.answer, cache)
      else (none, { cache with entries := cache.entries.erase key })

/-- The key of the entry that expires first; of several the one stored first. -/
def firstToExpire : Assoc String CachedAnswer -> Option (String × Instant)
  | [] => none
  | (key, cached) :: rest =>
      match firstToExpire rest with
      | none => some (key, cached.expiresAt)
      | some (other, expiresAt) =>
          if expiresAt < cached.expiresAt then some (other, expiresAt)
          else some (key, cached.expiresAt)

/-- The key that is dropped from a full cache: the preferred one if its entry expires
first, otherwise that of an entry that does. -/
def victim? (entries : Assoc String CachedAnswer) (preferred : Option String) : Option String :=
  match firstToExpire entries with
  | none => none
  | some (key, earliest) =>
      if preferred.any fun other =>
          (entries.find? other).any fun cached => cached.expiresAt = earliest then preferred
      else some key

/-- The entries after room was made for one more. -/
def makeRoom (cache : MemoryCache) (now : Instant) (preferred : Option String) :
    Assoc String CachedAnswer :=
  let live := cache.entries.filter fun entry => now < entry.2.expiresAt
  if live.length < cache.capacity then live
  else match victim? live preferred with
    | some key => Assoc.erase live key
    | none => live

/-- Store an answer under a key for a span of time, and prefer to drop a certain key if
several may be dropped for it. -/
def setPreferring (cache : MemoryCache) (preferred : Option String) (now : Instant)
    (key : String) (answer : Bytes) (span : Duration) : MemoryCache :=
  let entries :=
    if cache.capacity ≤ cache.size ∧ !cache.entries.contains key then
      cache.makeRoom now preferred
    else cache.entries
  { cache with entries := Assoc.insert entries key ⟨answer, now + span⟩ }

/-- Store an answer under a key for a span of time. -/
def set (cache : MemoryCache) (now : Instant) (key : String) (answer : Bytes) (span : Duration) :
    MemoryCache :=
  cache.setPreferring none now key answer span

/-- An answer is served from the instant it is stored until its span has passed. -/
theorem get_setPreferring_self (cache : MemoryCache) (preferred : Option String)
    {now later : Instant} (key : String) (answer : Bytes) {span : Duration}
    (fresh : later < now + span) :
    ((cache.setPreferring preferred now key answer span).get later key).1 = some answer := by
  simp [get, setPreferring, Assoc.find?_insert_self, fresh]

end MemoryCache

end MallFabric
