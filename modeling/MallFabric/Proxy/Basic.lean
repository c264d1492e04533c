import MallFabric.Cache
import MallFabric.Circuit.Basic
import MallFabric.Connection.Dialler
import MallFabric.Dispatch.Table
import MallFabric.Fallback

/-!
# The resilient proxy

A call of the proxy passes the response cache, the circuit of its method, the
connection pool and the method's handler, and what fails on the way goes to
the fallback.  This module has the parts of a proxy; how calls go on is in
the module on steps.
-/

namespace MallFabric

/-- Which answers are stored in the response cache. -/
inductive CachePolicy where
  | all
  /-- Only those of methods that are marked cacheable. -/
  | marked
deriving DecidableEq, Repr, Inhabited

/-- How a proxy treats calls. -/
structure ProxyConfig where
  circuit : CircuitConfig
  /-- How long an answer stays in the cache. -/
  cacheSpan : Duration
  policy : CachePolicy
deriving DecidableEq, Repr, Inhabited

namespace ProxyConfig

def standard : ProxyConfig := ⟨CircuitConfig.standard, Duration.ofSeconds 300, .all⟩

end ProxyConfig

/-- The cache as a proxy reaches it.  A cache that fails on one side never
keeps a call from going on. -/
structure CacheLink where
  /-- The cache; none if caching is switched off. -/
  store : Option MemoryCache
  failsReads : Bool
  failsWrites : Bool
  /-- How often it was asked for an answer. -/
  lookups : Nat
deriving Repr, Inhabited

namespace CacheLink

def off : CacheLink := ⟨none, false, false, 0⟩

def ofStore (cache : MemoryCache) : CacheLink := ⟨some cache, false, false, 0⟩

def isEnabled (link : CacheLink) : Bool := link.store.isSome

/-- Ask for an answer; a failing cache has none. -/
def get (link : CacheLink) (now : Instant) (key : String) : Option Bytes × CacheLink :=
  let counted := { link with lookups := link.lookups + 1 }
  match link.store with
  | none => (none, counted)
  | some cache =>
      if link.failsReads then (none, counted)
      else
        let found := cache.get now key
        (found.1, { counted with store := some found.2 })

/-- Store an answer, unless the cache fails. -/
def set (link : CacheLink) (now : Instant) (key : String) (answer : Bytes) (span : Duration) :
    CacheLink :=
  match link.store with
  | none => link
  | some cache =>
      if link.failsWrites then link
      else { link with store := some (cache.set now key answer span) }

end CacheLink

/-- The fixed parts of a proxy. -/
structure Proxy (Conn Peers : Type) where
  config : ProxyConfig
  table : DispatchTable Conn Peers
  dialler : Dialler Conn Peers
  fallback : Fallback

abbrev CallId := Nat

/-- How far a call has come. -/
inductive CallStage where
  | arriving
  /-- It looks for an answer in the cache. -/
  | lookingUp (key : String)
  /-- It asks the circuit of its method for admission. -/
  | admitting (key : Option String)
  /-- The circuit let it pass, and it has not yet tried to take a slot. -/
  | claiming (key : Option String) (since : Instant) (trial : Bool)
  /-- It waits for the connection. -/
  | connecting (key : Option String) (permit : Permit) (limit : Duration) (expiry : Instant)
  /-- It waits for the handler. -/
  | handling (key : Option String) (permit : Permit) (limit : Duration) (expiry : Instant)
      (reply : Timed (Reply Bytes))
  /-- It has an answer to store in the cache. -/
  | storing (key : String) (answer : Bytes)
  | finished (result : Except Fault Bytes)
  /-- Its task broke down. -/
  | crashed

/-- One call of the proxy. -/
structure Call where
  method : Method
  context : CallContext
  payload : Bytes
  useCache : Bool
  stage : CallStage

/-- What the calls of a proxy share. -/
structure Fabric (Conn Peers : Type) where
  cache : CacheLink
  circuits : Assoc Method Circuit
  pool : Pool Conn
  /-- The dials under way, by the caller that dials. -/
  dials : Assoc CallerId (Timed (Except Fault Conn))
  peers : Peers
  /-- The shared tokens that have fired. -/
  fired : List String
  calls : Assoc CallId Call

namespace Proxy

variable {Conn Peers : Type}

/-- Whether the answers of a method go through the cache. -/
def caches (proxy : Proxy Conn Peers) (cache : CacheLink) (method : Method) : Bool :=
  cache.isEnabled && (proxy.config.policy = .all || proxy.table.isCacheable method)

/-- The result of a degraded call. -/
def degrade (proxy : Proxy Conn Peers) (method : Method) (cause : Fault) : Except Fault Bytes :=
  proxy.fallback.degrade method cause

end Proxy

namespace Fabric

variable {Conn Peers : Type}

def new (cache : CacheLink) (pool : Pool Conn) (peers : Peers) : Fabric Conn Peers :=
  ⟨cache, [], pool, [], peers, [], []⟩

/-- The circuit of a method; one that has seen no call is closed. -/
def circuit (fabric : Fabric Conn Peers) (config : CircuitConfig) (method : Method) : Circuit :=
  (fabric.circuits.find? method).getD (Circuit.new config)

def setCircuit (fabric : Fabric Conn Peers) (method : Method) (circuit : Circuit) :
    Fabric Conn Peers :=
  { fabric with circuits := fabric.circuits.insert method circuit }

def setCall (fabric : Fabric Conn Peers) (id : CallId) (call : Call) : Fabric Conn Peers :=
  { fabric with calls := fabric.calls.insert id call }

/-- The result of a call that has ended, none inside if it broke down. -/
def result? (fabric : Fabric Conn Peers) (id : CallId) : Option (Option (Except Fault Bytes)) :=
  match fabric.calls.find? id with
  | some call =>
      match call.stage with
      | .finished result => some (some result)
      | .crashed => some none
      | _ => none
  | none => none

end Fabric

end MallFabric
