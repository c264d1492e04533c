import MallFabric.Gateway.Route
import MallFabric.Rehearsal.Peers
import MallFabric.Services

/-!
# Scripts

A rehearsal is written down as a JSON object: its peers and their cues, the
configuration of what is rehearsed, and the steps to take.  What is missing or
null counts as empty, zero or false, unless it has a usual value.
-/

namespace MallFabric.Rehearsal.Script

open Message (MessageType)

/-! ## Members -/

/-- A member that is there and not null. -/
def field (script : Json) (name : String) : Option Json :=
  match script.member? name with
  | some .null => none
  | other => other

def asText : Json -> String
  | .string (some content) => content
  | _ => ""

def asInt : Json -> Int
  | .number numeral => (numeral.toInt?).getD 0
  | _ => 0

def asList : Json -> List Json
  | .array items => items
  | _ => []

def text (script : Json) (name : String) : String := ((field script name).map asText).getD ""

def int (script : Json) (name : String) : Int := ((field script name).map asInt).getD 0

/-- A natural number with a usual value. -/
def natOr (script : Json) (name : String) (usual : Nat) : Nat :=
  ((field script name).map fun value => (asInt value).toNat).getD usual

def nat (script : Json) (name : String) : Nat := natOr script name 0

def flag (script : Json) (name : String) : Bool :=
  match field script name with
  | some (.bool value) => value
  | _ => false

def list (script : Json) (name : String) : List Json := ((field script name).map asList).getD []

/-- The members of an object, if there is one. -/
def members (script : Option Json) : List (String × Json) :=
  match script with
  | some (.object entries) => entries.filterMap fun entry => entry.1.map fun name => (name, entry.2)
  | _ => []

/-- Bytes in hexadecimal digits. -/
def bytes (script : Json) (name : String) : Bytes := (Hex.decode (text script name)).getD []

/-- A span of time, the sum of its parts. -/
def span (script : Json) : Duration :=
  Duration.ofSeconds (nat script "secs") + Duration.ofMillis (nat script "ms")
    + Duration.ofMicros (nat script "us")

/-- A span of time in milliseconds with a usual value. -/
def millisOr (script : Json) (name : String) (usual : Duration) : Duration :=
  match field script name with
  | some value => Duration.ofMillis (asInt value).toNat
  | none => usual

def method (script : Json) : Method := ⟨text script "service", text script "method"⟩

def messageType (name : String) : MessageType := (MessageType.ofName? name).getD .addItemResp

/-- A message of the given type; one that cannot be read is empty. -/
def message (script : Json) (name : String) (type : MessageType) : type.Value :=
  ((field script name).bind type.shape.ofJson?).getD type.shape.empty

/-- A fault by its kind. -/
def fault (script : Json) : Fault :=
  let content := text script "text"
  match text script "kind" with
  | "UnknownService" => .unknownService content
  | "Connection" => .connection (text script "service") (text script "reason")
  | "MethodNotFound" => .methodNotFound (method script)
  | "InvalidContract" => .invalidContract (method script) (text script "reason")
  | "CircuitOpen" => .circuitOpen (method script)
  | "Saturated" => .saturated (method script)
  | "ServiceUnavailable" =>
      .serviceUnavailable (text script "service") (text script "method") (text script "reason")
  | "Registration" => .registration content
  | "NotFound" => .notFound content
  | "Downstream" => .downstream (int script "code") content
  | "InvalidArgument" => .invalidArgument content
  | "Timeout" => .timeout
  | "Cancelled" => .cancelled
  | _ => .cache content

/-! ## Cues -/

/-- The cues of one peer: a list, a single cue, or none. -/
def queue {Cue : Type} (read : Json -> Cue) (script : Json) : List Cue :=
  match script with
  | .array items => items.map read
  | .null => []
  | single => [read single]

/-- The cues of every peer. -/
def cues {Cue : Type} (read : Json -> Cue) (script : Option Json) : Cues Cue :=
  (members script).map fun entry => (entry.1, queue read entry.2)

def dialCue (script : Json) : DialCue :=
  ⟨Duration.ofMillis (nat script "delay_ms"), (field script "error").map fault⟩

def lookupCue : Json -> LookupCue
  | .string (some address) => .address address
  | .null => .missing
  | cause => .fault (fault cause)

def handlerAction (script : Json) : HandlerAction :=
  if flag script "panic" then .crash
  else if flag script "echo" then .echo
  else if flag script "echo_ctx" then .echoContext
  else match field script "error" with
    | some cause => .fail (fault cause)
    | none => .answer ((field script "resp").getD (.object []))

def handlerCue (script : Json) : HandlerCue :=
  ⟨Duration.ofMillis (nat script "delay_ms"), handlerAction script⟩

def serviceAction (script : Json) : ServiceAction :=
  match field script "status", field script "type" with
  | some code, _ => .status ⟨StatusCode.ofInt (asInt code), text script "message"⟩
  | none, some name =>
      let type := messageType (asText name)
      .bytes (type.shape.encode (message script "resp" type))
  | none, none => .bytes (bytes script "hex")

def serviceCue (script : Json) : ServiceCue :=
  ⟨Duration.ofMillis (nat script "delay_ms"), serviceAction script⟩

/-! ## Setups -/

/-- Pairs of texts. -/
def pairs (script : Json) (name : String) : List (String × String) :=
  (list script name).map fun item =>
    match item with
    | .array [left, right] => (asText left, asText right)
    | _ => ("", "")

def endpoints (script : Json) : List Endpoint :=
  (pairs script "endpoints").map fun pair => ⟨pair.1, pair.2⟩

def headers (script : Json) : Headers := pairs script "headers"

/-- The network of a rehearsal, and whether anything is discovered in it. -/
def network (script : Json) : Network × Bool :=
  let dials := cues dialCue (field script "dials")
  if flag script "registry" then
    (Network.new dials [] (some (Registry.Registrar.new
      (Registry.Link.reliable Registry.Store.empty))), true)
  else
    (Network.new dials (cues lookupCue (field script "discovery")) none,
      (field script "discovery").isSome)

def circuitConfig (config : Option Json) : CircuitConfig :=
  let script := config.getD (.object [])
  let usual := CircuitConfig.standard
  { timeout := millisOr script "timeout_ms" usual.timeout
    maxConcurrent := natOr script "max_concurrent" usual.maxConcurrent
    errorPercentThreshold := natOr script "error_percent_threshold" usual.errorPercentThreshold
    requestVolumeThreshold := natOr script "request_volume_threshold" usual.requestVolumeThreshold
    sleepWindow := millisOr script "sleep_window_ms" usual.sleepWindow
    rollingWindow := millisOr script "rolling_window_ms" usual.rollingWindow
    rollingBuckets := natOr script "rolling_buckets" usual.rollingBuckets }

def proxyConfig (config : Option Json) : ProxyConfig :=
  let script := config.getD (.object [])
  { circuit := circuitConfig config
    cacheSpan := millisOr script "cache_ttl_ms" ProxyConfig.standard.cacheSpan
    policy := if text script "policy" = "marked" then .marked else .all }

def cacheLink (config : Option Json) : CacheLink :=
  let script := config.getD (.object [])
  if text script "kind" = "mem" then
    { CacheLink.ofStore (MemoryCache.new (natOr script "capacity" MemoryCache.standardCapacity)) with
      failsReads := flag script "fail_get", failsWrites := flag script "fail_set" }
  else CacheLink.off

def gatewayConfig (config : Option Json) : GatewayConfig :=
  let script := config.getD (.object [])
  ⟨millisOr script "request_timeout_ms" GatewayConfig.standard.requestTimeout,
    millisOr script "cache_max_age_ms" GatewayConfig.standard.cacheMaxAge⟩

/-- Prepared answers, or failing fast if there is no list of them. -/
def fallback (script : Option Json) : Fallback :=
  (asList (script.getD .null)).foldl
    (fun fallback entry =>
      let type := messageType (text entry "type")
      fallback.prepare (method entry) type (message entry "resp" type))
    Fallback.failFast

/-- Register a handler that plays from cues. -/
def register {Conn : Type} (label : Conn -> String) (table : DispatchTable Conn Peers)
    (entry : Json) : DispatchTable Conn Peers :=
  let name := method entry
  let request := messageType (text entry "req")
  let response := messageType (text entry "resp")
  let registered :=
    table.register name request response (rehearsedHandler label name request response)
  if flag entry "cacheable" then registered.markCacheable name else registered

/-- Register a method of a service at a path of its own. -/
def registerOverride (table : DispatchTable Line Peers) (entry : Json) :
    DispatchTable Line Peers :=
  let overriding : ServiceMethod :=
    ⟨method entry, messageType (text entry "req"), messageType (text entry "resp"), "", false⟩
  overriding.registerAt rehearsedService "/overridden" table

/-! ## Calls and requests -/

def typedRequest (script : Json) : TypedRequest :=
  let request := messageType (text script "req")
  ⟨method script, request, messageType (text script "resp"), message script "body" request⟩

/-- The context of a call, under the given id unless the script names one. -/
def callContext (usual : RequestId) (now : Instant) (script : Json) : CallContext :=
  let id := match field script "request_id" with
    | some value => RequestId.given (asText value)
    | none => usual
  let token := match field script "token" with
    | some value => Token.shared (asText value)
    | none => .own false
  let context : CallContext := ⟨id, none, token⟩
  match field script "timeout_ms" with
  | some value => context.withTimeout now (Duration.ofMillis (asInt value).toNat)
  | none => context

def httpRequest (script : Json) : HttpRequest :=
  let verb := match field script "method" with
    | some value => asText value
    | none => "GET"
  let parts := (list script "body_parts").map fun part =>
    String.join (List.replicate (natOr part "n" 1) (text part "text"))
  ⟨verb, text script "uri", headers script, text script "body" ++ String.join parts⟩

end MallFabric.Rehearsal.Script
