import MallFabric.Document
import MallFabric.Gateway.Route
import MallFabric.Proxy.Basic
import MallFabric.Settings.Environment
import MallFabric.Settings.Reading
import MallFabric.Settings.Toml.Document

/-!
# The settings of a node

Settings come in layers: the standard ones, a file, the variables named for
settings, and the variables named for services.
-/

namespace MallFabric

/-- Where a role listens, and the address that it registers. -/
structure RoleAddresses where
  listen : String
  advertise : String
deriving DecidableEq, Repr, Inhabited

/-- Where registrations are kept. -/
inductive RegistryBackend where
  | etcd
  | memory
deriving DecidableEq, Repr, Inhabited

/-- Where answers are cached. -/
inductive CacheBackend where
  | redis
  | memory
  | none
deriving DecidableEq, Repr, Inhabited

/-- How a node reaches the registry and keeps its registration. -/
structure RegistrySettings where
  backend : RegistryBackend
  endpoints : List String
  dialTimeoutMillis : Nat
  leaseSeconds : Nat
  /-- Whether services without a known address are looked up. -/
  discovery : Bool
  sweepIntervalMillis : Nat
deriving DecidableEq, Repr, Inhabited

/-- How a node caches answers. -/
structure CacheSettings where
  backend : CacheBackend
  redisUrl : String
  spanSeconds : Nat
  memoryCapacity : Nat
  policy : CachePolicy
deriving DecidableEq, Repr, Inhabited

/-- What only the gateway needs. -/
structure GatewaySettings where
  addresses : RoleAddresses
  config : GatewayConfig
deriving DecidableEq, Repr, Inhabited

/-- What only the checkout needs. -/
structure CheckoutSettings where
  addresses : RoleAddresses
  /-- The services that a checkout calls. -/
  required : List String
deriving DecidableEq, Repr, Inhabited

/-- What is logged, and in what form. -/
structure LogSettings where
  level : String
  format : String
deriving DecidableEq, Repr, Inhabited

/-- The settings of a node. -/
structure Settings where
  gateway : GatewaySettings
  checkout : CheckoutSettings
  /-- The addresses that are known, by name of service. -/
  services : List (String × String)
  connectTimeoutMillis : Nat
  registry : RegistrySettings
  cache : CacheSettings
  circuit : CircuitConfig
  log : LogSettings
deriving DecidableEq, Repr, Inhabited

namespace Settings

/-- The known endpoints in order of their names. -/
def endpoints (settings : Settings) : List Endpoint :=
  settings.services.map fun entry => ⟨entry.1, entry.2⟩

/-- The configuration of the proxy. -/
def proxy (settings : Settings) : ProxyConfig :=
  ⟨settings.circuit, Duration.ofSeconds settings.cache.spanSeconds, settings.cache.policy⟩

/-! ## The standard layer -/

/-- A list of texts. -/
def texts (items : List String) : Setting := .list (items.map Setting.text)

/-- The settings of a node about which nothing is said. -/
def standard : Setting := .table [
  ("gateway", .table [
    ("listen_addr", .text "0.0.0.0:8080"), ("advertise_addr", .text "127.0.0.1:8080"),
    ("request_timeout_ms", .integer 5000), ("cache_max_age_secs", .integer 300)]),
  ("checkout", .table [
    ("listen_addr", .text "0.0.0.0:50060"), ("advertise_addr", .text "127.0.0.1:50060"),
    ("required_services", texts ["cart", "product", "order", "payment"])]),
  ("services", .table [
    ("auth", .text "127.0.0.1:50051"), ("user", .text "127.0.0.1:50052"),
    ("product", .text "127.0.0.1:50053"), ("cart", .text "127.0.0.1:50054"),
    ("order", .text "127.0.0.1:50055"), ("payment", .text "127.0.0.1:50056"),
    ("checkout", .text "127.0.0.1:50060")]),
  ("connection", .table [("connect_timeout_ms", .integer 5000)]),
  ("registry", .table [
    ("backend", .text "etcd"), ("endpoints", texts ["127.0.0.1:2379"]),
    ("dial_timeout_ms", .integer 5000), ("lease_ttl_secs", .integer 10),
    ("discovery", .flag true), ("sweep_interval_ms", .integer 1000)]),
  ("cache", .table [
    ("backend", .text "redis"), ("redis_url", .text "redis://127.0.0.1:6379"),
    ("ttl_secs", .integer 300), ("memory_capacity", .integer 10000),
    ("policy", .text "marked")]),
  ("breaker", .table [
    ("timeout_ms", .integer 1000), ("max_concurrent", .integer 100),
    ("error_percent_threshold", .integer 50), ("request_volume_threshold", .integer 20),
    ("sleep_window_ms", .integer 5000), ("rolling_window_ms", .integer 10000),
    ("rolling_buckets", .integer 10)]),
  ("observability", .table [("log_level", .text "info"), ("log_format", .text "pretty")])]

/-! ## Sections -/

open Section (member)
open SettingReader (choice flag list natural size table text word)

def gatewaySection : SettingReader GatewaySettings :=
  Section.read "GatewaySection"
    ["listen_addr", "advertise_addr", "request_timeout_ms", "cache_max_age_secs"] do
    let listen ← member "listen_addr" text
    let advertise ← member "advertise_addr" text
    let timeout ← member "request_timeout_ms" word
    let maxAge ← member "cache_max_age_secs" word
    pure ⟨⟨listen, advertise⟩, ⟨Duration.ofMillis timeout, Duration.ofSeconds maxAge⟩⟩

def checkoutSection : SettingReader CheckoutSettings :=
  Section.read "CheckoutSection" ["listen_addr", "advertise_addr", "required_services"] do
    let listen ← member "listen_addr" text
    let advertise ← member "advertise_addr" text
    let required ← member "required_services" (list text)
    pure ⟨⟨listen, advertise⟩, required⟩

def connectionSection : SettingReader Nat :=
  Section.read "ConnectionSection" ["connect_timeout_ms"] (member "connect_timeout_ms" word)

def registrySection : SettingReader RegistrySettings :=
  Section.read "RegistrySection"
    ["backend", "endpoints", "dial_timeout_ms", "lease_ttl_secs", "discovery",
      "sweep_interval_ms"] do
    let backend ← member "backend"
      (choice "RegistryBackend" [("etcd", RegistryBackend.etcd), ("memory", .memory)])
    let endpoints ← member "endpoints" (list text)
    let dialTimeoutMillis ← member "dial_timeout_ms" word
    let leaseSeconds ← member "lease_ttl_secs" word
    let discovery ← member "discovery" flag
    let sweepIntervalMillis ← member "sweep_interval_ms" word
    pure { backend, endpoints, dialTimeoutMillis, leaseSeconds, discovery, sweepIntervalMillis }

def cacheSection : SettingReader CacheSettings :=
  Section.read "CacheSection"
    ["backend", "redis_url", "ttl_secs", "memory_capacity", "policy"] do
    let backend ← member "backend"
      (choice "CacheBackend" [("redis", CacheBackend.redis), ("memory", .memory), ("none", .none)])
    let redisUrl ← member "redis_url" text
    let spanSeconds ← member "ttl_secs" word
    let memoryCapacity ← member "memory_capacity" size
    let policy ← member "policy"
      (choice "CachePolicy" [("all", CachePolicy.all), ("marked", .marked)])
    pure { backend, redisUrl, spanSeconds, memoryCapacity, policy }

def circuitSection : SettingReader CircuitConfig :=
  Section.read "BreakerSection"
    ["timeout_ms", "max_concurrent", "error_percent_threshold", "request_volume_threshold",
      "sleep_window_ms", "rolling_window_ms", "rolling_buckets"] do
    let timeout ← member "timeout_ms" word
    let maxConcurrent ← member "max_concurrent" size
    let errorPercentThreshold ← member "error_percent_threshold" (natural 255 "u8")
    let requestVolumeThreshold ← member "request_volume_threshold" word
    let sleepWindow ← member "sleep_window_ms" word
    let rollingWindow ← member "rolling_window_ms" word
    let rollingBuckets ← member "rolling_buckets" (natural (UInt32.size - 1) "u32")
    pure
      { timeout := Duration.ofMillis timeout
        maxConcurrent
        errorPercentThreshold
        requestVolumeThreshold
        sleepWindow := Duration.ofMillis sleepWindow
        rollingWindow := Duration.ofMillis rollingWindow
        rollingBuckets }

def logSection : SettingReader LogSettings :=
  Section.read "ObservabilityConfig" ["log_level", "log_format"] do
    let level ← member "log_level" text
    let format ← member "log_format" text
    pure ⟨level, format⟩

/-- Read merged settings. -/
def ofSetting : SettingReader Settings :=
  Section.read "Config"
    ["gateway", "checkout", "services", "connection", "registry", "cache", "breaker",
      "observability"] do
    let gateway ← member "gateway" gatewaySection
    let checkout ← member "checkout" checkoutSection
    let services ← member "services" (table text)
    let connectTimeoutMillis ← member "connection" connectionSection
    let registry ← member "registry" registrySection
    let cache ← member "cache" cacheSection
    let circuit ← member "breaker" circuitSection
    let log ← member "observability" logSection
    pure { gateway, checkout, services, connectTimeoutMillis, registry, cache, circuit, log }

/-! ## Loading -/

/-- The file of settings that was asked for. -/
inductive File where
  /-- None was asked for. -/
  | absent
  /-- The one asked for cannot be read. -/
  | missing
  | text (content : String)
deriving DecidableEq, Repr, Inhabited

/-- The layer of a file; none if it cannot be read or is not TOML. -/
def File.layer? : File -> Option Setting
  | absent => some (.table [])
  | missing => none
  | text content => Toml.read content

/-- Load the settings: each layer goes over those before it. -/
def load (file : File) (environment : Environment.Variables) : Except SettingFault Settings :=
  match file.layer? with
  | none => .error ⟨[], .unreadable⟩
  | some layer =>
      ofSetting (((standard.merge layer).merge
        (Environment.layer Environment.settingPath? environment)).merge
        (Environment.layer Environment.addressPath? environment))

end Settings

end MallFabric
