import MallFabric.Fault
import MallFabric.Node.CommandLine
import MallFabric.Node.RedisUrl
import MallFabric.Registry.Registrar
import MallFabric.Settings.Basic

/-!
# Starting a node

A node reaches its cache, finds out where to listen, makes sure that it knows
its dependencies, and registers.  When it is shut down it takes its
registration back.
-/

namespace MallFabric

/-- Why a node does not start. -/
inductive StartFault where
  | cache (cause : Fault)
  | listenAddress (address : String)
  /-- A service that is called has no address and is not looked up. -/
  | dependency (service : String)
  | registration (role : Role) (cause : Fault)
deriving DecidableEq, Repr

namespace StartFault

/-- What could not be done. -/
def context : StartFault -> String
  | cache _ => "failed to connect to redis"
  | listenAddress address => s!"invalid listen_addr: {address}"
  | dependency _ => "checkout dependency has no address and discovery is off"
  | registration role _ => s!"failed to register {role.name}"

/-- Why it could not be done. -/
def reason : StartFault -> String
  | cache cause => cause.message
  | listenAddress _ => "invalid socket address syntax"
  | dependency service => (Fault.unknownService service).message
  | registration _ cause => cause.message

def message (fault : StartFault) : String := s!"{fault.context}: {fault.reason}"

end StartFault

namespace Role

/-- The addresses of a role. -/
def addresses (settings : Settings) : Role -> RoleAddresses
  | gateway => settings.gateway.addresses
  | checkout => settings.checkout.addresses

/-- The services that a role calls and that it must know beforehand. -/
def required (settings : Settings) : Role -> List String
  | gateway => []
  | checkout => settings.checkout.required

end Role

namespace Node

/-- Reach the cache.  No server answers. -/
def reachCache (settings : CacheSettings) : Except StartFault Unit :=
  match settings.backend with
  | .redis =>
      match RedisUrl.check settings.redisUrl with
      | .error fault => .error (.cache (.cache s!"invalid redis url: {fault.message}"))
      | .ok () => .error (.cache (.cache "connect to redis: Connection refused (os error 111)"))
  | .memory => .ok ()
  | .none => .ok ()

/-- Check where to listen. -/
def checkAddress (address : String) : Except StartFault Unit :=
  if SocketAddress.isValid address then .ok () else .error (.listenAddress address)

/-- Check that the dependencies of a role have addresses or can be looked up. -/
def checkDependencies (settings : Settings) (role : Role) : Except StartFault Unit :=
  if settings.registry.discovery then .ok ()
  else match (role.required settings).find? fun name => !Assoc.contains settings.services name with
    | some missing => .error (.dependency missing)
    | none => .ok ()

/-- All that is checked before a node registers. -/
def prepare (settings : Settings) (role : Role) (listen : Option String) :
    Except StartFault Unit := do
  reachCache settings.cache
  checkAddress (listen.getD (role.addresses settings).listen)
  checkDependencies settings role

/-- Start a role that is shut down at once. -/
def run (settings : Settings) (role : Role) (listen : Option String) (now : Instant)
    (registrar : Registry.Registrar) : Except StartFault Unit × Registry.Registrar :=
  match prepare settings role listen with
  | .error fault => (.error fault, registrar)
  | .ok () =>
      match registrar.register now role.name (role.addresses settings).advertise
          (Duration.ofSeconds settings.registry.leaseSeconds) with
      | (.error fault, after) => (.error (.registration role fault), after)
      | (.ok lease, after) => (.ok (), (after.deregister lease).2)

end Node

end MallFabric
