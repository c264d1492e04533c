import MallFabric.Registry.Reaper
import MallFabric.Registry.Registrar
import MallFabric.Schedule

/-!
# Rehearsing the registry

Renewals and sweeps run as tasks of a schedule.
-/

namespace MallFabric.Rehearsal

open Registry (Lease Reaper Registrar Store)

/-- A registrar whose renewals run. -/
abbrev RegistryRehearsal := Schedule Registrar LeaseId

namespace RegistryRehearsal

def wake : Wake Registrar LeaseId
  | now, lease, registrar =>
      let (renewed, next) := registrar.wake now lease
      (renewed, next.toList.map fun due => ⟨due, lease, false⟩)

def start : RegistryRehearsal :=
  Schedule.start (Registrar.new (Registry.Link.reliable Store.empty))

def settle (rehearsal : RegistryRehearsal) : RegistryRehearsal :=
  Schedule.settle wake rehearsal

def sleep (span : Duration) (rehearsal : RegistryRehearsal) : RegistryRehearsal :=
  Schedule.sleep wake span rehearsal

/-- Register a service and begin its renewal. -/
def register (name address : String) (span : Duration) (rehearsal : RegistryRehearsal) :
    Except Fault Lease × RegistryRehearsal :=
  let (result, registrar) := rehearsal.state.register rehearsal.clock name address span
  (result, rehearsal.advance fun now _ =>
    (registrar, match result with
      | .ok lease => [⟨Instant.timer (now + Registrar.renewalPeriod span), lease.id, false⟩]
      | .error _ => []))

end RegistryRehearsal

/-- A store over which a reaper runs. -/
abbrev ReaperRehearsal := Schedule Reaper Unit

namespace ReaperRehearsal

def wake : Wake Reaper Unit
  | now, (), reaper =>
      let swept := reaper.goOn now .sleep
      (swept, swept.due?.toList.map fun due => ⟨due, (), false⟩)

def start (interval : Duration) : ReaperRehearsal :=
  let begun : ReaperRehearsal := Schedule.start (Reaper.begin Store.empty 0 interval)
  begun.advance fun _ reaper =>
    (reaper, reaper.due?.toList.map fun due => ⟨due, (), false⟩)

def sleep (span : Duration) (rehearsal : ReaperRehearsal) : ReaperRehearsal :=
  Schedule.sleep wake span rehearsal

end ReaperRehearsal

end MallFabric.Rehearsal
