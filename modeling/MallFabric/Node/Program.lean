import MallFabric.Node.Start

/-!
# The program

The program reads its command line, loads its settings and starts a node.
How it ends shows in its exit code and in the first line of what it complains
about.
-/

namespace MallFabric

/-- How a run of the program ends. -/
inductive Ending where
  | command (fault : CommandFault)
  | settings (fault : SettingFault)
  | start (fault : StartFault)
  /-- The node ran until it was shut down. -/
  | stopped
deriving Repr

namespace Ending

def code : Ending -> Nat
  | command .help => 0
  | command _ => 2
  | settings _ => 1
  | start _ => 1
  | stopped => 0

/-- What could not be done, if it is not the fault of the command line. -/
def failure? : Ending -> Option String
  | settings _ => some "failed to load configuration"
  | start fault => some fault.context
  | command _ => none
  | stopped => none

/-- The first line of the complaint about a failure. -/
def complaint? (ending : Ending) : Option String :=
  ending.failure?.map fun failure =>
    "Error: " ++ String.ofList (failure.toList.takeWhile (· ≠ '\n'))

end Ending

namespace Node

/-- Run a command among the given variables; `file` is what stands in the file
of a name. -/
def runCommand (command : Command) (file : Option String -> Settings.File)
    (environment : Environment.Variables) : Ending :=
  match Settings.load (file command.config) environment with
  | .error fault => .settings fault
  | .ok settings =>
      match Node.run settings command.role command.listen 0
          (Registry.Registrar.new (Registry.Link.reliable Registry.Store.empty)) with
      | (.error fault, _) => .start fault
      | (.ok (), _) => .stopped

end Node

end MallFabric
