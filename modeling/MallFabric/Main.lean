import MallFabric.Node.Program

/-!
# The program as it is run
-/

open MallFabric

/-- The file of settings of a name. -/
def readSettingsFile : Option String -> IO Settings.File
  | none => pure .absent
  | some path => do
      try
        pure (.text (← IO.FS.readFile path))
      catch _ => pure .missing

/-- The variables of the environment, each ended by a null character. -/
def readVariables : IO Environment.Variables := do
  try
    let content ← IO.FS.readFile "/proc/self/environ"
    pure <| (content.toList.splitOnP (· == Char.ofNat 0)).filterMap fun chars =>
      if chars.contains '=' then
        some (String.ofList (chars.takeWhile (· ≠ '=')),
          String.ofList ((chars.dropWhile (· ≠ '=')).drop 1))
      else none
  catch _ => pure []

def main (arguments : List String) : IO UInt32 := do
  let ending ← match Command.parse arguments with
    | .error fault => pure (Ending.command fault)
    | .ok command => do
        let file ← readSettingsFile command.config
        pure (Node.runCommand command (fun _ => file) (← readVariables))
  match ending.complaint? with
  | some line => IO.eprintln line
  | none => pure ()
  pure (UInt32.ofNat ending.code)
