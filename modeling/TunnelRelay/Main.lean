import TunnelRelay.Cli.Session
/-!
# The command

Reads the arguments, the environment and the configuration file, and writes what the session
writes. The session is played on a machine whose network has no interface up and which has no
routing program.
-/

namespace TunnelRelay

/-- The number of a failure to read a file. -/
def failureNumber : IO.Error → OsError
  | .noFileOrDirectory _ code _ | .inappropriateType _ code _ | .permissionDenied _ code _
  | .invalidArgument _ code _ | .otherError code _ => ⟨code.toNat⟩
  | _ => ⟨5⟩

/-- The bytes of the file at a path. -/
def readFile (path : String) : IO (Except OsError (List UInt8)) := do
  try
    let bytes ← IO.FS.readBinFile path
    pure (.ok bytes.toList)
  catch e => pure (.error (failureNumber e))

/-- The path of the configuration that a command line names. -/
def configPath (args : List String) : Option String :=
  match Cli.Invocation.ofArguments args with
  | .run a => some a.config
  | _ => none

/-- What surrounds the session of a command line. -/
def surroundings (args : List String) : IO Cli.World := do
  let file ← match configPath args with
    | some path => readFile path
    | none => pure (.error .noEntry)
  pure {
    network := .isolated
    read := fun _ => file
    filter := ← IO.getEnv "RUST_LOG"
    filterLevel := ← IO.getEnv "RUST_LOG_LEVEL"
    interrupted := false
    routes := ⟨[], .missing⟩ }

end TunnelRelay

/-- The command. -/
def main (args : List String) : IO UInt32 := do
  let outcome := TunnelRelay.Cli.runArguments (← TunnelRelay.surroundings args) args
  for line in outcome.output do
    IO.println line
  unless outcome.errors.isEmpty do
    IO.eprintln outcome.errors
  pure outcome.exit.toUInt32
