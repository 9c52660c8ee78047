/-!
# Command-line arguments

Options are long, `--name` or `--name=value`, or short, and then several share one dash. Arguments
are read from left to right, and the first that asks for help, asks for the version or is refused
decides. No option may be given twice, and a value must not look like an option.
-/

namespace TunnelRelay.Cli

/-- What the command line asks for. -/
structure Arguments where
  /-- The path of the configuration. -/
  config : String := "config.json"
  verbose : Bool := false
  deriving DecidableEq

/-- A command line. -/
inductive Invocation where
  | run (a : Arguments)
  | help
  | version
  | refused
  deriving DecidableEq

/-- The options that have been read. -/
structure Options where
  path : Option (List Char) := none
  verbose : Bool := false

namespace Options

/-- What the options ask for. -/
def arguments (o : Options) : Arguments :=
  let default : Arguments := {}
  { config := (o.path.map String.ofList).getD default.config, verbose := o.verbose }

end Options

/-- What reading an argument leads to. -/
inductive Progress where
  | next (o : Options)
  /-- The path of the configuration is the next argument. -/
  | awaitsPath (o : Options)
  | decided (i : Invocation)

/-- Reads the path of the configuration. -/
def readPath (o : Options) (path : List Char) : Progress :=
  match o.path with
  | none => .next { o with path := some path }
  | some _ => .decided .refused

/-- Reads a long option with the value that is attached to it, if one is. -/
def readLong (o : Options) (name : String) (value? : Option (List Char)) : Progress :=
  match name, value? with
  | "config", some path => readPath o path
  | "config", none => .awaitsPath o
  | "verbose", none => if o.verbose then .decided .refused else .next { o with verbose := true }
  | "help", none => .decided .help
  | "version", none => .decided .version
  | _, _ => .decided .refused

/-- Reads the letters of short options. What follows the letter of the path is the path, except
for an equals sign in front of it. -/
def readShort (o : Options) : List Char → Progress
  | [] => .next o
  | ['c'] => .awaitsPath o
  | 'c' :: '=' :: path => readPath o path
  | 'c' :: path => readPath o path
  | 'v' :: rest =>
    if o.verbose then .decided .refused else readShort { o with verbose := true } rest
  | 'h' :: _ => .decided .help
  | 'V' :: _ => .decided .version
  | _ :: _ => .decided .refused

/-- Reads an option without its first dash. -/
def readOption (o : Options) : List Char → Progress
  | '-' :: rest =>
    let name := String.ofList (rest.takeWhile (· != '='))
    match rest.dropWhile (· != '=') with
    | _ :: value => readLong o name (some value)
    | [] => readLong o name none
  | letters => readShort o letters

/-- Reads arguments; `awaitsPath` says whether the first of them is the path. Two dashes by
themselves end the options, and there is nothing to follow them. -/
def readAll : Bool → Options → List (List Char) → Invocation
  | awaitsPath, o, [] => if awaitsPath then .refused else .run o.arguments
  | awaitsPath, o, arg :: rest =>
    match arg with
    | ['-', '-'] => if awaitsPath ∨ !rest.isEmpty then .refused else .run o.arguments
    | '-' :: c :: cs =>
      if awaitsPath then .refused
      else match readOption o (c :: cs) with
        | .next o => readAll false o rest
        | .awaitsPath o => readAll true o rest
        | .decided i => i
    | path =>
      if awaitsPath then
        match readPath o path with
        | .next o => readAll false o rest
        | .awaitsPath o => readAll true o rest
        | .decided i => i
      else .refused

/-- The meaning of a command line. -/
def Invocation.ofArguments (args : List String) : Invocation :=
  readAll false {} (args.map String.toList)

/-- The lines that explain the options. -/
def helpLines : List String := [
  "Skywire VPN client relay",
  "",
  "Usage: skywire-vpn [OPTIONS]",
  "",
  "Options:",
  "  -c, --config <CONFIG>  Configuration file path [default: config.json]",
  "  -v, --verbose          Enable verbose logging",
  "  -h, --help             Print help",
  "  -V, --version          Print version"]

/-- The line that names the version. -/
def versionLine : String := "skywire-vpn 0.1.0"

/-- The lines about a command line that is refused. -/
def usageText : String :=
  "error: invalid arguments\n\nUsage: skywire-vpn [OPTIONS]\n\nFor more information, try '--help'."

end TunnelRelay.Cli
