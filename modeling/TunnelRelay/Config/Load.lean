import TunnelRelay.Config.Json
import TunnelRelay.Text.Utf8
/-!
# Loading a configuration from a file

A file is read, decoded and validated. Each of the three steps fails in its own way.
-/

namespace TunnelRelay

/-- Why a configuration cannot be loaded. -/
inductive Config.LoadError where
  /-- The file cannot be read. -/
  | unreadable (path : String) (cause : IoError)
  /-- The file holds no configuration. -/
  | undecodable (path : String) (cause : Json.Error)
  /-- The configuration breaks a rule. -/
  | invalid (cause : Error)

namespace Config.LoadError

/-- The name of the step that failed. -/
def kind : LoadError → String
  | .unreadable _ _ => "read"
  | .undecodable _ _ => "parse"
  | .invalid e => e.kind

/-- The wordings of a failure from the outermost circumstance to the cause. -/
def chain : LoadError → List String
  | .unreadable path cause => ["Failed to read " ++ path, cause.message]
  | .undecodable path cause => ["Failed to parse " ++ path, cause.message]
  | .invalid cause => [cause.message]

/-- The wording of a failure. -/
def message (e : LoadError) : String := ": ".intercalate e.chain

end Config.LoadError

/-- The text of a file of which the bytes are read. -/
def fileText (file : Except OsError (List UInt8)) : Except IoError (List Char) :=
  match file with
  | .error e => .error (.os e)
  | .ok bytes =>
    match Text.Utf8.decode? bytes with
    | some cs => .ok cs
    | none => .error (.other "stream did not contain valid UTF-8")

/-- The valid configuration that a file holds. -/
def Config.load (path : String) (file : Except OsError (List UInt8)) :
    Except Config.LoadError Config :=
  match fileText file with
  | .error e => .error (.unreadable path e)
  | .ok cs =>
    match Config.decode cs with
    | .error e => .error (.undecodable path e)
    | .ok c =>
      match c.validate with
      | .error e => .error (.invalid e)
      | .ok () => .ok c

end TunnelRelay
