import TunnelRelay.Cli.LogFilter
import TunnelRelay.Config.Basic
import TunnelRelay.Relay.Run
import TunnelRelay.Text.Quoted
/-!
# Log lines

One line an event: the level, the span of the connection if the event is in it, the target, the
message and the fields.
-/

namespace TunnelRelay.Cli

/-- The name of the span of a connection. -/
def spanName : String := "connection"

/-- What stands for the number of the relay's own socket. -/
def ownSocket : String := "N"

/-- The value of a field. -/
def fieldValue : LogValue → String
  | .text s => s
  | .quoted s => String.ofList (Text.quoted s.toList)
  | .number n => toString n
  | .failure e => e.messageWith ownSocket
  | .socket d => d.text ownSocket

/-- The fields of the span of a connection. -/
def spanFields (c : Config) : List (String × LogValue) :=
  [("id", .number c.connectionId.toNat), ("server", .text c.server),
    ("port", .number c.port.toNat)]

/-- A field of a span or an event. -/
def fieldText (f : String × LogValue) : String := f.1 ++ "=" ++ fieldValue f.2

/-- The span of a connection with its fields. -/
def spanText (c : Config) : String :=
  spanName ++ "\x7b" ++ " ".intercalate ((spanFields c).map fieldText) ++ "\x7d: "

/-- The level, five characters wide. -/
def levelText (l : Level) : String :=
  String.ofList (List.replicate (5 - l.name.length) ' ') ++ l.name

/-- A character of a message. What a terminal could take for the start of a command is shown by
its number. -/
def messageChar (c : Char) : List Char :=
  let n := c.toNat
  if n = 0x1B ∨ n = 0x07 ∨ n = 0x08 ∨ n = 0x0C ∨ n = 0x7F then
    ['\\', 'x', Text.hexDigit (n / 16), Text.hexDigit (n % 16)]
  else if 0x80 ≤ n ∧ n ≤ 0x9F then
    ['\\', 'u', '\x7b'] ++ Text.hexDigits n ++ ['\x7d']
  else [c]

/-- The text of a message. -/
def messageText (message : String) : String := String.ofList (message.toList.flatMap messageChar)

/-- The line of an event. -/
def logLine (span : String) (e : LogEvent) : String :=
  levelText e.level ++ " " ++ span ++ e.target ++ ": " ++ messageText e.message ++
    String.join (e.fields.map fun f => " " ++ fieldText f)

/-- The names of the fields of an event; the message is one of them. -/
def fieldNames (e : LogEvent) : List String := "message" :: e.fields.map Prod.fst

namespace LogFilter

/-- The greatest rank that is let through inside the span of a connection, if a directive names
that span. -/
def greatestInside (f : LogFilter) (c : Config) : Option Nat :=
  f.greatestIn spanName Relay.Run.supervisorTarget (spanFields c)

/-- Whether the span of a connection is there at all. -/
def showsSpan (f : LogFilter) (c : Config) : Bool :=
  Level.info.rank ≤ f.ceiling &&
    ((f.greatestInside c).isSome ||
      Level.info.rank ≤ f.greatestForSpans Relay.Run.supervisorTarget)

/-- Whether the level inside the span of a connection lets an event through. -/
def showsInside (f : LogFilter) (c : Config) (e : LogEvent) : Bool :=
  e.inConnection && f.showsSpan c && e.level.rank ≤ (f.greatestInside c).getD 0

/-- Whether an event is shown. -/
def shows (f : LogFilter) (config : Option Config) (e : LogEvent) : Bool :=
  e.level.rank ≤ f.ceiling &&
    (e.level.rank ≤ f.greatestFor e.target (fieldNames e) ||
      config.any fun c => f.showsInside c e)

/-- The lines of the events that are shown. -/
def lines (f : LogFilter) (config : Option Config) (events : List LogEvent) : List String :=
  let span := match config with
    | some c => if f.showsSpan c then spanText c else ""
    | none => ""
  (events.filter (f.shows config)).map fun e => logLine (if e.inConnection then span else "") e

end LogFilter

end TunnelRelay.Cli
