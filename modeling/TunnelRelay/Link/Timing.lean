/-!
# The timing of a link

A link remembers when it last sent something, in whole milliseconds since it started, rounded
down. The clock counts microseconds. The next keepalive is due an interval after the remembered
time.
-/

namespace TunnelRelay

/-- When a link last sent something. Before the first time it is the link's start. -/
structure LinkTiming where
  /-- Whole milliseconds from the start to the last send. -/
  lastSendMillis : Nat := 0
  deriving DecidableEq

namespace LinkTiming

/-- Microseconds in a millisecond. -/
def micros : Nat := 1000

/-- Remembers a send. `now` is in microseconds since the start. -/
def markSent (_ : LinkTiming) (now : Nat) : LinkTiming := ⟨now / micros⟩

/-- The remembered time of the last send, in microseconds. -/
def lastSend (t : LinkTiming) : Nat := t.lastSendMillis * micros

/-- When a keepalive is due if nothing is sent before. -/
def keepaliveDeadline (t : LinkTiming) (interval : Nat) : Nat := t.lastSend + interval

/-- The time since the last send. -/
def sinceLastSend (t : LinkTiming) (now : Nat) : Nat := now - t.lastSend

/-- Whether a keepalive is due. -/
def shouldSendKeepalive (t : LinkTiming) (interval now : Nat) : Bool :=
  t.keepaliveDeadline interval ≤ now

end LinkTiming

/-- What is done with a link's timing and a clock. Times are in microseconds. -/
inductive TimingOp where
  | advance (micros : Nat)
  | markSent
  | lastSend
  | deadline (interval : Nat)
  | since
  | should (interval : Nat)

/-- What an operation answers. -/
inductive TimingAnswer where
  | done
  | time (micros : Nat)
  | bool (b : Bool)
  deriving DecidableEq

/-- A link's timing and the clock, which starts at 0 with the link. -/
structure TimingSession where
  now : Nat := 0
  timing : LinkTiming := {}

namespace TimingSession

/-- Does one operation. -/
def apply (s : TimingSession) : TimingOp → TimingAnswer × TimingSession
  | .advance n => (.done, { s with now := s.now + n })
  | .markSent => (.done, { s with timing := s.timing.markSent s.now })
  | .lastSend => (.time s.timing.lastSend, s)
  | .deadline i => (.time (s.timing.keepaliveDeadline i), s)
  | .since => (.time (s.timing.sinceLastSend s.now), s)
  | .should i => (.bool (s.timing.shouldSendKeepalive i s.now), s)

/-- Does the operations in turn and gives their answers. -/
def run (s : TimingSession) : List TimingOp → List TimingAnswer
  | [] => []
  | op :: ops => (s.apply op).1 :: (s.apply op).2.run ops

end TimingSession

end TunnelRelay
