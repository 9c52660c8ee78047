import TunnelRelay.Error
import TunnelRelay.Link.Timing
import TunnelRelay.Packet
/-!
# The two ends that a relay joins

A channel is the interface on one side and the transport socket with the server behind it on the
other, together with the clock, the timing of the link and what has gone through so far. Reads,
writes, sends and receives take no time; where one cannot be done now, the pump that asks for it
is suspended in it.
-/

namespace TunnelRelay.Relay

/-- How an interface reads when no packet waits. -/
inductive ReadMode where
  /-- The read waits for a packet. -/
  | waits
  /-- The read gives nothing at once. -/
  | polls
  /-- The read waits, and the packets that wait belong to the interface and end with it. -/
  | descriptor
  deriving DecidableEq

/-- The interface's side. -/
structure Wire where
  mode : ReadMode
  /-- Packets that wait to be read. -/
  queue : List Packet
  /-- How many of the next reads fail. -/
  failingReads : Nat
  /-- How many of the next writes fail. -/
  failingWrites : Nat
  /-- Whether writes end the task that does them. -/
  writesPanic : Bool
  /-- Whether a write cannot be done now. -/
  isFull : Bool
  deriving DecidableEq

/-- The transport socket's side. -/
structure Transport where
  /-- Datagrams of the server that wait to be received. -/
  inbox : List Packet
  /-- Whether the next operation fails because an earlier datagram found no server. -/
  isRefused : Bool
  /-- Whether a send cannot be done now. -/
  isFull : Bool
  deriving DecidableEq

/-- Who sent a datagram. -/
inductive Origin where
  | outbound
  | keepalive
  deriving DecidableEq

/-- A datagram that has been sent. -/
structure Sent where
  /-- In milliseconds. -/
  time : Nat
  packet : Packet
  origin : Origin
  /-- Whether there was a server to receive it. -/
  received : Bool
  deriving DecidableEq

/-- Both ends, the clock and what has gone through. -/
structure Channel where
  /-- In milliseconds. -/
  now : Nat
  wire : Wire
  transport : Transport
  /-- Whether the server's port is open. -/
  serverOpen : Bool
  /-- When the link started. -/
  started : Nat
  timing : LinkTiming
  sent : List Sent
  /-- Packets written to the interface, with the time. -/
  delivered : List (Nat × Packet)
  /-- Packets taken from the interface's queue, with the time, before they are cut. -/
  taken : List (Nat × Packet) := []
  deriving DecidableEq

namespace Channel

/-- The time since the link started, in microseconds. -/
def elapsed (c : Channel) : Nat := (c.now - c.started) * LinkTiming.micros

/-- When a keepalive is due, in milliseconds, if nothing is sent before. -/
def keepaliveAt (c : Channel) (interval : Nat) : Nat :=
  c.started + c.timing.keepaliveDeadline (interval * LinkTiming.micros) / LinkTiming.micros

/-- Whether a keepalive is due. -/
def keepaliveDue (c : Channel) (interval : Nat) : Bool :=
  c.timing.shouldSendKeepalive (interval * LinkTiming.micros) c.elapsed

/-- Remembers a send. -/
def markSent (c : Channel) : Channel := { c with timing := c.timing.markSent c.elapsed }

/-- A new link on a fresh socket. -/
def startLink (c : Channel) : Channel :=
  { c with
    transport := { c.transport with inbox := [], isRefused := false }
    started := c.now
    timing := {} }

/-- What a read gives. -/
inductive ReadResult where
  | failed
  /-- A packet, cut to the buffer; an empty one says that nothing waits. -/
  | packet (p : Packet)
  | pending

/-- Reads the interface. -/
def read (c : Channel) : ReadResult × Channel :=
  match c.wire.failingReads, c.wire.queue with
  | n + 1, _ => (.failed, { c with wire := { c.wire with failingReads := n } })
  | 0, p :: ps =>
    (.packet (p.cut Packet.greatestSize), {
      c with
      wire := { c.wire with queue := ps }
      taken := c.taken ++ [(c.now, p)] })
  | 0, [] => (if c.wire.mode = .polls then .packet [] else .pending, c)

/-- What a send gives. -/
inductive SendResult where
  | sent
  | refused
  | pending

/-- Sends a datagram. One that finds no server makes the next operation fail. -/
def send (c : Channel) (origin : Origin) (p : Packet) : SendResult × Channel :=
  if c.transport.isFull then (.pending, c)
  else if c.transport.isRefused then
    (.refused, { c with transport := { c.transport with isRefused := false } })
  else
    (.sent, {
      c with
      sent := c.sent ++ [⟨c.now, p, origin, c.serverOpen⟩]
      transport := { c.transport with isRefused := !c.serverOpen } })

/-- What a receive gives. -/
inductive ReceiveResult where
  | refused
  | datagram (p : Packet)
  | pending

/-- Receives a datagram, cut to the buffer. -/
def receive (c : Channel) : ReceiveResult × Channel :=
  if c.transport.isRefused then
    (.refused, { c with transport := { c.transport with isRefused := false } })
  else match c.transport.inbox with
    | [] => (.pending, c)
    | p :: ps =>
      (.datagram (p.cut Packet.greatestSize),
        { c with transport := { c.transport with inbox := ps } })

/-- What a write gives. -/
inductive WriteResult where
  | panicked
  | failed
  | written
  | pending

/-- Writes a packet to the interface. -/
def write (c : Channel) (p : Packet) : WriteResult × Channel :=
  if c.wire.writesPanic then (.panicked, c)
  else match c.wire.failingWrites with
    | n + 1 => (.failed, { c with wire := { c.wire with failingWrites := n } })
    | 0 =>
      if c.wire.isFull then (.pending, c)
      else (.written, { c with delivered := c.delivered ++ [(c.now, p)] })

/-- The failure of a read. -/
def readFailure : Error := .io (.other "interface read failed")

/-- The failure of a write. -/
def writeFailure : Error := .io (.other "interface send failed")

/-- The failure of an operation on a socket whose datagrams find no server. -/
def refusal : Error := .io (.os .connectionRefused)

end Channel

/-- What a pump has forwarded. -/
structure PumpStats where
  packets : Nat := 0
  bytes : Nat := 0
  deriving DecidableEq

/-- Counts a packet. -/
def PumpStats.record (s : PumpStats) (p : Packet) : PumpStats :=
  ⟨s.packets + 1, s.bytes + p.length⟩

end TunnelRelay.Relay
