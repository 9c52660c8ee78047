/-!
# Packets

A packet is a list of bytes. The relay moves packets of up to `Packet.greatestSize` bytes between
the interface and the transport socket; a datagram that is empty or starts with a zero byte is a
control message between relay and server and no packet of the tunnel, because IP packets never
start with a zero byte.
-/

namespace TunnelRelay

/-- The bytes of a packet or datagram. -/
abbrev Packet := List UInt8

namespace Packet

/-- The size of the buffers: what is longer is cut when it is read. -/
def greatestSize : Nat := 32767

/-- What a buffer of the given size holds of a packet. -/
def cut (size : Nat) (p : Packet) : Packet := p.take size

/-- Whether a datagram is a control message. -/
def isControl : Packet → Bool
  | [] => true
  | b :: _ => b == 0

/-- The datagram that keeps an idle link alive. -/
def keepalive : Packet := [0]

/-- A keepalive is a control message. -/
theorem isControl_keepalive : isControl keepalive = true := rfl

end Packet

end TunnelRelay
