import TunnelRelay.OsError
import TunnelRelay.Packet
/-!
# Interfaces on a descriptor

An interface on one end of a pair of datagram sockets. Each direction is a queue of packets. A
close only marks the interface: it ends reads and writes, while the descriptor and what is queued
stay as they are. The interface tries a read or a write only when it has word from the system that
one can be done. One that cannot be done after all takes that word back, and the interface waits for
word again, unless it has been closed meanwhile.
-/

namespace TunnelRelay.Device

/-- The other end of a pair. -/
inductive Peer where
  | present
  /-- Closed, and nothing has been written since. -/
  | gone
  /-- Closed, and a write has found that out. -/
  | unlinked
  deriving DecidableEq

/-- One end of a pair of datagram sockets. -/
structure PacketSocket where
  /-- Packets from the peer that wait to be read. -/
  inbox : List Packet := []
  /-- Packets to the peer that wait to be read there. -/
  outbox : List Packet := []
  peer : Peer := .present
  /-- Whether the system has no room for another packet to the peer. -/
  isFull : Bool := false
  deriving DecidableEq

/-- The two things that an interface waits for. -/
inductive Direction where
  | reading
  | writing
  deriving DecidableEq

/-- What an operation gives that may have to wait. -/
inductive Outcome (α : Type) where
  | done (a : α)
  | failed (e : IoError)
  | pending
  deriving DecidableEq

namespace PacketSocket

/-- Reads one packet into a buffer. What does not fit is lost. Without a buffer nothing is read,
and nothing is waited for. -/
def read (size : Nat) (s : PacketSocket) : Outcome Packet × PacketSocket :=
  if size = 0 then (.done [], s)
  else match s.inbox with
    | [] => (.pending, s)
    | p :: ps => (.done (p.cut size), { s with inbox := ps })

/-- Writes one packet and gives its length. The first write to a peer that is gone unlinks the
pair, and what that peer had sent is lost. -/
def write (p : Packet) (s : PacketSocket) : Outcome Nat × PacketSocket :=
  match s.peer with
  | .present =>
    if s.isFull then (.pending, s) else (.done p.length, { s with outbox := s.outbox ++ [p] })
  | .gone => (.failed (.os .connectionRefused), { s with inbox := [], peer := .unlinked })
  | .unlinked => (.failed (.os .notConnected), s)

/-- Whether the other end is open. -/
def hasPeer (s : PacketSocket) : Bool := s.peer = .present

/-- Whether the system gives word that something can be read or written. -/
def isReady (s : PacketSocket) : Direction → Bool
  | .reading => !s.inbox.isEmpty
  | .writing => !(s.hasPeer && s.isFull)

/-- A read that has to wait changes nothing, and there is nothing to read. -/
theorem read_pending {size : Nat} {s : PacketSocket} (h : (s.read size).1 = .pending) :
    (s.read size).2 = s ∧ s.isReady .reading = false := by
  unfold read at h ⊢
  split at h
  · cases h
  · rename_i hn
    rw [if_neg hn]
    split at h
    · rename_i hq
      rw [isReady, hq]
      exact ⟨rfl, rfl⟩
    · cases h

/-- A write that has to wait changes nothing, and there is no room. -/
theorem write_pending {p : Packet} {s : PacketSocket} (h : (s.write p).1 = .pending) :
    (s.write p).2 = s ∧ s.isReady .writing = false := by
  unfold write at h ⊢
  split at h
  · rename_i hp
    split at h
    · rename_i hf
      rw [if_pos hf, isReady, hasPeer, hp, hf]
      exact ⟨rfl, rfl⟩
    · cases h
  · cases h
  · cases h

/-- The peer writes one packet, if it is open. -/
def peerWrite (p : Packet) (s : PacketSocket) : PacketSocket :=
  if s.hasPeer then { s with inbox := s.inbox ++ [p] } else s

/-- The peer reads one packet, if it is open and one waits. -/
def peerRead (s : PacketSocket) : Option Packet × PacketSocket :=
  if s.hasPeer then
    match s.outbox with
    | [] => (none, s)
    | p :: ps => (some p, { s with outbox := ps })
  else (none, s)

/-- The peer is closed. -/
def peerClose (s : PacketSocket) : PacketSocket :=
  if s.hasPeer then { s with peer := .gone } else s

end PacketSocket

/-- Something that is tried on a socket. It has to wait only where there is no word that it can be
done, and then it changes nothing. -/
structure SocketOp (α : Type) where
  direction : Direction
  run : PacketSocket → Outcome α × PacketSocket
  pending : ∀ s, (run s).1 = .pending → (run s).2 = s ∧ s.isReady direction = false

namespace SocketOp

/-- Reads one packet. -/
def read (size : Nat) : SocketOp Packet :=
  ⟨.reading, PacketSocket.read size, fun _ => PacketSocket.read_pending⟩

/-- Writes one packet. -/
def write (p : Packet) : SocketOp Nat :=
  ⟨.writing, PacketSocket.write p, fun _ => PacketSocket.write_pending⟩

end SocketOp

/-- An interface on a descriptor. -/
structure DescriptorInterface where
  name : String
  socket : PacketSocket := {}
  isClosed : Bool := false
  /-- Whether there is word that something can be read. -/
  isReadable : Bool := false
  /-- Whether there is word that something can be written. -/
  isWritable : Bool := false
  deriving DecidableEq

namespace DescriptorInterface

/-- What a descriptor refers to. -/
inductive Target where
  | socket
  | file
  deriving DecidableEq

/-- Makes an interface of a descriptor. A file cannot be waited on and is refused. -/
def make (name : String) : Target → Except IoError DescriptorInterface
  | .socket => .ok { name }
  | .file => .error (.os .notPermitted)

/-- The failure of an operation on an interface that is closed. -/
def closedFailure (i : DescriptorInterface) : IoError :=
  .other ("interface " ++ i.name ++ " is closed")

/-- Whether there is word that something can be read or written. -/
def hasWord (i : DescriptorInterface) : Direction → Bool
  | .reading => i.isReadable
  | .writing => i.isWritable

/-- Takes word back. -/
def withdraw (i : DescriptorInterface) : Direction → DescriptorInterface
  | .reading => { i with isReadable := false }
  | .writing => { i with isWritable := false }

/-- Has word from the system. -/
def poll (i : DescriptorInterface) : DescriptorInterface :=
  { i with
    isReadable := i.isReadable || i.socket.isReady .reading
    isWritable := i.isWritable || i.socket.isReady .writing }

/-- Asks the system for word if there is none. -/
def await (i : DescriptorInterface) (d : Direction) : DescriptorInterface :=
  if i.hasWord d then i else i.poll

@[simp] theorem hasWord_withdraw (i : DescriptorInterface) (d : Direction) :
    (i.withdraw d).hasWord d = false := by
  cases d <;> rfl

@[simp] theorem hasWord_poll (i : DescriptorInterface) (d : Direction) :
    i.poll.hasWord d = (i.hasWord d || i.socket.isReady d) := by
  cases d <;> rfl

@[simp] theorem await_socket (i : DescriptorInterface) (d : Direction) :
    (i.await d).socket = i.socket := by
  unfold await; split <;> rfl

/-- There is word only where there was, or where the system has it. -/
@[simp] theorem hasWord_await (i : DescriptorInterface) (d : Direction) :
    (i.await d).hasWord d = (i.hasWord d || i.socket.isReady d) := by
  unfold await
  split
  · rename_i h; simp [h]
  · exact i.hasWord_poll d

/-- Tries something over and over, as long as the interface is open and there is word that it can be
done. -/
def perform {α : Type} (op : SocketOp α) (i : DescriptorInterface) :
    Outcome α × DescriptorInterface :=
  if i.isClosed then (.failed i.closedFailure, i)
  else
    let j := i.await op.direction
    if j.hasWord op.direction then
      match h : op.run j.socket with
      | (.pending, socket) =>
        have : j.socket.isReady op.direction = false :=
          (op.pending j.socket (congrArg Prod.fst h)).2
        perform op ({ j with socket }.withdraw op.direction)
      | (outcome, socket) => (outcome, { j with socket })
    else (.pending, j)
termination_by (i.hasWord op.direction).toNat
decreasing_by
  -- where the system has no word, there was word from before
  rename_i hw
  rw [await_socket] at this
  rw [hasWord_await, this, Bool.or_false] at hw
  rw [hasWord_withdraw, hw]
  exact Nat.zero_lt_one

/-- Reads one packet. -/
def recv (size : Nat) (i : DescriptorInterface) : Outcome Packet × DescriptorInterface :=
  i.perform (.read size)

/-- Writes one packet and gives its length. -/
def send (p : Packet) (i : DescriptorInterface) : Outcome Nat × DescriptorInterface :=
  i.perform (.write p)

/-- Marks the interface closed. -/
def close (i : DescriptorInterface) : DescriptorInterface := { i with isClosed := true }

end DescriptorInterface

/-- What is done with an interface and with the other end of its pair. -/
inductive InterfaceOp where
  | recv (size : Nat)
  | send (p : Packet)
  | peerSend (p : Packet)
  | peerRecv
  | peerClose
  /-- The system runs out of room for packets to the other end, or has some again. -/
  | room (isFull : Bool)
  | close
  | name
  | hasDescriptor

/-- What an operation answers. -/
inductive InterfaceAnswer where
  | packet (p : Packet)
  | count (n : Nat)
  | failed (e : IoError)
  | pending
  | bool (b : Bool)
  | nothing
  | done
  | text (s : String)
  deriving DecidableEq

/-- The answer of an operation that may have to wait. -/
def Outcome.answer {α : Type} (f : α → InterfaceAnswer) : Outcome α → InterfaceAnswer
  | .done a => f a
  | .failed e => .failed e
  | .pending => .pending

namespace DescriptorInterface

/-- Does one operation. -/
def apply (i : DescriptorInterface) : InterfaceOp → InterfaceAnswer × DescriptorInterface
  | .recv size =>
    let (outcome, i) := i.recv size
    (outcome.answer .packet, i)
  | .send p =>
    let (outcome, i) := i.send p
    (outcome.answer .count, i)
  | .peerSend p =>
    (if i.socket.hasPeer then .bool true else .nothing,
      { i with socket := i.socket.peerWrite p })
  | .peerRecv =>
    match i.socket.peerRead with
    | (some p, socket) => (.packet p, { i with socket := socket })
    | (none, socket) => (.nothing, { i with socket := socket })
  | .peerClose => (.bool i.socket.hasPeer, { i with socket := i.socket.peerClose })
  | .room isFull => (.done, { i with socket := { i.socket with isFull } })
  | .close => (.done, i.close)
  | .name => (.text i.name, i)
  | .hasDescriptor => (.bool true, i)

/-- Does the operations in turn and gives, for each, its answer and whether the interface is
closed after it. -/
def run (i : DescriptorInterface) : List InterfaceOp → List (InterfaceAnswer × Bool)
  | [] => []
  | op :: ops =>
    let (answer, i) := i.apply op
    (answer, i.isClosed) :: i.run ops

end DescriptorInterface

end TunnelRelay.Device
