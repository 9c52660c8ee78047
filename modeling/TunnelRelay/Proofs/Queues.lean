import Mathlib.Data.List.Forall2
import TunnelRelay.Device.Descriptor
/-!
# An interface on a descriptor is a pair of queues

Seen from outside, an interface on a descriptor is a queue of packets in each direction and a mark
that it is closed (`Queues`). The word that the interface has from the system, and the turns of its
loops, do not show: `perform_eq` says that an operation does to the socket what a single try would
do. So as long as the other end is open, every operation answers what the queues answer.

The laws of the queues follow from their steps. What comes out of a queue, together with what is
left in it, is what was in it and what has gone in; and once the mark is set, nothing is read or
written any more.
-/

namespace TunnelRelay.Device

/-! ## One operation -/

namespace DescriptorInterface

section
variable {α : Type} {i : DescriptorInterface} {op : SocketOp α}

/-- Asking for word changes nothing but the word that there is. -/
theorem await_eq (i : DescriptorInterface) (d : Direction) :
    ∃ r w, i.await d = { i with isReadable := r, isWritable := w } := by
  unfold await
  split
  · exact ⟨i.isReadable, i.isWritable, rfl⟩
  · exact ⟨_, _, rfl⟩

theorem withdraw_eq (i : DescriptorInterface) (d : Direction) :
    ∃ r w, i.withdraw d = { i with isReadable := r, isWritable := w } := by
  cases d <;> exact ⟨_, _, rfl⟩

theorem perform_of_isClosed (hc : i.isClosed = true) :
    i.perform op = (.failed i.closedFailure, i) := by
  rw [perform, if_pos hc]

/-- However often an open interface tries, it does what one try does, and but for the word that it
has from the system nothing else changes. -/
theorem perform_eq (hc : i.isClosed = false)
    (hwait : i.socket.isReady op.direction = false → op.run i.socket = (.pending, i.socket)) :
    ∃ r w, i.perform op = ((op.run i.socket).1,
      { i with socket := (op.run i.socket).2, isReadable := r, isWritable := w }) := by
  fun_induction perform op i with
  | case1 i hclosed => rw [hc] at hclosed; cases hclosed
  | case2 i _ j hw socket hrun hready ih =>
    -- the try has to wait: the socket is as before, and the next turn does it
    have hsocket : socket = i.socket := by
      have hsame := (op.pending j.socket (congrArg Prod.fst hrun)).1
      rw [hrun, await_socket] at hsame
      exact hsame
    obtain ⟨r, w, hj⟩ := i.await_eq op.direction
    have hj' : j = { i with isReadable := r, isWritable := w } := hj
    obtain ⟨r', w', hnext⟩ := withdraw_eq { j with socket } op.direction
    rw [hnext, hj', hsocket] at ih
    obtain ⟨r'', w'', h⟩ := ih hc hwait
    rw [hnext, hj', hsocket]
    exact ⟨r'', w'', h⟩
  | case3 i _ j hw outcome socket _ hrun =>
    obtain ⟨r, w, hj⟩ := i.await_eq op.direction
    have hj' : j = { i with isReadable := r, isWritable := w } := hj
    rw [show j.socket = i.socket from i.await_socket op.direction] at hrun
    rw [hj', hrun]
    exact ⟨r, w, rfl⟩
  | case4 i _ j hw =>
    -- there is no word, so a try would have to wait
    have hready : i.socket.isReady op.direction = false := by
      have hword : (i.hasWord op.direction || i.socket.isReady op.direction) = false := by
        rw [← i.hasWord_await op.direction]
        exact eq_false_of_ne_true hw
      exact (Bool.or_eq_false_iff.1 hword).2
    obtain ⟨r, w, hj⟩ := i.await_eq op.direction
    rw [hwait hready]
    exact ⟨r, w, congrArg _ hj⟩

end

end DescriptorInterface

/-- A read into a buffer waits exactly where there is no word that something can be read. -/
theorem PacketSocket.read_cases {size : Nat} (hn : 0 < size) (s : PacketSocket) :
    (s.inbox = [] ∧ s.read size = (.pending, s)) ∨
      ∃ p ps, s.inbox = p :: ps ∧ s.read size = (.done (p.take size), { s with inbox := ps }) := by
  rw [read, if_neg (Nat.ne_of_gt hn)]
  cases hq : s.inbox with
  | nil => exact .inl ⟨rfl, rfl⟩
  | cons p ps => exact .inr ⟨p, ps, rfl, rfl⟩

/-- A write to a peer that is there waits exactly where there is no room. -/
theorem PacketSocket.write_cases {s : PacketSocket} (h : s.hasPeer = true) (p : Packet) :
    (s.isFull = true ∧ s.write p = (.pending, s)) ∨
      (s.isFull = false ∧ s.write p = (.done p.length, { s with outbox := s.outbox ++ [p] })) := by
  have hp : s.peer = .present := by simpa [hasPeer] using h
  simp only [write, hp]
  cases s.isFull
  · exact .inr ⟨rfl, rfl⟩
  · exact .inl ⟨rfl, rfl⟩

/-! ## The queues -/

/-- What an interface on a descriptor is to those who use it and to the other end. -/
structure Queues where
  name : String
  /-- Packets from the other end, the oldest first. -/
  inbox : List Packet
  /-- Packets to the other end, the oldest first. -/
  outbox : List Packet
  /-- Whether there is no room for another packet to the other end. -/
  isFull : Bool
  isClosed : Bool
  deriving DecidableEq

namespace Queues

/-- The failure of reads and writes once the mark is set. -/
def closedFailure (q : Queues) : IoError := .other ("interface " ++ q.name ++ " is closed")

/-- What one operation answers and does to the queues. -/
inductive Does (q : Queues) : InterfaceOp → InterfaceAnswer → Queues → Prop
  /-- The oldest packet is read, cut to the buffer. -/
  | received {size : Nat} {p : Packet} {ps : List Packet} (hc : q.isClosed = false)
    (hq : q.inbox = p :: ps) : Does q (.recv size) (.packet (p.take size)) { q with inbox := ps }
  | foundNothing {size : Nat} (hc : q.isClosed = false) (hq : q.inbox = []) :
    Does q (.recv size) .pending q
  | recvRefused {size : Nat} (hc : q.isClosed = true) :
    Does q (.recv size) (.failed q.closedFailure) q
  | sent {p : Packet} (hc : q.isClosed = false) (hf : q.isFull = false) :
    Does q (.send p) (.count p.length) { q with outbox := q.outbox ++ [p] }
  | foundNoRoom {p : Packet} (hc : q.isClosed = false) (hf : q.isFull = true) :
    Does q (.send p) .pending q
  | sendRefused {p : Packet} (hc : q.isClosed = true) : Does q (.send p) (.failed q.closedFailure) q
  | arrived {p : Packet} : Does q (.peerSend p) (.bool true) { q with inbox := q.inbox ++ [p] }
  | fetched {p : Packet} {ps : List Packet} (hq : q.outbox = p :: ps) :
    Does q .peerRecv (.packet p) { q with outbox := ps }
  | fetchedNothing (hq : q.outbox = []) : Does q .peerRecv .nothing q
  | room {isFull : Bool} : Does q (.room isFull) .done { q with isFull }
  | closed : Does q .close .done { q with isClosed := true }
  | named : Does q .name (.text q.name) q
  | described : Does q .hasDescriptor (.bool true) q

/-- Operations in turn, with their answers. -/
inductive Goes : Queues → List (InterfaceOp × InterfaceAnswer) → Queues → Prop
  | nil {q : Queues} : Goes q [] q
  | cons {q q' q'' : Queues} {op : InterfaceOp} {answer : InterfaceAnswer}
    {t : List (InterfaceOp × InterfaceAnswer)} (h : q.Does op answer q') (ht : Goes q' t q'') :
    Goes q ((op, answer) :: t) q''

end Queues

/-! ## What goes through -/

/-- The packets that reads have given, each with the size of its buffer. -/
def received (t : List (InterfaceOp × InterfaceAnswer)) : List (Nat × Packet) :=
  t.filterMap fun
    | (.recv size, .packet p) => some (size, p)
    | _ => none

/-- The packets that writes have taken. -/
def accepted (t : List (InterfaceOp × InterfaceAnswer)) : List Packet :=
  t.filterMap fun
    | (.send p, .count _) => some p
    | _ => none

/-- The packets that the other end has written. -/
def arrived (t : List (InterfaceOp × InterfaceAnswer)) : List Packet :=
  t.filterMap fun
    | (.peerSend p, .bool true) => some p
    | _ => none

/-- The packets that the other end has read. -/
def fetched (t : List (InterfaceOp × InterfaceAnswer)) : List Packet :=
  t.filterMap fun
    | (.peerRecv, .packet p) => some p
    | _ => none

/-- If a read or a write is answered, it is refused with the failure `e`. -/
def Refuses (e : IoError) : InterfaceOp × InterfaceAnswer → Prop
  | (.recv _, answer) | (.send _, answer) => answer = .failed e
  | _ => True

/-- What is refused is neither read nor written. -/
theorem received_of_refuses {e : IoError} {t : List (InterfaceOp × InterfaceAnswer)}
    (h : ∀ x ∈ t, Refuses e x) : received t = [] ∧ accepted t = [] := by
  constructor
  · refine List.filterMap_eq_nil_iff.2 ?_
    rintro ⟨op, answer⟩ hx
    have hr := h _ hx
    cases op with
    | recv size => rw [show answer = .failed e from hr]
    | _ => rfl
  · refine List.filterMap_eq_nil_iff.2 ?_
    rintro ⟨op, answer⟩ hx
    have hr := h _ hx
    cases op with
    | send p => rw [show answer = .failed e from hr]
    | _ => rfl

namespace Queues

section
variable {q q' : Queues} {op : InterfaceOp} {answer : InterfaceAnswer}
  {t : List (InterfaceOp × InterfaceAnswer)}

/-- An operation that stays pending changes nothing. -/
theorem Does.eq_of_pending (h : q.Does op .pending q') : q' = q := by
  cases h <;> rfl

/-- Nothing but a close sets the mark, and nothing removes it. -/
theorem Does.isClosed (h : q.Does op answer q') :
    q'.isClosed = true ↔ q.isClosed = true ∨ op = .close := by
  cases h <;> simp

theorem Does.closedFailure (h : q.Does op answer q') : q'.closedFailure = q.closedFailure := by
  cases h <;> rfl

theorem Does.refuses (h : q.Does op answer q') (hc : q.isClosed = true) :
    Refuses q.closedFailure (op, answer) := by
  cases h with
  | received hc' | foundNothing hc' | sent hc' | foundNoRoom hc' => rw [hc] at hc'; cases hc'
  | recvRefused | sendRefused => rfl
  | _ => trivial

/-- What is read is what was there and what has arrived, in this order, and the rest is still there. -/
theorem Goes.inbox (h : q.Goes t q') : ∃ ps, q.inbox ++ Device.arrived t = ps ++ q'.inbox ∧
    List.Forall₂ (fun p x => x.2 = p.take x.1) ps (Device.received t) := by
  induction h with
  | nil => exact ⟨[], by simp [Device.arrived], .nil⟩
  | cons hd _ ih =>
    obtain ⟨ps, hin, hps⟩ := ih
    cases hd with
    | @received size p qs _ hq =>
      refine ⟨p :: ps, ?_, .cons rfl hps⟩
      rw [hq, List.cons_append, List.cons_append]
      exact congrArg _ hin
    | arrived =>
      rw [List.append_assoc] at hin
      exact ⟨ps, hin, hps⟩
    | _ => exact ⟨ps, hin, hps⟩

/-- What the other end reads is what was there and what was written, in this order. -/
theorem Goes.outbox (h : q.Goes t q') :
    q.outbox ++ accepted t = Device.fetched t ++ q'.outbox := by
  induction h with
  | nil => simp [accepted, Device.fetched]
  | cons hd _ ih =>
    cases hd with
    | sent =>
      rw [List.append_assoc] at ih
      exact ih
    | fetched hq =>
      rw [hq, List.cons_append]
      exact congrArg _ ih
    | _ => exact ih

/-- Once the mark is set, every read and every write is refused. -/
theorem Goes.refuses (h : q.Goes t q') (hc : q.isClosed = true) :
    ∀ x ∈ t, Refuses q.closedFailure x := by
  induction h with
  | nil => simp
  | cons hd _ ih =>
    rw [List.forall_mem_cons]
    refine ⟨hd.refuses hc, ?_⟩
    rw [← hd.closedFailure]
    exact ih (hd.isClosed.2 (.inl hc))

end

end Queues

/-! ## The interface and the queues -/

/-- What is done while the other end is open, with a buffer for each read. -/
def InterfaceOp.IsOrdinary : InterfaceOp → Prop
  | .recv size => 0 < size
  | .peerClose => False
  | _ => True

namespace DescriptorInterface

section
variable {i : DescriptorInterface} {op : InterfaceOp} {ops : List InterfaceOp}

/-- What an interface is from outside. -/
def queues (i : DescriptorInterface) : Queues :=
  ⟨i.name, i.socket.inbox, i.socket.outbox, i.socket.isFull, i.isClosed⟩

/-- Some operations with the answers that `run` gives. -/
def trace (i : DescriptorInterface) (ops : List InterfaceOp) :
    List (InterfaceOp × InterfaceAnswer) :=
  ops.zip ((i.run ops).map Prod.fst)

/-- The interface after some operations. -/
def after (i : DescriptorInterface) (ops : List InterfaceOp) : DescriptorInterface :=
  ops.foldl (fun i op => (i.apply op).2) i

theorem recv_does (hc : i.isClosed = false) {size : Nat} (hn : 0 < size) :
    i.queues.Does (.recv size) (i.apply (.recv size)).1 (i.apply (.recv size)).2.queues ∧
      (i.apply (.recv size)).2.socket.hasPeer = i.socket.hasPeer := by
  have hwait : i.socket.isReady .reading = false → i.socket.read size = (.pending, i.socket) := by
    intro hready
    rcases i.socket.read_cases hn with ⟨-, h⟩ | ⟨p, ps, hq, -⟩
    · exact h
    · rw [PacketSocket.isReady, hq] at hready
      cases hready
  obtain ⟨r, w, h⟩ : ∃ r w, i.recv size = ((i.socket.read size).1,
    { i with socket := (i.socket.read size).2, isReadable := r, isWritable := w }) :=
    perform_eq hc hwait
  simp only [apply, h]
  rcases i.socket.read_cases hn with ⟨hq, hread⟩ | ⟨p, ps, hq, hread⟩ <;> rw [hread]
  · exact ⟨.foundNothing hc hq, rfl⟩
  · exact ⟨.received hc hq, rfl⟩

theorem send_does (hi : i.socket.hasPeer = true) (hc : i.isClosed = false) (p : Packet) :
    i.queues.Does (.send p) (i.apply (.send p)).1 (i.apply (.send p)).2.queues ∧
      (i.apply (.send p)).2.socket.hasPeer = i.socket.hasPeer := by
  have hwait : i.socket.isReady .writing = false → i.socket.write p = (.pending, i.socket) := by
    intro hready
    rcases PacketSocket.write_cases hi p with ⟨-, h⟩ | ⟨hf, -⟩
    · exact h
    · rw [PacketSocket.isReady, hf, Bool.and_false] at hready
      cases hready
  obtain ⟨r, w, h⟩ : ∃ r w, i.send p = ((i.socket.write p).1,
    { i with socket := (i.socket.write p).2, isReadable := r, isWritable := w }) :=
    perform_eq hc hwait
  simp only [apply, h]
  rcases PacketSocket.write_cases hi p with ⟨hf, hwrite⟩ | ⟨hf, hwrite⟩ <;> rw [hwrite]
  · exact ⟨.foundNoRoom hc hf, rfl⟩
  · exact ⟨.sent hc hf, rfl⟩

/-- An operation answers what the queues answer, does to them what they do, and leaves the other end
open. -/
theorem apply_does (hi : i.socket.hasPeer = true) (hop : op.IsOrdinary) :
    i.queues.Does op (i.apply op).1 (i.apply op).2.queues ∧
      (i.apply op).2.socket.hasPeer = i.socket.hasPeer := by
  cases op with
  | recv size =>
    by_cases hc : i.isClosed = true
    · simp only [apply, recv, perform_of_isClosed hc]
      exact ⟨.recvRefused hc, trivial⟩
    · exact recv_does (eq_false_of_ne_true hc) hop
  | send p =>
    by_cases hc : i.isClosed = true
    · simp only [apply, send, perform_of_isClosed hc]
      exact ⟨.sendRefused hc, trivial⟩
    · exact send_does hi (eq_false_of_ne_true hc) p
  | peerSend p =>
    simp only [apply, PacketSocket.peerWrite, hi, if_true]
    exact ⟨.arrived, hi⟩
  | peerRecv =>
    simp only [apply, PacketSocket.peerRead, hi, if_true]
    cases hq : i.socket.outbox with
    | nil => exact ⟨.fetchedNothing hq, hi⟩
    | cons p ps => exact ⟨.fetched hq, hi⟩
  | peerClose => exact hop.elim
  | room isFull => exact ⟨.room, rfl⟩
  | close => exact ⟨.closed, rfl⟩
  | name => exact ⟨.named, rfl⟩
  | hasDescriptor => exact ⟨.described, rfl⟩

/-- As long as the other end is open, an interface goes as the queues go. -/
theorem goes_after (hi : i.socket.hasPeer = true) (hops : ∀ op ∈ ops, op.IsOrdinary) :
    i.queues.Goes (i.trace ops) (i.after ops).queues ∧ (i.after ops).socket.hasPeer = true := by
  induction ops generalizing i with
  | nil => exact ⟨.nil, hi⟩
  | cons op ops ih =>
    rw [List.forall_mem_cons] at hops
    obtain ⟨hd, hpeer⟩ := apply_does hi hops.1
    obtain ⟨hgoes, hi'⟩ := ih (hpeer.trans hi) hops.2
    exact ⟨.cons hd hgoes, hi'⟩

theorem trace_append (i : DescriptorInterface) (ops ops' : List InterfaceOp) :
    i.trace (ops ++ ops') = i.trace ops ++ (i.after ops).trace ops' := by
  induction ops generalizing i with
  | nil => rfl
  | cons op ops ih => exact congrArg _ (ih (i.apply op).2)

theorem isClosed_after (hi : i.socket.hasPeer = true) (hops : ∀ op ∈ ops, op.IsOrdinary) :
    (i.after ops).isClosed = true ↔ i.isClosed = true ∨ .close ∈ ops := by
  induction ops generalizing i with
  | nil => simp [after]
  | cons op ops ih =>
    rw [List.forall_mem_cons] at hops
    obtain ⟨hd, hpeer⟩ := apply_does hi hops.1
    have hclosed : (i.apply op).2.isClosed = true ↔ i.isClosed = true ∨ op = .close := hd.isClosed
    rw [show i.after (op :: ops) = (i.apply op).2.after ops from rfl,
      ih (hpeer.trans hi) hops.2, hclosed, List.mem_cons, or_assoc, @eq_comm _ op]

theorem closedFailure_after (hi : i.socket.hasPeer = true) (hops : ∀ op ∈ ops, op.IsOrdinary) :
    (i.after ops).closedFailure = i.closedFailure := by
  induction ops generalizing i with
  | nil => rfl
  | cons op ops ih =>
    rw [List.forall_mem_cons] at hops
    obtain ⟨hd, hpeer⟩ := apply_does hi hops.1
    exact (ih (hpeer.trans hi) hops.2).trans hd.closedFailure

end

/-- As long as the other end is open, an interface on a descriptor is a pair of queues with a mark
that it is closed: whatever is done, by either side and in whatever order, each operation answers
what the queues answer and does to them what they do. So the packets that reads have given are the
oldest ones, each cut to its buffer, and nothing that was written is lost, repeated or put out of
order. An operation that stays pending changes neither the queues nor the mark. The mark is set by
the first close and by nothing else; from then on every read and every write is refused, no packet
is taken or passed on, and another close succeeds and changes nothing at all. -/
theorem queues_lawful {i : DescriptorInterface} {ops : List InterfaceOp}
    (hi : i.socket.hasPeer = true) (hops : ∀ op ∈ ops, op.IsOrdinary) :
    i.queues.Goes (i.trace ops) (i.after ops).queues ∧
    (∃ ps, i.socket.inbox ++ arrived (i.trace ops) = ps ++ (i.after ops).socket.inbox ∧
      List.Forall₂ (fun p x => x.2 = p.take x.1) ps (received (i.trace ops))) ∧
    i.socket.outbox ++ accepted (i.trace ops) =
      fetched (i.trace ops) ++ (i.after ops).socket.outbox ∧
    ∀ before later, ops = before ++ later →
      i.trace ops = i.trace before ++ (i.after before).trace later ∧
      (∀ op ∈ later.head?, ((i.after before).apply op).1 = .pending →
        ((i.after before).apply op).2.queues = (i.after before).queues) ∧
      ((i.after before).isClosed = true ↔ i.isClosed = true ∨ .close ∈ before) ∧
      ((i.after before).isClosed = true →
        (∀ x ∈ (i.after before).trace later, Refuses i.closedFailure x) ∧
        received ((i.after before).trace later) = [] ∧
        accepted ((i.after before).trace later) = [] ∧
        (i.after before).apply .close = (.done, i.after before)) := by
  obtain ⟨hgoes, -⟩ := goes_after hi hops
  refine ⟨hgoes, hgoes.inbox, hgoes.outbox, ?_⟩
  rintro before later rfl
  obtain ⟨hbefore, hlater⟩ := List.forall_mem_append.1 hops
  obtain ⟨-, hi'⟩ := goes_after hi hbefore
  refine ⟨i.trace_append before later, ?_, isClosed_after hi hbefore, ?_⟩
  · intro op hop hpending
    have hd := (apply_does hi' (hlater op (List.mem_of_mem_head? hop))).1
    rw [hpending] at hd
    exact hd.eq_of_pending
  · intro hc
    have hrefuses := (goes_after hi' hlater).1.refuses hc
    rw [show (i.after before).queues.closedFailure = (i.after before).closedFailure from rfl,
      closedFailure_after hi hbefore] at hrefuses
    obtain ⟨hreceived, haccepted⟩ := received_of_refuses hrefuses
    refine ⟨hrefuses, hreceived, haccepted, ?_⟩
    rw [apply, close, ← hc]

/-- An interface on a fresh pair. -/
def trialInterface : DescriptorInterface := { name := "sim0" }

/-- What is done with it: a read that cuts, one that stays pending, a write, one without room, a
close with a packet left, and operations after it. -/
def trialOps : List InterfaceOp :=
  [.peerSend [69, 1, 2], .recv 2, .recv 9, .send [70], .room true, .send [71], .peerSend [69, 3],
    .close, .recv 9, .send [72], .close, .peerRecv, .peerRecv]

/-- There the packet that has been read was cut, the one that waits at the close stays, and the
other end reads what was written before it. -/
theorem trialInterface_queues :
    received (trialInterface.trace trialOps) = [(2, [69, 1])] ∧
    fetched (trialInterface.trace trialOps) = [[70]] ∧
    (∃ ps, arrived (trialInterface.trace trialOps) =
        ps ++ (trialInterface.after trialOps).socket.inbox ∧
      List.Forall₂ (fun p x => x.2 = p.take x.1) ps (received (trialInterface.trace trialOps))) ∧
    accepted (trialInterface.trace trialOps) = fetched (trialInterface.trace trialOps) ++
      (trialInterface.after trialOps).socket.outbox ∧
    (∀ x ∈ (trialInterface.after (trialOps.take 8)).trace (trialOps.drop 8),
      Refuses (.other "interface sim0 is closed") x) ∧
    (trialInterface.after trialOps).isClosed = true := by
  have hops : ∀ op ∈ trialOps, op.IsOrdinary := by
    simp [trialOps, InterfaceOp.IsOrdinary]
  obtain ⟨-, hinbox, houtbox, hsplit⟩ := queues_lawful (i := trialInterface) rfl hops
  obtain ⟨-, -, hclosed, hrefused⟩ := hsplit (trialOps.take 8) (trialOps.drop 8) rfl
  obtain ⟨-, -, hclosed', -⟩ := hsplit trialOps [] (by simp)
  have hclose : (trialInterface.after (trialOps.take 8)).isClosed = true :=
    hclosed.2 (.inr (by simp [trialOps]))
  exact ⟨by decide +kernel, by decide +kernel, hinbox, houtbox, (hrefused hclose).1,
    hclosed'.2 (.inr (by simp [trialOps]))⟩

end DescriptorInterface

end TunnelRelay.Device
