import TunnelRelay.Relay.Inbound
import TunnelRelay.Relay.Outbound
/-!
# What one step of a pump does

`Outbound.Moves` and `Inbound.Moves` list the steps of the two pumps, each with the condition
under which it is made and with what it leaves behind. `Outbound.Rests` and `Inbound.Rests` list
the ways in which a pump can do nothing.
-/

namespace TunnelRelay.Relay

/-! ## The outbound pump -/

/-- The channel after the first packet of the queue has been taken. -/
def Channel.take (c : Channel) (p : Packet) (ps : List Packet) : Channel :=
  { c with wire := { c.wire with queue := ps }, taken := c.taken ++ [(c.now, p)] }

/-- The channel after a datagram has been sent. -/
def Channel.push (c : Channel) (origin : Origin) (p : Packet) : Channel :=
  { c with
    sent := c.sent ++ [⟨c.now, p, origin, c.serverOpen⟩]
    transport := { c.transport with isRefused := !c.serverOpen } }

/-- The channel after its socket has reported that an earlier datagram found no server. -/
def Channel.reportRefusal (c : Channel) : Channel :=
  { c with transport := { c.transport with isRefused := false } }

/-- The channel without the packets that wait to be read. -/
def Channel.discard (c : Channel) : Channel := { c with wire := { c.wire with queue := [] } }

/-- The steps of the outbound pump. -/
inductive Outbound.Moves (stop : Bool) (idle : Nat) (o : Outbound) (c : Channel) :
    Outbound → Channel → Prop
  | stopped (hs : stop = true) (hp : o.phase = .ready ∨ ∃ w, o.phase = .idling w) :
    Moves stop idle o c o.finish c
  | readFailed {n : Nat} (hs : stop = false) (hp : o.phase = .ready)
    (hf : c.wire.failingReads = n + 1) :
    Moves stop idle o c (o.fail Channel.readFailure)
      { c with wire := { c.wire with failingReads := n } }
  | foundEmpty (hs : stop = false) (hp : o.phase = .ready) (hf : c.wire.failingReads = 0)
    (hq : c.wire.queue = []) (hm : c.wire.mode = .polls) :
    Moves stop idle o c { o with phase := .idling (c.now + idle) } c
  | tookEmpty {ps : List Packet} (hs : stop = false) (hp : o.phase = .ready)
    (hf : c.wire.failingReads = 0) (hq : c.wire.queue = [] :: ps) :
    Moves stop idle o c { o with phase := .idling (c.now + idle) } (c.take [] ps)
  | took {p : Packet} {ps : List Packet} (hs : stop = false) (hp : o.phase = .ready)
    (hf : c.wire.failingReads = 0) (hq : c.wire.queue = p :: ps) (hne : p ≠ []) :
    Moves stop idle o c { o with phase := .sending (p.take Packet.greatestSize) } (c.take p ps)
  | woke {w : Nat} (hs : stop = false) (hp : o.phase = .idling w) (hw : w ≤ c.now) :
    Moves stop idle o c { o with phase := .ready } c
  | refused {p : Packet} (hp : o.phase = .sending p) (hf : c.transport.isFull = false)
    (hr : c.transport.isRefused = true) :
    Moves stop idle o c (o.fail Channel.refusal) c.reportRefusal
  | sent {p : Packet} (hp : o.phase = .sending p) (hf : c.transport.isFull = false)
    (hr : c.transport.isRefused = false) :
    Moves stop idle o c { o with phase := .ready, stats := o.stats.record p }
      (c.push .outbound p).markSent

/-- A packet is cut to nothing only if it is empty. -/
theorem cut_eq_nil (p : Packet) : p.cut Packet.greatestSize = [] ↔ p = [] := by
  simp [Packet.cut, Packet.greatestSize]

theorem Channel.send_cases (c : Channel) (origin : Origin) (p : Packet) :
    (c.transport.isFull = true ∧ c.send origin p = (.pending, c)) ∨
    (c.transport.isFull = false ∧ c.transport.isRefused = true ∧
      c.send origin p = (.refused, c.reportRefusal)) ∨
    (c.transport.isFull = false ∧ c.transport.isRefused = false ∧
      c.send origin p = (.sent, c.push origin p)) := by
  unfold send
  split
  · rename_i hf; exact .inl ⟨hf, rfl⟩
  · rename_i hf
    split
    · rename_i hr; exact .inr (.inl ⟨by simpa using hf, hr, rfl⟩)
    · rename_i hr; exact .inr (.inr ⟨by simpa using hf, by simpa using hr, rfl⟩)

theorem Outbound.moves_of_step {stop : Bool} {idle : Nat} {o o' : Outbound} {c c' : Channel}
    (h : o.step stop idle c = some (o', c')) : o.Moves stop idle c o' c' := by
  unfold step at h
  split at h
  · cases h
  · rename_i hp
    split at h
    · rename_i hs; cases h; exact .stopped hs (.inl hp)
    · rename_i hs
      simp only [Bool.not_eq_true] at hs
      unfold Channel.read at h
      split at h
      · rename_i hr
        split at hr
        · rename_i hf; cases hr; cases h; exact .readFailed hs hp hf
        · cases hr
        · split at hr <;> cases hr
      · rename_i hr
        split at hr
        · cases hr
        · rename_i hf hq
          simp only [Prod.mk.injEq, Channel.ReadResult.packet.injEq] at hr
          obtain ⟨he, rfl⟩ := hr
          cases h
          rw [cut_eq_nil] at he
          subst he
          exact .tookEmpty hs hp hf hq
        · rename_i hf hq
          split at hr
          · rename_i hm; cases hr; cases h; exact .foundEmpty hs hp hf hq hm
          · cases hr
      · rename_i hne hr
        split at hr
        · cases hr
        · rename_i hf hq
          simp only [Prod.mk.injEq, Channel.ReadResult.packet.injEq] at hr
          obtain ⟨rfl, rfl⟩ := hr
          cases h
          exact .took hs hp hf hq fun e => hne ((cut_eq_nil _).2 e)
        · split at hr
          · cases hr; exact absurd rfl hne
          · cases hr
      · cases h
  · rename_i w hp
    split at h
    · rename_i hs; cases h; exact .stopped hs (.inr ⟨w, hp⟩)
    · rename_i hs
      split at h
      · rename_i hw; cases h; exact .woke (by simpa using hs) hp hw
      · cases h
  · rename_i p hp
    rcases c.send_cases .outbound p with ⟨-, e⟩ | ⟨hf, hr, e⟩ | ⟨hf, hr, e⟩ <;> rw [e] at h <;> cases h
    · exact .refused hp hf hr
    · exact .sent hp hf hr

/-- Where the outbound pump can do nothing. -/
inductive Outbound.Rests (stop : Bool) (o : Outbound) (c : Channel) : Prop
  | ended {result : Except Error PumpStats} (hp : o.phase = .ended result)
  | reading (hp : o.phase = .ready) (hs : stop = false) (hf : c.wire.failingReads = 0)
    (hq : c.wire.queue = [])
  | idling {w : Nat} (hp : o.phase = .idling w) (hs : stop = false) (hw : c.now < w)
  | sending {p : Packet} (hp : o.phase = .sending p) (hf : c.transport.isFull = true)

theorem Outbound.rests_of_step {stop : Bool} {idle : Nat} {o : Outbound} {c : Channel}
    (h : o.step stop idle c = none) : o.Rests stop c := by
  unfold step at h
  split at h
  · rename_i hp; exact .ended hp
  · rename_i hp
    split at h
    · cases h
    · rename_i hs
      simp only [Bool.not_eq_true] at hs
      unfold Channel.read at h
      cases hf : c.wire.failingReads with
      | succ n => rw [hf] at h; cases h
      | zero =>
        cases hq : c.wire.queue with
        | nil => exact .reading hp hs hf hq
        | cons p ps =>
          rw [hf, hq] at h
          dsimp only at h
          split at h
          · cases h
          · cases h
          · cases h
          · rename_i e; cases e
  · rename_i w hp
    split at h
    · cases h
    · rename_i hs
      split at h
      · cases h
      · rename_i hw; exact .idling hp (by simpa using hs) (by omega)
  · rename_i p hp
    rcases c.send_cases .outbound p with ⟨hf, -⟩ | ⟨-, -, e⟩ | ⟨-, -, e⟩
    · exact .sending hp hf
    · rw [e] at h; cases h
    · rw [e] at h; cases h

/-! ## The inbound pump -/

/-- The steps of the inbound pump. -/
inductive Inbound.Moves (stop : Bool) (config : InboundConfig) (i : Inbound) (c : Channel) :
    Inbound → Channel → Prop
  | stopped (hp : i.phase = .waiting) (hs : stop = true) : Moves stop config i c i.finish c
  | silent (hp : i.phase = .waiting) (hs : stop = false)
    (ht : i.lastReceived + config.receiveTimeout ≤ c.now) :
    Moves stop config i c (i.fail (.serverGone config.receiveTimeout)) c
  | refused (hp : i.phase = .waiting) (hs : stop = false)
    (ht : c.now < i.lastReceived + config.receiveTimeout) (hr : c.transport.isRefused = true) :
    Moves stop config i c (i.fail Channel.refusal) c.reportRefusal
  | received {p : Packet} {ps : List Packet} (hp : i.phase = .waiting) (hs : stop = false)
    (ht : c.now < i.lastReceived + config.receiveTimeout) (hr : c.transport.isRefused = false)
    (hq : c.transport.inbox = p :: ps) :
    Moves stop config i c (i.accept (p.take Packet.greatestSize) c.now)
      { c with transport := { c.transport with inbox := ps } }
  | due (hp : i.phase = .waiting) (hs : stop = false)
    (ht : c.now < i.lastReceived + config.receiveTimeout) (hr : c.transport.isRefused = false)
    (hq : c.transport.inbox = []) (hk : c.keepaliveDue config.keepaliveInterval = true) :
    Moves stop config i c { i with phase := .pinging } c
  | panicked {p : Packet} (hp : i.phase = .writing p) (hw : c.wire.writesPanic = true) :
    Moves stop config i c { i with phase := .panicked } c
  | writeFailed {p : Packet} {n : Nat} (hp : i.phase = .writing p) (hw : c.wire.writesPanic = false)
    (hf : c.wire.failingWrites = n + 1) :
    Moves stop config i c (i.fail Channel.writeFailure)
      { c with wire := { c.wire with failingWrites := n } }
  | written {p : Packet} (hp : i.phase = .writing p) (hw : c.wire.writesPanic = false)
    (hf : c.wire.failingWrites = 0) (hn : c.wire.isFull = false) :
    Moves stop config i c { i with phase := .waiting, stats := i.stats.record p }
      { c with delivered := c.delivered ++ [(c.now, p)] }
  | pingRefused (hp : i.phase = .pinging) (hf : c.transport.isFull = false)
    (hr : c.transport.isRefused = true) :
    Moves stop config i c (i.fail Channel.refusal) c.reportRefusal
  | pinged (hp : i.phase = .pinging) (hf : c.transport.isFull = false)
    (hr : c.transport.isRefused = false) :
    Moves stop config i c { i with phase := .waiting } (c.push .keepalive Packet.keepalive).markSent

theorem Inbound.moves_of_step {stop : Bool} {config : InboundConfig} {i i' : Inbound}
    {c c' : Channel} (h : i.step stop config c = some (i', c')) : i.Moves stop config c i' c' := by
  unfold step at h
  split at h
  · cases h
  · cases h
  · rename_i hp
    split at h
    · rename_i hs; cases h; exact .stopped hp hs
    · rename_i hs
      simp only [Bool.not_eq_true] at hs
      split at h
      · rename_i ht; cases h; exact .silent hp hs ht
      · rename_i ht
        rw [Nat.not_le] at ht
        unfold Channel.receive at h
        by_cases hr : c.transport.isRefused = true
        · rw [if_pos hr] at h; cases h; exact .refused hp hs ht hr
        · rw [if_neg hr] at h
          simp only [Bool.not_eq_true] at hr
          cases hq : c.transport.inbox with
          | nil =>
            rw [hq] at h
            dsimp only at h
            split at h
            · rename_i hk; cases h; exact .due hp hs ht hr hq hk
            · cases h
          | cons p ps => rw [hq] at h; cases h; exact .received hp hs ht hr hq
  · rename_i p hp
    unfold Channel.write at h
    by_cases hw : c.wire.writesPanic = true
    · rw [if_pos hw] at h; cases h; exact .panicked hp hw
    · rw [if_neg hw] at h
      simp only [Bool.not_eq_true] at hw
      cases hf : c.wire.failingWrites with
      | succ n => rw [hf] at h; cases h; exact .writeFailed hp hw hf
      | zero =>
        rw [hf] at h
        by_cases hn : c.wire.isFull = true
        · rw [if_pos hn] at h; cases h
        · rw [if_neg hn] at h; cases h; exact .written hp hw hf (by simpa using hn)
  · rename_i hp
    rcases c.send_cases .keepalive Packet.keepalive with ⟨-, e⟩ | ⟨hf, hr, e⟩ | ⟨hf, hr, e⟩ <;>
      rw [e] at h <;> cases h
    · exact .pingRefused hp hf hr
    · exact .pinged hp hf hr

/-- Where the inbound pump can do nothing. -/
inductive Inbound.Rests (stop : Bool) (config : InboundConfig) (i : Inbound) (c : Channel) : Prop
  | ended {result : Except Error PumpStats} (hp : i.phase = .ended result)
  | panicked (hp : i.phase = .panicked)
  | waiting (hp : i.phase = .waiting) (hs : stop = false)
    (ht : c.now < i.lastReceived + config.receiveTimeout) (hq : c.transport.inbox = [])
  | writing {p : Packet} (hp : i.phase = .writing p) (hn : c.wire.isFull = true)
  | pinging (hp : i.phase = .pinging) (hf : c.transport.isFull = true)

theorem Inbound.rests_of_step {stop : Bool} {config : InboundConfig} {i : Inbound} {c : Channel}
    (h : i.step stop config c = none) : i.Rests stop config c := by
  unfold step at h
  split at h
  · rename_i hp; exact .ended hp
  · rename_i hp; exact .panicked hp
  · rename_i hp
    split at h
    · cases h
    · rename_i hs
      simp only [Bool.not_eq_true] at hs
      split at h
      · cases h
      · rename_i ht
        unfold Channel.receive at h
        by_cases hr : c.transport.isRefused = true
        · rw [if_pos hr] at h; cases h
        · rw [if_neg hr] at h
          cases hq : c.transport.inbox with
          | nil => exact .waiting hp hs (by omega) hq
          | cons p ps => rw [hq] at h; cases h
  · rename_i p hp
    unfold Channel.write at h
    by_cases hw : c.wire.writesPanic = true
    · rw [if_pos hw] at h; cases h
    · rw [if_neg hw] at h
      cases hf : c.wire.failingWrites with
      | succ n => rw [hf] at h; cases h
      | zero =>
        rw [hf] at h
        by_cases hn : c.wire.isFull = true
        · exact .writing hp hn
        · rw [if_neg hn] at h; cases h
  · rename_i hp
    rcases c.send_cases .keepalive Packet.keepalive with ⟨hf, -⟩ | ⟨-, -, e⟩ | ⟨-, -, e⟩
    · exact .pinging hp hf
    · rw [e] at h; cases h
    · rw [e] at h; cases h

/-! ## What both pumps leave alone -/

theorem Outbound.Moves.now {stop : Bool} {idle : Nat} {o o' : Outbound} {c c' : Channel}
    (h : o.Moves stop idle c o' c') : c'.now = c.now := by
  cases h <;> rfl

theorem Outbound.Moves.mode {stop : Bool} {idle : Nat} {o o' : Outbound} {c c' : Channel}
    (h : o.Moves stop idle c o' c') : c'.wire.mode = c.wire.mode := by
  cases h <;> rfl

theorem Inbound.Moves.now {stop : Bool} {config : InboundConfig} {i i' : Inbound} {c c' : Channel}
    (h : i.Moves stop config c i' c') : c'.now = c.now := by
  cases h <;> rfl

theorem Inbound.Moves.mode {stop : Bool} {config : InboundConfig} {i i' : Inbound} {c c' : Channel}
    (h : i.Moves stop config c i' c') : c'.wire.mode = c.wire.mode := by
  cases h <;> rfl

end TunnelRelay.Relay
