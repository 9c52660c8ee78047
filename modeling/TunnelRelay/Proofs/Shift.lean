import TunnelRelay.Relay.Run
/-!
# Pumps at a later time

A pump looks at the clock only to see how much time has passed since its link started. So a pair of
pumps that starts at the end of one channel goes as it would have gone at the beginning of a new
one, with all times put off.
-/

namespace TunnelRelay.Relay

/-- A datagram that is sent a time `t` later. -/
def Sent.later (t : Nat) (d : Sent) : Sent := { d with time := t + d.time }

/-- A packet that passes a time `t` later. -/
def passLater (t : Nat) (x : Nat × Packet) : Nat × Packet := (t + x.1, x.2)

/-- What becomes of the channel `c₀` when it goes on as a new channel has gone that is now `c`. -/
def Channel.after (c c₀ : Channel) : Channel where
  now := c₀.now + c.now
  wire := c.wire
  transport := c.transport
  serverOpen := c.serverOpen
  started := c₀.now + c.started
  timing := c.timing
  sent := c₀.sent ++ c.sent.map (Sent.later c₀.now)
  delivered := c₀.delivered ++ c.delivered.map (passLater c₀.now)
  taken := c₀.taken ++ c.taken.map (passLater c₀.now)

/-- Where the outbound pump stands, a time `t` later. -/
def OutboundPhase.later (t : Nat) : OutboundPhase → OutboundPhase
  | .idling wake => .idling (t + wake)
  | p => p

/-- The outbound pump, a time `t` later. -/
def Outbound.later (t : Nat) (o : Outbound) : Outbound := { o with phase := o.phase.later t }

/-- The inbound pump, a time `t` later. -/
def Inbound.later (t : Nat) (i : Inbound) : Inbound :=
  { i with lastReceived := t + i.lastReceived }

/-! ## The channel -/

namespace Channel

section
variable (c c₀ : Channel)

theorem read_after : (c.after c₀).read = (c.read.1, c.read.2.after c₀) := by
  unfold read
  rw [show (c.after c₀).wire = c.wire from rfl]
  cases c.wire.failingReads with
  | succ n => rfl
  | zero =>
    cases c.wire.queue with
    | nil => rfl
    | cons p ps => simp [after, passLater]

theorem send_after (origin : Origin) (p : Packet) :
    (c.after c₀).send origin p = ((c.send origin p).1, (c.send origin p).2.after c₀) := by
  unfold send
  rw [show (c.after c₀).transport = c.transport from rfl]
  by_cases hf : c.transport.isFull = true
  · rw [if_pos hf, if_pos hf]
  · rw [if_neg hf, if_neg hf]
    by_cases hr : c.transport.isRefused = true
    · rw [if_pos hr, if_pos hr]
      rfl
    · rw [if_neg hr, if_neg hr]
      simp [after, Sent.later]

theorem receive_after : (c.after c₀).receive = (c.receive.1, c.receive.2.after c₀) := by
  unfold receive
  rw [show (c.after c₀).transport = c.transport from rfl]
  by_cases hr : c.transport.isRefused = true
  · rw [if_pos hr, if_pos hr]
    rfl
  · rw [if_neg hr, if_neg hr]
    cases c.transport.inbox <;> rfl

theorem write_after (p : Packet) :
    (c.after c₀).write p = ((c.write p).1, (c.write p).2.after c₀) := by
  unfold write
  rw [show (c.after c₀).wire = c.wire from rfl]
  by_cases hw : c.wire.writesPanic = true
  · rw [if_pos hw, if_pos hw]
  · rw [if_neg hw, if_neg hw]
    cases c.wire.failingWrites with
    | succ n => rfl
    | zero =>
      by_cases hf : c.wire.isFull = true
      · simp [hf]
      · simp [hf, after, passLater]

theorem elapsed_after : (c.after c₀).elapsed = c.elapsed := by
  unfold elapsed
  simp only [after]
  rw [Nat.add_sub_add_left]

theorem markSent_after : (c.after c₀).markSent = c.markSent.after c₀ := by
  unfold markSent
  rw [elapsed_after]
  rfl

theorem keepaliveDue_after (interval : Nat) :
    (c.after c₀).keepaliveDue interval = c.keepaliveDue interval := by
  unfold keepaliveDue
  rw [elapsed_after]
  rfl

theorem keepaliveAt_after (interval : Nat) :
    (c.after c₀).keepaliveAt interval = c₀.now + c.keepaliveAt interval :=
  Nat.add_assoc _ _ _

end

end Channel

/-! ## The pumps -/

section
variable (c c₀ : Channel)

theorem Outbound.result?_later (t : Nat) (o : Outbound) : (o.later t).result? = o.result? := by
  unfold result? later
  cases o.phase <;> rfl

theorem Outbound.step_after (stop : Bool) (idle : Nat) (o : Outbound) :
    (o.later c₀.now).step stop idle (c.after c₀) =
      (o.step stop idle c).map fun x => (x.1.later c₀.now, x.2.after c₀) := by
  obtain ⟨phase, stats⟩ := o
  cases phase with
  | ended result => rfl
  | ready =>
    cases stop with
    | true => rfl
    | false =>
      simp only [step, later, OutboundPhase.later, Channel.read_after]
      generalize c.read = x
      obtain ⟨read, c'⟩ := x
      cases read with
      | failed => rfl
      | packet p => cases p <;> simp [Channel.after, Nat.add_assoc]
      | pending => rfl
  | idling wake =>
    cases stop with
    | true => rfl
    | false =>
      simp only [step, later, OutboundPhase.later, Channel.after]
      by_cases hw : wake ≤ c.now
      · simp [hw]
      · simp [hw]
  | sending p =>
    simp only [step, later, OutboundPhase.later, Channel.send_after]
    generalize c.send .outbound p = x
    obtain ⟨answer, c'⟩ := x
    cases answer with
    | sent => simp [Channel.markSent_after]
    | refused => rfl
    | pending => rfl

theorem Outbound.timer?_later (t : Nat) (o : Outbound) :
    (o.later t).timer? = o.timer?.map (t + ·) := by
  unfold timer? later
  cases o.phase <;> rfl

theorem Inbound.step_after (stop : Bool) (config : InboundConfig) (i : Inbound) :
    (i.later c₀.now).step stop config (c.after c₀) =
      (i.step stop config c).map fun x => (x.1.later c₀.now, x.2.after c₀) := by
  obtain ⟨phase, stats, last⟩ := i
  cases phase with
  | ended result => rfl
  | panicked => rfl
  | waiting =>
    cases stop with
    | true => rfl
    | false =>
      have hnow : (c.after c₀).now = c₀.now + c.now := rfl
      simp only [step, later, Channel.receive_after, hnow, Nat.add_assoc, Nat.add_le_add_iff_left,
        if_neg Bool.false_ne_true]
      by_cases ht : last + config.receiveTimeout ≤ c.now
      · rw [if_pos ht, if_pos ht]
        rfl
      · rw [if_neg ht, if_neg ht]
        generalize c.receive = x
        obtain ⟨answer, c'⟩ := x
        cases answer with
        | refused => rfl
        | datagram p => rfl
        | pending =>
          dsimp only
          rw [Channel.keepaliveDue_after]
          split <;> rfl
  | writing p =>
    simp only [step, later, Channel.write_after]
    generalize c.write p = x
    obtain ⟨answer, c'⟩ := x
    cases answer <;> rfl
  | pinging =>
    simp only [step, later, Channel.send_after]
    generalize c.send .keepalive Packet.keepalive = x
    obtain ⟨answer, c'⟩ := x
    cases answer with
    | sent => simp [Channel.markSent_after]
    | refused => rfl
    | pending => rfl

theorem Inbound.timer?_after (config : InboundConfig) (i : Inbound) :
    (i.later c₀.now).timer? config (c.after c₀) = (i.timer? config c).map (c₀.now + ·) := by
  unfold timer? later
  cases i.phase with
  | waiting =>
    simp only [Channel.keepaliveAt_after, Option.map_some]
    rw [Nat.add_assoc, ← Nat.add_min_add_left]
  | _ => rfl

end

end TunnelRelay.Relay
