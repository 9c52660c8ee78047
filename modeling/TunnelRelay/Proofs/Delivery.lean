import TunnelRelay.Proofs.Changes
/-!
# What comes in from the server

`Inbound.Conveyed` relates what an inbound pump has received to what it has written to the
interface: the packets are the datagrams that are no control messages, cut to the buffer, except
that the last one may still be on its way or may have ended the pump. What the pump has received
and what waits in the socket are together what has arrived, so nothing is lost, repeated or put
out of order between the two. Each step of either pump keeps this, and so do all events.
-/

namespace TunnelRelay.Relay

open Net

/-! ## What a pump has conveyed -/

/-- The packets that datagrams become: control messages are left out, the others are cut. -/
def conveyed (ds : List Packet) : List Packet :=
  (ds.filter fun d => !d.isControl).map (List.take Packet.greatestSize)

theorem conveyed_append (ds es : List Packet) : conveyed (ds ++ es) = conveyed ds ++ conveyed es := by
  simp [conveyed]

theorem conveyed_concat (ds : List Packet) {d : Packet} (h : d.isControl = false) :
    conveyed (ds ++ [d]) = conveyed ds ++ [d.take Packet.greatestSize] := by
  rw [conveyed_append]
  simp [conveyed, h]

theorem conveyed_concat_control (ds : List Packet) {d : Packet} (h : d.isControl = true) :
    conveyed (ds ++ [d]) = conveyed ds := by
  rw [conveyed_append]
  simp [conveyed, h]

/-- What is left of a datagram tells whether it is a control message. -/
theorem isControl_take (d : Packet) : Packet.isControl (d.take Packet.greatestSize) = d.isControl := by
  cases d with
  | nil => rfl
  | cons b d => rfl

/-- The packets that were written to the interface. -/
def Channel.packetsWritten (c : Channel) : List Packet := c.delivered.map Prod.snd

/-- What a pump has received, `ds`, and what it has written, `ps`. A packet in a write was received
last, and only a write that fails or panics loses it, which ends the pump. -/
def Inbound.Conveyed (i : Inbound) (ds ps : List Packet) : Prop :=
  match i.phase with
  | .writing p => ∃ (es : List Packet) (d : Packet),
    ds = es ++ [d] ∧ d.isControl = false ∧ p = d.take Packet.greatestSize ∧ ps = conveyed es
  | .panicked => ∃ es d, ds = es ++ [d] ∧ d.isControl = false ∧ ps = conveyed es
  | .ended (.error e) => e ≠ Channel.writeFailure ∧ ps = conveyed ds ∨
    e = Channel.writeFailure ∧ ∃ es d, ds = es ++ [d] ∧ d.isControl = false ∧ ps = conveyed es
  | _ => ps = conveyed ds

section
variable {stop : Bool} {i i' : Inbound} {c c' : Channel}

/-- What the pump does with a datagram. -/
theorem Inbound.conveyed_accept {ds : List Packet} (d : Packet) (now : Nat) :
    (i.accept (d.take Packet.greatestSize) now).Conveyed (ds ++ [d]) (conveyed ds) := by
  unfold Inbound.accept Inbound.Conveyed
  rw [isControl_take]
  by_cases hd : d.isControl = true
  · rw [if_pos hd]
    exact (conveyed_concat_control ds hd).symm
  · rw [if_neg hd]
    exact ⟨ds, d, rfl, by simpa using hd, rfl, rfl⟩

/-- One step of the pump: it receives a datagram, or writes the one that it has received, or
neither. `as` is what has arrived, and `qs` is what had been written before the pump. -/
theorem Inbound.Moves.conveyed {config : InboundConfig} (h : i.Moves stop config c i' c')
    {as qs ds ps : List Packet} (ha : as = ds ++ c.transport.inbox)
    (hw : c.packetsWritten = qs ++ ps) (hc : i.Conveyed ds ps) : ∃ ds' ps',
      as = ds' ++ c'.transport.inbox ∧ c'.packetsWritten = qs ++ ps' ∧ i'.Conveyed ds' ps' := by
  unfold Inbound.Conveyed at hc
  cases h with
  | stopped hp _ => rw [hp] at hc; exact ⟨ds, ps, ha, hw, hc⟩
  | silent hp _ _ => rw [hp] at hc; exact ⟨ds, ps, ha, hw, .inl ⟨nofun, hc⟩⟩
  | refused hp _ _ _ => rw [hp] at hc; exact ⟨ds, ps, ha, hw, .inl ⟨nofun, hc⟩⟩
  | @received d rest hp _ _ _ hq =>
    rw [hp] at hc
    refine ⟨ds ++ [d], ps, ?_, hw, ?_⟩
    · rw [ha, hq]
      simp
    · rw [show ps = Relay.conveyed ds from hc]
      exact conveyed_accept d c.now
  | due hp _ _ _ _ _ => rw [hp] at hc; exact ⟨ds, ps, ha, hw, hc⟩
  | panicked hp _ =>
    rw [hp] at hc
    obtain ⟨es, d, rfl, hd, -, hps⟩ := hc
    exact ⟨_, ps, ha, hw, es, d, rfl, hd, hps⟩
  | writeFailed hp _ _ =>
    rw [hp] at hc
    obtain ⟨es, d, rfl, hd, -, hps⟩ := hc
    exact ⟨_, ps, ha, hw, .inr ⟨rfl, es, d, rfl, hd, hps⟩⟩
  | @written p hp _ _ _ =>
    rw [hp] at hc
    obtain ⟨es, d, rfl, hd, rfl, rfl⟩ := hc
    refine ⟨_, Relay.conveyed (es ++ [d]), ha, ?_, rfl⟩
    rw [conveyed_concat es hd, ← List.append_assoc, ← hw]
    simp [Channel.packetsWritten]
  | pingRefused hp _ _ => rw [hp] at hc; exact ⟨ds, ps, ha, hw, .inl ⟨nofun, hc⟩⟩
  | pinged hp _ _ => rw [hp] at hc; exact ⟨ds, ps, ha, hw, hc⟩

/-- The outbound pump neither receives a datagram nor writes to the interface. -/
theorem Outbound.Moves.inbound_eq {idle : Nat} {o o' : Outbound} (h : o.Moves stop idle c o' c') :
    c'.transport.inbox = c.transport.inbox ∧ c'.packetsWritten = c.packetsWritten := by
  cases h <;> exact ⟨rfl, rfl⟩

/-- Only the end of a write delivers a packet. -/
theorem Inbound.Moves.packetsWritten {config : InboundConfig} (h : i.Moves stop config c i' c') :
    c'.packetsWritten = c.packetsWritten ∨
      ∃ p, i.phase = .writing p ∧ c'.packetsWritten = c.packetsWritten ++ [p] := by
  cases h with
  | @written p hp => exact .inr ⟨p, hp, by simp [Channel.packetsWritten]⟩
  | _ => exact .inl rfl

end

/-! ## What arrives -/

/-- The datagram that an event sends from the server. -/
def Event.datagram? : Event → Option Packet
  | .serverSend d => some d
  | _ => none

/-- Whether an event leaves the server's port as it is. -/
def Event.keepsServer : Event → Bool
  | .serverClose => false
  | _ => true

/-- The datagrams that reach the socket of an attempt while these events happen: all that the
server sends, until its port closes. -/
def arrivals (serverOpen : Bool) (es : List Event) : List Packet :=
  if serverOpen then (es.takeWhile Event.keepsServer).filterMap Event.datagram? else []

theorem arrivals_concat (serverOpen : Bool) (es : List Event) (e : Event) :
    arrivals serverOpen (es ++ [e]) =
      arrivals serverOpen es ++ arrivals (serverOpen && es.all Event.keepsServer) [e] := by
  cases serverOpen with
  | false => rfl
  | true =>
    induction es with
    | nil => simp [arrivals]
    | cons e' es ih =>
      simp only [arrivals, if_true, Bool.true_and] at ih ⊢
      by_cases he : e'.keepsServer = true
      · rw [List.cons_append, List.takeWhile_cons_of_pos he, List.takeWhile_cons_of_pos he,
          List.all_cons, he, Bool.true_and, List.filterMap_cons, List.filterMap_cons, ih]
        cases e'.datagram? <;> rfl
      · rw [List.cons_append, List.takeWhile_cons_of_neg he, List.takeWhile_cons_of_neg he]
        simp [he]

/-- One event brings at most one datagram. -/
theorem arrivals_singleton (serverOpen : Bool) (e : Event) :
    arrivals serverOpen [e] = if serverOpen then e.datagram?.toList else [] := by
  cases serverOpen with
  | false => rfl
  | true => cases e <;> rfl

namespace Run

section
variable {r r' r'' : Run}

/-- No step closes or opens the server's port. -/
theorem Change.serverOpen (hc : r.Change r') : r'.channel.serverOpen = r.channel.serverOpen := by
  cases hc with
  | resolved | unresolved | stopped | begins | connects | wakes => rfl
  | fails => rw [afterAttempt_channel]; rfl
  | outbound _ hm => cases hm <;> rfl
  | inbound _ hm => cases hm <;> rfl
  | loses => rw [afterAttempt_channel, afterClose]; dsimp only; split <;> rfl

theorem happen_serverOpen (r : Run) (e : Event) :
    (r.happen e).channel.serverOpen = (r.channel.serverOpen && e.keepsServer) := by
  cases e with
  | serverClose => simp [happen, Event.keepsServer]
  | stop =>
    simp only [happen, requestStop]
    split <;> simp [Event.keepsServer]
  | serverSend d =>
    simp only [happen]
    split <;> simp [Event.keepsServer, modifyTransport]
  | run =>
    simp only [happen]
    rcases r.start_snd with h | ⟨-, h⟩ <;> rw [h] <;> simp [Event.keepsServer]
  | _ => simp [happen, modifyWire, modifyTransport, Event.keepsServer]

/-- The server's port is open until it closes. -/
theorem Leads.serverOpen {es : List Event} (h : r.Leads es r') :
    r'.channel.serverOpen = (r.channel.serverOpen && es.all Event.keepsServer) := by
  induction h with
  | start => simp
  | event _ e ih => rw [happen_serverOpen, ih, List.all_append, Bool.and_assoc]; simp
  | does _ hd ih => rw [hd.change.serverOpen, ih]
  | clock _ _ _ _ ih => exact ih

/-- What an event adds to the socket of a running attempt. -/
theorem happen_inbox {a : Attempt} (hp : r.phase = .pumping a) (e : Event) :
    (r.happen e).channel.transport.inbox =
      r.channel.transport.inbox ++ arrivals r.channel.serverOpen [e] := by
  rw [arrivals_singleton]
  cases e with
  | serverSend d =>
    simp only [happen, isPumping, hp, Bool.true_and]
    cases r.channel.serverOpen <;> simp [modifyTransport, Event.datagram?]
  | stop =>
    simp only [happen, requestStop]
    split <;> simp [Event.datagram?]
  | run =>
    simp only [happen]
    rcases r.start_snd with h | ⟨-, h⟩ <;> rw [h] <;> simp [Event.datagram?]
  | _ => simp [happen, modifyWire, modifyTransport, Event.datagram?]

/-! ## One attempt -/

/-- Each attempt starts with a socket that has received nothing and a pump that has done nothing. -/
theorem Change.inbound_fresh (hc : r.Change r') (hp : ∀ a, r.phase ≠ .pumping a) {a : Attempt}
    (hp' : r'.phase = .pumping a) :
    a.inbound = { lastReceived := r'.now } ∧ r'.channel.transport.inbox = [] := by
  cases hc with
  | resolved | unresolved | stopped | begins | wakes => cases hp'
  | connects => cases hp'; exact ⟨rfl, rfl⟩
  | fails | loses => exact absurd hp' (afterAttempt_ne_pumping _ _ _ _)
  | @outbound a _ _ hph | @inbound a _ _ hph => exact absurd hph (hp a)

/-- Only the end of a write, in an attempt whose pumps run, delivers a packet. -/
theorem Change.packetsWritten (hc : r.Change r') :
    r'.channel.packetsWritten = r.channel.packetsWritten ∨ ∃ a a' p, r.phase = .pumping a ∧
      r'.phase = .pumping a' ∧ a.inbound.phase = .writing p ∧
      r'.channel.packetsWritten = r.channel.packetsWritten ++ [p] := by
  cases hc with
  | resolved | unresolved | stopped | begins | connects | wakes => exact .inl rfl
  | fails => left; rw [afterAttempt_channel]; rfl
  | outbound _ hm => exact .inl hm.inbound_eq.2
  | @inbound a i c hp hm =>
    rcases hm.packetsWritten with h | ⟨p, hph, h⟩
    · exact .inl h
    · exact .inr ⟨a, _, p, hp, rfl, hph, h⟩
  | loses => left; rw [afterAttempt_channel, afterClose]; dsimp only; split <;> rfl

/-- What the pump of the attempt that runs in `r₁` has conveyed since then, as long as that attempt
runs. `as` is what has arrived since then. -/
def ConveyedSince (r₁ : Run) (as : List Packet) : Run → Prop :=
  Within r₁.established fun _ i c => ∃ ds ps, as = ds ++ c.transport.inbox ∧
    c.packetsWritten = r₁.channel.packetsWritten ++ ps ∧ i.Conveyed ds ps

theorem ConveyedSince.change {r₁ : Run} {as : List Packet} (h : ConveyedSince r₁ as r)
    (hc : r.Change r') : ConveyedSince r₁ as r' := by
  refine Within.change h hc ?_ ?_
  · rintro a o c hm ⟨ds, ps, ha, hw, hcon⟩
    exact ⟨ds, ps, by rw [hm.inbound_eq.1]; exact ha, hm.inbound_eq.2.trans hw, hcon⟩
  · rintro a i c hm ⟨ds, ps, ha, hw, hcon⟩
    exact hm.conveyed ha hw hcon

theorem ConveyedSince.happen {r₁ : Run} {as : List Packet} (h : ConveyedSince r₁ as r) (e : Event) :
    ConveyedSince r₁ (as ++ arrivals r.channel.serverOpen [e]) (r.happen e) := by
  refine Within.happen h e ?_
  rintro a hp ⟨ds, ps, ha, hw, hcon⟩
  refine ⟨ds, ps, ?_, ?_, hcon⟩
  · rw [happen_inbox hp, ha, List.append_assoc]
  · unfold Channel.packetsWritten at hw ⊢
    rw [happen_delivered]
    exact hw

/-- In each attempt the inbound pump writes what it receives. -/
theorem Leads.conveyed {es : List Event} (h : r.Leads es r') {a : Attempt}
    (hp : r.phase = .pumping a) (hi : a.inbound.phase = .waiting)
    (hq : r.channel.transport.inbox = []) :
    ConveyedSince r (arrivals r.channel.serverOpen es) r' := by
  induction h with
  | start =>
    refine ⟨Nat.le_refl _, fun a' hp' _ => ⟨[], [], ?_, by simp, ?_⟩⟩
    · rw [hq]
      simp [arrivals]
    · rw [hp] at hp'
      cases hp'
      unfold Inbound.Conveyed
      rw [hi]
      rfl
  | event hl e ih =>
    rw [arrivals_concat, ← hl.serverOpen]
    exact ih.happen e
  | does _ hd ih => exact ih.change hd.change
  | clock _ _ _ _ ih => exact ih

/-- Time passes in an attempt only where no datagram waits, unless the pump itself waits in a write
or in a send. -/
theorem inbox_of_step {a : Attempt} (hp : r.phase = .pumping a) (h : r.step = none)
    (hi : a.inbound.result? = none) :
    (a.inbound.phase = .waiting ∧ r.channel.transport.inbox = []) ∨
    (∃ p, a.inbound.phase = .writing p ∧ r.channel.wire.isFull = true) ∨
    (a.inbound.phase = .pinging ∧ r.channel.transport.isFull = true) := by
  obtain ⟨-, hrest, -⟩ := rests_of_step hp h
  unfold Inbound.result? at hi
  cases hrest with
  | ended he => rw [he] at hi; cases hi
  | panicked he => rw [he] at hi; cases hi
  | waiting hw _ _ hq => exact .inl ⟨hw, hq⟩
  | writing hw hn => exact .inr (.inl ⟨_, hw, hn⟩)
  | pinging hw hf => exact .inr (.inr ⟨hw, hf⟩)

end

/-! ## The law of delivery -/

/-- In each attempt, however it goes, the inbound pump writes what it receives, one packet for each
datagram that is no control message, and at most the last one is lost, to a write that fails or
panics; what it has not received yet waits in the socket. Nothing else delivers anything, and no
time passes while a datagram waits for the pump. -/
theorem delivery_lawful (r : Run) :
    (∀ r₁ a₁, r.Does r₁ → (∀ a, r.phase ≠ .pumping a) → r₁.phase = .pumping a₁ →
      ∀ es r' a', r₁.Leads es r' → r'.phase = .pumping a' → r'.established = r₁.established →
        ∃ ds ps, arrivals r₁.channel.serverOpen es = ds ++ r'.channel.transport.inbox ∧
          r'.channel.packetsWritten = r₁.channel.packetsWritten ++ ps ∧
          a'.inbound.Conveyed ds ps) ∧
    (∀ r', r.Does r' → r'.channel.packetsWritten = r.channel.packetsWritten ∨
      ∃ a a' p, r.phase = .pumping a ∧ r'.phase = .pumping a' ∧ a.inbound.phase = .writing p ∧
        r'.channel.packetsWritten = r.channel.packetsWritten ++ [p]) ∧
    (∀ e, (r.happen e).channel.packetsWritten = r.channel.packetsWritten) ∧
    (∀ a, r.phase = .pumping a → r.step = none → a.inbound.result? = none →
      (a.inbound.phase = .waiting ∧ r.channel.transport.inbox = []) ∨
      (∃ p, a.inbound.phase = .writing p ∧ r.channel.wire.isFull = true) ∨
      (a.inbound.phase = .pinging ∧ r.channel.transport.isFull = true)) := by
  refine ⟨?_, ?_, ?_, ?_⟩
  · -- within an attempt
    intro r₁ a₁ hd hp hp₁ es r' a' hl hp' he
    obtain ⟨hi, hq⟩ := hd.change.inbound_fresh hp hp₁
    exact (hl.conveyed hp₁ (by rw [hi]) hq).2 a' hp' he
  · intro r' hd
    exact hd.change.packetsWritten
  · intro e
    rw [Channel.packetsWritten, happen_delivered, Channel.packetsWritten]
  · intro a hp h hi
    exact inbox_of_step hp h hi

/-- The small run where its first attempt is about to be made. -/
def trialAttempting : Run := (trial.happen .run).settleWithin 2

/-- The small run where its first attempt starts its pumps. -/
def trialOpened : Run := trialAttempting.openAttempt (.v4 ⟨127, 0, 0, 1⟩) 0

/-- The small run after a delivery, a control message and a write that fails. -/
def trialReceiving : Run :=
  ([.writeError, .serverSend [0, 7], .serverSend [96], .strangerSend [8], .serverSend [71]].foldl
    happen ((trialOpened.happen (.serverSend [69, 1])).settleWithin 2)).settleWithin 3

/-- In the small run the second packet is lost to a failing write, and the third one is never
received. -/
theorem trialReceiving_delivery : ∃ a, trialReceiving.phase = .pumping a ∧
    a.inbound.phase = .ended (.error Channel.writeFailure) ∧
    ∃ ds ps, [[69, 1], [0, 7], [96], [71]] = ds ++ [[71]] ∧
      trialReceiving.channel.packetsWritten = ps ∧ ps = [[69, 1]] ∧ a.inbound.Conveyed ds ps := by
  have hp : trialAttempting.phase = .attempting (.v4 ⟨127, 0, 0, 1⟩) 0 := rfl
  have hl : trialOpened.Leads [.serverSend [69, 1], .writeError, .serverSend [0, 7],
      .serverSend [96], .strangerSend [8], .serverSend [71]] trialReceiving :=
    ((((((Leads.start.event (.serverSend [69, 1])).settleWithin 2).event .writeError).event
      (.serverSend [0, 7])).event (.serverSend [96])).event (.strangerSend [8])).event
      (.serverSend [71]) |>.settleWithin 3
  obtain ⟨hone, -⟩ := delivery_lawful trialAttempting
  obtain ⟨ds, ps, ha, hw, hc⟩ := hone trialOpened _ (.openAttempt hp)
    (fun a => by rw [hp]; exact Phase.noConfusion) rfl _ _ _ hl rfl rfl
  exact ⟨_, rfl, rfl, ds, ps, ha, hw, hw.symm, hc⟩

end Run

end TunnelRelay.Relay
