import TunnelRelay.Proofs.Schedule
/-!
# Passes of the inbound pump's loop

The pump's loop waits for a deadline that it has computed at the start of a pass (`Inbound.pass`).
The other direction may put the deadline off meanwhile; then the pump looks again when it wakes,
finds that nothing is due and starts the next pass. No deadline is ever put forward, so what the
passes do is what a pump does that always knows the present deadline: their runs are runs of the
connection (`Passes.leads`).
-/

namespace TunnelRelay.Relay

section
variable {stop : Bool} {config : InboundConfig} {i i' : Inbound} {c c' : Channel}

/-! ## Deadlines that are put off -/

/-- The remembered time of the last send is not in the future. -/
def Channel.IsPast (c : Channel) : Prop := c.started + c.timing.lastSendMillis ≤ c.now

/-- A send is remembered as one that is not in the future, and puts the deadline off. -/
theorem Channel.IsPast.markSent (h : c.IsPast) :
    c.markSent.IsPast ∧ ∀ k, c.keepaliveAt k ≤ c.markSent.keepaliveAt k := by
  have hle : c.started ≤ c.now := (Nat.le_add_right _ _).trans h
  have hnow := c.markSent_timing hle
  refine ⟨Nat.le_of_eq hnow, fun k => ?_⟩
  rw [Channel.keepaliveAt_eq, Channel.keepaliveAt_eq]
  unfold Channel.IsPast at h
  show c.started + _ ≤ c.started + _
  omega

theorem Outbound.Moves.isPast {idle : Nat} {o o' : Outbound} (hm : o.Moves stop idle c o' c')
    (h : c.IsPast) : c'.IsPast ∧ ∀ k, c.keepaliveAt k ≤ c'.keepaliveAt k := by
  cases hm with
  | @sent p => exact Channel.IsPast.markSent (c := c.push .outbound p) h
  | _ => exact ⟨h, fun _ => Nat.le_refl _⟩

theorem Inbound.Moves.isPast (hm : i.Moves stop config c i' c') (h : c.IsPast) :
    c'.IsPast ∧ ∀ k, c.keepaliveAt k ≤ c'.keepaliveAt k := by
  cases hm with
  | pinged => exact Channel.IsPast.markSent (c := c.push .keepalive Packet.keepalive) h
  | _ => exact ⟨h, fun _ => Nat.le_refl _⟩

/-- Where a pass goes on waiting, the pump has nothing to do, because a deadline is only put off. -/
theorem Inbound.step_of_pass_eq_none {d : Nat} (h : i.pass stop config d c = none)
    (hc : c.IsPast) (hd : d ≤ c.keepaliveAt config.keepaliveInterval) :
    i.step stop config c = none := by
  unfold Inbound.pass at h
  split at h
  · rename_i hp
    unfold Inbound.step
    rw [hp]
    dsimp only
    split at h
    · cases h
    rename_i hs
    split at h
    · cases h
    rename_i ht
    rw [if_neg hs, if_neg ht]
    generalize hr : c.receive = x at h ⊢
    obtain ⟨answer, c₁⟩ := x
    cases answer with
    | refused => cases h
    | datagram p => cases h
    | pending =>
      dsimp only at h ⊢
      cases Channel.receive_pending hr
      split at h
      · rename_i hlt
        refine if_neg fun hk => ?_
        rw [Channel.keepaliveDue_iff] at hk
        rw [Channel.keepaliveAt_eq] at hd
        unfold Channel.IsPast at hc
        omega
      · split at h <;> cases h
  · exact Option.map_eq_none_iff.1 h

end

namespace Run

section
variable {r r₁ : Run}

/-! ## Passes in a run -/

/-- The steps of an attempt in which each pass of the inbound pump's loop waits for the deadline
that the pass has begun with, and the clock moves only where `P` holds. `d` is the deadline of the
present pass. -/
inductive Passes (P : Run → Prop) (r₁ : Run) : List Event → Run → Nat → Prop
  | start : Passes P r₁ [] r₁ (r₁.channel.keepaliveAt r₁.config.keepaliveInterval.toNat)
  | event {es : List Event} {r : Run} {d : Nat} (h : Passes P r₁ es r d) (e : Event) :
    Passes P r₁ (es ++ [e]) (r.happen e) d
  | outbound {es : List Event} {r r' : Run} {d : Nat} {a : Attempt} (h : Passes P r₁ es r d)
    (hp : r.phase = .pumping a) (ho : r.outboundStep a = some r') : Passes P r₁ es r' d
  | inbound {es : List Event} {r r' : Run} {d d' : Nat} {a : Attempt} (h : Passes P r₁ es r d)
    (hp : r.phase = .pumping a) (hi : r.inboundPass a d = some (r', d')) : Passes P r₁ es r' d'
  | clock {es : List Event} {r : Run} {d t : Nat} {a : Attempt} (h : Passes P r₁ es r d) (hP : P r)
    (hp : r.phase = .pumping a) (ho : r.outboundStep a = none) (hi : r.inboundPass a d = none)
    (hj : r.join a = none) (hle : r.now ≤ t) (hw : ∀ w, a.outbound.timer? = some w → t ≤ w)
    (hd : a.inbound.phase = .waiting →
      t ≤ a.inbound.lastReceived + r.config.receiveTimeout.toNat ∧ t ≤ d) :
    Passes P r₁ es (r.moveClock t) d

/-- The runs in which the pump waits for deadlines that may be out of date are runs of the
connection, and no deadline that it waits for is later than the present one. -/
theorem Passes.leads {P : Run → Prop} {es : List Event} {d : Nat} (h : r₁.Passes P es r d)
    (h₁ : r₁.channel.IsPast) : r₁.LeadsWhile P es r ∧ r.channel.IsPast ∧
      d ≤ r.channel.keepaliveAt r.config.keepaliveInterval.toNat := by
  induction h with
  | start => exact ⟨.start, h₁, Nat.le_refl _⟩
  | @event es r d _ e ih =>
    obtain ⟨hl, hpast, hd⟩ := ih
    obtain ⟨hstart, htime⟩ := happen_timing r e
    have hnow : (r.happen e).channel.now = r.channel.now := r.happen_now e
    refine ⟨hl.event e, ?_, ?_⟩
    · unfold Channel.IsPast at hpast ⊢
      rw [hstart, htime, hnow]
      exact hpast
    · rw [happen_config, Channel.keepaliveAt, hstart, htime]
      exact hd
  | @outbound es r r' d a _ hp ho ih =>
    obtain ⟨hl, hpast, hd⟩ := ih
    refine ⟨hl.does (.outbound hp ho), ?_⟩
    unfold outboundStep at ho
    split at ho
    · cases ho
    · rename_i hm
      cases ho
      obtain ⟨hpast', hle⟩ := (Outbound.moves_of_step hm).isPast hpast
      exact ⟨hpast', hd.trans (hle _)⟩
  | @inbound es r r' d d' a _ hp hi ih =>
    obtain ⟨hl, hpast, hd⟩ := ih
    rcases inboundPass_cases hp hi with ⟨hdoes, hd'⟩ | ⟨rfl, rfl, -⟩
    · have hl' : r₁.LeadsWhile P es r' := hl.does (.inbound hp hdoes)
      unfold inboundStep at hdoes
      split at hdoes
      · cases hdoes
      · rename_i hm
        cases hdoes
        obtain ⟨hpast', hle⟩ := (Inbound.moves_of_step hm).isPast hpast
        refine ⟨hl', hpast', ?_⟩
        rcases hd' with rfl | rfl
        · exact hd.trans (hle _)
        · exact Nat.le_refl _
    · -- the next pass begins, with nothing else changed
      exact ⟨hl, hpast, Nat.le_refl _⟩
  | @clock es r d t a _ hP hp ho hi hj hle hw hdt ih =>
    obtain ⟨hl, hpast, hd⟩ := ih
    have hpass := Option.map_eq_none_iff.1 hi
    have hin : r.inboundStep a = none :=
      inboundStep_eq_none_iff.2 (Inbound.step_of_pass_eq_none hpass hpast hd)
    refine ⟨hl.clock hP ((step_eq_none_iff hp).2 ⟨ho, hin, hj⟩) hle ?_, Nat.le_trans hpast hle, hd⟩
    -- the timer of the connection is no earlier than the deadlines of the pass
    have hwait : ∀ w, a.inbound.timer? r.inboundConfig r.channel = some w → t ≤ w := by
      intro w ht
      unfold Inbound.timer? at ht
      split at ht
      · rename_i hph
        cases ht
        exact Nat.le_min.2 ⟨(hdt hph).1, (hdt hph).2.trans hd⟩
      · cases ht
    intro w ht
    rcases timer?_cases hp ht with ho' | hi'
    · exact hw w ho'
    · exact hwait w hi'

end

end Run

end TunnelRelay.Relay
