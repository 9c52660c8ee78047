import TunnelRelay.Proofs.Passes
/-!
# When keepalives are sent

The schedule of an attempt says when its keepalives are sent, whatever the order of the steps. In
the executed order a keepalive is moreover the last thing that happens in its instant (`Poised`), so
the pump does not end in an instant in which it has sent one.
-/

namespace TunnelRelay.Relay

section
variable {stop : Bool} {config : InboundConfig} {i : Inbound} {c c' : Channel}

/-- The outbound pump sends datagrams of its own. -/
theorem Outbound.Moves.sent_cases {idle : Nat} {o o' : Outbound} (hm : o.Moves stop idle c o' c') :
    c'.sent = c.sent ∨ ∃ d : Sent, d.origin = .outbound ∧ c'.sent = c.sent ++ [d] := by
  cases hm with
  | sent => exact .inr ⟨_, rfl, rfl⟩
  | _ => exact .inl rfl

/-- A pump that waits has nothing to do if nothing is there and no keepalive is due. -/
theorem Inbound.step_of_idle (hp : i.phase = .waiting)
    (ht : c.now < i.lastReceived + config.receiveTimeout) (hr : c.transport.isRefused = false)
    (hq : c.transport.inbox = []) (hk : c.keepaliveDue config.keepaliveInterval = false) :
    i.step false config c = none := by
  have hrecv : c.receive = (.pending, c) := by
    unfold Channel.receive
    rw [hr, hq]
    rfl
  unfold Inbound.step
  rw [hp]
  dsimp only
  rw [if_neg Bool.false_ne_true, if_neg (Nat.not_le.2 ht), hrecv]
  dsimp only
  rw [hk]
  exact if_neg Bool.false_ne_true

/-- What a read gives is up to the interface. -/
theorem Channel.read_fst (h : c'.wire = c.wire) : c'.read.1 = c.read.1 := by
  unfold Channel.read
  rw [h]
  split <;> rfl

/-- A keepalive gives the outbound pump nothing to do. -/
theorem Outbound.step_markSent {idle : Nat} {o : Outbound}
    (h : o.step stop idle c = none) (hf : c.transport.isFull = false) (p : Packet) :
    o.step stop idle (c.push .keepalive p).markSent = none := by
  unfold Outbound.step at h ⊢
  cases hp : o.phase with
  | ended => rfl
  | ready =>
    rw [hp] at h
    dsimp only at h ⊢
    split at h
    · cases h
    · rename_i hs
      rw [if_neg hs]
      have hpending : c.read.1 = .pending := by
        split at h
        · cases h
        · cases h
        · cases h
        · rename_i e; rw [e]
      have hwire : (c.push .keepalive p).markSent.wire = c.wire := rfl
      have hread := (Channel.read_fst hwire).trans hpending
      split
      · rename_i e; rw [e] at hread; cases hread
      · rename_i e; rw [e] at hread; cases hread
      · rename_i e; rw [e] at hread; cases hread
      · rfl
  | idling w =>
    rw [hp] at h
    dsimp only at h ⊢
    split at h
    · cases h
    · rename_i hs
      rw [if_neg hs]
      split at h
      · cases h
      · rename_i hw
        exact if_neg hw
  | sending p' =>
    rw [hp] at h
    dsimp only at h
    rcases c.send_cases .outbound p' with ⟨hf', -⟩ | ⟨-, -, e⟩ | ⟨-, -, e⟩
    · rw [hf] at hf'; cases hf'
    · rw [e] at h; cases h
    · rw [e] at h; cases h

end

namespace Run

section
variable {r r' r₁ : Run} {a : Attempt}

/-! ## The executed order -/

/-- The executed runs in which the clock moves only where `P` holds: all events of an instant
happen before the connection reacts to any of them, and its steps are made in one order. -/
inductive Plays (P : Run → Prop) (r : Run) : List Event → Run → Prop
  | start : Plays P r [] r
  | step {es : List Event} {r' r'' : Run} (h : Plays P r es r') (hs : r'.step = some r'') :
    Plays P r es r''
  | instant {es : List Event} {r' : Run} (h : Plays P r es r') (hP : P r') {t : Nat}
    (hn : r'.step = none) (hlt : r'.now < t) (ht : ∀ w, r'.timer? = some w → t ≤ w)
    (events : List Event) : Plays P r (es ++ events) (events.foldl happen (r'.moveClock t))

theorem Plays.leads {P : Run → Prop} {es : List Event} (h : r.Plays P es r') :
    r.LeadsWhile P es r' := by
  induction h with
  | start => exact .start
  | step _ hs ih => exact ih.step hs
  | instant _ hP hn hlt ht events ih =>
    exact (ih.clock hP hn (Nat.le_of_lt hlt) ht).events events

/-- Where nothing ever has to wait, all executed runs are runs in which no operation waits. -/
theorem Plays.isUnheld {P : Run → Prop} {es : List Event} (h : r.Plays P es r')
    (hf : r.channel.IsFree) (hb : ∀ e ∈ es, e.blocks = false) : r.Plays IsUnheld es r' := by
  induction h with
  | start => exact .start
  | step _ hs ih => exact (ih hb).step hs
  | instant h _ hn hlt ht events ih =>
    have hb' := (List.forall_mem_append.1 hb).1
    have hfree := h.leads.leads.isFree hf hb'
    exact (ih hb').instant (fun a _ => hfree.not_isHeld a) hn hlt ht events

theorem Plays.settleWithin {P : Run → Prop} {es : List Event} :
    ∀ (fuel : Nat) {r' : Run}, r.Plays P es r' → r.Plays P es (r'.settleWithin fuel)
  | 0, _, h => h
  | fuel + 1, r', h => by
    unfold Run.settleWithin
    split
    · exact h
    · rename_i hs; exact Plays.settleWithin fuel (h.step hs)

/-- What holds where a keepalive is about to be sent in the executed order: the outbound pump has
nothing to do, and nothing else is there for the inbound pump. -/
structure Poised (r : Run) (a : Attempt) : Prop where
  outbound : r.outboundStep a = none
  stop : (r.stop || a.stop || a.stopInbound) = false
  early : r.now < a.inbound.lastReceived + r.config.receiveTimeout.toNat
  inbox : r.channel.transport.inbox = []

/-- The executed step of an attempt whose pumps run: the outbound pump goes first. -/
theorem step_pumping_cases (hp : r.phase = .pumping a) (hs : r.step = some r') :
    (∃ o c, a.outbound.Moves (r.stop || a.stop) r.config.idleInterval.toNat r.channel o c ∧
      r.outboundStep a = some r' ∧ r' = { r with
        channel := c
        phase := .pumping
          { a with outbound := o, stopInbound := a.stopInbound || o.result?.isSome } }) ∨
    (∃ i c, a.inbound.Moves (r.stop || a.stop || a.stopInbound) r.inboundConfig r.channel i c ∧
      r.outboundStep a = none ∧ r' = { r with
        channel := c, phase := .pumping { a with inbound := i, stop := a.stop || i.hasFailed } }) ∨
    ∀ a', r'.phase ≠ .pumping a' := by
  unfold step at hs
  rw [hp] at hs
  dsimp only at hs
  unfold pumpStep at hs
  split at hs
  · rename_i ho
    cases hs
    refine .inl ?_
    have ho' := ho
    unfold outboundStep at ho'
    split at ho'
    · cases ho'
    · rename_i hm
      cases ho'
      exact ⟨_, _, Outbound.moves_of_step hm, ho, rfl⟩
  · rename_i ho
    split at hs
    · rename_i hi
      cases hs
      unfold inboundStep at hi
      split at hi
      · cases hi
      · rename_i hm
        cases hi
        exact .inr (.inl ⟨_, _, Inbound.moves_of_step hm, ho, rfl⟩)
    · unfold join at hs
      split at hs
      · cases hs
        obtain ⟨_, _, _, -, e⟩ := r.tearDown_eq a _ _
        rw [e]
        exact .inr (.inr (afterAttempt_ne_pumping _ _ _))
      · cases hs

/-- In the executed order a keepalive is the last thing that happens in its instant. -/
theorem Poised.step_eq_none (h : r.Poised a)
    (hk : 0 < r.config.keepaliveInterval.toNat) (hf : r.channel.transport.isFull = false)
    (hs : r.channel.serverOpen = true) {r' : Run} (hr' : r' = { r with
      channel := (r.channel.push .keepalive Packet.keepalive).markSent
      phase := .pumping { a with inbound := { a.inbound with phase := .waiting } } }) :
    r'.step = none := by
  subst hr'
  refine (step_eq_none_iff rfl).2 ⟨?_, ?_, join_eq_none_iff.2 (.inr rfl)⟩
  · exact outboundStep_eq_none_iff.2
      (Outbound.step_markSent (outboundStep_eq_none_iff.1 h.outbound) hf Packet.keepalive)
  · refine inboundStep_eq_none_iff.2 ?_
    rw [show (r.stop || a.stop || a.stopInbound) = false from h.stop]
    refine Inbound.step_of_idle rfl h.early ?_ h.inbox ?_
    · show (!r.channel.serverOpen) = false
      rw [hs]
      rfl
    · exact Channel.keepaliveDue_markSent _ hk

/-- In the executed order, what has been sent and where the pumps stand as long as the attempt runs
that runs in `r₁`. -/
def InOrder (r₁ r : Run) : Prop :=
  r₁.established ≤ r.established ∧ ∀ a, r.phase = .pumping a → r.established = r₁.established →
    (a.inbound.phase = .pinging → r.Poised a) ∧
    ∀ ds, r.channel.sent = r₁.channel.sent ++ ds →
      Apart r₁.now r₁.config.keepaliveInterval.toNat ds → KeepaliveAt ds r.now →
        r.step = none ∧ a.inbound.phase = .waiting

/-- An attempt whose pumps run after a step ran before, or got its interface in that step. -/
theorem Change.pumping (hc : r.Change r') (hp : r'.phase = .pumping a) :
    (∃ a, r.phase = .pumping a) ∧ r'.established = r.established ∨
      r'.established = r.established + 1 := by
  cases hc with
  | resolved | unresolved | stopped | begins | wakes => cases hp
  | fails | loses => exact absurd hp (afterAttempt_ne_pumping _ _ _ _)
  | connects => exact .inr rfl
  | outbound hp₀ | inbound hp₀ => exact .inl ⟨⟨_, hp₀⟩, rfl⟩

theorem InOrder.step (h : InOrder r₁ r) (hs : r.step = some r') (hsched : OnSchedule r₁ r)
    (hconfig : r.config = r₁.config) (hk : 0 < r₁.config.keepaliveInterval.toNat) :
    InOrder r₁ r' := by
  have hc := (does_of_step hs).change
  have hle : r₁.established ≤ r'.established :=
    (Within.change (P := fun _ _ _ => True) ⟨h.1, fun _ _ _ => trivial⟩ hc
      (fun _ _ _ _ _ => trivial) fun _ _ _ _ _ => trivial).1
  refine ⟨hle, ?_⟩
  intro a' hp' hest'
  rcases hc.pumping hp' with ⟨⟨a, hp⟩, hest⟩ | hest
  · have hest₁ : r.established = r₁.established := hest.symm.trans hest'
    obtain ⟨hpoised, hlast⟩ := h.2 a hp hest₁
    obtain ⟨ds, hsent, hkeeps⟩ := hsched.2 a hp hest₁
    -- as the instant goes on, no keepalive has been sent in it
    have hquiet (ha : Apart r₁.now r₁.config.keepaliveInterval.toNat ds) :
        ¬ KeepaliveAt ds r.now := by
      intro hka
      rw [(hlast ds hsent ha hka).1] at hs
      cases hs
    rcases step_pumping_cases hp hs with ⟨o, c, hm, ho, rfl⟩ | ⟨i, c, hm, ho, rfl⟩ | hne
    · cases hp'
      refine ⟨?_, ?_⟩
      · intro hping
        rw [(hpoised hping).outbound] at ho
        cases ho
      · intro ds' hsent' ha hka
        have hnow : (c.now : Nat) = r.now := hm.now
        replace hka : KeepaliveAt ds' r.now := hnow ▸ hka
        rcases hm.sent_cases with e | ⟨d, hd, e⟩
        · rw [show c.sent = _ from hsent', hsent, List.append_cancel_left_eq] at e
          subst e
          exact absurd hka (hquiet ha)
        · rw [show c.sent = _ from hsent', hsent, List.append_assoc,
            List.append_cancel_left_eq] at e
          subst e
          refine absurd ((keepaliveAt_concat.1 hka).resolve_right ?_) (hquiet ha.of_concat)
          rw [hd]
          exact fun ⟨e, _⟩ => Origin.noConfusion e
    · cases hp'
      have hnow : c.now = r.now := hm.now
      -- a step that sends nothing has sent no keepalive
      have still (hc : c.sent = r.channel.sent) : ∀ ds', c.sent = r₁.channel.sent ++ ds' →
          Apart r₁.now r₁.config.keepaliveInterval.toNat ds' → ¬ KeepaliveAt ds' c.now := by
        intro ds' hsent' ha
        rw [hc, hsent, List.append_cancel_left_eq] at hsent'
        subst hsent'
        rw [hnow]
        exact hquiet ha
      cases hm with
      | due hph hstop ht hr hq =>
        refine ⟨fun _ => ⟨?_, ?_, ht, hq⟩, fun ds' hs' ha hka => absurd hka (still rfl ds' hs' ha)⟩
        · refine outboundStep_eq_none_iff.2 ?_
          show a.outbound.step (r.stop || (a.stop || false)) _ _ = none
          rw [Bool.or_false]
          exact outboundStep_eq_none_iff.1 ho
        · show (r.stop || (a.stop || false) || a.stopInbound) = false
          rw [Bool.or_false]
          exact hstop
      | pinged hph hf hr =>
        refine ⟨nofun, fun _ _ _ _ => ⟨?_, rfl⟩⟩
        refine (hpoised hph).step_eq_none (hconfig ▸ hk) hf hkeeps.serverOpen ?_
        show { r with
          channel := (r.channel.push .keepalive Packet.keepalive).markSent
          phase := .pumping { a with
            inbound := { a.inbound with phase := .waiting }, stop := a.stop || false } } = _
        rw [Bool.or_false]
      | received =>
        refine ⟨?_, fun ds' hs' ha hka => absurd hka (still rfl ds' hs' ha)⟩
        unfold Inbound.accept
        dsimp only
        split <;> exact nofun
      | _ => exact ⟨nofun, fun ds' hs' ha hka => absurd hka (still rfl ds' hs' ha)⟩
    · exact absurd hp' (hne a')
  · have h₁ := h.1
    omega

/-- Events send nothing and leave the attempt where it is. -/
theorem foldl_happen_attempt (es : List Event) (r : Run) :
    (es.foldl happen r).established = r.established ∧
      (es.foldl happen r).channel.sent = r.channel.sent ∧
      ∀ a, (es.foldl happen r).phase = .pumping a → r.phase = .pumping a := by
  induction es generalizing r with
  | nil => exact ⟨rfl, rfl, fun _ h => h⟩
  | cons e es ih =>
    obtain ⟨hest, hsent, hp⟩ := ih (r.happen e)
    exact ⟨hest.trans (happen_established r e), hsent.trans (happen_sent_taken r e).1,
      fun a h => phase_of_happen (hp a h)⟩

theorem InOrder.instant (h : InOrder r₁ r) (hsched : OnSchedule r₁ r) (hl : r.Linked)
    (hu : r.IsUnheld) (hn : r.step = none) {t : Nat} (hlt : r.now < t) (events : List Event) :
    InOrder r₁ (events.foldl happen (r.moveClock t)) := by
  obtain ⟨hest, hsent, hphase⟩ := foldl_happen_attempt events (r.moveClock t)
  have hnow : (events.foldl happen (r.moveClock t)).now = t := foldl_happen_now events _
  refine ⟨by rw [hest]; exact h.1, ?_⟩
  intro a hp hest'
  obtain ⟨ds, hs, hkeeps⟩ := hsched.2 a (hphase a hp) (hest.symm.trans hest')
  have hwait := (waiting_of_step hl (hu a (hphase a hp)) (hphase a hp) hn hkeeps.alive).1
  refine ⟨fun hping => (nomatch hwait.symm.trans hping), ?_⟩
  intro ds' hs' ha hka
  -- what has been sent was sent before this instant
  rw [hsent, show (r.moveClock t).channel.sent = r.channel.sent from rfl, hs,
    List.append_cancel_left_eq] at hs'
  subst hs'
  rw [hnow] at hka
  obtain ⟨d, hd, -, rfl⟩ := hka
  have hle := ((hkeeps.scheduled ha).1.bounds.2 d hd).2.trans hkeeps.past
  exact absurd hlt (Nat.not_lt.2 hle)

theorem Plays.inOrder {es : List Event} (h₁ : OnSchedule r₁ r₁) (hl₁ : r₁.Linked)
    (hk : 0 < r₁.config.keepaliveInterval.toNat) (hp₁ : r₁.phase = .pumping a)
    (hi : a.inbound.phase = .waiting) (h : r₁.Plays IsUnheld es r)
    (he : ∀ e ∈ es, e.keepsServer = true) : InOrder r₁ r := by
  induction h with
  | start =>
    refine ⟨Nat.le_refl _, ?_⟩
    intro a' hp' _
    rw [hp₁] at hp'
    cases hp'
    refine ⟨fun hping => (nomatch hi.symm.trans hping), ?_⟩
    intro ds hs _ hka
    obtain rfl : ds = [] := by simpa using hs
    obtain ⟨d, hd, -⟩ := hka
    cases hd
  | step hl hs ih =>
    exact (ih he).step hs (h₁.leads hl₁ hl.leads he) hl.leads.leads.sameTerms.config hk
  | instant hl hu hn hlt ht events ih =>
    rw [List.forall_mem_append] at he
    exact (ih he.1).instant (h₁.leads hl₁ hl.leads he.1) (hl₁.leads hl.leads.leads) hu hn hlt events

end

/-! ## The law of keepalives -/

/-- In an attempt whose server stays and in which no write panics, for as long as no write and no
send waits when the clock moves, while the outbound direction never sends in the very millisecond
in which a keepalive is due: a keepalive, the datagram `[0]`, is sent at a time exactly if the last
send before, in either direction, or the link's start is one interval ago. That holds for all times
that are over, in every order of the steps, and where the connection rests and no operation waits
also for the present; the pump has not ended there. In the executed order it holds for all times up
to the end of the pump, which is a time without a keepalive. So no keepalive follows a send sooner
than that, and the link is never silent for longer. It makes no difference that a pass of the loop
waits for the deadline that it has begun with. Where nothing is ever full, no operation waits. -/
theorem keepalives_lawful {r r₁ : Run} {a₁ : Attempt} {k : Nat} (hd : r.Does r₁)
    (hp : ∀ a, r.phase ≠ .pumping a) (hp₁ : r₁.phase = .pumping a₁)
    (hk : r.config.keepaliveInterval.toNat = k) (hpos : 0 < k)
    (hs : r.channel.serverOpen = true) (hw : r.channel.wire.writesPanic = false) :
    (∀ es r' a', r₁.LeadsWhile IsUnheld es r' → (∀ e ∈ es, e.keepsServer = true) →
      r'.phase = .pumping a' → r'.established = r₁.established →
        ∃ ds, r'.channel.sent = r₁.channel.sent ++ ds ∧ r'.now ≤ lastSend r₁.now ds + k ∧
          (r'.step = none → r'.IsUnheld → a'.inbound.result? = none) ∧
          (Apart r₁.now k ds →
            (∀ t, t < r'.now ∨ t = r'.now ∧ r'.step = none ∧ r'.IsUnheld →
              (KeepaliveAt ds t ↔ t = lastSendBefore r₁.now t ds + k)) ∧
            (r₁.Plays IsUnheld es r' → a'.inbound.result? ≠ none → ∀ t,
              KeepaliveAt ds t ↔ t < r'.now ∧ t = lastSendBefore r₁.now t ds + k) ∧
            ∀ pre d, pre ++ [d] <+: ds → d.time ≤ lastSend r₁.now pre + k ∧
              (d.origin = .keepalive →
                d.time = lastSend r₁.now pre + k ∧ d.packet = [0] ∧ d.received = true))) ∧
    (∀ P es r' d, r₁.Passes P es r' d → r₁.LeadsWhile P es r') ∧
    (r.channel.IsFree → ∀ es r', (∀ e ∈ es, e.blocks = false) →
      (r₁.Leads es r' → r₁.LeadsWhile IsUnheld es r' ∧ r'.IsUnheld) ∧
      ∀ P, r₁.Plays P es r' → r₁.Plays IsUnheld es r') := by
  have hc := hd.change
  have hconfig : r₁.config = r.config := hc.sameTerms.config
  have hk₁ : r₁.config.keepaliveInterval.toNat = k := by rw [hconfig, hk]
  have hsched : OnSchedule r₁ r₁ := hc.onSchedule hp hp₁ hs hw
  have hl₁ : r₁.Linked := Linked.change (fun a h => absurd h (hp a)) hc
  have hwait : a₁.inbound.phase = .waiting := by rw [(hc.inbound_fresh hp hp₁).1]
  refine ⟨?_, ?_, ?_⟩
  · intro es r' a' hl he hp' hest
    obtain ⟨ds, hsent, hkeeps⟩ := (hsched.leads hl₁ hl he).2 a' hp' hest
    rw [hk₁] at hkeeps
    have hwaits : r'.step = none → r'.IsUnheld → a'.inbound.phase = .waiting := fun hn hu =>
      (waiting_of_step (hl₁.leads hl.leads) (hu a' hp') hp' hn hkeeps.alive).1
    have hearly : r'.step = none → r'.IsUnheld → r'.now < lastSend r₁.now ds + k := by
      intro hn hu
      have hi := ((step_eq_none_iff hp').1 hn).2.1
      have hdue := Inbound.keepaliveDue_of_step (inboundStep_eq_none_iff.1 hi) (hwaits hn hu)
      have hlt := Channel.now_lt_keepaliveAt hdue
      rw [show r'.inboundConfig.keepaliveInterval = k by
        rw [inboundConfig, hl.leads.sameTerms.config, hk₁], hkeeps.keepaliveAt_eq] at hlt
      exact hlt
    refine ⟨ds, hsent, hkeeps.soon, ?_, ?_⟩
    · intro hn hu
      rw [Inbound.result?, hwaits hn hu]
    intro ha
    obtain ⟨hschedule, -⟩ := hkeeps.scheduled ha
    have hiff : ∀ t, t < r'.now ∨ t = r'.now ∧ r'.step = none ∧ r'.IsUnheld →
        (KeepaliveAt ds t ↔ t = lastSendBefore r₁.now t ds + k) := by
      intro t ht
      refine hschedule.keepaliveAt_iff hpos ?_
      rcases ht with ht | ⟨rfl, hn, hu⟩
      · exact Nat.lt_of_lt_of_le ht hkeeps.soon
      · exact hearly hn hu
    refine ⟨hiff, ?_, fun pre d hpre => hschedule.spaced hpre⟩
    intro hplays hend t
    -- in the executed order the pump does not end in the instant of a keepalive
    have hnone : ¬ KeepaliveAt ds r'.now := by
      intro hka
      have horder := hplays.inOrder hsched hl₁ (by rw [hk₁]; exact hpos) hp₁ hwait he
      have hlast := (horder.2 a' hp' hest).2 ds hsent (by rw [hk₁]; exact ha) hka
      exact hend (by rw [Inbound.result?, hlast.2])
    refine ⟨fun hka => ?_, fun h => (hiff t (.inl h.1)).2 h.2⟩
    have hlt : t < r'.now := by
      obtain ⟨d, hd, ho, rfl⟩ := hka
      have hle : d.time ≤ r'.now := (hschedule.bounds.2 d hd).2.trans hkeeps.past
      exact Nat.lt_of_le_of_ne hle fun e => hnone ⟨d, hd, ho, e⟩
    exact ⟨hlt, (hiff t (.inl hlt)).1 hka⟩
  · intro P es r' d h
    obtain ⟨ds, -, hkeeps⟩ := hsched.2 a₁ hp₁ rfl
    refine (h.leads ?_).1
    unfold Channel.IsPast
    rw [hkeeps.started, hkeeps.timing]
    exact hkeeps.past
  · intro hf es r' hb
    have hf₁ : r₁.channel.IsFree := isFree_of_change hf hc
    refine ⟨fun hl => ⟨hl.leadsWhile_isUnheld hf₁ hb, fun a _ => ?_⟩, fun P h => h.isUnheld hf₁ hb⟩
    exact (hl.isFree hf₁ hb).not_isHeld a

/-- The small run when its first attempt has sent a packet. -/
def trialSending : Run := (((trialOpened.moveClock 4000).happen (.push [69, 1])).settleWithin 2)

/-- The small run when the socket takes no datagrams for the moment. -/
def trialFull : Run := (trialSending.moveClock 5000).happen (.transportFull true)

/-- The small run when its first attempt has sent a keepalive. -/
def trialIdle : Run :=
  ((trialFull.moveClock 19000).happen (.transportFull false)).settleWithin 2

/-- The small run when the server has been silent for too long. -/
def trialGone : Run := (trialIdle.moveClock 20000).settleWithin 1

/-- In the small run the one keepalive is sent an interval after the packet, and no second one
before the pump ends. No send has to wait while the socket takes no datagrams. -/
theorem trialGone_keepalives : ∃ ds, trialGone.channel.sent = ds ∧
    ds.map Sent.time = [4000, 19000] ∧
    ∀ t, KeepaliveAt ds t ↔ t < 20000 ∧ t = lastSendBefore 0 t ds + 15000 := by
  have hp : trialAttempting.phase = .attempting (.v4 ⟨127, 0, 0, 1⟩) 0 := rfl
  have hplays : trialOpened.Plays IsUnheld
      [.push [69, 1], .transportFull true, .transportFull false] trialGone := by
    have h₁ : trialOpened.Plays IsUnheld [.push [69, 1]] trialSending := by
      exact (Plays.start.instant (isUnheld_of_waiting rfl rfl rfl) rfl (by decide)
        (le_timer (s := 15000) rfl (by decide)) [.push [69, 1]]).settleWithin 2
    have h₂ : trialOpened.Plays IsUnheld [.push [69, 1], .transportFull true] trialFull := by
      exact h₁.instant (isUnheld_of_waiting rfl rfl rfl) (t := 5000) rfl (by decide)
        (le_timer (s := 19000) rfl (by decide)) [.transportFull true]
    have h₃ : trialOpened.Plays IsUnheld
        [.push [69, 1], .transportFull true, .transportFull false] trialIdle := by
      exact (h₂.instant (isUnheld_of_waiting rfl rfl rfl) (t := 19000) rfl (by decide)
        (le_timer rfl (Nat.le_refl _)) [.transportFull false]).settleWithin 2
    exact (h₃.instant (isUnheld_of_waiting rfl rfl rfl) (t := 20000) rfl (by decide)
      (le_timer rfl (Nat.le_refl _)) []).settleWithin 1
  obtain ⟨hlaw, -⟩ := keepalives_lawful (r := trialAttempting) (.openAttempt hp)
    (fun a => by rw [hp]; exact Phase.noConfusion) rfl rfl (by decide) rfl rfl
  obtain ⟨ds, hs, -, -, hkeeps⟩ := hlaw _ _ _ hplays.leads (by simp [Event.keepsServer]) rfl rfl
  have hds : ds = [⟨4000, [69, 1], .outbound, true⟩, ⟨19000, [0], .keepalive, true⟩] := hs.symm
  have hapart : Apart trialOpened.now 15000 ds := by
    rw [hds]
    rintro pre d ⟨rest, e⟩ ho
    cases pre with
    | nil => cases e; decide
    | cons _ pre =>
      cases pre with
      | nil => cases e; cases ho
      | cons _ _ => simp at e
  obtain ⟨-, hend, -⟩ := hkeeps hapart
  exact ⟨ds, hs, by rw [hds]; rfl, hend hplays (Option.some_ne_none _)⟩

end Run

end TunnelRelay.Relay
