import TunnelRelay.Proofs.Changes
/-!
# What goes out to the server

`Outbound.Carried` relates what an outbound pump has read to what it has sent: the datagrams are
the packets that are not empty, cut to the buffer, except that the last one may still be on its
way or may have been lost to a refused send. Each step of the pump keeps it, and so does
everything else that happens meanwhile. Over all attempts together nothing is lost as long as the
server stays, because then no send is refused.
-/

namespace TunnelRelay.Relay

open Net

/-! ## What a pump has carried -/

/-- The datagrams that packets become: the empty ones are left out, the others are cut. -/
def forwarded (ps : List Packet) : List Packet :=
  (ps.filter (· ≠ [])).map (List.take Packet.greatestSize)

theorem forwarded_append (ps qs : List Packet) :
    forwarded (ps ++ qs) = forwarded ps ++ forwarded qs := by
  simp [forwarded]

theorem forwarded_concat (ps : List Packet) {p : Packet} (h : p ≠ []) :
    forwarded (ps ++ [p]) = forwarded ps ++ [p.take Packet.greatestSize] := by
  rw [forwarded_append]
  simp [forwarded, h]

theorem forwarded_concat_nil (ps : List Packet) : forwarded (ps ++ [[]]) = forwarded ps := by
  rw [forwarded_append]
  simp [forwarded]

theorem forwarded_mono {ps qs : List Packet} (h : ps <+: qs) : forwarded ps <+: forwarded qs := by
  obtain ⟨rest, rfl⟩ := h
  rw [forwarded_append]
  exact List.prefix_append _ _

namespace Channel

/-- The packets that were read from the interface. -/
def packetsRead (c : Channel) : List Packet := c.taken.map Prod.snd

/-- The datagrams that outbound pumps have sent. -/
def outboundSent (c : Channel) : List Packet :=
  (c.sent.filter fun s => s.origin = .outbound).map Sent.packet

@[simp] theorem packetsRead_take (c : Channel) (p : Packet) (ps : List Packet) :
    (c.take p ps).packetsRead = c.packetsRead ++ [p] := by
  simp [packetsRead, take]

@[simp] theorem outboundSent_take (c : Channel) (p : Packet) (ps : List Packet) :
    (c.take p ps).outboundSent = c.outboundSent := rfl

@[simp] theorem outboundSent_push_outbound (c : Channel) (p : Packet) :
    (c.push .outbound p).outboundSent = c.outboundSent ++ [p] := by
  simp [outboundSent, push]

@[simp] theorem outboundSent_push_keepalive (c : Channel) (p : Packet) :
    (c.push .keepalive p).outboundSent = c.outboundSent := by
  simp [outboundSent, push]

end Channel

/-- What a pump has read, `ps`, and what it has sent, `ds`. A packet in a send was read last, and
only a refused send loses it. -/
def Outbound.Carried (o : Outbound) (ps ds : List Packet) : Prop :=
  match o.phase with
  | .sending p => ∃ (qs : List Packet) (q : Packet),
    ps = qs ++ [q] ∧ q ≠ [] ∧ p = q.take Packet.greatestSize ∧ ds = forwarded qs
  | .ended (.error e) => ds = forwarded ps ∨
    e = Channel.refusal ∧ ∃ qs q, ps = qs ++ [q] ∧ q ≠ [] ∧ ds = forwarded qs
  | _ => ds = forwarded ps

/-- What a pump has sent are the first of the datagrams that it is to send. -/
theorem Outbound.Carried.isPrefixOf {o : Outbound} {ps ds : List Packet} (h : o.Carried ps ds) :
    ds <+: forwarded ps := by
  unfold Outbound.Carried at h
  split at h
  · obtain ⟨qs, q, rfl, -, -, rfl⟩ := h
    exact forwarded_mono (List.prefix_append _ _)
  · rcases h with rfl | ⟨-, qs, q, rfl, -, rfl⟩
    · exact List.prefix_refl _
    · exact forwarded_mono (List.prefix_append _ _)
  · exact h ▸ List.prefix_refl _

/-- A pump that has ended without a refusal has sent all that it has read. -/
theorem Outbound.Carried.eq_of_result? {o : Outbound} {ps ds : List Packet}
    (h : o.Carried ps ds) (hr : o.result? ≠ none)
    (ho : o.phase ≠ .ended (.error Channel.refusal)) : ds = forwarded ps := by
  unfold Outbound.Carried at h
  unfold Outbound.result? at hr
  split at h
  · rename_i hp; rw [hp] at hr; exact absurd rfl hr
  · rename_i e hp
    rcases h with h | ⟨rfl, -⟩
    · exact h
    · exact absurd hp ho
  · exact h

section
variable {stop : Bool} {o o' : Outbound} {c c' : Channel}

/-- One step of the pump: it reads a packet, or sends the one that it has read, or neither. -/
theorem Outbound.Moves.carried {idle : Nat} (h : o.Moves stop idle c o' c') {ps ds qs es : List Packet}
    (hp : c.packetsRead = qs ++ ps) (hd : c.outboundSent = es ++ ds) (hc : o.Carried ps ds) :
    ∃ ps' ds', c'.packetsRead = qs ++ ps' ∧ c'.outboundSent = es ++ ds' ∧ o'.Carried ps' ds' := by
  unfold Outbound.Carried at hc
  cases h with
  | stopped _ hphase =>
    refine ⟨ps, ds, hp, hd, ?_⟩
    rcases hphase with hphase | ⟨w, hphase⟩ <;> rw [hphase] at hc <;> exact hc
  | readFailed _ hphase _ => rw [hphase] at hc; exact ⟨ps, ds, hp, hd, .inl hc⟩
  | foundEmpty _ hphase _ _ _ => rw [hphase] at hc; exact ⟨ps, ds, hp, hd, hc⟩
  | tookEmpty _ hphase _ _ =>
    rw [hphase] at hc
    refine ⟨ps ++ [[]], ds, by simp [hp], by simpa using hd, ?_⟩
    exact hc.trans (forwarded_concat_nil ps).symm
  | @took p _ _ hphase _ _ hne =>
    rw [hphase] at hc
    exact ⟨ps ++ [p], ds, by simp [hp], by simpa using hd, ps, p, rfl, hne, rfl, hc⟩
  | woke _ hphase _ => rw [hphase] at hc; exact ⟨ps, ds, hp, hd, hc⟩
  | refused hphase _ _ =>
    rw [hphase] at hc
    obtain ⟨rs, q, rfl, hne, -, rfl⟩ := hc
    exact ⟨_, _, hp, hd, .inr ⟨rfl, rs, q, rfl, hne, rfl⟩⟩
  | @sent p hphase _ _ =>
    rw [hphase] at hc
    obtain ⟨rs, q, rfl, hne, rfl, rfl⟩ := hc
    refine ⟨_, forwarded rs ++ [q.take Packet.greatestSize], hp, ?_,
      (forwarded_concat rs hne).symm⟩
    rw [← List.append_assoc, ← hd]
    exact c.outboundSent_push_outbound _

/-- The inbound pump reads no packet and sends none. -/
theorem Inbound.Moves.outbound_eq {config : InboundConfig} {i i' : Inbound}
    (h : i.Moves stop config c i' c') : c'.packetsRead = c.packetsRead ∧
      c'.outboundSent = c.outboundSent := by
  cases h with
  | pinged => exact ⟨rfl, c.outboundSent_push_keepalive _⟩
  | _ => exact ⟨rfl, rfl⟩

/-- A pump that is asked to stop reads no more. -/
theorem Outbound.Moves.taken_of_stop {idle : Nat} (h : o.Moves true idle c o' c') :
    c'.taken = c.taken := by
  cases h with
  | took hs | tookEmpty hs => cases hs
  | _ => rfl

/-- A packet leaves the queue by being read. -/
theorem Outbound.Moves.queue {idle : Nat} (h : o.Moves stop idle c o' c') :
    c'.packetsRead ++ c'.wire.queue = c.packetsRead ++ c.wire.queue := by
  cases h with
  | took _ _ _ hq | tookEmpty _ _ _ hq => rw [hq, Channel.packetsRead_take]; simp [Channel.take]
  | _ => rfl

theorem Inbound.Moves.queue {config : InboundConfig} {i i' : Inbound}
    (h : i.Moves stop config c i' c') :
    c'.packetsRead ++ c'.wire.queue = c.packetsRead ++ c.wire.queue := by
  cases h <;> rfl

/-- As long as the server stays, no datagram is refused. -/
theorem Outbound.Moves.unrefused {idle : Nat} (h : o.Moves stop idle c o' c')
    (hs : c.serverOpen = true) (hr : c.transport.isRefused = false) :
    c'.serverOpen = true ∧ c'.transport.isRefused = false ∧
      o'.phase ≠ .ended (.error Channel.refusal) := by
  cases h with
  | refused _ _ hr' => rw [hr] at hr'; cases hr'
  | sent => exact ⟨hs, by simp [Channel.markSent, Channel.push, hs], nofun⟩
  | readFailed => exact ⟨hs, hr, by simp [Outbound.fail, Channel.readFailure, Channel.refusal]⟩
  | stopped => exact ⟨hs, hr, by simp [Outbound.finish]⟩
  | _ => exact ⟨hs, hr, nofun⟩

theorem Inbound.Moves.unrefused {config : InboundConfig} {i i' : Inbound}
    (h : i.Moves stop config c i' c') (hs : c.serverOpen = true)
    (hr : c.transport.isRefused = false) :
    c'.serverOpen = true ∧ c'.transport.isRefused = false := by
  cases h with
  | pinged => exact ⟨hs, by simp [Channel.markSent, Channel.push, hs]⟩
  | refused | pingRefused => exact ⟨hs, rfl⟩
  | _ => exact ⟨hs, hr⟩

theorem Inbound.Moves.taken {config : InboundConfig} {i i' : Inbound}
    (h : i.Moves stop config c i' c') : c'.taken = c.taken := by
  cases h <;> rfl

end

/-- The packets that events push. -/
def pushes (es : List Event) : List Packet :=
  es.filterMap fun e => match e with
    | .push p => some p
    | _ => none

namespace Run

/-! ## One attempt -/

section
variable {r r' : Run}

/-- Nothing is read or sent where no pumps run before or after. -/
theorem Change.outbound_eq (hc : r.Change r')
    (hp : (∀ a, r.phase ≠ .pumping a) ∨ ∀ a, r'.phase ≠ .pumping a) :
    r'.channel.packetsRead = r.channel.packetsRead ∧
      r'.channel.outboundSent = r.channel.outboundSent := by
  cases hc with
  | resolved | unresolved | stopped | begins | connects | wakes => exact ⟨rfl, rfl⟩
  | fails => rw [afterAttempt_channel]; exact ⟨rfl, rfl⟩
  | @outbound a o c hph | @inbound a i c hph =>
    rcases hp with h | h
    · exact absurd hph (h a)
    · exact absurd rfl (h _)
  | loses => rw [afterAttempt_channel, afterClose]; dsimp only; split <;> exact ⟨rfl, rfl⟩

/-- Each attempt starts with a pump that has neither read nor sent. -/
theorem Change.outbound_fresh (hc : r.Change r') (hp : ∀ a, r.phase ≠ .pumping a) {a : Attempt}
    (hp' : r'.phase = .pumping a) : a.outbound = {} := by
  cases hc with
  | resolved | unresolved | stopped | begins | wakes => cases hp'
  | connects => cases hp'; rfl
  | fails | loses => exact absurd hp' (afterAttempt_ne_pumping _ _ _ _)
  | @outbound a _ _ hph | @inbound a _ _ hph => exact absurd hph (hp a)

/-- What the pump of the attempt that runs in `r₁` has carried since then, as long as that attempt
runs. The number of interfaces established tells attempts apart. -/
def CarriedSince (r₁ r : Run) : Prop :=
  r₁.established ≤ r.established ∧ ∀ a, r.phase = .pumping a → r.established = r₁.established →
    ∃ ps ds, r.channel.packetsRead = r₁.channel.packetsRead ++ ps ∧
      r.channel.outboundSent = r₁.channel.outboundSent ++ ds ∧ a.outbound.Carried ps ds

theorem carriedSince_iff {r₁ : Run} : CarriedSince r₁ r ↔ r.Within r₁.established fun o _ c =>
    ∃ ps ds, c.packetsRead = r₁.channel.packetsRead ++ ps ∧
      c.outboundSent = r₁.channel.outboundSent ++ ds ∧ o.Carried ps ds := Iff.rfl

theorem CarriedSince.change {r₁ : Run} (h : CarriedSince r₁ r) (hc : r.Change r') :
    CarriedSince r₁ r' := by
  rw [carriedSince_iff] at h ⊢
  refine h.change hc ?_ ?_
  · rintro a o c hm ⟨ps, ds, hr, hs, hcar⟩
    exact hm.carried hr hs hcar
  · rintro a i c hm ⟨ps, ds, hr, hs, hcar⟩
    exact ⟨ps, ds, hm.outbound_eq.1.trans hr, hm.outbound_eq.2.trans hs, hcar⟩

theorem CarriedSince.happen {r₁ : Run} (h : CarriedSince r₁ r) (e : Event) :
    CarriedSince r₁ (r.happen e) := by
  rw [carriedSince_iff] at h ⊢
  refine h.happen e ?_
  intro a _ hcar
  obtain ⟨hs, ht⟩ := happen_sent_taken r e
  unfold Channel.packetsRead Channel.outboundSent at hcar ⊢
  rw [hs, ht]
  exact hcar

/-- In each attempt the outbound pump sends what it reads. -/
theorem Leads.carried {es : List Event} (h : r.Leads es r') {a : Attempt}
    (hp : r.phase = .pumping a) (ho : a.outbound = {}) : CarriedSince r r' := by
  induction h with
  | start =>
    refine ⟨Nat.le_refl _, fun a' hp' _ => ⟨[], [], by simp, by simp, ?_⟩⟩
    rw [hp] at hp'
    cases hp'
    rw [ho]
    rfl
  | event _ e ih => exact ih.happen e
  | does _ hd ih => exact ih.change hd.change
  | clock _ _ _ _ ih => exact ih

/-! ## All attempts -/

/-- What has gone out while the server stays: all that was read, up to a packet in a send. -/
def OutboundFlows (r : Run) : Prop :=
  match r.phase with
  | .pumping a => r.channel.transport.isRefused = false ∧
    a.outbound.phase ≠ .ended (.error Channel.refusal) ∧
    a.outbound.Carried r.channel.packetsRead r.channel.outboundSent
  | _ => r.channel.outboundSent = forwarded r.channel.packetsRead

theorem outboundFlows_of_ne_pumping (hp : ∀ a, r.phase ≠ .pumping a) :
    r.OutboundFlows ↔ r.channel.outboundSent = forwarded r.channel.packetsRead := by
  unfold OutboundFlows
  split
  · rename_i a h; exact absurd h (hp a)
  · rfl

theorem OutboundFlows.isPrefixOf (h : r.OutboundFlows) :
    r.channel.outboundSent <+: forwarded r.channel.packetsRead := by
  unfold OutboundFlows at h
  split at h
  · exact h.2.2.isPrefixOf
  · exact h ▸ List.prefix_refl _

/-- The server stays, what was read and what waits is what was pushed, and nothing is lost. -/
structure Flows (packets : List Packet) (r : Run) : Prop where
  queue : r.channel.packetsRead ++ r.channel.wire.queue = packets
  serverOpen : r.channel.serverOpen = true
  outbound : r.OutboundFlows

/-- Nothing has flowed before the first attempt. -/
theorem IsFresh.flows (h : r.IsFresh) (hs : r.channel.serverOpen = true) :
    Flows r.channel.wire.queue r where
  queue := by rw [Channel.packetsRead, h.taken]; rfl
  serverOpen := hs
  outbound := by
    have hp : ∀ a, r.phase ≠ .pumping a := by
      intro a
      rw [h.phase]
      exact Phase.noConfusion
    rw [outboundFlows_of_ne_pumping hp, Channel.outboundSent, Channel.packetsRead, h.sent, h.taken]
    rfl

theorem Flows.change {packets : List Packet} (h : Flows packets r) (hc : r.Change r')
    (hm : r.channel.wire.mode ≠ .descriptor) : Flows packets r' := by
  obtain ⟨hq, hs, ho⟩ := h
  unfold OutboundFlows at ho
  cases hc with
  | resolved hp | unresolved hp | begins hp | wakes hp => rw [hp] at ho; exact ⟨hq, hs, ho⟩
  | stopped hp =>
    rcases hp with hp | ⟨_, _, hp⟩ | ⟨_, _, _, hp⟩ <;> rw [hp] at ho <;> exact ⟨hq, hs, ho⟩
  | fails hp =>
    rw [hp] at ho
    refine ⟨by rw [afterAttempt_channel]; exact hq, by rw [afterAttempt_channel]; exact hs, ?_⟩
    rw [outboundFlows_of_ne_pumping (afterAttempt_ne_pumping _ _ _), afterAttempt_channel]
    exact ho
  | connects hp =>
    rw [hp] at ho
    exact ⟨hq, hs, rfl, nofun, ho⟩
  | outbound hp hmv =>
    rw [hp] at ho
    obtain ⟨hr, hne, hcar⟩ := ho
    obtain ⟨hs', hr', hne'⟩ := hmv.unrefused hs hr
    refine ⟨hmv.queue.trans hq, hs', hr', hne', ?_⟩
    obtain ⟨ps, ds, e, e', hcar'⟩ := hmv.carried (List.nil_append _).symm
      (List.nil_append _).symm hcar
    rw [List.nil_append] at e e'
    exact e ▸ e' ▸ hcar'
  | inbound hp hmv =>
    rw [hp] at ho
    obtain ⟨hr, hne, hcar⟩ := ho
    obtain ⟨hs', hr'⟩ := hmv.unrefused hs hr
    refine ⟨hmv.queue.trans hq, hs', hr', hne, ?_⟩
    rw [hmv.outbound_eq.1, hmv.outbound_eq.2]
    exact hcar
  | @loses a o _ ok host log hp hro =>
    rw [hp] at ho
    obtain ⟨-, hne, hcar⟩ := ho
    have hch : (r.afterClose a.device ok host log).channel = r.channel := by
      unfold afterClose
      exact if_neg (by simp [hasDescriptor, hm])
    refine ⟨by rw [afterAttempt_channel, hch]; exact hq,
      by rw [afterAttempt_channel, hch]; exact hs, ?_⟩
    rw [outboundFlows_of_ne_pumping (afterAttempt_ne_pumping _ _ _), afterAttempt_channel, hch]
    exact hcar.eq_of_result? (by rw [hro]; exact Option.some_ne_none _) hne

/-- Events other than the end of the server leave the sending side alone and push their packets. -/
theorem happen_channel (r : Run) {e : Event} (he : e ≠ .serverClose) :
    (r.happen e).channel.wire.queue = r.channel.wire.queue ++ pushes [e] ∧
      (r.happen e).channel.serverOpen = r.channel.serverOpen ∧
      (r.happen e).channel.transport.isRefused = r.channel.transport.isRefused := by
  cases e with
  | serverClose => exact absurd rfl he
  | push p => exact ⟨rfl, rfl, rfl⟩
  | stop =>
    simp only [happen, requestStop]
    split <;> exact ⟨(List.append_nil _).symm, rfl, rfl⟩
  | serverSend p =>
    simp only [happen]
    split <;> exact ⟨(List.append_nil _).symm, rfl, rfl⟩
  | run =>
    simp only [happen]
    rcases r.start_snd with h | ⟨-, h⟩ <;> rw [h] <;>
      exact ⟨(List.append_nil _).symm, rfl, rfl⟩
  | _ => exact ⟨(List.append_nil _).symm, rfl, rfl⟩

theorem Flows.happen {packets : List Packet} (h : Flows packets r) {e : Event}
    (he : e ≠ .serverClose) : Flows (packets ++ pushes [e]) (r.happen e) := by
  obtain ⟨hq, hs, ho⟩ := h
  obtain ⟨hsent, htaken⟩ := happen_sent_taken r e
  obtain ⟨hq', hs', hr'⟩ := r.happen_channel he
  have hread : (r.happen e).channel.packetsRead = r.channel.packetsRead := by
    rw [Channel.packetsRead, htaken, Channel.packetsRead]
  have hout : (r.happen e).channel.outboundSent = r.channel.outboundSent := by
    rw [Channel.outboundSent, hsent, Channel.outboundSent]
  refine ⟨?_, hs'.trans hs, ?_⟩
  · rw [hread, hq', ← List.append_assoc, hq]
  · unfold OutboundFlows at ho ⊢
    rw [hread, hout, hr']
    rcases r.happen_phase e with hp | ⟨hi, -, hp⟩ <;> rw [hp]
    · exact ho
    · rw [hi] at ho; exact ho

/-- Where the server stays and the queue outlives interfaces, every run is one flow. -/
theorem Leads.flows {es : List Event} (h : r.Leads es r') {packets : List Packet}
    (h₀ : Flows packets r) (hm : r.channel.wire.mode ≠ .descriptor) (hs : .serverClose ∉ es) :
    Flows (packets ++ pushes es) r' := by
  induction h with
  | start => simpa [pushes] using h₀
  | event _ e ih =>
    rw [List.mem_append, List.mem_singleton, not_or] at hs
    rw [pushes, List.filterMap_append, ← List.append_assoc]
    exact (ih hs.1).happen (Ne.symm hs.2)
  | does hl hd ih => exact (ih hs).change hd.change (by rw [hl.sameTerms.mode]; exact hm)
  | clock _ _ _ _ ih => exact ⟨(ih hs).queue, (ih hs).serverOpen, (ih hs).outbound⟩

/-! ## After a stop -/

theorem Change.taken_of_stop (hc : r.Change r') (hs : r.stop = true) :
    r'.channel.taken = r.channel.taken := by
  cases hc with
  | resolved | unresolved | stopped | begins | connects | wakes => rfl
  | fails => rw [afterAttempt_channel]; rfl
  | outbound _ hm => rw [hs, Bool.true_or] at hm; exact hm.taken_of_stop
  | inbound _ hm => exact hm.taken
  | loses => rw [afterAttempt_channel, afterClose]; dsimp only; split <;> rfl

/-- From a requested stop on no packet is taken from the interface. -/
theorem Leads.taken_of_stop {es : List Event} (h : r.Leads es r') (hs : r.stop = true) :
    r'.channel.taken = r.channel.taken := by
  induction h with
  | start => rfl
  | event _ e ih => exact (happen_sent_taken _ e).2.trans ih
  | does hl hd ih => exact (hd.change.taken_of_stop (hl.stop.2 (.inl hs))).trans ih
  | clock _ _ _ _ ih => exact ih

end

/-! ## The law of forwarding -/

/-- However a run goes, in each attempt the outbound pump sends what it reads, one datagram for
each packet that is not empty, and at most the last packet is lost, to a refused send; outside
attempts it neither reads nor sends. Where the server stays and the queue outlives interfaces, the
datagrams of all attempts together are the first of those that the pushed packets become. From a
stop on no packet is taken. -/
theorem Leads.forwarding_lawful {r₀ r : Run} {es : List Event} (h₀ : r₀.IsFresh)
    (h : r₀.Leads es r) :
    (∀ a, r.phase = .pumping a → a.outbound = {} → ∀ es' r' a', r.Leads es' r' →
      r'.phase = .pumping a' → r'.established = r.established →
        ∃ ps ds, r'.channel.packetsRead = r.channel.packetsRead ++ ps ∧
          r'.channel.outboundSent = r.channel.outboundSent ++ ds ∧ a'.outbound.Carried ps ds) ∧
    (∀ r', r.Does r' → (∀ a, r.phase ≠ .pumping a) ∨ (∀ a, r'.phase ≠ .pumping a) →
      r'.channel.packetsRead = r.channel.packetsRead ∧
        r'.channel.outboundSent = r.channel.outboundSent ∧
        ∀ a, r'.phase = .pumping a → a.outbound = {}) ∧
    (r₀.channel.wire.mode ≠ .descriptor → r₀.channel.serverOpen = true → .serverClose ∉ es →
      r.channel.packetsRead ++ r.channel.wire.queue = r₀.channel.wire.queue ++ pushes es ∧
        r.channel.outboundSent <+: forwarded (r₀.channel.wire.queue ++ pushes es)) ∧
    (r.stop = true → ∀ es' r', r.Leads es' r' → r'.channel.taken = r.channel.taken) := by
  refine ⟨?_, ?_, ?_, ?_⟩
  · -- within an attempt
    intro a hp ho es' r' a' hl hp' he
    exact (hl.carried hp ho).2 a' hp' he
  · -- outside attempts
    intro r' hd hp
    obtain ⟨hr, ho⟩ := hd.change.outbound_eq hp
    refine ⟨hr, ho, ?_⟩
    intro a hp'
    rcases hp with hp | hp
    · exact hd.change.outbound_fresh hp hp'
    · exact absurd hp' (hp a)
  · -- over all attempts
    intro hm hs hes
    obtain ⟨hq, -, ho⟩ := h.flows (h₀.flows hs) hm hes
    have hread : r.channel.packetsRead <+: r₀.channel.wire.queue ++ pushes es := by
      rw [← hq]
      exact List.prefix_append _ _
    exact ⟨hq, ho.isPrefixOf.trans (forwarded_mono hread)⟩
  · intro hs es' r' hl
    exact hl.taken_of_stop hs

/-- In the small run the first pump reads two packets and sends the one that is not empty; the
packet behind them stays in the queue. -/
theorem trialDone_forwarding :
    (∃ ps ds, trialPumping.channel.packetsRead = ps ∧ trialPumping.channel.outboundSent = ds ∧
      ps = [[69, 1], []] ∧ ds = [[69, 1]] ∧ ∀ a, trialPumping.phase = .pumping a →
        a.outbound.Carried ps ds) ∧
    trialDone.channel.packetsRead ++ trialDone.channel.wire.queue = [[69, 1], [], [70]] ∧
    trialDone.channel.outboundSent <+: forwarded [[69, 1], [], [70]] := by
  obtain ⟨hone, -⟩ := trial_leads_connected.forwarding_lawful trial_isFresh
  obtain ⟨-, -, hall, -⟩ := trial_leads_done.forwarding_lawful trial_isFresh
  refine ⟨⟨_, _, rfl, rfl, rfl, rfl, ?_⟩, hall (by decide) rfl (by simp [trialEvents])⟩
  intro a hp
  obtain ⟨ps, ds, hr, hs, hc⟩ := hone _ rfl rfl _ _ a trialConnected_leads hp rfl
  rw [hr, hs]
  exact hc

end Run

end TunnelRelay.Relay
