import TunnelRelay.Proofs.Schedule
/-!
# How soon packets go out

A packet that the interface has from some time on is an `Offer`. An interface that lets reads wait
has each offer sent in the very millisecond in which it is made. One that polls is looked at again
only when the pause after an empty read is over, so there an offer is sent at most one pause later.
`Serves` is the invariant: what has been sent answers the first offers one by one, each on time,
and what is still to be sent is not late. The clock keeps it, because it never moves beyond the end
of a pause. So the kind of the interface changes when datagrams are sent but not which.
-/

namespace TunnelRelay.Relay

/-! ## Offers -/

/-- A packet that the interface has to be read, and since when. -/
structure Offer where
  /-- In milliseconds. -/
  time : Nat
  packet : Packet
  deriving DecidableEq

/-- Packets that the interface has since the time `t`. -/
def offersAt (t : Nat) (ps : List Packet) : List Offer := ps.map (Offer.mk t)

theorem mem_offersAt {t : Nat} {ps : List Packet} {x : Offer} (h : x ∈ offersAt t ps) :
    x.time = t ∧ x.packet ∈ ps := by
  obtain ⟨p, hp, rfl⟩ := List.mem_map.1 h
  exact ⟨rfl, hp⟩

@[simp] theorem map_packet_offersAt (t : Nat) (ps : List Packet) :
    (offersAt t ps).map Offer.packet = ps := by
  rw [offersAt, List.map_map]
  exact List.map_id ps

/-- The datagram `d` carries the packet of the offer `x`, to a server that receives it, at most
`delay` milliseconds after the offer was made. -/
structure OnTime (delay : Nat) (x : Offer) (d : Sent) : Prop where
  packet : d.packet = x.packet.take Packet.greatestSize
  received : d.received = true
  after : x.time ≤ d.time
  soon : d.time ≤ x.time + delay

/-- Datagrams that answer offers are these packets, whatever the time of each. -/
theorem map_packet_of_onTime {delay : Nat} {xs : List Offer} {ds : List Sent}
    (h : List.Forall₂ (OnTime delay) xs ds) :
    ds.map Sent.packet = xs.map fun x => x.packet.take Packet.greatestSize := by
  induction h with
  | nil => rfl
  | cons hd _ ih => rw [List.map_cons, List.map_cons, hd.packet, ih]

/-- The datagrams that outbound pumps have sent. -/
def Channel.outbound (c : Channel) : List Sent := c.sent.filter fun d => d.origin = .outbound

theorem Channel.outbound_push (c : Channel) (p : Packet) :
    (c.push .outbound p).markSent.outbound =
      c.outbound ++ [⟨c.now, p, .outbound, c.serverOpen⟩] := by
  simp [outbound, push, markSent]

/-! ## The pump and the offers -/

/-- The offers `late` are what a pump has still to send: the packet that it is in the midst of
sending and those that wait. A pause ends in time for all of them. -/
def Outbound.Owes (delay : Nat) (late : List Offer) (o : Outbound) (c : Channel) : Prop :=
  match o.phase with
  | .ready => late.map Offer.packet = c.wire.queue
  | .idling w => late.map Offer.packet = c.wire.queue ∧ w ≤ c.now + delay ∧
    ∀ x ∈ late, w ≤ x.time + delay
  | .sending p => ∃ x rest, late = x :: rest ∧ p = x.packet.take Packet.greatestSize ∧
    rest.map Offer.packet = c.wire.queue
  | .ended _ => True

/-- How the offers of an attempt go with its outbound pump and its channel: the offers `done` were
answered by the datagrams `ds`, and the offers `late` have still time. -/
structure Serves (delay : Nat) (done late : List Offer) (ds : List Sent) (o : Outbound)
    (c : Channel) : Prop where
  answered : List.Forall₂ (OnTime delay) done ds
  owes : o.Owes delay late c
  nonempty : ∀ x ∈ late, x.packet ≠ []
  past : ∀ x ∈ late, x.time ≤ c.now
  soon : ∀ x ∈ late, c.now ≤ x.time + delay
  serverOpen : c.serverOpen = true
  unrefused : c.transport.isRefused = false

section
variable {stop : Bool} {idle delay : Nat} {o o' : Outbound} {c c' : Channel}
  {done late : List Offer} {ds us : List Sent}

/-- A pump may change its phase, and the channel what offers do not depend on. -/
theorem Serves.of_owes (h : Serves delay done late ds o c) (howes : o'.Owes delay late c')
    (hnow : c'.now = c.now) (hopen : c'.serverOpen = c.serverOpen)
    (href : c'.transport.isRefused = c.transport.isRefused) : Serves delay done late ds o' c' where
  answered := h.answered
  owes := howes
  nonempty := h.nonempty
  past := by rw [hnow]; exact h.past
  soon := by rw [hnow]; exact h.soon
  serverOpen := hopen.trans h.serverOpen
  unrefused := href.trans h.unrefused

/-- The pump answers offers in their order. -/
theorem Outbound.Moves.serves (hm : o.Moves stop idle c o' c')
    (hidle : c.wire.mode = .polls → idle ≤ delay) (hs : c.outbound = us ++ ds)
    (h : Serves delay done late ds o c) :
    ∃ done' late' ds', done' ++ late' = done ++ late ∧ c'.outbound = us ++ ds' ∧
      Serves delay done' late' ds' o' c' := by
  have howes := h.owes
  unfold Outbound.Owes at howes
  cases hm with
  | stopped | readFailed => exact ⟨done, late, ds, rfl, hs, h.of_owes trivial rfl rfl rfl⟩
  | foundEmpty _ hp _ hq hmode =>
    rw [hp] at howes
    have hnil : late = [] := List.map_eq_nil_iff.1 (howes.trans hq)
    refine ⟨done, late, ds, rfl, hs, h.of_owes ⟨howes, ?_, ?_⟩ rfl rfl rfl⟩
    · exact Nat.add_le_add_left (hidle hmode) _
    · simp [hnil]
  | tookEmpty _ hp _ hq =>
    -- no empty packet is among the offers
    rw [hp] at howes
    obtain ⟨x, rest, rfl, hx, -⟩ := List.map_eq_cons_iff.1 (howes.trans hq)
    exact absurd hx (h.nonempty x (by simp))
  | took _ hp _ hq =>
    rw [hp] at howes
    obtain ⟨x, rest, rfl, hx, hrest⟩ := List.map_eq_cons_iff.1 (howes.trans hq)
    exact ⟨done, _, ds, rfl, hs, h.of_owes ⟨x, rest, rfl, by rw [hx], hrest⟩ rfl rfl rfl⟩
  | woke _ hp => rw [hp] at howes; exact ⟨done, late, ds, rfl, hs, h.of_owes howes.1 rfl rfl rfl⟩
  | refused _ _ hr => rw [h.unrefused] at hr; cases hr
  | @sent p hp =>
    rw [hp] at howes
    obtain ⟨x, rest, rfl, hpacket, hrest⟩ := howes
    have hx : x ∈ x :: rest := by simp
    refine ⟨done ++ [x], rest, ds ++ [⟨c.now, p, .outbound, c.serverOpen⟩], by simp, ?_, ?_⟩
    · rw [Channel.outbound_push, hs, List.append_assoc]
    · exact {
        answered := List.rel_append h.answered
          (.cons ⟨hpacket, h.serverOpen, h.past x hx, h.soon x hx⟩ .nil)
        owes := hrest
        nonempty := fun y hy => h.nonempty y (List.mem_cons_of_mem _ hy)
        past := fun y hy => h.past y (List.mem_cons_of_mem _ hy)
        soon := fun y hy => h.soon y (List.mem_cons_of_mem _ hy)
        serverOpen := h.serverOpen
        unrefused := by simp [Channel.markSent, Channel.push, h.serverOpen] }

/-- The inbound pump sends nothing but keepalives. -/
theorem Inbound.Moves.outbound {config : InboundConfig} {i i' : Inbound}
    (hm : i.Moves stop config c i' c') : c'.outbound = c.outbound := by
  cases hm with
  | pinged => simp [Channel.outbound, Channel.push, Channel.markSent]
  | _ => rfl

/-- What waits to be read, and so what is owed, is no concern of the inbound pump. -/
theorem Inbound.Moves.serves {config : InboundConfig} {i i' : Inbound}
    (hm : i.Moves stop config c i' c') (h : Serves delay done late ds o c) :
    Serves delay done late ds o c' := by
  obtain ⟨hopen, href⟩ := hm.unrefused h.serverOpen h.unrefused
  refine h.of_owes ?_ hm.now (hopen.trans h.serverOpen.symm) (href.trans h.unrefused.symm)
  have howes := h.owes
  unfold Outbound.Owes at howes ⊢
  rw [hm.wire_queue, hm.now]
  exact howes

/-- New packets are offers that have all the time there is. -/
theorem Serves.push {ps : List Packet} (h : Serves delay done late ds o c) (hps : [] ∉ ps)
    (hqueue : c'.wire.queue = c.wire.queue ++ ps) (hnow : c'.now = c.now)
    (hopen : c'.serverOpen = c.serverOpen)
    (href : c'.transport.isRefused = c.transport.isRefused) :
    Serves delay done (late ++ offersAt c.now ps) ds o c' := by
  have hmap : ∀ xs : List Offer, xs.map Offer.packet = c.wire.queue →
      (xs ++ offersAt c.now ps).map Offer.packet = c'.wire.queue := by
    intro xs hxs
    rw [List.map_append, hxs, map_packet_offersAt, hqueue]
  refine ⟨h.answered, ?_, ?_, ?_, ?_, hopen.trans h.serverOpen, href.trans h.unrefused⟩
  · have howes := h.owes
    unfold Outbound.Owes at howes ⊢
    rw [hnow]
    cases hp : o.phase with
    | ready => rw [hp] at howes; exact hmap late howes
    | idling w =>
      rw [hp] at howes
      obtain ⟨hq, hw, hlate⟩ := howes
      refine ⟨hmap late hq, hw, List.forall_mem_append.2 ⟨hlate, ?_⟩⟩
      intro x hx
      rw [(mem_offersAt hx).1]
      exact hw
    | sending p =>
      rw [hp] at howes
      obtain ⟨x, rest, rfl, hpacket, hq⟩ := howes
      exact ⟨x, rest ++ offersAt c.now ps, rfl, hpacket, hmap rest hq⟩
    | ended => trivial
  · refine List.forall_mem_append.2 ⟨h.nonempty, fun x hx hnil => hps ?_⟩
    rw [← hnil]
    exact (mem_offersAt hx).2
  · rw [hnow]
    exact List.forall_mem_append.2 ⟨h.past, fun x hx => Nat.le_of_eq (mem_offersAt hx).1⟩
  · rw [hnow]
    refine List.forall_mem_append.2 ⟨h.soon, fun x hx => ?_⟩
    rw [(mem_offersAt hx).1]
    exact Nat.le_add_right _ _

end

/-- Whether an event lets the packets of an attempt go out: it makes no send wait, leaves the server
where it is and pushes no empty packet. -/
structure Event.IsCalm (e : Event) : Prop where
  goes : e.blocks = false
  server : e.keepsServer = true
  packet : e ≠ .push []

namespace Run

section
variable {r r' r'' r₁ : Run} {a : Attempt} {es : List Event} {xs : List Offer}

/-! ## The offers of a run -/

/-- A run, as `Leads` describes it, and the offers that are made in it. What waits at its beginning
is offered then. -/
inductive Offers (r : Run) : List Event → List Offer → Run → Prop
  | start : Offers r [] (offersAt r.now r.channel.wire.queue) r
  | event {es : List Event} {xs : List Offer} {r' : Run} (h : Offers r es xs r') (e : Event) :
    Offers r (es ++ [e]) (xs ++ offersAt r'.now (pushes [e])) (r'.happen e)
  | does {es : List Event} {xs : List Offer} {r' r'' : Run} (h : Offers r es xs r')
    (hd : r'.Does r'') : Offers r es xs r''
  | clock {es : List Event} {xs : List Offer} {r' : Run} (h : Offers r es xs r') {t : Nat}
    (hn : r'.step = none) (hle : r'.now ≤ t) (ht : ∀ w, r'.timer? = some w → t ≤ w) :
    Offers r es xs (r'.moveClock t)

theorem Offers.leads (h : r.Offers es xs r') : r.Leads es r' := by
  induction h with
  | start => exact .start
  | event _ e ih => exact ih.event e
  | does _ hd ih => exact ih.does hd
  | clock _ hn hle ht ih => exact ih.clock hn hle ht

/-- Every run has its offers. -/
theorem Leads.offers (h : r.Leads es r') : ∃ xs, r.Offers es xs r' := by
  induction h with
  | start => exact ⟨_, .start⟩
  | event _ e ih => exact ih.imp' _ fun _ h => h.event e
  | does _ hd ih => exact ih.imp fun _ h => h.does hd
  | clock _ hn hle ht ih => exact ih.imp fun _ h => h.clock hn hle ht

theorem Offers.settleWithin (fuel : Nat) (h : r.Offers es xs r') :
    r.Offers es xs (r'.settleWithin fuel) := by
  induction fuel generalizing r' with
  | zero => exact h
  | succ fuel ih =>
    unfold Run.settleWithin
    split
    · exact h
    · rename_i hs; exact ih (h.does (does_of_step hs))

/-- What is offered is what waits and what is pushed, and no offer is made before the beginning. -/
theorem Offers.packets (h : r.Offers es xs r') :
    xs.map Offer.packet = r.channel.wire.queue ++ pushes es ∧
      r.now ≤ r'.now ∧ ∀ x ∈ xs, r.now ≤ x.time ∧ x.time ≤ r'.now := by
  induction h with
  | start =>
    refine ⟨by simp [pushes], Nat.le_refl _, fun x hx => ?_⟩
    rw [(mem_offersAt hx).1]
    exact ⟨Nat.le_refl _, Nat.le_refl _⟩
  | @event es xs r' _ e ih =>
    obtain ⟨hmap, hle, htime⟩ := ih
    rw [happen_now]
    refine ⟨?_, hle, List.forall_mem_append.2 ⟨htime, fun x hx => ?_⟩⟩
    · rw [List.map_append, hmap, map_packet_offersAt, List.append_assoc]
      simp [pushes]
    · rw [(mem_offersAt hx).1]
      exact ⟨hle, Nat.le_refl _⟩
  | does _ hd ih => rw [hd.change.now]; exact ih
  | clock _ _ hle _ ih =>
    obtain ⟨hmap, hle', htime⟩ := ih
    exact ⟨hmap, hle'.trans hle, fun x hx => ⟨(htime x hx).1, (htime x hx).2.trans hle⟩⟩

/-! ## The offers of an attempt -/

/-- How long a packet may wait: an interface that polls is left alone for a pause. -/
def greatestDelay (r : Run) : Nat :=
  if r.channel.wire.mode = .polls then r.config.idleInterval.toNat else 0

theorem SameTerms.greatestDelay (h : r.SameTerms r') : r'.greatestDelay = r.greatestDelay := by
  unfold Run.greatestDelay
  rw [h.mode, h.config]

/-- The step in which an attempt gets its interface. The server is open, nothing has to wait to be
sent, and no empty packet waits to be read. -/
structure Connects (r r₁ : Run) : Prop where
  does : r.Does r₁
  before : ∀ a, r.phase ≠ .pumping a
  pumping : ∃ a, r₁.phase = .pumping a
  free : r.channel.IsFree
  serverOpen : r.channel.serverOpen = true
  queue : [] ∉ r.channel.wire.queue

theorem Connects.of_attempting {server : Net.Address} {f : Nat}
    (hp : r.phase = .attempting server f)
    (hp' : ∃ a, (r.openAttempt server f).phase = .pumping a) (hf : r.channel.IsFree)
    (hs : r.channel.serverOpen = true) (hq : [] ∉ r.channel.wire.queue) :
    r.Connects (r.openAttempt server f) :=
  ⟨.openAttempt hp, fun _ h => (nomatch hp.symm.trans h), hp', hf, hs, hq⟩

/-- The attempt that runs in `r₁` still runs in `r`. -/
def StillRuns (r₁ r : Run) : Prop :=
  (∃ a, r.phase = .pumping a) ∧ r.established = r₁.established

/-- The offers `xs` of the attempt that runs in `r₁` go with its pump, as long as it runs. -/
def Served (r₁ : Run) (xs : List Offer) : Run → Prop :=
  Within r₁.established fun o _ c => ∃ done late ds, done ++ late = xs ∧
    c.outbound = r₁.channel.outbound ++ ds ∧ Serves r₁.greatestDelay done late ds o c

theorem Served.change (h : Served r₁ xs r) (hc : r.Change r') (hterms : r₁.SameTerms r) :
    Served r₁ xs r' := by
  refine Within.change h hc ?_ ?_
  · rintro a o c hm ⟨done, late, ds, rfl, hs, hserves⟩
    refine hm.serves ?_ hs hserves
    intro hmode
    rw [← hterms.greatestDelay, Run.greatestDelay, if_pos hmode]
  · rintro a i c hm ⟨done, late, ds, rfl, hs, hserves⟩
    exact ⟨done, late, ds, rfl, hm.outbound.trans hs, hm.serves hserves⟩

theorem Served.happen (h : Served r₁ xs r) {e : Event} (he : e.IsCalm) :
    Served r₁ (xs ++ offersAt r.now (pushes [e])) (r.happen e) := by
  refine Within.happen h e ?_
  rintro a - ⟨done, late, ds, rfl, hs, hserves⟩
  obtain ⟨hq, hopen, href⟩ := r.happen_channel (e := e) (by rintro rfl; cases he.server)
  refine ⟨done, late ++ offersAt r.now (pushes [e]), ds, by rw [List.append_assoc], ?_, ?_⟩
  · unfold Channel.outbound at hs ⊢
    rw [(happen_sent_taken r e).1, hs]
  · refine hserves.push ?_ hq (r.happen_now e) hopen href
    have hne := he.packet
    cases e with
    | push p =>
      intro hp
      obtain rfl : [] = p := by simpa [pushes] using hp
      exact hne rfl
    | _ => simp [pushes]

/-- Where the connection rests and nothing has to wait, the outbound pump either waits for a packet
or pauses. -/
theorem outbound_of_step (hl : r.Linked) (hf : r.channel.IsFree) (hp : r.phase = .pumping a)
    (hn : r.step = none) : a.outbound.phase = .ready ∧ r.channel.wire.queue = [] ∨
      ∃ w, a.outbound.phase = .idling w ∧ r.now < w := by
  obtain ⟨ho, hi, hne⟩ := rests_of_step hp hn
  cases ho with
  | reading hph _ _ hq => exact .inl ⟨hph, hq⟩
  | idling hph _ hw => exact .inr ⟨_, hph, hw⟩
  | sending _ hfull => rw [hf.transport] at hfull; cases hfull
  | ended hph =>
    -- the pump that has ended has asked the other one to stop
    have hres : a.outbound.result? ≠ none := by
      rw [Outbound.result?, hph]
      exact Option.some_ne_none _
    have hstop : a.stopInbound = true := by
      rw [(hl a hp).stopInbound_eq, Option.isSome_iff_ne_none]
      exact hres
    rw [hstop, Bool.or_true] at hi
    rcases hi.of_stop with hi | ⟨_, -, hfull⟩ | ⟨-, hfull⟩
    · exact absurd hi (not_not_intro (hne.resolve_left hres))
    · rw [hf.wire] at hfull; cases hfull
    · rw [hf.transport] at hfull; cases hfull

/-- Where the connection rests, no offer is as late as it may be. -/
theorem lt_of_step {delay : Nat} {done late : List Offer} {ds : List Sent} (hl : r.Linked)
    (hf : r.channel.IsFree) (hp : r.phase = .pumping a) (hn : r.step = none)
    (h : Serves delay done late ds a.outbound r.channel) {x : Offer} (hx : x ∈ late) :
    r.now < x.time + delay := by
  have howes := h.owes
  unfold Outbound.Owes at howes
  rcases outbound_of_step hl hf hp hn with ⟨ho, hq⟩ | ⟨w, ho, hw⟩
  · rw [ho] at howes
    have hnil : late = [] := List.map_eq_nil_iff.1 (howes.trans hq)
    simp [hnil] at hx
  · rw [ho] at howes
    exact Nat.lt_of_lt_of_le hw (howes.2.2 x hx)

theorem Served.moveClock (h : Served r₁ xs r) (hl : r.Linked) (hf : r.channel.IsFree)
    (hn : r.step = none) {t : Nat} (hle : r.now ≤ t) (ht : ∀ w, r.timer? = some w → t ≤ w) :
    Served r₁ xs (r.moveClock t) := by
  refine ⟨h.1, ?_⟩
  intro a hp hest
  obtain ⟨done, late, ds, hxs, hs, hserves⟩ := h.2 a hp hest
  have howes := hserves.owes
  unfold Outbound.Owes at howes
  have hpast : ∀ x ∈ late, x.time ≤ t := fun x hx => (hserves.past x hx).trans hle
  refine ⟨done, late, ds, hxs, hs, hserves.answered, ?_, hserves.nonempty, hpast, ?_,
    hserves.serverOpen, hserves.unrefused⟩
  all_goals
    rcases outbound_of_step hl hf hp hn with ⟨ho, hq⟩ | ⟨w, ho, -⟩ <;> rw [ho] at howes
  · unfold Outbound.Owes
    rw [ho]
    exact howes
  · unfold Outbound.Owes
    rw [ho]
    exact ⟨howes.1, howes.2.1.trans (Nat.add_le_add_right hle _), howes.2.2⟩
  · have hnil : late = [] := List.map_eq_nil_iff.1 (howes.trans hq)
    simp [hnil]
  · obtain ⟨s, hs, hsw⟩ := timer?_le_outbound (r := r) hp (by rw [Outbound.timer?, ho])
    intro x hx
    exact ((ht s hs).trans hsw).trans (howes.2.2 x hx)

theorem Connects.served (h : r.Connects r₁) :
    Served r₁ (offersAt r₁.now r₁.channel.wire.queue) r₁ := by
  obtain ⟨hd, hp, ⟨a₁, hp₁⟩, -, hs, hq⟩ := h
  refine ⟨Nat.le_refl _, ?_⟩
  intro a hp' _
  have hfresh := hd.change.outbound_fresh hp hp'
  cases hd.change with
  | resolved | unresolved | stopped | begins | wakes => cases hp₁
  | fails | loses => exact absurd hp₁ (afterAttempt_ne_pumping _ _ _ _)
  | @outbound a _ _ hph | @inbound a _ _ hph => exact absurd hph (hp a)
  | connects =>
    refine ⟨[], _, [], rfl, (List.append_nil _).symm, ?_⟩
    rw [hfresh]
    refine ⟨.nil, map_packet_offersAt _ _, ?_, ?_, ?_, hs, rfl⟩
    · intro x hx hnil
      exact hq (hnil ▸ (mem_offersAt hx).2)
    · intro x hx
      exact Nat.le_of_eq (mem_offersAt hx).1
    · intro x hx
      rw [(mem_offersAt hx).1]
      exact Nat.le_add_right _ _

/-- An attempt in which nothing has to wait answers its offers. -/
theorem Offers.served (h₁ : Served r₁ (offersAt r₁.now r₁.channel.wire.queue) r₁)
    (hl₁ : r₁.Linked) (hf : r₁.channel.IsFree) (h : r₁.Offers es xs r)
    (he : ∀ e ∈ es, e.IsCalm) : Served r₁ xs r := by
  induction h with
  | start => exact h₁
  | event _ e ih =>
    rw [List.forall_mem_append, List.forall_mem_singleton] at he
    exact (ih he.1).happen he.2
  | does hx hd ih => exact (ih he).change hd.change hx.leads.sameTerms
  | clock hx hn hle ht ih =>
    have hfree := hx.leads.isFree hf fun e h => (he e h).goes
    exact (ih he).moveClock (hl₁.leads hx.leads) hfree hn hle ht

/-! ## Empty reads -/

/-- The step in which the outbound pump reads nothing, and a pause begins. -/
structure ReadsEmpty (r r' : Run) : Prop where
  does : r.Does r'
  before : ∃ a, r.phase = .pumping a ∧ a.outbound.phase = .ready
  after : ∃ a w, r'.phase = .pumping a ∧ a.outbound.phase = .idling w

/-- As long as the attempt runs that runs in `r₁`, its outbound pump reads nothing before the time
`w`: it pauses until then or has ended. -/
def Leaves (r₁ : Run) (w : Nat) : Run → Prop :=
  Within r₁.established fun o _ c => o.phase = .idling w ∨ w ≤ c.now ∨ o.result? ≠ none

theorem ReadsEmpty.leaves (h : r.ReadsEmpty r') :
    r'.established = r.established ∧ Leaves r' (r.now + r.config.idleInterval.toNat) r' := by
  obtain ⟨hd, ⟨a, hp, ho⟩, a', w, hp', ho'⟩ := h
  cases hd.change with
  | resolved hph | unresolved hph | begins hph | fails hph | connects hph | wakes hph =>
    rw [hp] at hph; cases hph
  | stopped hph =>
    rw [hp] at hph
    rcases hph with hph | ⟨_, _, hph⟩ | ⟨_, _, _, hph⟩ <;> cases hph
  | loses => exact absurd hp' (afterAttempt_ne_pumping _ _ _ _)
  | inbound hph =>
    cases hp.symm.trans hph
    cases hp'
    rw [ho] at ho'
    cases ho'
  | outbound hph hm =>
    cases hp.symm.trans hph
    cases hp'
    refine ⟨rfl, Nat.le_refl _, ?_⟩
    intro a hp _
    cases hp
    cases hm with
    | foundEmpty | tookEmpty => exact .inl rfl
    | stopped | readFailed | took | woke | refused | sent => cases ho'

theorem Leaves.change {w : Nat} (h : Leaves r₁ w r) (hc : r.Change r') : Leaves r₁ w r' := by
  refine Within.change h hc ?_ ?_
  · intro a o c hm hw
    rw [hm.now]
    rcases hw with hw | hw | hw
    · cases hm with
      | stopped => exact .inr (.inr (Option.some_ne_none _))
      | woke _ hp hle => cases hw.symm.trans hp; exact .inr (.inl hle)
      | readFailed _ hp | foundEmpty _ hp | tookEmpty _ hp | took _ hp => cases hw.symm.trans hp
      | refused hp | sent hp => cases hw.symm.trans hp
    · exact .inr (.inl hw)
    · exact absurd hm.result?_eq_none hw
  · intro a i c hm hw
    rw [hm.now]
    exact hw

theorem Leaves.leads {w : Nat} (h₁ : Leaves r₁ w r₁) (h : r₁.Leads es r) : Leaves r₁ w r := by
  induction h with
  | start => exact h₁
  | @event es r _ e ih =>
    refine Within.happen ih e fun a _ hw => ?_
    have hnow : (r.happen e).channel.now = r.channel.now := r.happen_now e
    rw [hnow]
    exact hw
  | does _ hd ih => exact ih.change hd.change
  | clock _ _ hle _ ih =>
    refine ⟨ih.1, fun a hp hest => ?_⟩
    exact (ih.2 a hp hest).imp_right (Or.imp_left fun hw => hw.trans hle)

/-- Two reads of an attempt that both find nothing are a pause apart. -/
theorem ReadsEmpty.le {r₃ r₄ : Run} (h : r.ReadsEmpty r') (hl : r'.Leads es r₃)
    (h' : r₃.ReadsEmpty r₄) (hest : r₃.established = r.established) :
    r.now + r.config.idleInterval.toNat ≤ r₃.now := by
  obtain ⟨hsame, hleaves⟩ := h.leaves
  obtain ⟨a, hp, ho⟩ := h'.before
  rcases (hleaves.leads hl).2 a hp (hest.trans hsame.symm) with hw | hw | hw
  · rw [ho] at hw; cases hw
  · exact hw
  · rw [Outbound.result?, ho] at hw
    exact absurd rfl hw

end

/-! ## The law of latency -/

/-- The moment `t` of a run is over. -/
def IsOver (r : Run) (t : Nat) : Prop := t < r.now ∨ t = r.now ∧ r.step = none

/-- The datagrams that outbound pumps have sent since `r₁`. -/
def outboundSince (r₁ r : Run) : List Sent := r.channel.outbound.drop r₁.channel.outbound.length

/-- The offers of an attempt that lasts are answered on time. -/
theorem Connects.answers {r r₁ r' : Run} {es : List Event} {xs : List Offer} (h : r.Connects r₁)
    (hx : r₁.Offers es xs r') (he : ∀ e ∈ es, e.IsCalm) (hr : r₁.StillRuns r') :
    r'.channel.outbound = r₁.channel.outbound ++ r₁.outboundSince r' ∧
    ∃ done late, done ++ late = xs ∧
      List.Forall₂ (OnTime r₁.greatestDelay) done (r₁.outboundSince r') ∧
      ∀ x ∈ late, ¬ r'.IsOver (x.time + r₁.greatestDelay) := by
  obtain ⟨⟨a, hp⟩, hest⟩ := hr
  have hc := h.does.change
  have hl₁ : r₁.Linked := Linked.change (fun a hp => absurd hp (h.before a)) hc
  have hf₁ : r₁.channel.IsFree := isFree_of_change h.free hc
  obtain ⟨done, late, ds, hxs, hs, hserves⟩ := (hx.served h.served hl₁ hf₁ he).2 a hp hest
  have hsince : r₁.outboundSince r' = ds := by
    rw [outboundSince, hs, List.drop_left]
  rw [hsince]
  refine ⟨hs, done, late, hxs, hserves.answered, ?_⟩
  rintro x hx' (hlt | ⟨heq, hn⟩)
  · exact absurd hlt (Nat.not_lt.2 (hserves.soon x hx'))
  · have hfree := hx.leads.isFree hf₁ fun e h => (he e h).goes
    exact absurd heq (Nat.ne_of_gt (lt_of_step (hl₁.leads hx.leads) hfree hp hn hserves hx'))

/-- When all offers of an attempt are over, what it has sent is what it was offered. -/
theorem Connects.map_packet {r r₁ r' : Run} {es : List Event} {xs : List Offer}
    (h : r.Connects r₁) (hx : r₁.Offers es xs r') (he : ∀ e ∈ es, e.IsCalm) (hr : r₁.StillRuns r')
    (hover : ∀ x ∈ xs, r'.IsOver (x.time + r₁.greatestDelay)) :
    (r₁.outboundSince r').map Sent.packet =
      (xs.map Offer.packet).map (List.take Packet.greatestSize) := by
  obtain ⟨-, done, late, rfl, hanswers, hlate⟩ := h.answers hx he hr
  cases late with
  | nil =>
    rw [List.append_nil, map_packet_of_onTime hanswers, List.map_map]
    rfl
  | cons x late => exact absurd (hover x (by simp)) (hlate x (by simp))

/-- In an attempt whose server stays and in which no operation waits, what the outbound pump sends
answers the packets that waited at the beginning and those that are pushed, one by one and in their
order. None is sent before it is there. Where reads wait for packets each is sent in the same
millisecond, and where they do not, at most a pause later: a packet for which this time is over has
been sent. So two attempts that are given the same packets send the same datagrams, whatever the
kinds of their interfaces, once the time of all of them is over. Between two reads of an attempt
that both find nothing there is a pause. -/
theorem latency_lawful {r r₁ r' : Run} {es : List Event} {xs : List Offer} (h : r.Connects r₁)
    (hx : r₁.Offers es xs r') (he : ∀ e ∈ es, e.IsCalm) (hr : r₁.StillRuns r') :
    (xs.map Offer.packet = r₁.channel.wire.queue ++ pushes es ∧
      ∀ x ∈ xs, r₁.now ≤ x.time ∧ x.time ≤ r'.now) ∧
    (r'.channel.outbound = r₁.channel.outbound ++ r₁.outboundSince r' ∧
      ∃ done late, done ++ late = xs ∧
        List.Forall₂ (OnTime r₁.greatestDelay) done (r₁.outboundSince r') ∧
        ∀ x ∈ late, ¬ r'.IsOver (x.time + r₁.greatestDelay)) ∧
    (∀ (q q₁ q' : Run) (es' : List Event) (ys : List Offer), q.Connects q₁ →
      q₁.Offers es' ys q' → (∀ e ∈ es', e.IsCalm) → q₁.StillRuns q' →
      xs.map Offer.packet = ys.map Offer.packet →
      (∀ x ∈ xs, r'.IsOver (x.time + r₁.greatestDelay)) →
      (∀ y ∈ ys, q'.IsOver (y.time + q₁.greatestDelay)) →
        (r₁.outboundSince r').map Sent.packet = (q₁.outboundSince q').map Sent.packet) ∧
    ∀ (es₂ : List Event) (r₂ r₃ : Run) (es₄ : List Event) (r₄ r₅ : Run), r₁.Leads es₂ r₂ →
      r₂.ReadsEmpty r₃ → r₃.Leads es₄ r₄ → r₄.ReadsEmpty r₅ → r₄.established = r₂.established →
        r₂.now + r₁.config.idleInterval.toNat ≤ r₄.now := by
  refine ⟨⟨hx.packets.1, hx.packets.2.2⟩, h.answers hx he hr, ?_, ?_⟩
  · intro q q₁ q' es' ys hq hy he' hr' hsame hover hover'
    rw [h.map_packet hx he hr hover, hq.map_packet hy he' hr' hover', hsame]
  · intro es₂ r₂ r₃ es₄ r₄ r₅ hl h₂ hl' h₄ hest
    have hle := h₂.le hl' h₄ hest
    rw [hl.sameTerms.config] at hle
    exact hle

/-- The small run with an interface that polls. -/
def trialPolling : Run :=
  { trial with channel := { trial.channel with wire := { trial.channel.wire with mode := .polls } } }

/-- That run before its first attempt. -/
def trialPollingAttempting : Run := (trialPolling.happen .run).settleWithin 2

/-- That run when its first attempt has got its interface. -/
def trialPollingOpened : Run := trialPollingAttempting.openAttempt (.v4 ⟨127, 0, 0, 1⟩) 0

/-- The small run in which a packet is pushed at the time 30, at the time 150. -/
def trialWaited : Run :=
  (((trialOpened.moveClock 30).happen (.push [69, 1])).settleWithin 2).moveClock 150

/-- The run that polls in the pause in which that packet is pushed. -/
def trialPollingIdle : Run :=
  (((trialPollingOpened.settleWithin 1).moveClock 30).happen (.push [69, 1])).moveClock 100

/-- That run at the time 150. -/
def trialPolled : Run := (trialPollingIdle.settleWithin 4).moveClock 150

theorem trialOpened_offers : trialOpened.Offers [.push [69, 1]] [⟨30, [69, 1]⟩] trialWaited := by
  have h₁ : trialOpened.Offers [] [] (trialOpened.moveClock 30) :=
    Offers.start.clock rfl (by decide) (le_timer (s := 15000) rfl (by decide))
  exact ((h₁.event (.push [69, 1])).settleWithin 2).clock rfl (by decide)
    (le_timer (s := 15030) rfl (by decide))

theorem trialPollingOpened_offers :
    trialPollingOpened.Offers [.push [69, 1]] [⟨30, [69, 1]⟩] trialPollingIdle := by
  have h₁ : trialPollingOpened.Offers [] [] ((trialPollingOpened.settleWithin 1).moveClock 30) :=
    (Offers.start.settleWithin 1).clock rfl (by decide) (le_timer (s := 100) rfl (by decide))
  exact (h₁.event (.push [69, 1])).clock rfl (by decide) (le_timer (s := 100) rfl (by decide))

/-- In the small run the packet is sent when it is pushed, with an interface that polls at the end
of the pause, and nothing else is sent either way. -/
theorem trialPolled_latency :
    trialOpened.outboundSince trialWaited = [⟨30, [69, 1], .outbound, true⟩] ∧
    trialPollingOpened.outboundSince trialPolled = [⟨100, [69, 1], .outbound, true⟩] ∧
    (trialOpened.outboundSince trialWaited).map Sent.packet =
      (trialPollingOpened.outboundSince trialPolled).map Sent.packet ∧
    List.Forall₂ (OnTime 100) [⟨30, [69, 1]⟩] (trialPollingOpened.outboundSince trialPolled) ∧
    trialPollingOpened.now + 100 ≤ (trialPollingIdle.settleWithin 3).now := by
  have hwaits : trialAttempting.Connects trialOpened :=
    .of_attempting rfl ⟨_, rfl⟩ ⟨rfl, rfl⟩ rfl (by decide)
  have hpolls : trialPollingAttempting.Connects trialPollingOpened :=
    .of_attempting rfl ⟨_, rfl⟩ ⟨rfl, rfl⟩ rfl (by decide)
  have hcalm : ∀ e ∈ [Event.push [69, 1]], e.IsCalm := by
    simp only [List.forall_mem_singleton]
    exact ⟨rfl, rfl, nofun⟩
  have hpolled : trialPollingOpened.Offers [.push [69, 1]] [⟨30, [69, 1]⟩] trialPolled :=
    (trialPollingOpened_offers.settleWithin 4).clock rfl (by decide)
      (le_timer (s := 200) rfl (by decide))
  obtain ⟨-, ⟨-, done, late, hxs, hanswers, hlate⟩, -, hempty⟩ :=
    latency_lawful hpolls hpolled hcalm ⟨⟨_, rfl⟩, rfl⟩
  obtain ⟨-, -, hagree, -⟩ :=
    latency_lawful hwaits trialOpened_offers hcalm ⟨⟨_, rfl⟩, rfl⟩
  refine ⟨rfl, rfl, ?_, ?_, ?_⟩
  · refine hagree _ _ _ _ _ hpolls hpolled hcalm ⟨⟨_, rfl⟩, rfl⟩ rfl ?_ ?_
    · simp only [List.forall_mem_singleton]
      exact .inl (by decide)
    · simp only [List.forall_mem_singleton]
      exact .inl (by decide)
  · -- the time of the offer is over
    cases late with
    | nil => rw [List.append_nil] at hxs; exact hxs ▸ hanswers
    | cons x late =>
      have hx : x ∈ [(⟨30, [69, 1]⟩ : Offer)] := by rw [← hxs]; simp
      rw [List.mem_singleton] at hx
      exact absurd (.inl (by rw [hx]; decide)) (hlate x (by simp))
  · refine hempty [] trialPollingOpened (trialPollingOpened.settleWithin 1) [.push [69, 1]] _
      (trialPollingIdle.settleWithin 4) .start ?_ ?_ ?_ rfl
    · exact ⟨does_of_step rfl, ⟨_, rfl, rfl⟩, ⟨_, _, rfl, rfl⟩⟩
    · have h₁ : (trialPollingOpened.settleWithin 1).Leads []
          ((trialPollingOpened.settleWithin 1).moveClock 30) :=
        Leads.start.clock rfl (by decide) (le_timer (s := 100) rfl (by decide))
      exact ((h₁.event (.push [69, 1])).clock (t := 100) rfl (by decide)
        (le_timer (s := 100) rfl (by decide))).settleWithin 3
    · exact ⟨does_of_step rfl, ⟨_, rfl, rfl⟩, ⟨_, _, rfl, rfl⟩⟩

end Run

end TunnelRelay.Relay
