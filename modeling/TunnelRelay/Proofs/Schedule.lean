import TunnelRelay.Proofs.Forwarding
import TunnelRelay.Proofs.Instants
import TunnelRelay.Proofs.Silence
/-!
# When an attempt sends

A link that has been idle for the keepalive interval gets a keepalive, and no other link does.
`Scheduled` is what the datagrams of one attempt look like then, as a property of their list alone;
`Keeps` says how the list goes with the clock and the remembered time of the last send. Each step of
either pump keeps it, and so does the clock, because it never moves beyond the deadline while the
inbound pump waits.
-/

namespace TunnelRelay.Relay

/-! ## Schedules -/

/-- When the last of some datagrams was sent. Before the first one it is the link's start. -/
def lastSend (start : Nat) (ds : List Sent) : Nat :=
  match ds.getLast? with
  | some d => d.time
  | none => start

/-- When the last datagram before the time `t` was sent, or the link's start. -/
def lastSendBefore (start t : Nat) (ds : List Sent) : Nat :=
  lastSend start (ds.filter fun d => d.time < t)

/-- Among some datagrams is a keepalive of the time `t`. -/
def KeepaliveAt (ds : List Sent) (t : Nat) : Prop := ∃ d ∈ ds, d.origin = .keepalive ∧ d.time = t

/-- The outbound direction never sends in the very millisecond in which a keepalive is due. -/
def Apart (start k : Nat) (ds : List Sent) : Prop :=
  ∀ pre d, pre ++ [d] <+: ds → d.origin = .outbound → d.time ≠ lastSend start pre + k

/-- Datagrams of a link with a keepalive exactly where nothing was sent for the interval `k`. -/
inductive Scheduled (start k : Nat) : List Sent → Prop
  | nil : Scheduled start k []
  | outbound {ds : List Sent} {d : Sent} (h : Scheduled start k ds) (ho : d.origin = .outbound)
    (hge : lastSend start ds ≤ d.time) (hlt : d.time < lastSend start ds + k) :
    Scheduled start k (ds ++ [d])
  | keepalive {ds : List Sent} {d : Sent} (h : Scheduled start k ds) (ho : d.origin = .keepalive)
    (ht : d.time = lastSend start ds + k) (hd : d.packet = Packet.keepalive)
    (hr : d.received = true) : Scheduled start k (ds ++ [d])

section
variable {start k : Nat} {ds : List Sent}

@[simp] theorem lastSend_nil (start : Nat) : lastSend start [] = start := rfl

@[simp] theorem lastSend_concat (start : Nat) (ds : List Sent) (d : Sent) :
    lastSend start (ds ++ [d]) = d.time := by
  rw [lastSend, List.getLast?_concat]

theorem keepaliveAt_concat {d : Sent} {t : Nat} : KeepaliveAt (ds ++ [d]) t ↔
    KeepaliveAt ds t ∨ d.origin = .keepalive ∧ d.time = t := by
  simp [KeepaliveAt, or_and_right, exists_or]

theorem Apart.of_concat {d : Sent} (h : Apart start k (ds ++ [d])) : Apart start k ds :=
  fun pre d' hpre => h pre d' (hpre.trans (List.prefix_append _ _))

/-- Nothing was sent before the link's start or after the last send. -/
theorem Scheduled.bounds (h : Scheduled start k ds) :
    start ≤ lastSend start ds ∧ ∀ d ∈ ds, start ≤ d.time ∧ d.time ≤ lastSend start ds := by
  have next {ds : List Sent} {d : Sent} (ih : start ≤ lastSend start ds ∧
      ∀ d ∈ ds, start ≤ d.time ∧ d.time ≤ lastSend start ds) (hd : lastSend start ds ≤ d.time) :
      start ≤ lastSend start (ds ++ [d]) ∧
        ∀ d' ∈ ds ++ [d], start ≤ d'.time ∧ d'.time ≤ lastSend start (ds ++ [d]) := by
    rw [lastSend_concat, List.forall_mem_append, List.forall_mem_singleton]
    exact ⟨ih.1.trans hd, fun d' hd' => ⟨(ih.2 d' hd').1, (ih.2 d' hd').2.trans hd⟩,
      ih.1.trans hd, Nat.le_refl _⟩
  induction h with
  | nil => exact ⟨Nat.le_refl _, nofun⟩
  | outbound _ _ hge _ ih => exact next ih hge
  | keepalive _ _ ht _ _ ih => exact next ih (ht ▸ Nat.le_add_right _ _)

/-- No silence is longer than the interval, and a keepalive ends a silence of just that length. -/
theorem Scheduled.spaced (h : Scheduled start k ds) {pre : List Sent} {d : Sent}
    (hpre : pre ++ [d] <+: ds) : d.time ≤ lastSend start pre + k ∧ (d.origin = .keepalive →
      d.time = lastSend start pre + k ∧ d.packet = Packet.keepalive ∧ d.received = true) := by
  induction h with
  | nil => exact absurd (List.prefix_nil.1 hpre) (by simp)
  | @outbound ds d' _ ho _ hlt ih =>
    rcases List.prefix_concat_iff.1 hpre with e | hpre
    · obtain ⟨rfl, rfl⟩ : pre = ds ∧ d = d' := by simpa using List.append_inj' e rfl
      exact ⟨Nat.le_of_lt hlt, fun hk => by rw [ho] at hk; cases hk⟩
    · exact ih hpre
  | @keepalive ds d' _ _ ht hd hr ih =>
    rcases List.prefix_concat_iff.1 hpre with e | hpre
    · obtain ⟨rfl, rfl⟩ : pre = ds ∧ d = d' := by simpa using List.append_inj' e rfl
      exact ⟨Nat.le_of_eq ht, fun _ => ⟨ht, hd, hr⟩⟩
    · exact ih hpre

/-- Where the last send is in the past, it is the last one before. -/
theorem Scheduled.lastSendBefore_of_lt (h : Scheduled start k ds) {t : Nat}
    (ht : lastSend start ds < t) : lastSendBefore start t ds = lastSend start ds := by
  have hall : ds.filter (fun d => d.time < t) = ds :=
    List.filter_eq_self.2 fun d hd => decide_eq_true (Nat.lt_of_le_of_lt (h.bounds.2 d hd).2 ht)
  rw [lastSendBefore, hall]

/-- What is sent at a time or later does not count before it. -/
theorem lastSendBefore_concat {d : Sent} {t : Nat} (ht : t ≤ d.time) :
    lastSendBefore start t (ds ++ [d]) = lastSendBefore start t ds := by
  have hnone : [d].filter (fun d => d.time < t) = [] := by simpa using ht
  rw [lastSendBefore, List.filter_append, hnone, List.append_nil, lastSendBefore]

/-- Up to the next deadline, there is a keepalive exactly where nothing was sent for an interval. -/
theorem Scheduled.keepaliveAt_iff (h : Scheduled start k ds) (hk : 0 < k) {t : Nat}
    (ht : t < lastSend start ds + k) :
    KeepaliveAt ds t ↔ t = lastSendBefore start t ds + k := by
  -- nothing that was sent is later than the last send
  have late {ds : List Sent} (h : Scheduled start k ds) {t : Nat} (hlt : lastSend start ds < t) :
      ¬ KeepaliveAt ds t := by
    rintro ⟨d, hd, -, rfl⟩
    exact absurd (h.bounds.2 d hd).2 (Nat.not_le.2 hlt)
  induction h with
  | nil =>
    rw [lastSend_nil] at ht
    refine ⟨fun ⟨d, hd, _⟩ => absurd hd List.not_mem_nil, ?_⟩
    intro e
    have e' : t = start + k := e
    omega
  | @outbound ds d h ho hge hlt ih =>
    rw [lastSend_concat] at ht
    rcases Nat.lt_or_ge d.time t with hd | hd
    · have h' := Scheduled.outbound h ho hge hlt
      rw [h'.lastSendBefore_of_lt (by rw [lastSend_concat]; exact hd), lastSend_concat]
      exact iff_of_false (late h' (by rw [lastSend_concat]; exact hd)) (by omega)
    · rw [lastSendBefore_concat hd, keepaliveAt_concat]
      refine (or_iff_left ?_).trans (ih (by omega))
      rw [ho]
      exact fun ⟨e, _⟩ => Origin.noConfusion e
  | @keepalive ds d h ho heq hp hr ih =>
    rw [lastSend_concat] at ht
    rcases Nat.lt_or_ge d.time t with hd | hd
    · have h' := Scheduled.keepalive h ho heq hp hr
      rw [h'.lastSendBefore_of_lt (by rw [lastSend_concat]; exact hd), lastSend_concat]
      exact iff_of_false (late h' (by rw [lastSend_concat]; exact hd)) (by omega)
    · rw [lastSendBefore_concat hd, keepaliveAt_concat]
      rcases Nat.lt_or_ge t (lastSend start ds + k) with hlt | hge
      · refine (or_iff_left ?_).trans (ih hlt)
        rintro ⟨-, e⟩
        omega
      · have hte : d.time = t := by omega
        rw [h.lastSendBefore_of_lt (by omega)]
        exact iff_of_true (.inr ⟨ho, hte⟩) (by omega)

end

/-! ## The pumps and the schedule -/

/-- How the datagrams of an attempt, `ds`, go with its inbound pump and its channel. -/
structure Keeps (start k : Nat) (ds : List Sent) (i : Inbound) (c : Channel) : Prop where
  started : c.started = start
  timing : start + c.timing.lastSendMillis = lastSend start ds
  past : lastSend start ds ≤ c.now
  soon : c.now ≤ lastSend start ds + k
  serverOpen : c.serverOpen = true
  unrefused : c.transport.isRefused = false
  writes : c.wire.writesPanic = false
  alive : i.phase ≠ .panicked
  scheduled : Apart start k ds → Scheduled start k ds ∧
    (i.phase = .pinging → c.now = lastSend start ds + k)

section
variable {stop : Bool} {config : InboundConfig} {i i' : Inbound} {c c' : Channel} {start : Nat}
  {ds us : List Sent}

/-- A deadline is an interval after the last send. -/
theorem Keeps.keepaliveAt_eq {k : Nat} (h : Keeps start k ds i c) :
    c.keepaliveAt k = lastSend start ds + k := by
  rw [Channel.keepaliveAt_eq, h.started, ← h.timing, Nat.add_assoc]

/-- A send in whole milliseconds is remembered as it was. -/
theorem Channel.markSent_timing (c : Channel) (h : c.started ≤ c.now) :
    c.started + c.markSent.timing.lastSendMillis = c.now := by
  have hms : c.markSent.timing.lastSendMillis = c.now - c.started :=
    Nat.mul_div_cancel _ (by decide)
  omega

/-- A send that fits the schedule keeps it. -/
theorem Keeps.send {k : Nat} (h : Keeps start k ds i c) (origin : Origin) (p : Packet)
    (halive : i'.phase ≠ .panicked)
    (hsched : Apart start k (ds ++ [⟨c.now, p, origin, true⟩]) →
      Scheduled start k (ds ++ [⟨c.now, p, origin, true⟩]) ∧ i'.phase ≠ .pinging) :
    Keeps start k (ds ++ [⟨c.now, p, origin, true⟩]) i' (c.push origin p).markSent := by
  have hle : c.started ≤ c.now := by
    have h₁ := h.started
    have h₂ := h.timing
    have h₃ := h.past
    omega
  refine ⟨h.started, ?_, ?_, ?_, h.serverOpen, ?_, h.writes, halive, ?_⟩
  · rw [lastSend_concat]
    exact h.started ▸ (c.push origin p).markSent_timing hle
  · rw [lastSend_concat]
    exact Nat.le_refl _
  · rw [lastSend_concat]
    exact Nat.le_add_right _ _
  · show (!c.serverOpen) = false
    rw [h.serverOpen]
    rfl
  · intro ha
    exact ⟨(hsched ha).1, fun hp => absurd hp (hsched ha).2⟩

/-- What is sent while the server's port is open is received. -/
theorem Channel.push_sent (hs : c.sent = us ++ ds) (hopen : c.serverOpen = true) (origin : Origin)
    (p : Packet) : (c.push origin p).markSent.sent = us ++ (ds ++ [⟨c.now, p, origin, true⟩]) := by
  rw [← List.append_assoc, ← hs, ← hopen]
  rfl

theorem Outbound.Moves.keeps {idle k : Nat} {o o' : Outbound} (hm : o.Moves stop idle c o' c')
    (hs : c.sent = us ++ ds) (h : Keeps start k ds i c) :
    ∃ ds', c'.sent = us ++ ds' ∧ Keeps start k ds' i c' := by
  cases hm with
  | @sent p =>
    refine ⟨_, Channel.push_sent hs h.serverOpen .outbound p, h.send .outbound p h.alive ?_⟩
    intro ha
    obtain ⟨hsched, hping⟩ := h.scheduled ha.of_concat
    have hne := ha ds _ (List.prefix_refl _) rfl
    exact ⟨.outbound hsched rfl h.past (Nat.lt_of_le_of_ne h.soon hne),
      fun hp => hne (hping hp)⟩
  | refused _ _ hr => rw [h.unrefused] at hr; cases hr
  | _ => exact ⟨ds, hs, h.started, h.timing, h.past, h.soon, h.serverOpen, h.unrefused, h.writes,
      h.alive, h.scheduled⟩

theorem Inbound.Moves.keeps (hm : i.Moves stop config c i' c') (hs : c.sent = us ++ ds)
    (h : Keeps start config.keepaliveInterval ds i c) :
    ∃ ds', c'.sent = us ++ ds' ∧ Keeps start config.keepaliveInterval ds' i' c' := by
  cases hm with
  | pinged hp =>
    refine ⟨_, Channel.push_sent hs h.serverOpen .keepalive Packet.keepalive,
      h.send .keepalive Packet.keepalive nofun ?_⟩
    intro ha
    obtain ⟨hsched, hping⟩ := h.scheduled ha.of_concat
    exact ⟨.keepalive hsched rfl (hping hp) rfl rfl, nofun⟩
  | due _ _ _ _ _ hdue =>
    refine ⟨ds, hs, h.started, h.timing, h.past, h.soon, h.serverOpen, h.unrefused, h.writes, nofun,
      fun ha => ⟨(h.scheduled ha).1, fun _ => ?_⟩⟩
    rw [Channel.keepaliveDue_iff, h.started] at hdue
    have h₁ := h.timing
    have h₂ := h.past
    have h₃ := h.soon
    omega
  | received =>
    refine ⟨ds, hs, h.started, h.timing, h.past, h.soon, h.serverOpen, h.unrefused, h.writes, ?_,
      fun ha => ⟨(h.scheduled ha).1, ?_⟩⟩ <;>
    · unfold Inbound.accept
      dsimp only
      split <;> exact nofun
  | panicked _ hw => rw [h.writes] at hw; cases hw
  | refused _ _ _ hr | pingRefused _ _ hr => rw [h.unrefused] at hr; cases hr
  | _ => exact ⟨ds, hs, h.started, h.timing, h.past, h.soon, h.serverOpen, h.unrefused, h.writes,
      nofun, fun ha => ⟨(h.scheduled ha).1, nofun⟩⟩

end

namespace Run

section
variable {r r' r₁ : Run} {a : Attempt}

/-! ## Runs in which no operation waits -/

/-- No write and no send has to wait. -/
def IsUnheld (r : Run) : Prop := ∀ a, r.phase = .pumping a → ¬ a.IsHeld r.channel

theorem isUnheld_of_waiting {a : Attempt} (hp : r.phase = .pumping a)
    (ho : a.outbound.phase = .ready) (hi : a.inbound.phase = .waiting) : r.IsUnheld := by
  intro a' hp'
  cases hp.symm.trans hp'
  rintro (⟨⟨p, hs⟩, -⟩ | hheld)
  · cases ho.symm.trans hs
  · cases hheld with
    | writing hw | pinging hw => cases hi.symm.trans hw

/-- The runs in which the clock moves only where `P` holds. -/
inductive LeadsWhile (P : Run → Prop) (r : Run) : List Event → Run → Prop
  | start : LeadsWhile P r [] r
  | event {es : List Event} {r' : Run} (h : LeadsWhile P r es r') (e : Event) :
    LeadsWhile P r (es ++ [e]) (r'.happen e)
  | does {es : List Event} {r' r'' : Run} (h : LeadsWhile P r es r') (hd : r'.Does r'') :
    LeadsWhile P r es r''
  | clock {es : List Event} {r' : Run} (h : LeadsWhile P r es r') (hP : P r') {t : Nat}
    (hn : r'.step = none) (hle : r'.now ≤ t) (ht : ∀ w, r'.timer? = some w → t ≤ w) :
    LeadsWhile P r es (r'.moveClock t)

theorem LeadsWhile.leads {P : Run → Prop} {es : List Event} (h : r.LeadsWhile P es r') :
    r.Leads es r' := by
  induction h with
  | start => exact .start
  | event _ e ih => exact ih.event e
  | does _ hd ih => exact ih.does hd
  | clock _ _ hn hle ht ih => exact ih.clock hn hle ht

theorem LeadsWhile.step {P : Run → Prop} {es : List Event} {r'' : Run}
    (h : r.LeadsWhile P es r') (hs : r'.step = some r'') : r.LeadsWhile P es r'' :=
  h.does (does_of_step hs)

theorem LeadsWhile.events {P : Run → Prop} {es : List Event} (h : r.LeadsWhile P es r')
    (events : List Event) : r.LeadsWhile P (es ++ events) (events.foldl Run.happen r') := by
  induction events generalizing es r' with
  | nil => rw [List.append_nil]; exact h
  | cons e events ih =>
    rw [List.append_cons]
    exact ih (h.event e)

/-- Where nothing ever has to wait, all runs are such runs. -/
theorem Leads.leadsWhile_isUnheld {es : List Event} (h : r.Leads es r') (hf : r.channel.IsFree)
    (hb : ∀ e ∈ es, e.blocks = false) : r.LeadsWhile IsUnheld es r' := by
  induction h with
  | start => exact .start
  | event _ e ih => exact (ih (List.forall_mem_append.1 hb).1).event e
  | does _ hd ih => exact (ih hb).does hd
  | clock hl hn hle ht ih =>
    exact (ih hb).clock (fun a _ => (hl.isFree hf hb).not_isHeld a) hn hle ht

/-! ## The schedule of an attempt -/

/-- The datagrams of the attempt that runs in `r₁` go with its pump and its channel, as long as that
attempt runs. -/
def OnSchedule (r₁ : Run) : Run → Prop :=
  Within r₁.established fun _ i c => ∃ ds, c.sent = r₁.channel.sent ++ ds ∧
    Keeps r₁.now r₁.config.keepaliveInterval.toNat ds i c

theorem OnSchedule.change (h : OnSchedule r₁ r) (hc : r.Change r')
    (hconfig : r.config = r₁.config) : OnSchedule r₁ r' := by
  refine Within.change h hc ?_ ?_
  · rintro a o c hm ⟨ds, hs, hk⟩
    exact hm.keeps hs hk
  · rintro a i c hm ⟨ds, hs, hk⟩
    rw [← hconfig] at hk ⊢
    exact hm.keeps hs hk

/-- No event touches the timing of the link. -/
theorem happen_timing (r : Run) (e : Event) :
    (r.happen e).channel.started = r.channel.started ∧
      (r.happen e).channel.timing = r.channel.timing := by
  cases e with
  | stop => simp only [happen, requestStop]; split <;> exact ⟨rfl, rfl⟩
  | serverSend p => simp only [happen]; split <;> exact ⟨rfl, rfl⟩
  | run =>
    simp only [happen]
    rcases r.start_snd with h | ⟨-, h⟩ <;> rw [h] <;> exact ⟨rfl, rfl⟩
  | _ => exact ⟨rfl, rfl⟩

theorem OnSchedule.happen (h : OnSchedule r₁ r) {e : Event} (he : e.keepsServer = true) :
    OnSchedule r₁ (r.happen e) := by
  refine Within.happen h e ?_
  rintro a - ⟨ds, hs, hk⟩
  obtain ⟨hstart, htime⟩ := happen_timing r e
  obtain ⟨-, hopen, href⟩ := r.happen_channel (e := e) (by rintro rfl; cases he)
  have hnow : (r.happen e).channel.now = r.channel.now := r.happen_now e
  refine ⟨ds, (happen_sent_taken r e).1.trans hs, hstart.trans hk.started, ?_, ?_, ?_,
    hopen.trans hk.serverOpen, href.trans hk.unrefused, (r.happen_writesPanic e).trans hk.writes,
    hk.alive, ?_⟩
  · rw [htime]; exact hk.timing
  · rw [hnow]; exact hk.past
  · rw [hnow]; exact hk.soon
  · rw [hnow]; exact hk.scheduled

/-- A pump that waits wakes before a keepalive is overdue. -/
theorem timer?_le_keepaliveAt (hp : r.phase = .pumping a) (hi : a.inbound.phase = .waiting) :
    ∃ w, r.timer? = some w ∧ w ≤ r.channel.keepaliveAt r.config.keepaliveInterval.toNat := by
  obtain ⟨w, hw, hle⟩ := timer?_le_inbound hp (by rw [Inbound.timer?, hi])
  exact ⟨w, hw, hle.trans (Nat.min_le_right _ _)⟩

theorem OnSchedule.moveClock (h : OnSchedule r₁ r) (hl : r.Linked) (hu : r.IsUnheld)
    (hconfig : r.config = r₁.config) (hn : r.step = none) {t : Nat} (hle : r.now ≤ t)
    (ht : ∀ w, r.timer? = some w → t ≤ w) : OnSchedule r₁ (r.moveClock t) := by
  refine ⟨h.1, ?_⟩
  intro a hp hest
  obtain ⟨ds, hs, hk⟩ := h.2 a hp hest
  have hwait := (waiting_of_step hl (hu a hp) hp hn hk.alive).1
  obtain ⟨w, hw, hwle⟩ := timer?_le_keepaliveAt (r := r) hp hwait
  refine ⟨ds, hs, hk.started, hk.timing, hk.past.trans hle, ?_, hk.serverOpen, hk.unrefused,
    hk.writes, hk.alive, fun ha => ⟨(hk.scheduled ha).1, fun hping => ?_⟩⟩
  · rw [hconfig, hk.keepaliveAt_eq] at hwle
    exact (ht w hw).trans hwle
  · rw [hwait] at hping
    cases hping

/-- A connection that gets its interface has sent nothing on the new link. -/
theorem Change.onSchedule (hc : r.Change r₁) (hp : ∀ a, r.phase ≠ .pumping a)
    (hp₁ : r₁.phase = .pumping a) (hs : r.channel.serverOpen = true)
    (hw : r.channel.wire.writesPanic = false) : OnSchedule r₁ r₁ := by
  refine ⟨Nat.le_refl _, ?_⟩
  intro a' hp' _
  refine ⟨[], (List.append_nil _).symm, ?_⟩
  cases hc with
  | resolved | unresolved | stopped | begins | wakes => cases hp₁
  | fails | loses => exact absurd hp₁ (afterAttempt_ne_pumping _ _ _ _)
  | connects =>
    cases hp'
    exact ⟨rfl, rfl, Nat.le_refl _, Nat.le_add_right _ _, hs, rfl, hw, nofun,
      fun _ => ⟨.nil, nofun⟩⟩
  | @outbound a _ _ hph | @inbound a _ _ hph => exact absurd hph (hp a)

/-- Signals that go with the pumps go on to do so. -/
theorem Linked.leads {es : List Event} (h₁ : r₁.Linked) (h : r₁.Leads es r) : r.Linked := by
  induction h with
  | start => exact h₁
  | event _ e ih => exact ih.happen e
  | does _ hd ih => exact ih.change hd.change
  | clock _ _ _ _ ih => exact ih

/-- As long as no operation waits and the server stays, an attempt keeps to the schedule. -/
theorem OnSchedule.leads {es : List Event} (h₁ : OnSchedule r₁ r₁) (hl₁ : r₁.Linked)
    (h : r₁.LeadsWhile IsUnheld es r) (he : ∀ e ∈ es, e.keepsServer = true) : OnSchedule r₁ r := by
  induction h with
  | start => exact h₁
  | event _ e ih =>
    rw [List.forall_mem_append, List.forall_mem_singleton] at he
    exact (ih he.1).happen he.2
  | does h hd ih => exact (ih he).change hd.change h.leads.sameTerms.config
  | clock h hu hn hle ht ih =>
    exact (ih he).moveClock (hl₁.leads h.leads) hu h.leads.sameTerms.config hn hle ht

end

end Run

end TunnelRelay.Relay
