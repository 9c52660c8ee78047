import TunnelRelay.Proofs.Lifecycle
import TunnelRelay.Proofs.Unwinding
/-!
# How a connection stops

A connection that was asked to stop comes to its end in the same instant, wherever it stands
(`Eventually.stopped`): every step brings it closer, and unless a write or a send has to wait there
is always a next step. Where it had nothing to do when the stop came, neither pump holds a packet,
so all that is left to do is to close the interface, whatever else has happened together with the
stop. `Halts` is the invariant of that: it compares a run with the one in which it had nothing to
do.
-/

namespace TunnelRelay.Relay

/-! ## Pumps that hold nothing -/

/-- Neither pump is in a write or a send. -/
structure Attempt.HoldsNothing (a : Attempt) : Prop where
  sending : ∀ p, a.outbound.phase ≠ .sending p
  writing : ∀ p, a.inbound.phase ≠ .writing p
  pinging : a.inbound.phase ≠ .pinging

/-- A pump that is asked to stop and holds nothing ends, and touches nothing. -/
theorem Outbound.Moves.eq_of_stop {idle : Nat} {o o' : Outbound} {c c' : Channel}
    (h : o.Moves true idle c o' c') (hn : ∀ p, o.phase ≠ .sending p) : o' = o.finish ∧ c' = c := by
  cases h with
  | stopped => exact ⟨rfl, rfl⟩
  | refused hp | sent hp => exact absurd hp (hn _)
  | readFailed hs | foundEmpty hs | tookEmpty hs | took hs | woke hs => cases hs

theorem Inbound.Moves.eq_of_stop {config : InboundConfig} {i i' : Inbound} {c c' : Channel}
    (h : i.Moves true config c i' c') (hw : ∀ p, i.phase ≠ .writing p) (hn : i.phase ≠ .pinging) :
    i' = i.finish ∧ c' = c := by
  cases h with
  | stopped => exact ⟨rfl, rfl⟩
  | panicked hp | writeFailed hp | written hp => exact absurd hp (hw _)
  | pingRefused hp | pinged hp => exact absurd hp hn
  | silent _ hs | refused _ hs | received _ hs | due _ hs => cases hs

/-- Where nothing has to wait, a pump that can do nothing holds nothing. -/
theorem Outbound.Rests.ne_sending {stop : Bool} {o : Outbound} {c : Channel} (h : o.Rests stop c)
    (hf : c.IsFree) (p : Packet) : o.phase ≠ .sending p := by
  cases h with
  | ended hp | reading hp | idling hp => rw [hp]; exact OutboundPhase.noConfusion
  | sending _ ht => rw [hf.transport] at ht; cases ht

theorem Inbound.Rests.ne_writing {stop : Bool} {config : InboundConfig} {i : Inbound} {c : Channel}
    (h : i.Rests stop config c) (hf : c.IsFree) :
    (∀ p, i.phase ≠ .writing p) ∧ i.phase ≠ .pinging := by
  cases h with
  | ended hp | panicked hp | waiting hp =>
    rw [hp]
    exact ⟨fun _ => InboundPhase.noConfusion, InboundPhase.noConfusion⟩
  | writing _ hw => rw [hf.wire] at hw; cases hw
  | pinging _ ht => rw [hf.transport] at ht; cases ht

/-- Nothing was sent, written to the interface or taken from it in between. -/
structure Channel.SameTraffic (c c' : Channel) : Prop where
  sent : c'.sent = c.sent
  delivered : c'.delivered = c.delivered
  taken : c'.taken = c.taken

namespace Run

section
variable {r r' : Run}

/-! ## On the way to the end -/

theorem afterAttempt_of_stop (hs : r.stop = true) (server : Net.Address) (f : Nat) :
    ∃ log, r.afterAttempt server f = { r with log := log }.finish (.ok ()) := by
  rcases r.afterAttempt_cases server f with ⟨-, h⟩ | ⟨hs', -⟩ | ⟨hs', -⟩
  · exact h
  · rw [hs] at hs'; cases hs'
  · rw [hs] at hs'; cases hs'

/-- Each change of a connection that was asked to stop brings it closer to its end. -/
theorem Change.stepsLeft_lt (hc : r.Change r') (hs : r.stop = true) : r'.stepsLeft < r.stepsLeft := by
  unfold stepsLeft
  cases hc with
  | resolved _ hs' | unresolved _ hs' | begins _ hs' | wakes _ hs' => rw [hs] at hs'; cases hs'
  | stopped hp =>
    rcases hp with hp | ⟨_, _, hp⟩ | ⟨_, _, _, hp⟩ <;> rw [hp] <;> exact Nat.zero_lt_one
  | fails hp =>
    refine Nat.lt_of_le_of_lt (afterAttempt_stepsLeft _ _ _) ?_
    rw [hp]
    exact Nat.one_lt_succ_succ 3
  | connects hp => rw [hp]; exact Nat.lt_succ_self 4
  | @outbound a o c hp hm =>
    rw [hs, Bool.true_or] at hm
    rw [hp]
    exact Nat.add_lt_add_right (Nat.add_lt_add_right hm.stepsLeft_lt _) 2
  | @inbound a i c hp hm =>
    rw [hs, Bool.true_or, Bool.true_or] at hm
    rw [hp]
    exact Nat.add_lt_add_right (Nat.add_lt_add_left hm.stepsLeft_lt _) 2
  | loses hp =>
    refine Nat.lt_of_le_of_lt (afterAttempt_stepsLeft _ _ _) ?_
    rw [hp]
    exact Nat.lt_add_left _ Nat.one_lt_two

theorem result_afterAttempt_of_stop {server : Net.Address} {f : Nat} {result : Except Error Unit}
    (h : (r.afterAttempt server f).result? = some result) (hs : r.stop = true) : result = .ok () := by
  obtain ⟨_, e⟩ := afterAttempt_of_stop hs server f
  rw [e] at h
  cases h
  rfl

/-- A connection that was asked to stop ends without an error. -/
theorem Change.result_of_stop (hc : r.Change r') (hs : r.stop = true) {result : Except Error Unit}
    (h : r'.result? = some result) : result = .ok () := by
  cases hc with
  | resolved _ hs' | unresolved _ hs' | begins _ hs' | wakes _ hs' => rw [hs] at hs'; cases hs'
  | connects | outbound | inbound => cases h
  | stopped => cases h; rfl
  | fails | loses => exact result_afterAttempt_of_stop h hs

/-- A connection that was asked to stop has something to do until it has ended, unless a write or a
send has to wait. -/
theorem step_ne_none_of_stop (hs : r.stop = true) (hf : r.channel.IsFree) (hi : r.phase ≠ .idle)
    (hn : r.result? = none) : r.step ≠ none := by
  intro h
  cases hp : r.phase with
  | idle => exact hi hp
  | done result => rw [result?_eq_some_iff.2 hp] at hn; cases hn
  | starting | opening | attempting => simp [step, hp] at h
  | pausing => simp [step, hp, hs] at h
  | pumping a =>
    obtain ⟨ho, hin, hne⟩ := rests_of_step hp h
    rw [hs, Bool.true_or] at ho
    rw [hs, Bool.true_or, Bool.true_or] at hin
    have hor : a.outbound.result? ≠ none := by
      rcases ho.of_stop with h | ⟨_, -, ht⟩
      · exact h
      · rw [hf.transport] at ht; cases ht
    have hir : a.inbound.result? ≠ none := by
      rcases hin.of_stop with h | ⟨_, -, hw⟩ | ⟨-, ht⟩
      · exact h
      · rw [hf.wire] at hw; cases hw
      · rw [hf.transport] at ht; cases ht
    rcases hne with h | h
    · exact hor h
    · exact hir h

/-- Wherever it stands, a connection that was asked to stop has ended on request before the clock
moves. -/
theorem Eventually.stopped (hs : r.stop = true) (hf : r.channel.IsFree) (hi : r.phase ≠ .idle)
    (hsh : r.phase.Shows r.state) (hn : ∀ result, r.result? = some result → result = .ok ()) :
    r.Eventually fun r' => r'.result? = some (.ok ()) ∧ r'.state = .stopped ∧ r'.now = r.now := by
  refine eventually_of_rank (I := fun r' => r'.stop = true ∧ r'.channel.IsFree ∧ r'.phase ≠ .idle ∧
    r'.phase.Shows r'.state ∧ r'.now = r.now ∧ ∀ result, r'.result? = some result → result = .ok ())
    stepsLeft ?_ r ⟨hs, hf, hi, hsh, rfl, hn⟩
  intro r₁ ⟨hs, hf, hi, hsh, hnow, hok⟩
  cases hr : r₁.result? with
  | some result =>
    obtain rfl := hok result hr
    exact .inl ⟨rfl, (result?_of_shows hsh).1.2 hr, hnow⟩
  | none =>
    refine .inr ⟨step_ne_none_of_stop hs hf hi hr, ?_⟩
    intro r' hd
    have hc := hd.change
    exact ⟨⟨hc.stop.trans hs, isFree_of_change hf hc, hc.ne_idle.2, hc.shows hsh,
      hc.now.trans hnow, fun _ h => hc.result_of_stop hs h⟩, hc.stepsLeft_lt hs⟩

/-- Once a connection that was asked to stop has been started, the clock stands still until it has
ended. -/
theorem Leads.now_of_stop {es : List Event} (hl : r.Leads es r') (hs : r.stop = true)
    (hf : r.channel.IsFree) (hi : r.phase ≠ .idle) (hb : ∀ e ∈ es, e.blocks = false)
    (hn : r'.result? = none) : r'.now = r.now := by
  induction hl with
  | start => rfl
  | @event es r' hl e ih =>
    rw [happen_now]
    refine ih (fun e' he' => hb e' (List.mem_append_left _ he')) ?_
    rcases r'.happen_phase e with hp | ⟨hp, -⟩
    · rw [result?, hp] at hn; exact hn
    · exact absurd hp (hl.ne_idle.2 (.inl hi))
  | does _ hd ih =>
    rw [hd.change.now]
    exact ih hb hd.result?_eq_none
  | clock hl hn' _ _ _ =>
    exact absurd hn' (step_ne_none_of_stop (hl.stop.2 (.inl hs)) (hl.isFree hf hb)
      (hl.ne_idle.2 (.inl hi)) hn)

/-! ## A stop where nothing was left to do -/

/-- Where a connection stands that had nothing to do in `r₁` and was asked to stop at the time
`t`. -/
def HaltsAt (r₁ : Run) (t : Nat) (r : Run) : Prop :=
  match r.phase with
  | .idle | .starting | .pausing _ _ _ => r₁.openDevice? = none ∧ r.calls = r₁.calls
  | .opening _ _ | .attempting _ _ => False
  | .pumping a =>
    r₁.openDevice? = some a.device ∧ r.calls = r₁.calls ∧ r.now = t ∧ a.HoldsNothing
  | .done result => result = .ok () ∧
    (r₁.openDevice? = none ∧ r.calls = r₁.calls ∨ ∃ device ok, r₁.openDevice? = some device ∧
      r.calls = r₁.calls ++ [⟨t, .close device ok, .connected⟩])

/-- What holds of a connection that had nothing to do in `r₁`, at the time `t` and then for as long
as its stop is requested. -/
structure Halts (r₁ : Run) (t : Nat) (r : Run) : Prop where
  free : r.channel.IsFree
  shows : r.phase.Shows r.state
  traffic : r₁.channel.SameTraffic r.channel
  stands : HaltsAt r₁ t r

variable {r₁ : Run} {t : Nat}

theorem afterClose_traffic (r : Run) (device : String) (ok : Bool) (host : HostScript)
    (log : List LogEvent) : r.channel.SameTraffic (r.afterClose device ok host log).channel := by
  unfold afterClose
  dsimp only
  split <;> exact ⟨rfl, rfl, rfl⟩

theorem Halts.change (h : Halts r₁ t r) (hs : r.stop = true) (hc : r.Change r') :
    Halts r₁ t r' := by
  have ht := h.traffic
  have hst := h.stands
  have keep (htr : r₁.channel.SameTraffic r'.channel) (hst' : HaltsAt r₁ t r') : Halts r₁ t r' :=
    ⟨isFree_of_change h.free hc, hc.shows h.shows, htr, hst'⟩
  unfold HaltsAt at hst
  cases hc with
  | resolved _ hs' | unresolved _ hs' | begins _ hs' | wakes _ hs' => rw [hs] at hs'; cases hs'
  | stopped hp =>
    refine keep ht ⟨rfl, .inl ?_⟩
    rcases hp with hp | ⟨_, _, hp⟩ | ⟨_, _, _, hp⟩ <;> rw [hp] at hst
    · exact hst
    · exact hst.elim
    · exact hst
  | fails hp | connects hp => rw [hp] at hst; exact hst.elim
  | @outbound a o c hp hm =>
    rw [hp] at hst
    obtain ⟨hd, hcalls, hnow, hh⟩ := hst
    rw [hs, Bool.true_or] at hm
    obtain ⟨rfl, rfl⟩ := hm.eq_of_stop hh.sending
    exact keep ht ⟨hd, hcalls, hnow, fun _ => OutboundPhase.noConfusion, hh.writing, hh.pinging⟩
  | @inbound a i c hp hm =>
    rw [hp] at hst
    obtain ⟨hd, hcalls, hnow, hh⟩ := hst
    rw [hs, Bool.true_or, Bool.true_or] at hm
    obtain ⟨rfl, rfl⟩ := hm.eq_of_stop hh.writing hh.pinging
    exact keep ht ⟨hd, hcalls, hnow, hh.sending, fun _ => InboundPhase.noConfusion,
      InboundPhase.noConfusion⟩
  | @loses a _ _ ok host log hp =>
    rw [hp] at hst
    obtain ⟨hd, hcalls, hnow, -⟩ := hst
    have hshow : r.state = .connected := by have hsh := h.shows; rw [hp] at hsh; exact hsh
    have htr := r.afterClose_traffic a.device ok host log
    obtain ⟨log', e⟩ := afterAttempt_of_stop (r := r.afterClose a.device ok host log) hs a.server 0
    refine keep ?_ ?_
    · rw [afterAttempt_channel]
      exact ⟨htr.sent.trans ht.sent, htr.delivered.trans ht.delivered, htr.taken.trans ht.taken⟩
    · rw [e]
      refine ⟨rfl, .inr ⟨a.device, ok, hd, ?_⟩⟩
      show r.calls ++ [⟨r.now, .close a.device ok, r.state⟩] = _
      rw [hcalls, hnow, hshow]

theorem Halts.happen (h : Halts r₁ t r) {e : Event} (he : e.blocks = false) :
    Halts r₁ t (r.happen e) := by
  have hst := h.stands
  have ht := r.happen_sent_taken e
  refine ⟨isFree_happen h.free he, happen_shows h.shows e, ⟨ht.1.trans h.traffic.sent,
    (r.happen_delivered e).trans h.traffic.delivered, ht.2.trans h.traffic.taken⟩, ?_⟩
  unfold HaltsAt at hst ⊢
  rcases r.happen_phase e with hp | ⟨hi, -, hp⟩ <;> rw [hp]
  · rw [happen_calls, happen_now]; exact hst
  · rw [hi] at hst; rw [happen_calls]; exact hst

theorem Halts.leads (h : Halts r₁ t r) (hs : r.stop = true) {es : List Event} (hl : r.Leads es r')
    (hb : ∀ e ∈ es, e.blocks = false) : Halts r₁ t r' := by
  induction hl with
  | start => exact h
  | event _ e ih =>
    rw [List.forall_mem_append, List.forall_mem_singleton] at hb
    exact (ih hb.1).happen hb.2
  | does hl hd ih => exact (ih hb).change (hl.stop.2 (.inl hs)) hd.change
  | @clock es r' hl t' hn _ _ ih =>
    obtain ⟨hf, hsh, ht, hst⟩ := ih hb
    refine ⟨⟨hf.wire, hf.transport⟩, hsh, ⟨ht.sent, ht.delivered, ht.taken⟩, ?_⟩
    -- while the interface is open there is something to do, and the clock stands still
    have hne : ∀ a, r'.phase ≠ .pumping a := by
      intro a hp
      refine step_ne_none_of_stop (hl.stop.2 (.inl hs)) hf ?_ ?_ hn
      · rw [hp]; exact Phase.noConfusion
      · rw [result?, hp]
    unfold HaltsAt at hst ⊢
    rw [moveClock_phase]
    cases hp : r'.phase with
    | pumping a => exact absurd hp (hne a)
    | idle | starting | opening | attempting | pausing | done => rw [hp] at hst; exact hst

/-- A connection that has nothing to do, and nothing to wait for in a write or a send, holds no
packet. -/
theorem halts_of_step (h : r.step = none) (hn : r.result? = none) (hf : r.channel.IsFree)
    (hsh : r.phase.Shows r.state) (t : Nat) : Halts r t (r.moveClock t) := by
  refine ⟨⟨hf.wire, hf.transport⟩, hsh, ⟨rfl, rfl, rfl⟩, ?_⟩
  unfold HaltsAt openDevice?
  rw [moveClock_phase]
  cases hp : r.phase with
  | idle => exact ⟨rfl, rfl⟩
  | pausing => exact ⟨rfl, rfl⟩
  | starting | opening | attempting => simp [step, hp] at h
  | done result => rw [result?_eq_some_iff.2 hp] at hn; cases hn
  | pumping a =>
    obtain ⟨ho, hin, -⟩ := rests_of_step hp h
    exact ⟨rfl, rfl, rfl, ho.ne_sending hf, (hin.ne_writing hf).1, (hin.ne_writing hf).2⟩

theorem Halts.events (h : Halts r₁ t r) {events : List Event} (hb : ∀ e ∈ events, e.blocks = false) :
    Halts r₁ t (events.foldl Run.happen r) := by
  induction events generalizing r with
  | nil => exact h
  | cons e events ih =>
    rw [List.forall_mem_cons] at hb
    exact ih (h.happen hb.1) hb.2

end

/-! ## The law of the stop -/

/-- Let a connection have nothing to do, with no write and no send waiting, and let it be asked to
stop at the time `t`, whatever else happens at this time and afterwards. Then nothing is sent,
written to the interface or taken from it any more; the only call of the host is the one that closes
the interface that is open; the only result is success, in the state `stopped`; and it comes at this
time, or when a connection that has not been started yet is started. A further stop changes
nothing. -/
theorem Leads.stop_wins {r₀ r₁ : Run} {es events : List Event} {t : Nat} (h₀ : r₀.IsFresh)
    (h : r₀.Leads es r₁) (hrest : r₁.step = none) (hn : r₁.result? = none)
    (hf : r₁.channel.IsFree) (hs : .stop ∈ events) (hb : ∀ e ∈ events, e.blocks = false)
    {es' : List Event} {r : Run} (hl : (events.foldl happen (r₁.moveClock t)).Leads es' r)
    (hb' : ∀ e ∈ es', e.blocks = false) :
    r₁.channel.SameTraffic r.channel ∧
    (r.calls = r₁.calls ∨ ∃ device ok, r₁.openDevice? = some device ∧
      r.calls = r₁.calls ++ [⟨t, .close device ok, .connected⟩]) ∧
    (∀ result, r.result? = some result → result = .ok () ∧ r.state = .stopped ∧
      ∀ device, r₁.openDevice? = some device → ∃ ok,
        r.calls = r₁.calls ++ [⟨t, .close device ok, .connected⟩]) ∧
    (.run ∈ es ++ events → r.result? = none → r.now = t) ∧
    (.run ∈ es ++ events ++ es' → r.Eventually fun r' =>
      r'.result? = some (.ok ()) ∧ r'.state = .stopped ∧ r'.now = r.now) ∧
    r.happen .stop = r := by
  have hevents := leads_events (r₁.moveClock t) events
  have hstop : (events.foldl happen (r₁.moveClock t)).stop = true := hevents.stop.2 (.inr hs)
  have hhalts : Halts r₁ t (events.foldl happen (r₁.moveClock t)) :=
    (halts_of_step hrest hn hf (h.shows h₀) t).events hb
  have hr : Halts r₁ t r := hhalts.leads hstop hl hb'
  have hrs : r.stop = true := hl.stop.2 (.inl hstop)
  have hst := hr.stands
  unfold HaltsAt at hst
  -- what `Halts` says, phase by phase
  have hcalls : r.calls = r₁.calls ∨ ∃ device ok, r₁.openDevice? = some device ∧
      r.calls = r₁.calls ++ [⟨t, .close device ok, .connected⟩] := by
    cases hp : r.phase with
    | idle | starting | pausing => rw [hp] at hst; exact .inl hst.2
    | opening | attempting => rw [hp] at hst; exact hst.elim
    | pumping => rw [hp] at hst; exact .inl hst.2.1
    | done => rw [hp] at hst; exact hst.2.imp_left And.right
  have hresult : ∀ result, r.result? = some result → result = .ok () ∧ r.state = .stopped ∧
      ∀ device, r₁.openDevice? = some device → ∃ ok,
        r.calls = r₁.calls ++ [⟨t, .close device ok, .connected⟩] := by
    intro result he
    rw [result?_eq_some_iff.1 he] at hst
    obtain ⟨rfl, hc⟩ := hst
    refine ⟨rfl, (result?_of_shows hr.shows).1.2 he, ?_⟩
    intro device hd
    rcases hc with ⟨hd', -⟩ | ⟨device', ok, hd', hc⟩
    · rw [hd] at hd'; cases hd'
    · rw [hd] at hd'; cases hd'; exact ⟨ok, hc⟩
  have hstarted : .run ∈ es ++ events → (events.foldl happen (r₁.moveClock t)).phase ≠ .idle := by
    intro he
    rw [hevents.ne_idle, moveClock_phase, h.phase_ne_idle h₀.phase, ← List.mem_append]
    exact he
  have hlater : .run ∈ es ++ events ++ es' → r.phase ≠ .idle := by
    intro he
    rw [hl.ne_idle]
    exact (List.mem_append.1 he).imp_left hstarted
  refine ⟨hr.traffic, hcalls, hresult, ?_, ?_, ?_⟩
  · intro he hnone
    rw [hl.now_of_stop hstop hhalts.free (hstarted he) hb' hnone, foldl_happen_now]
    rfl
  · intro he
    exact Eventually.stopped hrs hr.free (hlater he) hr.shows fun result hres => (hresult result hres).1
  · rw [happen, requestStop, if_pos hrs]

/-- What happens in the small run when it is stopped: a packet, a datagram and a failure of the next
read come with the stop, and one more stop follows. -/
def trialStopEvents : List Event := [.push [69, 1], .serverSend [70], .readError, .stop, .stop]

/-- The small run when it has been asked to stop. -/
def trialStopping : Run := trialStopEvents.foldl happen (trialConnected.moveClock 5)

/-- The small run is stopped while it is connected. -/
theorem trialStopping_stop :
    (trialStopping.Eventually fun r =>
      r.result? = some (.ok ()) ∧ r.state = .stopped ∧ r.now = 5) ∧
    (trialStopping.settleWithin 4).state = .stopped ∧
    trialConnected.channel.SameTraffic (trialStopping.settleWithin 4).channel ∧
    ∃ ok, (trialStopping.settleWithin 4).calls =
      trialConnected.calls ++ [⟨5, .close "sim0" ok, .connected⟩] := by
  have law {r : Run} (hl : trialStopping.Leads [] r) :=
    trial_leads_connected.stop_wins trial_isFresh rfl rfl ⟨rfl, rfl⟩
      (by simp [trialStopEvents]) (by simp [trialStopEvents, Event.blocks]) hl (by simp)
  obtain ⟨-, -, -, hnow, hev, -⟩ := law .start
  obtain ⟨ht, -, hres, -⟩ := law (Leads.start.settleWithin 4)
  have hr : (trialStopping.settleWithin 4).result? = some (.ok ()) := rfl
  obtain ⟨-, hs, hc⟩ := hres _ hr
  exact ⟨hev (by simp), hs, ht, hc "sim0" rfl⟩

end Run

end TunnelRelay.Relay
