import TunnelRelay.Proofs.Stopping
/-!
# What happens in an instant

With pauses and intervals that are not empty, only finitely much can happen before the clock moves.
`Run.rank` is the measure: a packet is taken from a queue and never put back, a datagram likewise, a
send moves the next keepalive past the present, an empty read is followed by a pause, and so is an
attempt. Each step of each pump and of the supervisor makes the rank smaller (`Change.rank_lt`),
whatever the order. A pass of the inbound pump's loop that is no step has waited for a deadline that
was put off meanwhile, and the next pass waits for the future (`Inbound.step_of_pass`). So everything
comes to rest in the bounds that the executed functions are given (`step_settle`), and a connection
that is played against a timeline comes to the timeline's end (`playUntil_reaches`).
-/

namespace TunnelRelay

/-- The rules for a configuration keep all pauses and intervals from being empty. -/
structure Config.IsPaced (c : Config) : Prop where
  retry : 0 < c.retryInterval.toNat
  idle : 0 < c.idleInterval.toNat
  keepalive : 0 < c.keepaliveInterval.toNat
  receive : 0 < c.receiveTimeout.toNat

theorem Config.isPaced_of_validate {c : Config} (h : c.validate = .ok ()) : c.IsPaced := by
  have positive {n : UInt64} (hn : n ≠ 0) : 0 < n.toNat :=
    Nat.pos_of_ne_zero fun e => hn (UInt64.toNat_inj.1 e)
  have hnone : c.violation? = none := by
    unfold validate at h
    split at h
    · cases h
    · assumption
  unfold violation? at hnone
  split at hnone
  · cases hnone
  split at hnone
  · cases hnone
  split at hnone
  · cases hnone
  split at hnone
  · cases hnone
  rename_i hi
  simp only [not_or] at hi
  exact ⟨positive hi.1, positive hi.2.1, positive hi.2.2.1, positive hi.2.2.2⟩

namespace LinkTiming

/-- However far the remembered time is rounded down, no keepalive is due right after a send. -/
theorem shouldSendKeepalive_markSent (t : LinkTiming) (now : Nat) {k : Nat} (hk : 0 < k) :
    (t.markSent now).shouldSendKeepalive (k * micros) now = false := by
  refine decide_eq_false (Nat.not_le.2 ?_)
  have hmod : now % micros < micros := Nat.mod_lt now (by decide)
  have hdiv : now / micros * micros + now % micros = now := Nat.div_add_mod' now micros
  have hle : micros ≤ k * micros := Nat.le_mul_of_pos_left micros hk
  show now < now / micros * micros + k * micros
  omega

end LinkTiming

namespace Relay

open Net

/-! ## Keepalives -/

namespace Channel

theorem keepaliveDue_markSent (c : Channel) {k : Nat} (hk : 0 < k) :
    c.markSent.keepaliveDue k = false :=
  c.timing.shouldSendKeepalive_markSent c.elapsed hk

theorem keepaliveDue_startLink (c : Channel) {k : Nat} (hk : 0 < k) :
    c.startLink.keepaliveDue k = false := by
  refine decide_eq_false (Nat.not_le.2 ?_)
  have hpos : 0 < k * LinkTiming.micros := Nat.mul_pos hk (by decide)
  simpa [Channel.elapsed, startLink, LinkTiming.keepaliveDeadline, LinkTiming.lastSend] using hpos

/-- In whole milliseconds, a keepalive is due an interval after the remembered time. -/
theorem keepaliveAt_eq (c : Channel) (k : Nat) :
    c.keepaliveAt k = c.started + (c.timing.lastSendMillis + k) := by
  rw [keepaliveAt, LinkTiming.keepaliveDeadline, LinkTiming.lastSend, ← Nat.add_mul,
    Nat.mul_div_cancel _ (by decide)]

theorem keepaliveDue_iff (c : Channel) (k : Nat) :
    c.keepaliveDue k = true ↔ c.timing.lastSendMillis + k ≤ c.now - c.started := by
  rw [keepaliveDue, LinkTiming.shouldSendKeepalive, decide_eq_true_iff,
    LinkTiming.keepaliveDeadline, LinkTiming.lastSend, elapsed, ← Nat.add_mul,
    Nat.mul_le_mul_right_iff (by decide)]

/-- A keepalive that is not due yet is due in the future. -/
theorem now_lt_keepaliveAt {c : Channel} {k : Nat} (h : c.keepaliveDue k = false) :
    c.now < c.keepaliveAt k := by
  rw [← Bool.not_eq_true, keepaliveDue_iff] at h
  rw [keepaliveAt_eq]
  omega

end Channel

/-! ## The pumps -/

section
variable {stop : Bool} {idle : Nat} {config : InboundConfig} {o o' : Outbound} {i i' : Inbound}
  {c c' : Channel}

/-- In a pause that is not over there is nothing to do but to be stopped. -/
theorem Outbound.rank_of_idling {w now : Nat} (h : o.phase = .idling w) (hw : now < w) (n : Nat) :
    o.rank now n = 1 := by
  unfold Outbound.rank
  rw [h]
  exact if_neg (Nat.not_le.2 hw)

/-- Each step of the outbound pump uses up a packet, a pause that is over, or the pump itself. -/
theorem Outbound.Moves.rank_lt (h : o.Moves stop idle c o' c') (hi : 0 < idle) :
    o'.rank c'.now c'.wire.queue.length < o.rank c.now c.wire.queue.length := by
  have later : c.now < c.now + idle := Nat.lt_add_of_pos_right hi
  cases h with
  | stopped _ hp =>
    unfold Outbound.rank
    rcases hp with hp | ⟨w, hp⟩ <;> rw [hp]
    · exact Nat.succ_pos _
    · dsimp only [Outbound.finish]
      split
      · exact Nat.succ_pos _
      · exact Nat.one_pos
  | readFailed _ hp => unfold Outbound.rank; rw [hp]; exact Nat.succ_pos _
  | foundEmpty _ hp =>
    rw [Outbound.rank_of_idling rfl later]
    unfold Outbound.rank
    rw [hp]
    exact Nat.le_add_left _ _
  | tookEmpty _ hp _ hq =>
    rw [Outbound.rank_of_idling rfl (show (c.take _ _).now < c.now + idle from later)]
    unfold Outbound.rank
    rw [hp]
    exact Nat.le_add_left _ _
  | @took p ps _ hp _ hq =>
    unfold Outbound.rank
    rw [hp, hq]
    show 2 * ps.length + 3 < 2 * (ps.length + 1) + 2
    omega
  | woke _ hp hw =>
    unfold Outbound.rank
    rw [hp]
    dsimp only
    rw [if_pos hw]
    exact Nat.lt_succ_self _
  | refused hp => unfold Outbound.rank; rw [hp]; exact Nat.succ_pos _
  | sent hp => unfold Outbound.rank; rw [hp]; exact Nat.lt_succ_self _

/-- It leaves the inbound pump no more to do: a send puts the keepalive off. -/
theorem Outbound.Moves.inbound_rank_le (h : o.Moves stop idle c o' c')
    (hk : 0 < config.keepaliveInterval) : i.rank config c' ≤ i.rank config c := by
  cases h with
  | @sent p =>
    have hdue := (c.push .outbound p).keepaliveDue_markSent hk
    unfold Inbound.rank
    simp only [hdue]
    cases i.phase <;> simp [Channel.markSent, Channel.push]
  | _ => exact Nat.le_refl _

/-- Each step of the inbound pump uses up a datagram, a keepalive, or the pump itself. -/
theorem Inbound.Moves.rank_lt (h : i.Moves stop config c i' c')
    (hk : 0 < config.keepaliveInterval) : i'.rank config c' < i.rank config c := by
  unfold Inbound.rank
  dsimp only
  cases h with
  | stopped hp | silent hp | refused hp => rw [hp]; exact Nat.succ_pos _
  | panicked hp | writeFailed hp | pingRefused hp => rw [hp]; exact Nat.succ_pos _
  | @received p ps hp _ _ _ hq =>
    have hdue : ∀ k, Channel.keepaliveDue
      { c with transport := { c.transport with inbox := ps } } k = c.keepaliveDue k := fun _ => rfl
    rw [hp, hq, hdue]
    unfold Inbound.accept
    dsimp only
    rw [List.length_cons]
    split <;> rename_i he <;> split at he <;> cases he <;> omega
  | due hp _ _ _ _ hdue => rw [hp, hdue]; exact Nat.lt_succ_self _
  | written hp => rw [hp]; exact Nat.lt_succ_self _
  | pinged hp =>
    rw [hp, Channel.keepaliveDue_markSent _ hk]
    exact Nat.lt_succ_self _

/-- A receive that has to wait changes nothing. -/
theorem Channel.receive_pending {c c' : Channel} (h : c.receive = (.pending, c')) : c' = c := by
  unfold Channel.receive at h
  split at h
  · cases h
  · split at h <;> cases h
    rfl

/-- A pump that waits and has nothing to do has no keepalive to send. -/
theorem Inbound.keepaliveDue_of_step (h : i.step stop config c = none) (hp : i.phase = .waiting) :
    c.keepaliveDue config.keepaliveInterval = false := by
  unfold step at h
  rw [hp] at h
  dsimp only at h
  split at h
  · cases h
  split at h
  · cases h
  split at h
  · cases h
  · cases h
  · rename_i c' hr
    cases Channel.receive_pending hr
    split at h
    · cases h
    · rename_i hk
      exact Bool.eq_false_iff.2 hk

/-- It leaves the queue of the interface alone. -/
theorem Inbound.Moves.wire_queue (h : i.Moves stop config c i' c') :
    c'.wire.queue = c.wire.queue := by
  cases h <;> rfl

/-! ### Passes of the inbound pump's loop -/

/-- One step of the inbound pump in a pass of its loop that waits for the deadline `d`. A deadline
that has been put off meanwhile only starts the next pass, with a new deadline. -/
def Inbound.pass (stop : Bool) (config : InboundConfig) (i : Inbound) (d : Nat) (c : Channel) :
    Option (Inbound × Channel × Nat) :=
  match i.phase with
  | .waiting =>
    if stop then some (i.finish, c, d)
    else if i.lastReceived + config.receiveTimeout ≤ c.now then
      some (i.fail (.serverGone config.receiveTimeout), c, d)
    else match c.receive with
      | (.refused, c) => some (i.fail Channel.refusal, c, d)
      | (.datagram p, c) => some (i.accept p c.now, c, c.keepaliveAt config.keepaliveInterval)
      | (.pending, c) =>
        if c.now < d then none
        else if c.keepaliveDue config.keepaliveInterval then
          some ({ i with phase := .pinging }, c, d)
        else some (i, c, c.keepaliveAt config.keepaliveInterval)
  | _ => (i.step stop config c).map fun (i, c) => (i, c, c.keepaliveAt config.keepaliveInterval)

/-- What a pass does is a step of the pump. Otherwise its deadline is over although no keepalive is
due, and the next pass begins, with a deadline in the future. -/
theorem Inbound.step_of_pass {d d' : Nat} (h : i.pass stop config d c = some (i', c', d')) :
    i.step stop config c = some (i', c') ∧
        (d' = d ∨ d' = c'.keepaliveAt config.keepaliveInterval) ∨
      i.phase = .waiting ∧ i' = i ∧ c' = c ∧ d' = c.keepaliveAt config.keepaliveInterval ∧
        d ≤ c.now ∧ c.now < d' := by
  unfold Inbound.pass at h
  split at h
  · rename_i hp
    unfold Inbound.step
    rw [hp]
    dsimp only
    split at h
    · rename_i hs; cases h; exact .inl ⟨if_pos hs, .inl rfl⟩
    rename_i hs
    split at h
    · rename_i ht; cases h; exact .inl ⟨(if_neg hs).trans (if_pos ht), .inl rfl⟩
    rename_i ht
    rw [if_neg hs, if_neg ht]
    generalize hr : c.receive = x at h ⊢
    obtain ⟨answer, c₁⟩ := x
    cases answer with
    | refused => cases h; exact .inl ⟨rfl, .inl rfl⟩
    | datagram p => cases h; exact .inl ⟨rfl, .inr rfl⟩
    | pending =>
      cases Channel.receive_pending hr
      dsimp only at h ⊢
      split at h
      · cases h
      rename_i hd
      split at h
      · rename_i hk; cases h; exact .inl ⟨if_pos hk, .inl rfl⟩
      · rename_i hk
        cases h
        exact .inr ⟨rfl, rfl, rfl, rfl, Nat.le_of_not_lt hd,
          Channel.now_lt_keepaliveAt (Bool.eq_false_iff.2 hk)⟩
  · obtain ⟨⟨i₁, c₁⟩, hstep, e⟩ := Option.map_eq_some_iff.1 h
    cases e
    exact .inl ⟨hstep, .inr rfl⟩

end

namespace Run

section
variable {r r' : Run}

/-! ## The measure -/

theorem afterAttempt_rank (hp : r.config.IsPaced) (server : Address) (f : Nat) :
    (r.afterAttempt server f).rank ≤ 1 := by
  have hr := hp.retry
  rcases r.afterAttempt_cases server f with ⟨-, log, e⟩ | ⟨-, -, log, e⟩ | ⟨-, -, e⟩ <;> rw [e]
  · exact Nat.zero_le _
  · exact Nat.zero_le _
  · unfold rank
    dsimp only
    rw [if_neg]
    simp only [Run.now, publish]
    omega

/-- Whatever a connection does in an instant, it has less left to do in that instant. -/
theorem Change.rank_lt (hc : r.Change r') (hp : r.config.IsPaced) : r'.rank < r.rank := by
  have leaves {n : Nat} {s : Run} (hs : s.config = r.config) (hn : 1 < n) (server : Address)
      (f : Nat) : (s.afterAttempt server f).rank < n :=
    Nat.lt_of_le_of_lt (afterAttempt_rank (hs ▸ hp) server f) hn
  cases hc with
  | resolved hph => unfold rank; rw [hph]; exact Nat.add_lt_add_left (by decide : 1 < 3) _
  | unresolved hph => unfold rank; rw [hph]; exact Nat.succ_pos _
  | stopped hph =>
    unfold rank
    rcases hph with hph | ⟨_, _, hph⟩ | ⟨_, _, _, hph⟩ <;> rw [hph]
    · exact Nat.succ_pos _
    · exact Nat.succ_pos _
    · dsimp only [Run.finish]; split <;> exact Nat.succ_pos _
  | begins hph => unfold rank; rw [hph]; exact Nat.lt_succ_self _
  | @fails server f c host log hph =>
    have hr : r.rank = r.attemptRank := by unfold rank; rw [hph]
    rw [hr]
    refine leaves (s := r.afterCalls (c.opening r.hasListener r.hasDescriptor) host log) rfl ?_ _ _
    unfold attemptRank
    omega
  | connects hph =>
    have hr : r.rank = r.attemptRank := by unfold rank; rw [hph]
    have hin : Inbound.rank r.inboundConfig { lastReceived := r.now } r.channel.startLink = 1 := by
      unfold Inbound.rank
      simp only [r.channel.keepaliveDue_startLink (show 0 < r.inboundConfig.keepaliveInterval from
        hp.keepalive)]
      rfl
    rw [hr]
    show 2 * r.channel.wire.queue.length + 2 +
      Inbound.rank r.inboundConfig { lastReceived := r.now } r.channel.startLink + 2 < _
    rw [hin]
    unfold attemptRank
    omega
  | @outbound a o c hph hm =>
    have hout := hm.rank_lt hp.idle
    have hin := hm.inbound_rank_le (i := a.inbound)
      (show 0 < r.inboundConfig.keepaliveInterval from hp.keepalive)
    unfold rank
    rw [hph]
    exact Nat.add_lt_add_right (Nat.add_lt_add_of_lt_of_le hout hin) 2
  | @inbound a i c hph hm =>
    have hin := hm.rank_lt hp.keepalive
    unfold rank
    rw [hph]
    simp only [pumpRank, Run.now]
    rw [hm.now, hm.wire_queue]
    exact Nat.add_lt_add_right (Nat.add_lt_add_left hin _) 2
  | @loses a _ _ ok host log hph =>
    have hr : r.rank = r.pumpRank a.outbound a.inbound := by unfold rank; rw [hph]
    rw [hr]
    refine leaves (s := r.afterClose a.device ok host log) rfl ?_ _ _
    unfold pumpRank
    omega
  | wakes hph _ hw => unfold rank; rw [hph]; dsimp only; rw [if_pos hw]; exact Nat.lt_succ_self _

theorem Does.rank_lt (hd : r.Does r') (hp : r.config.IsPaced) : r'.rank < r.rank :=
  hd.change.rank_lt hp

/-- One step of the inbound pump in a pass that waits for the deadline `d`. -/
def inboundPass (r : Run) (a : Attempt) (d : Nat) : Option (Run × Nat) :=
  (a.inbound.pass (r.stop || a.stop || a.stopInbound) r.inboundConfig d r.channel).map
    fun (inbound, channel, d) =>
      let a := { a with inbound, stop := a.stop || inbound.hasFailed }
      ({ r with channel, phase := .pumping a }, d)

/-- A pass that changes nothing has found its deadline over, and the next one is in the future. -/
theorem inboundPass_cases {a : Attempt} {d d' : Nat} (hp : r.phase = .pumping a)
    (h : r.inboundPass a d = some (r', d')) :
    r.inboundStep a = some r' ∧
        (d' = d ∨ d' = r'.channel.keepaliveAt r.config.keepaliveInterval.toNat) ∨
      r' = r ∧ d' = r.channel.keepaliveAt r.config.keepaliveInterval.toNat ∧
        d ≤ r.now ∧ r.now < d' := by
  obtain ⟨⟨i, c, _⟩, hi, e⟩ := Option.map_eq_some_iff.1 h
  cases e
  rcases Inbound.step_of_pass hi with ⟨hstep, hd⟩ | ⟨hw, rfl, rfl, hd, hover, hlater⟩
  · refine .inl ⟨?_, hd⟩
    unfold inboundStep
    rw [hstep]
  · refine .inr ⟨?_, hd, hover, hlater⟩
    have hfail : a.inbound.hasFailed = false := by
      unfold Inbound.hasFailed
      rw [hw]
    rw [hfail, Bool.or_false]
    show { r with phase := .pumping a } = r
    rw [← hp]

/-! ## The library's sockets -/

/-- The library's sockets come to an end by themselves: the bound on their number is not what ends
the requests for them. -/
theorem protectAuxiliary_fuel : ∀ (fuel : Nat) (r : Run), r.host.auxiliary.length < fuel →
    r.protectAuxiliary fuel = r.protectAuxiliary (r.host.auxiliary.length + 1)
  | 0, _, h => absurd h (Nat.not_lt_zero _)
  | fuel + 1, r, h => by
    unfold protectAuxiliary HostScript.takeAuxiliary
    cases haux : r.host.auxiliary with
    | nil => rfl
    | cons fd? rest =>
      cases fd? with
      | none => rfl
      | some fd =>
        dsimp only
        generalize hr₁ : Run.noteWith _ _ _ _ _ = r₁
        obtain ⟨granted, host, log, hp, hh⟩ := r₁.protect_eq (.numbered fd)
        have haux₁ : host.auxiliary = rest := by rw [hh, ← hr₁]; rfl
        rw [hp]
        cases granted with
        | false => rfl
        | true =>
          have hlen : (r₁.afterCalls [.protect (.numbered fd) true] host
              log).host.auxiliary.length = rest.length := by rw [afterCalls_host, haux₁]
          rw [haux, List.length_cons] at h
          dsimp only
          rw [protectAuxiliary_fuel fuel _ (by omega), hlen]
          rfl

/-- An attempt makes no more calls than the library has sockets to ask for. -/
theorem length_opening_le (l d : Bool) (c : Course) :
    (c.opening l d).length ≤ 2 * c.popped.length + 8 := by
  have grants (fds : List Int) : (Course.grants fds).length = 2 * fds.length := by
    induction fds with
    | nil => rfl
    | cons fd fds ih =>
      show (Course.grants fds).length + 2 = 2 * (fds.length + 1)
      omega
  cases c with
  | transportRefused => exact Nat.succ_le_succ (Nat.zero_le _)
  | auxiliaryRefused fds fd => simp [Course.opening, Course.popped, grants]; omega
  | unconnected fds => simp [Course.opening, Course.popped, Course.allGranted, grants]
  | notEstablished fds own settings =>
    simp [Course.opening, Course.popped, Course.allGranted, Course.asked, grants]
  | established fds own settings device closing =>
    cases l <;> simp [Course.opening, Course.popped, Course.allGranted, Course.asked, grants]

/-- One step makes finitely many calls. -/
theorem Change.length_calls_le (hc : r.Change r') :
    r'.calls.length ≤ r.calls.length + 2 * r.host.auxiliary.length + 8 := by
  have opening {c : Course} {host : HostScript} (hh : c.popped ++ host.sockets = r.host.sockets) :
      (r.afterCalls (c.opening r.hasListener r.hasDescriptor) host r.log).calls.length ≤
        r.calls.length + 2 * r.host.auxiliary.length + 8 := by
    have hlen := length_opening_le r.hasListener r.hasDescriptor c
    have hpop : c.popped.length ≤ r.host.auxiliary.length := by
      refine Nat.le_trans ?_ (List.length_filterMap_le id r.host.auxiliary)
      rw [← HostScript.sockets, ← hh, List.length_append]
      exact Nat.le_add_right _ _
    simp only [afterCalls, List.length_append, List.length_map]
    omega
  cases hc with
  | resolved | unresolved | stopped | begins | outbound | inbound | wakes =>
    exact Nat.le_add_right_of_le (Nat.le_add_right _ _)
  | fails _ _ hh => rw [afterAttempt_calls]; exact opening hh
  | connects _ _ _ hh => exact opening hh
  | loses =>
    rw [afterAttempt_calls]
    simp only [afterClose, afterCalls, List.length_append, List.length_map, List.length_singleton]
    omega

/-! ## Coming to rest -/

/-- As many steps as the rank says are enough. -/
theorem step_settleWithin : ∀ (fuel : Nat) {r : Run}, r.config.IsPaced → r.rank ≤ fuel →
    (r.settleWithin fuel).step = none
  | 0, r, hp, hr => by
    cases hs : r.step with
    | none => exact hs
    | some r' => exact absurd ((does_of_step hs).rank_lt hp) (by omega)
  | fuel + 1, r, hp, hr => by
    unfold settleWithin
    split
    · assumption
    · rename_i r' hs
      have hd := does_of_step hs
      have hlt := hd.rank_lt hp
      refine step_settleWithin fuel ?_ (by omega)
      rw [hd.change.sameTerms.config]
      exact hp

/-- In the executed order a connection comes to rest. -/
theorem step_settle (hp : r.config.IsPaced) : r.settle.step = none := by
  refine step_settleWithin _ hp ?_
  calc r.rank ≤ r.rank + r.attemptRank + 5 := by omega
    _ ≤ _ := Nat.le_mul_of_pos_right _ (Nat.succ_pos _)

/-- Where a connection rests, its timer is in the future. -/
theorem now_lt_timer {w : Nat} (hs : r.step = none) (hw : r.timer? = some w) : r.now < w := by
  have htimer := hw
  unfold timer? at hw
  split at hw
  · rename_i server f wake hp
    cases hw
    simp only [step, hp] at hs
    by_contra hle
    rw [if_pos (by omega : w ≤ r.now)] at hs
    split at hs <;> cases hs
  · rename_i a hp
    have hout : ∀ s, a.outbound.timer? = some s → r.now < s := by
      intro s ht
      unfold Outbound.timer? at ht
      split at ht <;> cases ht
      rename_i hph
      cases (rests_of_step hp hs).1 with
      | idling hph' _ hlt => rw [hph] at hph'; cases hph'; exact hlt
      | ended hph' | reading hph' | sending hph' => rw [hph] at hph'; cases hph'
    have hin : ∀ t, a.inbound.timer? r.inboundConfig r.channel = some t → r.now < t := by
      intro t ht
      unfold Inbound.timer? at ht
      split at ht <;> cases ht
      rename_i hph
      have hi := ((step_eq_none_iff hp).1 hs).2.1
      have hk := Inbound.keepaliveDue_of_step (inboundStep_eq_none_iff.1 hi) hph
      cases (rests_of_step hp hs).2.1 with
      | waiting _ _ hlt => exact Nat.lt_min.2 ⟨hlt, Channel.now_lt_keepaliveAt hk⟩
      | ended hph' | panicked hph' | writing hph' | pinging hph' => rw [hph] at hph'; cases hph'
    rcases timer?_cases hp htimer with ho | hi
    · exact hout w ho
    · exact hin w hi
  · cases hw

/-! ## Against a timeline -/

@[simp] theorem settleWithin_now (fuel : Nat) (r : Run) : (r.settleWithin fuel).now = r.now := by
  induction fuel generalizing r with
  | zero => rfl
  | succ fuel ih =>
    unfold settleWithin
    split
    · rfl
    · rename_i r' hs
      rw [ih, (does_of_step hs).change.now]

theorem instant_now (r : Run) (t : Nat) (events : List Event) : (r.instant t events).now = t := by
  rw [instant, settle, settleWithin_now, foldl_happen_now]
  rfl

/-- What is left of a connection's run once its events have happened is a run. -/
theorem Leads.instant {es : List Event} (h : r.Leads es r') {t : Nat} (hn : r'.step = none)
    (hle : r'.now ≤ t) (ht : ∀ w, r'.timer? = some w → t ≤ w) (events : List Event) :
    r.Leads (es ++ events) (r'.instant t events) :=
  ((h.clock hn hle ht).trans (leads_events _ events)).settleWithin _

/-- An instant ends at rest. -/
theorem step_instant (hp : r.config.IsPaced) (t : Nat) (events : List Event) :
    (r.instant t events).step = none ∧ (r.instant t events).config = r.config := by
  have hl := leads_events (r.moveClock t) events
  have hc : (events.foldl happen (r.moveClock t)).config = r.config := hl.sameTerms.config
  refine ⟨step_settle (by rw [hc]; exact hp), ?_⟩
  exact (hl.settleWithin _).sameTerms.config

end

end Run

/-- Where things are in the order of their times, those up to a time come before all others. -/
theorem takeWhile_due {α : Type} (time : α → Nat) {timeline : List α}
    (hs : timeline.Pairwise fun e e' => time e ≤ time e') (t : Nat) :
    (∀ e ∈ timeline.takeWhile fun e => time e ≤ t, time e ≤ t) ∧
      (∀ e ∈ timeline.dropWhile fun e => time e ≤ t, t < time e) ∧
      (timeline.dropWhile fun e => time e ≤ t).Pairwise fun e e' => time e ≤ time e' := by
  refine ⟨?_, ?_, hs.sublist (List.dropWhile_sublist _)⟩
  · intro e he
    simpa using List.all_eq_true.1 List.all_takeWhile e he
  · induction timeline with
    | nil => simp
    | cons e es ih =>
      rw [List.pairwise_cons] at hs
      rw [List.dropWhile_cons]
      split
      · exact ih hs.2
      · rename_i hlt
        have hlt : t < time e := by simpa using hlt
        intro e' he'
        rcases List.mem_cons.1 he' with rfl | he'
        · exact hlt
        · exact Nat.lt_of_lt_of_le hlt (hs.1 e' he')

namespace Film

open Run

@[simp] theorem expose_run (f : Film) (r : Run) : (f.expose r).run = r := by
  unfold expose
  split <;> rfl

/-- The next instant of a connection that rests is in the future, and neither beyond its timer nor
beyond the next event. -/
theorem nextInstant?_spec {r : Run} {timeline : List Timed} {t : Nat} (hs : r.step = none)
    (hlate : ∀ e ∈ timeline, r.now < e.time) (ht : r.nextInstant? timeline = some t) :
    r.now < t ∧ (∀ w, r.timer? = some w → t ≤ w) ∧ ∀ e ∈ timeline.head?, t ≤ e.time := by
  unfold nextInstant? at ht
  split at ht
  · refine ⟨now_lt_timer hs ht, ?_, by simp⟩
    intro w hw
    rw [ht] at hw
    cases hw
    exact Nat.le_refl _
  · rename_i e es s hw
    cases ht
    refine ⟨Nat.lt_min.2 ⟨hlate e List.mem_cons_self, now_lt_timer hs hw⟩, ?_, ?_⟩
    · intro w hw'
      rw [hw] at hw'
      cases hw'
      exact Nat.min_le_right _ _
    · intro e' he'
      cases he'
      exact Nat.min_le_left _ _
  · rename_i e es hw
    cases ht
    refine ⟨hlate e List.mem_cons_self, ?_, ?_⟩
    · intro w hw'
      rw [hw] at hw'
      cases hw'
    · intro e' he'
      cases he'
      exact Nat.le_refl _

/-- There is no next instant only if there is neither an event nor a timer. -/
theorem nextInstant?_eq_none {r : Run} {timeline : List Timed}
    (h : r.nextInstant? timeline = none) : timeline = [] ∧ r.timer? = none := by
  cases timeline with
  | nil => exact ⟨rfl, h⟩
  | cons e es => cases hw : r.timer? <;> simp [nextInstant?, hw] at h

/-- From `r` a connection has come to `s` and rests there: all events of the timeline have happened,
in their order, and nothing more is due up to the time `horizon`. -/
structure Reaches (horizon : Nat) (timeline : List Timed) (r s : Run) : Prop where
  leads : r.Leads (timeline.map Timed.event) s
  rests : s.step = none
  now_le : s.now ≤ horizon
  le_now : r.now ≤ s.now
  happened : ∀ e ∈ timeline, e.time ≤ s.now
  waits : ∀ w, s.timer? = some w → horizon < w

/-- Where a connection rests, it goes on from instant to instant until all events have happened and
nothing more is due. Each instant is later than the one before, so the bound on their number is not
what ends them. -/
theorem playFor_reaches {horizon : Nat} : ∀ (fuel : Nat) {timeline : List Timed} {f : Film},
    f.run.config.IsPaced → f.run.step = none → timeline.Pairwise (·.time ≤ ·.time) →
    (∀ e ∈ timeline, f.run.now < e.time ∧ e.time ≤ horizon) → f.run.now ≤ horizon →
    horizon < f.run.now + fuel →
    Reaches horizon timeline f.run (playFor horizon fuel timeline f).run
  | 0, _, _, _, _, _, _, hle, hfuel => absurd hfuel (Nat.not_lt.2 hle)
  | fuel + 1, timeline, f, hp, hs, hsort, htimes, hle, hfuel => by
    unfold playFor
    cases hnext : f.run.nextInstant? timeline with
    | none =>
      obtain ⟨rfl, hw⟩ := nextInstant?_eq_none hnext
      refine ⟨.start, hs, hle, Nat.le_refl _, by simp, ?_⟩
      intro w hw'
      rw [hw] at hw'
      cases hw'
    | some t =>
      obtain ⟨hnow, htimer, hhead⟩ := nextInstant?_spec hs (fun e he => (htimes e he).1) hnext
      dsimp only
      by_cases hh : horizon < t
      · rw [if_pos hh]
        cases timeline with
        | nil => exact ⟨.start, hs, hle, Nat.le_refl _, by simp,
            fun w hw => Nat.lt_of_lt_of_le hh (htimer w hw)⟩
        | cons e es =>
          have h₁ := hhead e rfl
          have h₂ := (htimes e List.mem_cons_self).2
          omega
      · rw [if_neg hh]
        obtain ⟨hdue, hrest, hsort'⟩ := takeWhile_due Timed.time hsort t
        have hsplit := List.takeWhile_append_dropWhile (p := fun e : Timed => e.time ≤ t)
          (l := timeline)
        generalize timeline.takeWhile (fun e => e.time ≤ t) = due at hdue hsplit ⊢
        generalize timeline.dropWhile (fun e => e.time ≤ t) = later at hrest hsort' hsplit ⊢
        subst hsplit
        obtain ⟨hstep, hconfig⟩ := step_instant hp t (due.map Timed.event)
        have hn := f.run.instant_now t (due.map Timed.event)
        have hfirst : f.run.Leads (due.map Timed.event) (f.run.instant t (due.map Timed.event)) :=
          Leads.start.instant hs (Nat.le_of_lt hnow) htimer _
        have ih := @playFor_reaches horizon fuel later
          (f.expose (f.run.instant t (due.map Timed.event)))
        rw [expose_run, hn, hconfig] at ih
        obtain ⟨hl, hs', hle', hge, hall, hw⟩ := ih hp hstep hsort'
          (fun e he => ⟨hrest e he, (htimes e (List.mem_append_right _ he)).2⟩) (by omega)
          (by omega)
        rw [hn] at hge
        refine ⟨?_, hs', hle', (Nat.le_of_lt hnow).trans hge, ?_, hw⟩
        · rw [List.map_append]
          exact hfirst.trans hl
        · intro e he
          rcases List.mem_append.1 he with he | he
          · exact (hdue e he).trans hge
          · exact hall e he

/-- A film begins at time 0 and reaches the end of its timeline. -/
theorem play_reaches {horizon : Nat} {timeline : List Timed} {r : Run} (hp : r.config.IsPaced)
    (hnow : r.now = 0) (hsort : timeline.Pairwise (·.time ≤ ·.time))
    (htimes : ∀ e ∈ timeline, e.time ≤ horizon) :
    Reaches horizon timeline r (play horizon timeline r).run := by
  unfold play
  have hmove : r.moveClock 0 = r := by rw [← hnow]; rfl
  obtain ⟨hdue, hrest, hsort'⟩ := takeWhile_due Timed.time hsort 0
  have hsplit := List.takeWhile_append_dropWhile (p := fun e : Timed => e.time ≤ 0) (l := timeline)
  simp only [Nat.le_zero] at hdue hrest hsort' hsplit
  dsimp only
  generalize timeline.takeWhile (fun e => decide (e.time = 0)) = due at hdue hsplit ⊢
  generalize timeline.dropWhile (fun e => decide (e.time = 0)) = later at hrest hsort' hsplit ⊢
  subst hsplit
  obtain ⟨hstep, hconfig⟩ := step_instant hp 0 (due.map Timed.event)
  have hn := r.instant_now 0 (due.map Timed.event)
  have hfirst : r.Leads (due.map Timed.event) (r.instant 0 (due.map Timed.event)) := by
    unfold instant
    rw [hmove]
    exact (leads_events r _).settleWithin _
  have ih := @playFor_reaches horizon (horizon + 1) later
    (Film.expose { run := r } (r.instant 0 (due.map Timed.event)))
  rw [expose_run, hn, hconfig] at ih
  obtain ⟨hl, hs', hle', hge, hall, hw⟩ := ih hp hstep hsort'
    (fun e he => ⟨hrest e he, htimes e (List.mem_append_right _ he)⟩) (Nat.zero_le _) (by omega)
  refine ⟨?_, hs', hle', by rw [hnow]; exact Nat.zero_le _, ?_, hw⟩
  · rw [List.map_append]
    exact hfirst.trans hl
  · intro e he
    rcases List.mem_append.1 he with he | he
    · rw [hdue e he]; exact Nat.zero_le _
    · exact hall e he

end Film

/-- No event of a timeline comes after its last one. -/
theorem time_le_lastTime {timeline : List Timed} (hs : timeline.Pairwise (·.time ≤ ·.time)) :
    ∀ e ∈ timeline, e.time ≤ lastTime timeline := by
  intro e he
  rcases List.eq_nil_or_concat' timeline with rfl | ⟨es, l, rfl⟩
  · cases he
  · rw [lastTime, List.getLast?_concat]
    rcases List.mem_append.1 he with he | he
    · exact (List.pairwise_append.1 hs).2.2 e he l (List.mem_singleton.2 rfl)
    · rw [List.mem_singleton.1 he]

/-- A connection that is played until a time reaches it, with all events behind it. -/
theorem playUntil_reaches {r : Run} (hp : r.config.IsPaced) (hnow : r.now = 0) (deadline : Nat)
    {timeline : List Timed} (hs : timeline.Pairwise (·.time ≤ ·.time)) :
    Film.Reaches (max deadline (lastTime timeline))
        (timeline ++ [⟨max deadline (lastTime timeline), .stop⟩]) r.start.2
        (playUntil deadline timeline r).run ∧
      (playUntil deadline timeline r).run.now = max deadline (lastTime timeline) := by
  have hlast : ∀ e ∈ timeline, e.time ≤ max deadline (lastTime timeline) := fun e he =>
    (time_le_lastTime hs e he).trans (Nat.le_max_right _ _)
  have hstart : r.start.2.config = r.config ∧ r.start.2.now = r.now := by
    rcases r.start_snd with h | ⟨-, h⟩ <;> rw [h] <;> exact ⟨rfl, rfl⟩
  have hreach : Film.Reaches (max deadline (lastTime timeline))
      (timeline ++ [⟨max deadline (lastTime timeline), .stop⟩]) r.start.2
      (playUntil deadline timeline r).run := by
    refine Film.play_reaches (hstart.1 ▸ hp) (hstart.2.trans hnow) ?_ ?_
    · refine List.pairwise_append.2 ⟨hs, List.pairwise_singleton _ _, ?_⟩
      intro e he e' he'
      rw [List.mem_singleton.1 he']
      exact hlast e he
    · exact List.forall_mem_append.2 ⟨hlast, List.forall_mem_singleton.2 (Nat.le_refl _)⟩
  refine ⟨hreach, Nat.le_antisymm hreach.now_le ?_⟩
  exact hreach.happened ⟨max deadline (lastTime timeline), .stop⟩ (by simp)

namespace Run

/-! ## The law of the instant -/

/-- One thing that happens without the clock moving, to a connection, the events that are still to
happen and the deadline of the inbound pump's present pass. The connection does something, which
leaves any deadline, or the pump goes through its loop, or the next event happens. -/
inductive SameInstant : List Event × Run × Nat → List Event × Run × Nat → Prop
  | does {es : List Event} {r r' : Run} {d d' : Nat} (h : r.Does r') :
    SameInstant (es, r, d) (es, r', d')
  | pass {es : List Event} {r r' : Run} {d d' : Nat} {a : Attempt} (hp : r.phase = .pumping a)
    (h : r.inboundPass a d = some (r', d')) : SameInstant (es, r, d) (es, r', d')
  | event {es : List Event} {e : Event} {r : Run} {d : Nat} :
    SameInstant (e :: es, r, d) (es, r.happen e, d)

/-- What is left of an instant: the events first, then what the connection can do, and last a pass
that has to begin anew. -/
def leftOver (x : List Event × Run × Nat) : Nat × Nat × Nat :=
  (x.1.length, x.2.1.rank, if x.2.2 ≤ x.2.1.now then 1 else 0)

/-- The order of what is left. -/
def Less : Nat × Nat × Nat → Nat × Nat × Nat → Prop :=
  Prod.Lex (· < ·) (Prod.Lex (· < ·) (· < ·))

theorem Does.leftOver_lt (h : r.Does r') (hp : r.config.IsPaced) (es : List Event) (d d' : Nat) :
    Less (leftOver (es, r', d')) (leftOver (es, r, d)) :=
  .right _ (.left _ _ (h.rank_lt hp))

theorem SameInstant.leftOver_lt {x y : List Event × Run × Nat} (h : SameInstant x y)
    (hp : x.2.1.config.IsPaced) :
    Less (leftOver y) (leftOver x) ∧ y.2.1.config = x.2.1.config := by
  cases h with
  | does hd => exact ⟨hd.leftOver_lt hp _ _ _, hd.change.sameTerms.config⟩
  | @pass es r r' d d' a hph h =>
    rcases inboundPass_cases hph h with ⟨hstep, -⟩ | ⟨rfl, -, hover, hlater⟩
    · have hd : r.Does r' := .inbound hph hstep
      exact ⟨hd.leftOver_lt hp _ _ _, hd.change.sameTerms.config⟩
    · -- the deadline was over and is not over again
      refine ⟨.right _ (.right _ ?_), rfl⟩
      dsimp only
      rw [if_pos hover, if_neg (Nat.not_le.2 hlater)]
      exact Nat.one_pos
  | event => exact ⟨.left _ _ (Nat.lt_succ_self _), happen_config _ _⟩

/-- Nothing goes on for ever in an instant. -/
theorem acc_sameInstant (x : List Event × Run × Nat) (hp : x.2.1.config.IsPaced) :
    Acc (fun x y => SameInstant y x) x := by
  have wf : WellFounded (InvImage Less leftOver) :=
    InvImage.wf leftOver (WellFounded.prod_lex Nat.lt_wfRel.wf
      (WellFounded.prod_lex Nat.lt_wfRel.wf Nat.lt_wfRel.wf))
  induction x using wf.induction with
  | _ x ih =>
    refine ⟨x, fun y h => ?_⟩
    obtain ⟨hlt, hconfig⟩ := h.leftOver_lt hp
    exact ih y hlt (hconfig ▸ hp)

/-- With a valid configuration an instant comes to an end. Each step, in any order of the tasks,
leaves less to do and makes at most two calls for each socket that the library still has, and a few
more; no bound is what ends the requests for these sockets. A pass of the inbound pump's loop that
does nothing has the next one wait for the future. With finitely many events to come, finitely many
steps and passes happen before the clock moves, whatever deadline the pump waits for at first. So
the executed functions come to rest, and a connection that is played until a time reaches it, with
all events behind it; where nothing has to wait, it has ended then. -/
theorem instants_end {r : Run} (hv : r.config.validate = .ok ()) :
    (∀ r', r.Does r' → r'.rank < r.rank ∧ r'.config = r.config ∧
      r'.calls.length ≤ r.calls.length + 2 * r.host.auxiliary.length + 8) ∧
    (∀ fuel, r.host.auxiliary.length < fuel →
      r.protectAuxiliary fuel = r.protectAuxiliary (r.host.auxiliary.length + 1)) ∧
    (∀ es d x, SameInstant (es, r, d) x → Less (leftOver x) (leftOver (es, r, d))) ∧
    (∀ es d, Acc (fun x y => SameInstant y x) (es, r, d)) ∧
    r.settle.step = none ∧
    (∀ deadline (timeline : List Timed), r.now = 0 → timeline.Pairwise (·.time ≤ ·.time) →
      r.start.2.Leads (timeline.map Timed.event ++ [.stop]) (playUntil deadline timeline r).run ∧
      (playUntil deadline timeline r).run.now = max deadline (lastTime timeline) ∧
      (playUntil deadline timeline r).run.step = none ∧
      (r.channel.IsFree → (∀ e ∈ timeline, e.event.blocks = false) →
        (playUntil deadline timeline r).run.result? ≠ none)) := by
  have hp := Config.isPaced_of_validate hv
  refine ⟨?_, fun fuel hf => protectAuxiliary_fuel fuel r hf, ?_, fun es d => acc_sameInstant _ hp,
    step_settle hp, ?_⟩
  · intro r' hd
    exact ⟨hd.rank_lt hp, hd.change.sameTerms.config, hd.change.length_calls_le⟩
  · intro es d x h
    exact (h.leftOver_lt hp).1
  · intro deadline timeline hnow hs
    obtain ⟨hreach, hend⟩ := playUntil_reaches hp hnow deadline hs
    have hl := hreach.leads
    rw [List.map_append, List.map_singleton] at hl
    refine ⟨hl, hend, hreach.rests, ?_⟩
    intro hf hb hn
    -- a connection that was asked to stop rests only at its end
    have hstart : r.start.2.channel = r.channel ∧ r.start.2.phase ≠ .idle := by
      unfold start
      split
      · exact ⟨rfl, Phase.noConfusion⟩
      · rename_i hne; exact ⟨rfl, fun h => hne h⟩
    have hblocks : ∀ e ∈ timeline.map Timed.event ++ [.stop], e.blocks = false :=
      List.forall_mem_append.2 ⟨List.forall_mem_map.2 hb, List.forall_mem_singleton.2 rfl⟩
    exact step_ne_none_of_stop (hl.stop.2 (.inr (by simp))) (hl.isFree (hstart.1 ▸ hf) hblocks)
      (hl.ne_idle.2 (.inl hstart.2)) hn hreach.rests

/-- What happens in the small run when it is played: a packet, and a failure of the next read. -/
def trialTimeline : List Timed := [⟨3, .push [69, 1]⟩, ⟨5, .readError⟩]

/-- The small run comes to rest at once, and reaches the time 40 when it is played until then. -/
theorem trial_instants : trial.settle.step = none ∧
    (playUntil 40 trialTimeline trial).run.now = 40 ∧
    (playUntil 40 trialTimeline trial).run.result? ≠ none := by
  obtain ⟨-, -, -, -, hsettle, hplay⟩ := instants_end (r := trial) (by decide)
  obtain ⟨-, hnow, -, hresult⟩ := hplay 40 trialTimeline rfl (by simp [trialTimeline])
  exact ⟨hsettle, hnow, hresult ⟨rfl, rfl⟩ (by simp [trialTimeline, Event.blocks])⟩

end Run

end Relay

end TunnelRelay
