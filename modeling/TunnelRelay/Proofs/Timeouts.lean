import TunnelRelay.Proofs.InboundRuns
/-!
# When a silent server is given up

A pump whose writes take no time gives the server up exactly one receive timeout after the pump's
start, or after a datagram that no other follows within the timeout. `Watching` is what holds as long
as the pump runs: it remembers when the server was last heard of, the clock is not beyond the timeout
from there, and each timeout that is over was answered in time. From it follows that a pump that ends
by silence ends at the right time, and that no pump has missed such a time before (`Judged`).
-/

namespace TunnelRelay.Relay

/-- How a pump that was started at the time `start` keeps track of the datagrams that have arrived
at the times `times`. It has last heard of the server at the time `last`, and the datagrams `inbox`
wait for it. -/
structure Watching (start timeout : Nat) (times : List Nat) (now last : Nat) (inbox : List Packet) :
    Prop where
  /-- The server was last heard of when the pump started or when a datagram arrived. -/
  heard : last ∈ start :: times
  since : ∀ m ∈ start :: times, start ≤ m
  past : ∀ m ∈ start :: times, m ≤ now
  /-- What has arrived has been heard, or waits and has only just arrived. -/
  caught : ∀ m ∈ start :: times, m ≤ last ∨ m = now ∧ inbox ≠ []
  recent : inbox ≠ [] → now ∈ start :: times
  deadline : now ≤ last + timeout
  /-- No timeout is over that was not answered. -/
  answered : ∀ m ∈ start :: times, m + timeout < now ∨ m + timeout ≤ last →
    ∃ t ∈ times, m < t ∧ t < m + timeout

/-- A pump was right to end at the time `finish` with `result`: no timeout was over before, and if it
ends because of silence then one is over now. -/
structure Judged (start timeout : Nat) (times : List Nat) (finish : Nat)
    (result : Except Error PumpStats) : Prop where
  answered : ∀ m ∈ start :: times, m + timeout < finish → ∃ t ∈ times, m < t ∧ t < m + timeout
  gone : result = .error (.serverGone timeout) →
    ∃ m ∈ start :: times, finish = m + timeout ∧ ∀ t ∈ times, ¬ (m < t ∧ t < finish)

section
variable {start timeout now last : Nat} {times : List Nat} {inbox rest : List Packet} {p : Packet}

/-- A timeout that began before the server was last heard of was answered by what was heard then. -/
theorem Watching.answered_of_lt (h : Watching start timeout times now last inbox) {m : Nat}
    (hm : m ∈ start :: times) (hlt : m < last) (hle : last < m + timeout) :
    ∃ t ∈ times, m < t ∧ t < m + timeout := by
  have hstart := h.since m hm
  rcases List.mem_cons.1 h.heard with heq | hmem
  · omega
  · exact ⟨last, hmem, hlt, hle⟩

/-- The pump starts, and what waits already counts as heard of now. -/
theorem watching_start (start : Nat) (inbox : List Packet) (hpos : 0 < timeout) :
    Watching start timeout [] start start inbox := by
  have only : ∀ m ∈ [start], m = start := fun m hm => List.mem_singleton.1 hm
  refine ⟨List.mem_singleton_self start, ?_, ?_, ?_, ?_, Nat.le_add_right start timeout, ?_⟩
  · intro m hm
    exact (only m hm).ge
  · intro m hm
    exact (only m hm).le
  · intro m hm
    exact .inl (only m hm).le
  · intro _
    exact List.mem_singleton_self start
  · intro m hm hover
    have heq := only m hm
    omega

/-- A datagram is received before the timeout is over. -/
theorem Watching.receive (h : Watching start timeout times now last (p :: rest))
    (hlt : now < last + timeout) : Watching start timeout times now now rest := by
  have hnow : now ∈ start :: times := h.recent (List.cons_ne_nil p rest)
  refine ⟨hnow, h.since, h.past, ?_, fun _ => hnow, Nat.le_add_right now timeout, ?_⟩
  · intro m hm
    exact .inl (h.past m hm)
  · intro m hm hover
    by_cases hold : m + timeout < now ∨ m + timeout ≤ last
    · exact h.answered m hm hold
    · -- the timeout ends now, and something was heard since it began
      refine h.answered_of_lt hm ?_ ?_ <;> omega

/-- A datagram arrives. -/
theorem Watching.arrive (h : Watching start timeout times now last inbox) (hpos : 0 < timeout) :
    Watching start timeout (times ++ [now]) now last (inbox ++ [p]) := by
  have hne : inbox ++ [p] ≠ [] := List.append_ne_nil_of_right_ne_nil inbox (List.cons_ne_nil p [])
  have hlast : last ≤ now := h.past last h.heard
  have hstart : start ≤ now := h.past start List.mem_cons_self
  have mem {m : Nat} : m ∈ start :: (times ++ [now]) ↔ m ∈ start :: times ∨ m = now := by
    rw [← List.cons_append, List.mem_append, List.mem_singleton]
  refine ⟨mem.2 (.inl h.heard), ?_, ?_, ?_, fun _ => mem.2 (.inr rfl), h.deadline, ?_⟩
  · intro m hm
    rcases mem.1 hm with hm | rfl
    · exact h.since m hm
    · exact hstart
  · intro m hm
    rcases mem.1 hm with hm | rfl
    · exact h.past m hm
    · exact Nat.le_refl m
  · intro m hm
    rcases mem.1 hm with hm | rfl
    · exact (h.caught m hm).imp_right fun hm => ⟨hm.1, hne⟩
    · exact .inr ⟨rfl, hne⟩
  · intro m hm hover
    rcases mem.1 hm with hm | rfl
    · obtain ⟨t, ht, hlt⟩ := h.answered m hm hover
      exact ⟨t, List.mem_append_left [now] ht, hlt⟩
    · omega

/-- Time passes while nothing waits, up to the end of the timeout. -/
theorem Watching.pass (h : Watching start timeout times now last []) {t : Nat} (hle : now ≤ t)
    (hlt : t ≤ last + timeout) : Watching start timeout times t last [] := by
  refine ⟨h.heard, h.since, ?_, ?_, ?_, hlt, ?_⟩
  · intro m hm
    exact (h.past m hm).trans hle
  · intro m hm
    exact .inl ((h.caught m hm).resolve_right fun hm => hm.2 rfl)
  · intro hne
    exact absurd rfl hne
  · intro m hm hover
    by_cases hold : m + timeout < now ∨ m + timeout ≤ last
    · exact h.answered m hm hold
    · refine h.answered_of_lt hm ?_ ?_ <;> omega

/-- A pump that ends, and by silence only where its timeout is over. -/
theorem Watching.judged (h : Watching start timeout times now last inbox)
    {result : Except Error PumpStats}
    (hgone : result = .error (.serverGone timeout) → last + timeout ≤ now) :
    Judged start timeout times now result := by
  refine ⟨fun m hm hover => h.answered m hm (.inl hover), ?_⟩
  intro hr
  refine ⟨last, h.heard, Nat.le_antisymm h.deadline (hgone hr), ?_⟩
  rintro t ht ⟨hlt, hlt'⟩
  rcases h.caught t (List.mem_cons_of_mem start ht) with hle | ⟨rfl, -⟩
  · omega
  · exact Nat.lt_irrefl t hlt'

/-- What arrives decides when a pump ends by silence. -/
theorem Judged.finish_le {finish finish' : Nat} {result : Except Error PumpStats}
    (h : Judged start timeout times finish result)
    (h' : Judged start timeout times finish' (.error (.serverGone timeout))) : finish ≤ finish' := by
  obtain ⟨m, hm, rfl, hnone⟩ := h'.gone rfl
  rcases Nat.lt_or_ge (m + timeout) finish with hlt | hle
  · obtain ⟨t, ht, hbetween⟩ := h.answered m hm hlt
    exact absurd hbetween (hnone t ht)
  · exact hle

/-- What arrives after the end changes nothing. -/
theorem Judged.arrive {finish : Nat} {result : Except Error PumpStats}
    (h : Judged start timeout times finish result) (hle : finish ≤ now) :
    Judged start timeout (times ++ [now]) finish result := by
  have mem {m : Nat} : m ∈ start :: (times ++ [now]) ↔ m ∈ start :: times ∨ m = now := by
    rw [← List.cons_append, List.mem_append, List.mem_singleton]
  constructor
  · intro m hm hover
    rcases mem.1 hm with hm | rfl
    · obtain ⟨t, ht, hlt⟩ := h.answered m hm hover
      exact ⟨t, List.mem_append_left [now] ht, hlt⟩
    · omega
  · intro hr
    obtain ⟨m, hm, hf, hnone⟩ := h.gone hr
    refine ⟨m, mem.2 (.inl hm), hf, ?_⟩
    intro t ht hlt
    rcases List.mem_append.1 ht with ht | ht
    · exact hnone t ht hlt
    · rw [List.mem_singleton.1 ht] at hlt
      omega

end

/-! ## Steps -/

section
variable {stop : Bool} {config : InboundConfig} {i i' : Inbound} {c c' : Channel}

/-- A step hears of the server only by receiving what waits, before the timeout is over. -/
theorem Inbound.Moves.hears (h : i.Moves stop config c i' c') :
    i'.lastReceived = i.lastReceived ∧ c'.transport.inbox = c.transport.inbox ∨
      ∃ p, c.transport.inbox = p :: c'.transport.inbox ∧ i'.lastReceived = c.now ∧
        c.now < i.lastReceived + config.receiveTimeout := by
  cases h with
  | @received p _ _ _ ht _ hq => exact .inr ⟨p, hq, rfl, ht⟩
  | _ => exact .inl ⟨rfl, rfl⟩

end

namespace InboundRun

/-! ## Runs -/

/-- When datagrams arrive. -/
def arrivalTimes (serverOpen : Bool) (es : List (Nat × InboundEvent)) : List Nat :=
  (arrivals serverOpen es).map Prod.fst

/-- How a pump stands with what has arrived: as long as it runs it watches, and if it has ended then
it was right to. -/
def Accounts (start : Nat) (times : List Nat) (r : InboundRun) :
    Option (Nat × Except Error PumpStats) → Prop
  | none =>
    Watching start r.config.receiveTimeout times r.now r.pump.lastReceived r.channel.transport.inbox
  | some (finish, result) =>
    finish ≤ r.now ∧ Judged start r.config.receiveTimeout times finish result

variable {r₀ r r' : InboundRun} {es : List (Nat × InboundEvent)}
  {ending? : Option (Nat × Except Error PumpStats)} {start : Nat} {times : List Nat}

theorem Accounts.happen (h : Accounts start times r ending?) (hpos : 0 < r.config.receiveTimeout)
    (e : InboundEvent) : Accounts start (times ++ if r.channel.serverOpen then
      (e.datagram?.map fun _ => r.now).toList else []) (r.happen e) ending? := by
  have hin := (r.happen_inbox e).1
  by_cases hp : ∃ p, r.channel.serverOpen = true ∧ e.datagram? = some p
  · obtain ⟨p, hs, hd⟩ := hp
    rw [hs, if_pos rfl, hd] at hin ⊢
    cases ending? with
    | none =>
      have hw : Watching start r.config.receiveTimeout (times ++ [r.now]) r.now
          r.pump.lastReceived (r.channel.transport.inbox ++ [p]) := Watching.arrive h hpos
      unfold Accounts
      rw [happen_config, happen_now, happen_pump, hin]
      exact hw
    | some x =>
      obtain ⟨hle, hj⟩ := h
      unfold Accounts
      rw [happen_config, happen_now]
      exact ⟨hle, hj.arrive hle⟩
  · have hnone {α : Type} (f : Packet → α) :
        (if r.channel.serverOpen then (e.datagram?.map f).toList else []) = [] := by
      split
      · rename_i hs
        cases hd : e.datagram? with
        | none => rfl
        | some p => exact absurd ⟨p, hs, hd⟩ hp
      · rfl
    have hin' : (r.happen e).channel.transport.inbox = r.channel.transport.inbox := by
      have hid := hnone id
      rw [Option.map_id, id_eq] at hid
      rw [hin, hid, List.append_nil]
    rw [hnone, List.append_nil]
    unfold Accounts
    rw [happen_config, happen_now, happen_pump, hin']
    exact h

theorem Accounts.does (h : Accounts start times r none) (hd : r.Does r') :
    Accounts start times r' (r'.pump.result?.map (Prod.mk r.now)) := by
  have hnow := hd.now
  unfold Accounts at h ⊢
  cases hx : r'.pump.result? with
  | some x =>
    show r.now ≤ r'.now ∧ Judged start r'.config.receiveTimeout times r.now x
    rw [hnow, hd.config]
    refine ⟨Nat.le_refl r.now, h.judged ?_⟩
    intro hgone
    subst hgone
    cases hd.moves.ends hx with
    | silent _ ht => exact ht
  | none =>
    show Watching start r'.config.receiveTimeout times r'.now r'.pump.lastReceived
      r'.channel.transport.inbox
    rw [hnow, hd.config]
    rcases hd.moves.hears with ⟨hl, hi⟩ | ⟨p, hi, hl, hlt⟩
    · rw [hl, hi]
      exact h
    · rw [hl]
      rw [hi] at h
      exact h.receive hlt

/-- A pump whose operations take no time and that can do nothing waits for the server. -/
theorem waiting_of_step (hf : r.channel.IsFree) (hs : r.step = none) (hn : r.pump.result? = none) :
    r.pump.phase = .waiting ∧ r.channel.transport.inbox = [] ∧
      r.now < r.pump.lastReceived + r.config.receiveTimeout := by
  unfold Inbound.result? at hn
  cases Inbound.rests_of_step (step_eq_none_iff.1 hs) with
  | waiting hp _ ht hq => exact ⟨hp, hq, ht⟩
  | ended hp | panicked hp => rw [hp] at hn; cases hn
  | writing _ hw => rw [hf.wire] at hw; cases hw
  | pinging _ ht => rw [hf.transport] at ht; cases ht

theorem Accounts.clock (h : Accounts start times r ending?) (hf : r.channel.IsFree)
    (hn : ending? = none → r.pump.result? = none) (hs : r.step = none) {t : Nat} (hle : r.now ≤ t)
    (ht : ∀ w, r.timer? = some w → t ≤ w) : Accounts start times (r.moveClock t) ending? := by
  cases ending? with
  | some x => exact ⟨h.1.trans hle, h.2⟩
  | none =>
    obtain ⟨hp, hq, -⟩ := waiting_of_step hf hs (hn rfl)
    have htimer : t ≤ r.pump.lastReceived + r.config.receiveTimeout := by
      refine (ht _ ?_).trans (Nat.min_le_left _ (r.channel.keepaliveAt r.config.keepaliveInterval))
      rw [timer?, Inbound.timer?, hp]
    unfold Accounts at h
    rw [hq] at h
    have hw := h.pass hle htimer
    rw [← hq] at hw
    exact hw

theorem Leads.accounts (h : r₀.Leads es ending? r) (hf : r₀.channel.IsFree)
    (hpos : 0 < r₀.config.receiveTimeout) (hn : r₀.pump.result? = none)
    (hl : r₀.pump.lastReceived = r₀.now) :
    Accounts r₀.now (arrivalTimes r₀.channel.serverOpen es) r ending? := by
  induction h with
  | start =>
    rw [arrivalTimes, arrivals_nil, List.map_nil]
    unfold Accounts
    dsimp only
    rw [hl]
    exact watching_start r₀.now r₀.channel.transport.inbox hpos
  | @event es ending? r hr e ih =>
    have hconcat : arrivalTimes r₀.channel.serverOpen (es ++ [(r.now, e)]) =
        arrivalTimes r₀.channel.serverOpen es ++ if r.channel.serverOpen then
          (e.datagram?.map fun _ => r.now).toList else [] := by
      unfold arrivalTimes
      rw [arrivals_concat, List.map_append, hr.serverOpen]
      congr 1
      split
      · cases e.datagram? <;> rfl
      · rfl
    rw [hconcat]
    exact ih.happen (hr.flags.1 ▸ hpos) e
  | step hr hs hnone ih =>
    rw [hr.ending?_eq_none hn hs] at ih ⊢
    have hd := ih.does (does_of_step hs)
    rw [hnone] at hd
    exact hd
  | finish hr hs hx ih =>
    rw [hr.ending?_eq_none hn hs] at ih
    have hd := ih.does (does_of_step hs)
    rw [hx] at hd
    exact hd
  | clock hr hs hle ht ih =>
    obtain ⟨-, hw, htr, -⟩ := hr.flags
    refine ih.clock ⟨hw.trans hf.wire, htr.trans hf.transport⟩ ?_ hs hle ht
    intro hend
    rw [hr.result? hn, hend]
    rfl

/-- What holds of each run of the pump of an attempt. -/
theorem Leads.of_spawn {f : SignalForest} {attempt : Nat} {config : InboundConfig} {c : Channel}
    (h : (spawn f attempt config c).Leads es ending? r) (hf : c.IsFree)
    (hpos : 0 < config.receiveTimeout) : r.config = config ∧ r.channel.IsFree ∧
      r.pump.result? = ending?.map Prod.snd ∧
      Accounts c.now (arrivalTimes c.serverOpen es) r ending? := by
  rw [spawn_eq] at h
  obtain ⟨hconfig, hw, ht, -⟩ := h.flags
  exact ⟨hconfig, ⟨hw.trans hf.wire, ht.trans hf.transport⟩, h.result? rfl,
    h.accounts hf hpos rfl rfl⟩

/-- When a pump gives the server up. Its writes take no time, and time has been observed up to and
including `t`. The pump ends at `t` with the loss of the server exactly if nothing else has ended it
by then and `t` is one receive timeout after the pump's start or after the arrival of a datagram from
the server, be it a control message or not, with no arrival in between. So two runs in which
datagrams of the server arrive at the same times end by silence at the same time, whatever else
happens in them. Every timeline of events has a run, up to any time. -/
theorem serverGone_iff (f : SignalForest) (attempt start started : Nat) (config : InboundConfig)
    (timing : LinkTiming) (wire : Wire) (inbox : List Packet) (hR : 0 < config.receiveTimeout)
    (hK : 0 < config.keepaliveInterval) (hw : wire.isFull = false) :
    (∀ es ending? r t,
      (spawn f attempt config (.connected start started timing wire inbox)).Leads es ending? r →
      (t < r.now ∨ t = r.now ∧ r.step = none) →
      (ending? = some (t, .error (.serverGone config.receiveTimeout)) ↔
        (∀ e, ending? = some e → e.1 ≤ t → e = (t, .error (.serverGone config.receiveTimeout))) ∧
        ∃ m, (m = start ∨ m ∈ arrivalTimes true es) ∧ t = m + config.receiveTimeout ∧
          ∀ m' ∈ arrivalTimes true es, ¬ (m < m' ∧ m' < t))) ∧
    (∀ es es' t t' r r',
      (spawn f attempt config (.connected start started timing wire inbox)).Leads es
        (some (t, .error (.serverGone config.receiveTimeout))) r →
      (spawn f attempt config (.connected start started timing wire inbox)).Leads es'
        (some (t', .error (.serverGone config.receiveTimeout))) r' →
      arrivalTimes true es = arrivalTimes true es' → t = t') ∧
    ∀ horizon timeline, start ≤ horizon → timeline.Pairwise (·.1 ≤ ·.1) →
      (∀ e ∈ timeline, start ≤ e.1 ∧ e.1 ≤ horizon) →
      ∃ ending? r, (spawn f attempt config
        (.connected start started timing wire inbox)).Leads timeline ending? r ∧ r.now = horizon := by
  refine ⟨?_, ?_, ?_⟩
  · intro es ending? r t h ht
    obtain ⟨hconfig, hf, hresult, hacc⟩ := h.of_spawn ⟨hw, rfl⟩ hR
    constructor
    · rintro rfl
      obtain ⟨-, hj⟩ := hacc
      rw [hconfig] at hj
      obtain ⟨m, hm, heq, hnone⟩ := hj.gone rfl
      refine ⟨?_, m, List.mem_cons.1 hm, heq, hnone⟩
      intro e he _
      cases he
      rfl
    · rintro ⟨hother, m, hm, rfl, hnone⟩
      have hm := List.mem_cons.2 hm
      cases ending? with
      | some x =>
        obtain ⟨-, hj⟩ := hacc
        rw [hconfig] at hj
        rcases Nat.lt_or_ge (m + config.receiveTimeout) x.1 with hlt | hge
        · -- the timeout was answered, or the pump would have ended before
          obtain ⟨m', hm', hbetween⟩ := hj.answered m hm hlt
          exact absurd hbetween (hnone m' hm')
        · rw [hother x rfl hge]
      | none =>
        have hacc : Watching start r.config.receiveTimeout (arrivalTimes true es) r.now
          r.pump.lastReceived r.channel.transport.inbox := hacc
        rw [← hconfig] at ht hnone
        obtain ⟨m', hm', hbetween⟩ : ∃ m' ∈ arrivalTimes true es,
            m < m' ∧ m' < m + r.config.receiveTimeout := by
          rcases ht with hlt | ⟨heq, hs⟩
          · exact hacc.answered m hm (.inl hlt)
          · obtain ⟨-, -, hlt⟩ := waiting_of_step hf hs hresult
            rcases Nat.lt_or_ge r.pump.lastReceived (m + r.config.receiveTimeout) with hl | hl
            · exact hacc.answered_of_lt hm (by omega) hl
            · exact hacc.answered m hm (.inr hl)
        exact absurd hbetween (hnone m' hm')
  · intro es es' t t' r r' h h' heq
    obtain ⟨hconfig, -, -, -, hj⟩ := h.of_spawn ⟨hw, rfl⟩ hR
    obtain ⟨hconfig', -, -, -, hj'⟩ := h'.of_spawn ⟨hw, rfl⟩ hR
    rw [hconfig, show (Channel.connected start started timing wire inbox).serverOpen = true from rfl,
      heq] at hj
    rw [hconfig'] at hj'
    exact Nat.le_antisymm (hj.finish_le hj') (hj'.finish_le hj)
  · intro horizon timeline hle hsort htimes
    rw [spawn_eq]
    exact exists_leads hK hsort htimes hle

/-- The pump of a small run. It starts at time 5 on a link that was started at time 0. -/
def trialPump : InboundRun :=
  spawn .new 0 ⟨1000, 110⟩ (.connected 5 0 {} ⟨.waits, [], 0, 0, false, false⟩ [])

/-- A control message arrives at time 30 and nothing after it, so the pump ends at time 140. -/
theorem trialPump_gone : ∃ ending? r, trialPump.Leads [(30, .serverSend [0])] ending? r ∧ r.now = 140 ∧
    ending? = some (140, .error (.serverGone 110)) := by
  have fresh : trialPump.Leads [] none trialPump := .start
  have heard := (fresh.clock rfl (show 5 ≤ 30 by decide) (by
    intro w hw
    cases hw
    decide)).event (.serverSend [0])
  have silent := ((heard.step rfl rfl).clock rfl (show 30 ≤ 140 by decide) (by
    intro w hw
    cases hw
    decide)).finish rfl rfl
  refine ⟨_, _, silent, rfl, ?_⟩
  obtain ⟨hiff, -, -⟩ := serverGone_iff .new 0 5 0 ⟨1000, 110⟩ {} ⟨.waits, [], 0, 0, false, false⟩ []
    (by decide) (by decide) rfl
  refine (hiff _ _ _ 140 silent (.inr ⟨rfl, rfl⟩)).2 ⟨?_, 30, .inr ?_, rfl, ?_⟩
  · intro e he _
    cases he
    rfl
  · exact List.mem_singleton_self 30
  · intro m hm
    rw [List.mem_singleton.1 (show m ∈ [30] from hm)]
    decide

end InboundRun

end TunnelRelay.Relay
