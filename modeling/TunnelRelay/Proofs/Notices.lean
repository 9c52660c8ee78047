import TunnelRelay.Client.Handle
import TunnelRelay.Proofs.States
/-!
# What an application is told

A client reports the states of its connection and at last the disconnection. Two tasks do that side
by side with the connection, so the states that are reported depend on which task comes first; what
every order has in common is `Reports`, kept by each turn. The forwarding task may be late and may
pass over states, but the state that ends a connection is the newest one for ever, so it is not
passed over, and the disconnection waits for it.
-/

namespace TunnelRelay

/-- The failures that end a connection. -/
def Error.EndsConnection (e : Error) : Prop :=
  (∃ n, e = .attemptsExhausted n) ∨ ∃ text, e = .dnsResolution text

namespace Relay.Run

section
variable {r r' : Run}

/-! ## The end of a history -/

/-- The last published state, and only that one, may end the connection; it tells how the connection
has ended. No budget is needed for that. -/
structure EndsOnce (r : Run) : Prop where
  last : ∃ init, r.history = init ++ [r.state] ∧ ∀ s ∈ init, s.isTerminal = false
  shows : r.phase.Shows r.state
  result : ∀ e, r.phase = .done (.error e) → e.EndsConnection

theorem IsFresh.endsOnce (h : r.IsFresh) : r.EndsOnce where
  last := ⟨[], by rw [h.history, h.state]; rfl, nofun⟩
  shows := by rw [h.phase]; exact h.state
  result := by
    intro e he
    rw [h.phase] at he
    cases he

/-- A connection has ended exactly if its state says so. -/
theorem isTerminal_iff (h : r.phase.Shows r.state) :
    r.state.isTerminal = true ↔ r.result? ≠ none := by
  unfold result?
  cases hp : r.phase with
  | done result =>
    rw [hp] at h
    rw [show r.state = finalState result from h]
    cases result <;> simp [finalState, RelayState.isTerminal]
  | opening server f =>
    rw [hp] at h
    rcases h with h | ⟨-, h⟩ <;> simp [h, RelayState.isTerminal]
  | idle | starting | attempting | pumping | pausing =>
    rw [hp] at h
    simp [show r.state = _ from h, RelayState.isTerminal]

/-- A connection that goes on has published no state that ends one. -/
theorem EndsOnce.nonterminal (h : r.EndsOnce) (hn : r.result? = none) :
    ∀ s ∈ r.history, s.isTerminal = false := by
  obtain ⟨init, e, hinit⟩ := h.last
  have hs : r.state.isTerminal = false :=
    Bool.eq_false_iff.2 fun ht => (isTerminal_iff h.shows).1 ht hn
  rw [e]
  exact List.forall_mem_append.2 ⟨hinit, List.forall_mem_singleton.2 hs⟩

/-- One more state for a connection that goes on. -/
theorem EndsOnce.publish (h : r.EndsOnce) (hn : r.result? = none)
    (hhistory : r'.history = r.history ++ [r'.state]) (hshows : r'.phase.Shows r'.state)
    (hresult : ∀ e, r'.phase = .done (.error e) → e.EndsConnection) : r'.EndsOnce :=
  ⟨⟨r.history, hhistory, h.nonterminal hn⟩, hshows, hresult⟩

theorem afterAttempt_history (r : Run) (server : Net.Address) (f : Nat) :
    (r.afterAttempt server f).history = r.history ++ [(r.afterAttempt server f).state] ∧
      ∀ e, (r.afterAttempt server f).phase = .done (.error e) → ∃ n, e = .attemptsExhausted n := by
  rcases r.afterAttempt_cases server f with ⟨-, log, e⟩ | ⟨-, -, log, e⟩ | ⟨-, -, e⟩ <;> rw [e]
  · exact ⟨rfl, nofun⟩
  · refine ⟨rfl, ?_⟩
    intro e he
    cases he
    exact ⟨f, rfl⟩
  · exact ⟨rfl, nofun⟩

/-- What is published is added to the history, and a connection that has ended publishes nothing. -/
theorem EndsOnce.does (h : r.EndsOnce) (hd : r.Does r') :
    r'.EndsOnce ∧ r.history <+: r'.history := by
  have hn := hd.result?_eq_none
  have hshows := hd.change.shows h.shows
  have same (hs : r'.state = r.state) (hh : r'.history = r.history)
      (hr : ∀ e, r'.phase ≠ .done (.error e)) : r'.EndsOnce ∧ r.history <+: r'.history := by
    refine ⟨⟨?_, hshows, fun e he => absurd he (hr e)⟩, hh ▸ List.prefix_refl _⟩
    rw [hs, hh]
    exact h.last
  have more (hh : r'.history = r.history ++ [r'.state])
      (hr : ∀ e, r'.phase = .done (.error e) → e.EndsConnection) :
      r'.EndsOnce ∧ r.history <+: r'.history :=
    ⟨h.publish hn hh hshows hr, hh ▸ List.prefix_append _ _⟩
  cases hd.change with
  | resolved | outbound | inbound | wakes => exact same rfl rfl nofun
  | @unresolved e log hp hs he =>
    refine more rfl ?_
    intro e' he'
    cases he'
    unfold resolve at he
    split at he
    · cases he
    · cases he; exact .inr ⟨_, rfl⟩
  | stopped | begins | connects => exact more rfl nofun
  | fails | loses =>
    exact more (afterAttempt_history _ _ _).1 fun e he =>
      .inl ((afterAttempt_history _ _ _).2 e he)

theorem EndsOnce.happen (h : r.EndsOnce) (e : Event) : (r.happen e).EndsOnce where
  last := by rw [happen_history, happen_state]; exact h.last
  shows := happen_shows h.shows e
  result := by
    rcases r.happen_phase e with hp | ⟨-, -, hp⟩ <;> rw [hp]
    · exact h.result
    · exact nofun

end

end Relay.Run

namespace Client

/-- The number by which an application sees a state. -/
def stateCode (s : RelayState) : Nat := (State.ofRelay s).code

namespace Handle

/-! ## The runs of a client -/

/-- A client as it is created. -/
structure IsNew (c : Handle) : Prop where
  run : c.run.IsFresh
  started : c.started = false
  seen : c.seen = 0
  forwarded : c.forwarded = false
  ending : c.ending = .running
  notices : c.notices = []

/-- Turns of a client, one after another in any order. The connection makes its steps in any order
of its own tasks, and nobody starts it but the client. -/
inductive Goes (c : Handle) : List Turn → Handle → Prop
  | start : Goes c [] c
  | turn {ts : List Turn} {c' : Handle} (h : Goes c ts c') {t : Turn} (ht : t ≠ .happen .run) :
    Goes c (ts ++ [t]) (c'.turn t)
  | does {ts : List Turn} {c' : Handle} {r : Relay.Run} (h : Goes c ts c') (hd : c'.run.Does r) :
    Goes c (ts ++ [.work]) { c' with run := r }

theorem goes_turns (c : Handle) {ts : List Turn} (hr : .happen .run ∉ ts) :
    c.Goes ts (c.turns ts) := by
  induction ts using List.reverseRecOn with
  | nil => exact .start
  | append_singleton ts t ih =>
    rw [List.mem_append, List.mem_singleton, not_or] at hr
    rw [turns, List.foldl_concat]
    exact (ih hr.1).turn (Ne.symm hr.2)

/-! ## What is reported -/

/-- The states among some notices. -/
def statesTold (ns : List AppCall) : List Nat :=
  ns.filterMap fun n => match n with
    | .onStateChanged code => some code
    | _ => none

/-- The results of the connection among some notices. -/
def resultsTold (ns : List AppCall) : List Int :=
  ns.filterMap fun n => match n with
    | .onDisconnected code => some code
    | _ => none

theorem statesTold_append (ns ms : List AppCall) :
    statesTold (ns ++ ms) = statesTold ns ++ statesTold ms := List.filterMap_append

theorem resultsTold_append (ns ms : List AppCall) :
    resultsTold (ns ++ ms) = resultsTold ns ++ resultsTold ms := List.filterMap_append

/-- How far the forwarding task has come: it has reported some of the states that it has seen, in
their order. While it goes on it has seen none that ends the connection; at last it has reported the
one that does. -/
structure Forwards (c : Handle) : Prop where
  seen_le : c.seen ≤ c.run.history.length
  going : c.forwarded = false →
    (statesTold c.notices).Sublist ((c.run.history.take c.seen).map stateCode) ∧
    ∀ s ∈ c.run.history.take c.seen, s.isTerminal = false
  ended : c.forwarded = true → c.run.state.isTerminal = true ∧ (.onStateChanged ∈ c.registered →
    ∃ codes, statesTold c.notices = codes ++ [stateCode c.run.state] ∧
      codes.Sublist (c.run.history.dropLast.map stateCode))
  unregistered : .onStateChanged ∉ c.registered → statesTold c.notices = []

/-- How far the end has been reported. -/
def Concludes (c : Handle) : Prop :=
  match c.ending with
  | .running => resultsTold c.notices = []
  | .logged => resultsTold c.notices = [] ∧ c.run.result? ≠ none
  | .disconnected => c.forwarded = true ∧ ∃ result, c.run.result? = some result ∧
    if .onDisconnected ∈ c.registered then
      ∃ ns, c.notices = ns ++ [.onDisconnected (endResult result).code] ∧ resultsTold ns = []
    else resultsTold c.notices = []

/-- What a client has done after some turns. -/
structure Reports (ts : List Turn) (c : Handle) : Prop where
  started : c.started = true ↔ .start ∈ ts
  idle : c.started = false → c.run.phase = .idle
  run : c.run.EndsOnce
  forwards : c.Forwards
  concludes : c.Concludes

section
variable {c c' : Handle} {ts : List Turn}

theorem IsNew.reports (h : c.IsNew) : Reports [] c where
  started := by rw [h.started]; simp
  idle _ := h.run.phase
  run := h.run.endsOnce
  forwards :=
    { seen_le := by rw [h.seen]; exact Nat.zero_le _
      going := by
        intro _
        rw [h.seen, h.notices]
        exact ⟨List.nil_sublist _, nofun⟩
      ended := by rw [h.forwarded]; exact nofun
      unregistered := by intro _; rw [h.notices]; rfl }
  concludes := by
    unfold Concludes
    rw [h.ending, h.notices]
    rfl

/-! ## The connection and its surroundings -/

/-- A connection that goes on, or that stays as it has ended. -/
structure Extends (r r' : Relay.Run) : Prop where
  endsOnce : r'.EndsOnce
  history : r.history <+: r'.history
  ended : r.result? ≠ none →
    r'.state = r.state ∧ r'.history = r.history ∧ r'.result? = r.result?

theorem Extends.forwards {r : Relay.Run} (he : Extends c.run r) (hrun : c.run.EndsOnce)
    (h : c.Forwards) : { c with run := r }.Forwards where
  seen_le := h.seen_le.trans he.history.length_le
  going := by
    intro hf
    have htake : r.history.take c.seen = c.run.history.take c.seen := by
      obtain ⟨rest, e⟩ := he.history
      rw [← e, List.take_append_of_le_length h.seen_le]
    show List.Sublist (statesTold c.notices) ((r.history.take c.seen).map stateCode) ∧ _
    rw [htake]
    exact h.going hf
  ended := by
    intro hf
    obtain ⟨hs, hh, -⟩ := he.ended ((Relay.Run.isTerminal_iff hrun.shows).1 (h.ended hf).1)
    show r.state.isTerminal = true ∧ _
    rw [hs, hh]
    exact h.ended hf
  unregistered := h.unregistered

theorem Extends.concludes {r : Relay.Run} (he : Extends c.run r) (h : c.Concludes) :
    { c with run := r }.Concludes := by
  unfold Concludes at h ⊢
  dsimp only
  split at h
  · exact h
  · exact ⟨h.1, by rw [(he.ended h.2).2.2]; exact h.2⟩
  · obtain ⟨hf, result, hr, hn⟩ := h
    exact ⟨hf, result, (he.ended (by rw [hr]; exact Option.some_ne_none _)).2.2.trans hr, hn⟩

theorem extends_of_does {r r' : Relay.Run} (h : r.EndsOnce) (hd : r.Does r') : Extends r r' where
  endsOnce := (h.does hd).1
  history := (h.does hd).2
  ended hn := absurd hd.result?_eq_none hn

theorem extends_happen {r : Relay.Run} (h : r.EndsOnce) (e : Relay.Event) :
    Extends r (r.happen e) where
  endsOnce := h.happen e
  history := (Relay.Run.happen_history r e).symm ▸ List.prefix_refl _
  ended := by
    intro hn
    refine ⟨Relay.Run.happen_state r e, Relay.Run.happen_history r e, ?_⟩
    rcases r.happen_phase e with hp | ⟨hi, -, -⟩
    · rw [Relay.Run.result?, hp, Relay.Run.result?]
    · rw [Relay.Run.result?, hi] at hn
      exact absurd rfl hn

theorem extends_moveClock {r : Relay.Run} (h : r.EndsOnce) (t : Nat) : Extends r (r.moveClock t) :=
  ⟨⟨h.last, h.shows, h.result⟩, List.prefix_refl _, fun _ => ⟨rfl, rfl, rfl⟩⟩

/-- Whatever the connection and its surroundings do, the reports stand. -/
theorem Reports.extend (h : Reports ts c) {r : Relay.Run} (he : Extends c.run r)
    (hidle : c.started = false → r.phase = .idle) {t : Turn} (ht : t ≠ .start) :
    Reports (ts ++ [t]) { c with run := r } where
  started := by rw [h.started]; simp [ht.symm]
  idle := hidle
  run := he.endsOnce
  forwards := he.forwards h.run h.forwards
  concludes := he.concludes h.concludes

/-- A connection that has not been started has nothing to do. -/
theorem Reports.does (h : Reports ts c) {r : Relay.Run} (hd : c.run.Does r) :
    Reports (ts ++ [.work]) { c with run := r } := by
  refine h.extend (extends_of_does h.run hd) ?_ Turn.noConfusion
  intro hs
  exact absurd (h.idle hs) hd.change.ne_idle.1

theorem Reports.happen (h : Reports ts c) {e : Relay.Event} (he : e ≠ .run) {t : Turn}
    (ht : t ≠ .start) : Reports (ts ++ [t]) { c with run := c.run.happen e } := by
  refine h.extend (extends_happen h.run e) ?_ ht
  intro hs
  by_contra hp
  rcases (Relay.Run.happen_phase_ne_idle _ e).1 hp with hi | hrun
  · exact hi (h.idle hs)
  · exact he hrun

/-- The first start starts the connection. -/
theorem Reports.start (h : Reports ts c) : Reports (ts ++ [.start]) c.start.2 := by
  cases hs : c.started with
  | true =>
    have hstart : c.start.2 = c := by rw [Handle.start, if_pos hs]
    rw [hstart]
    exact ⟨by rw [hs]; simp, h.idle, h.run, h.forwards, h.concludes⟩
  | false =>
    have hrun : c.run.start.2 = { c.run with phase := .starting } := by
      rcases c.run.start_snd with e | ⟨-, e⟩
      · rw [Relay.Run.start, h.idle hs]
      · exact e
    have hnone : c.run.result? = none := by rw [Relay.Run.result?, h.idle hs]
    have hext : Extends c.run { c.run with phase := .starting } := by
      have hshows := h.run.shows
      rw [h.idle hs] at hshows
      refine ⟨⟨h.run.last, hshows, ?_⟩, List.prefix_refl _, fun hn => absurd hnone hn⟩
      intro e he
      cases he
    have hstart : c.start.2 =
        { c with started := true, run := { c.run with phase := .starting } } := by
      rw [Handle.start, hs, if_neg Bool.false_ne_true, hrun]
    obtain ⟨hle, hgoing, hended, hnone⟩ := hext.forwards h.run h.forwards
    rw [hstart]
    refine ⟨by simp, ?_, hext.endsOnce, ⟨hle, hgoing, hended, hnone⟩,
      hext.concludes h.concludes⟩
    intro hs
    cases hs

/-! ## The two reports -/

theorem notify_eq (c : Handle) (n : AppCall) : c.notify n =
    { c with notices := c.notices ++ if n.callback ∈ c.registered then [n] else [] } := by
  unfold notify
  by_cases hr : n.callback ∈ c.registered
  · simp [hr]
  · simp [hr]

/-- The forwarding task rests, or it reports the newest state. -/
theorem forward_cases (c : Handle) :
    (¬(c.started ∧ ¬c.forwarded ∧ c.seen < c.run.history.length) ∧ c.forward = c) ∨
      (c.started ∧ c.forwarded = false ∧ c.seen < c.run.history.length ∧ c.forward =
        { c with
          notices := c.notices ++
            if .onStateChanged ∈ c.registered then [.onStateChanged (stateCode c.run.state)] else []
          seen := c.run.history.length, forwarded := c.run.state.isTerminal }) := by
  unfold forward
  split
  · rename_i h
    rw [notify_eq]
    exact .inr ⟨h.1, by simpa using h.2.1, h.2.2, rfl⟩
  · rename_i h
    exact .inl ⟨h, rfl⟩

/-- The end is reported step by step. -/
theorem conclude_cases (c : Handle) :
    ((c.run.result? ≠ none → c.ending ≠ .running ∧
        (c.forwarded = true → c.ending = .disconnected)) ∧ c.conclude = c) ∨
      (∃ level text, c.run.result? ≠ none ∧ c.ending = .running ∧ c.conclude =
        { c with
          notices := c.notices ++ if .onLog ∈ c.registered then [.onLog level text] else []
          ending := .logged }) ∨
      (∃ result, c.run.result? = some result ∧ c.ending = .logged ∧ c.forwarded = true ∧
        c.conclude = { c with
          notices := c.notices ++
            if .onDisconnected ∈ c.registered then [.onDisconnected (endResult result).code] else []
          ending := .disconnected }) := by
  unfold conclude
  split
  · rename_i result hr he
    generalize endMessage c.run.config.tag result = message
    obtain ⟨level, text⟩ := message
    dsimp only
    rw [notify_eq]
    exact .inr (.inl ⟨level, text, by rw [hr]; exact Option.some_ne_none _, he, rfl⟩)
  · rename_i result hr he
    split
    · rename_i hf
      rw [notify_eq]
      exact .inr (.inr ⟨result, hr, he, hf, rfl⟩)
    · rename_i hf
      exact .inl ⟨fun _ => ⟨by rw [he]; exact nofun, fun ht => absurd ht hf⟩, rfl⟩
  · rename_i hrun hlog
    refine .inl ⟨?_, rfl⟩
    intro hn
    obtain ⟨result, hr⟩ := Option.ne_none_iff_exists'.1 hn
    cases he : c.ending with
    | running => exact absurd he (hrun result hr)
    | logged => exact absurd he (hlog result hr)
    | disconnected => exact ⟨nofun, fun _ => rfl⟩

/-- The forwarding task reports the newest state: it has not been reported before, and the states
before it have not ended the connection. -/
theorem Forwards.forward (h : c.Forwards) (hrun : c.run.EndsOnce) : c.forward.Forwards := by
  rcases c.forward_cases with ⟨-, e⟩ | ⟨-, hf, hlt, e⟩ <;> rw [e]
  · exact h
  obtain ⟨init, hh, hinit⟩ := hrun.last
  have hcodes (ns : List AppCall) : statesTold (ns ++ if .onStateChanged ∈ c.registered then
      [.onStateChanged (stateCode c.run.state)] else []) = statesTold ns ++
        if .onStateChanged ∈ c.registered then [stateCode c.run.state] else [] := by
    rw [statesTold_append, apply_ite statesTold]
    rfl
  have hsub : (statesTold c.notices).Sublist (init.map stateCode) := by
    refine (h.going hf).1.trans (List.Sublist.map _ ?_)
    rw [hh, List.length_append, List.length_singleton] at hlt
    rw [hh, List.take_append_of_le_length (Nat.le_of_lt_succ hlt)]
    exact List.take_sublist _ _
  refine ⟨Nat.le_refl _, ?_, ?_, ?_⟩ <;> dsimp only <;> rw [hcodes]
  · intro ht
    rw [List.take_length, hh]
    refine ⟨?_, List.forall_mem_append.2 ⟨hinit, List.forall_mem_singleton.2 ht⟩⟩
    rw [List.map_append]
    refine hsub.append ?_
    split
    · exact List.Sublist.refl _
    · exact List.nil_sublist _
  · intro ht
    refine ⟨ht, fun hreg => ⟨statesTold c.notices, by rw [if_pos hreg], ?_⟩⟩
    rw [hh, List.dropLast_concat]
    exact hsub
  · intro hreg
    rw [if_neg hreg, h.unregistered hreg]
    rfl

theorem Concludes.forward (h : c.Concludes) : c.forward.Concludes := by
  rcases c.forward_cases with ⟨-, e⟩ | ⟨-, hf, -, e⟩ <;> rw [e]
  · exact h
  have hresults (ns : List AppCall) : resultsTold (ns ++ if .onStateChanged ∈ c.registered then
      [.onStateChanged (stateCode c.run.state)] else []) = resultsTold ns := by
    rw [resultsTold_append]
    split <;> exact List.append_nil _
  unfold Concludes at h ⊢
  dsimp only
  rw [hresults]
  split at h
  · exact h
  · exact h
  · rw [hf] at h
    exact absurd h.1 Bool.false_ne_true

theorem Reports.forward (h : Reports ts c) : Reports (ts ++ [.forward]) c.forward := by
  have hforwards := h.forwards.forward h.run
  have hconcludes := h.concludes.forward
  rcases c.forward_cases with ⟨-, e⟩ | ⟨-, -, -, e⟩ <;> rw [e] at hforwards hconcludes ⊢
  · exact ⟨by rw [h.started]; simp, h.idle, h.run, hforwards, hconcludes⟩
  · exact ⟨by rw [h.started]; simp, h.idle, h.run, hforwards, hconcludes⟩

/-- A notice about something else leaves the states as they were reported. -/
theorem Forwards.tell (h : c.Forwards) (ending : Ending) {ns : List AppCall}
    (hn : statesTold ns = []) :
    { c with notices := c.notices ++ ns, ending := ending }.Forwards := by
  have hsame : statesTold (c.notices ++ ns) = statesTold c.notices := by
    rw [statesTold_append, hn, List.append_nil]
  refine ⟨h.seen_le, ?_, ?_, ?_⟩ <;> dsimp only <;> rw [hsame]
  · exact h.going
  · exact h.ended
  · exact h.unregistered

/-- The end is reported step by step, and the application is told of it when nothing else is left to
tell. -/
theorem Reports.conclude (h : Reports ts c) : Reports (ts ++ [.conclude]) c.conclude := by
  have hstarted : c.started = true ↔ .start ∈ ts ++ [.conclude] := by rw [h.started]; simp
  have hc := h.concludes
  unfold Concludes at hc
  rcases c.conclude_cases with ⟨-, e⟩ | ⟨_, _, hn, he, e⟩ | ⟨result, hr, he, hf, e⟩ <;> rw [e]
  · exact ⟨hstarted, h.idle, h.run, h.forwards, h.concludes⟩
  · rw [he] at hc
    refine ⟨hstarted, h.idle, h.run, h.forwards.tell .logged ?_, ?_, hn⟩
    · split <;> rfl
    · rw [resultsTold_append, hc]
      split <;> rfl
  · rw [he] at hc
    refine ⟨hstarted, h.idle, h.run, h.forwards.tell .disconnected ?_, hf, result, hr, ?_⟩
    · split <;> rfl
    · dsimp only
      by_cases hreg : .onDisconnected ∈ c.registered
      · rw [if_pos hreg, if_pos hreg]
        exact ⟨c.notices, rfl, hc.1⟩
      · rw [if_neg hreg, if_neg hreg, List.append_nil]
        exact hc.1

theorem Goes.reports (h₀ : c.IsNew) (h : c.Goes ts c') : Reports ts c' := by
  induction h with
  | start => exact h₀.reports
  | does _ hd ih => exact ih.does hd
  | @turn ts c' _ t ht h =>
    cases t with
    | start => exact h.start
    | stop => exact h.happen (e := .stop) Relay.Event.noConfusion Turn.noConfusion
    | work =>
      show Reports (ts ++ [.work]) c'.work
      unfold work
      split
      · rename_i hs; exact h.does (Relay.Run.does_of_step hs)
      · exact ⟨by rw [h.started]; simp, h.idle, h.run, h.forwards, h.concludes⟩
    | forward => exact h.forward
    | conclude => exact h.conclude
    | happen e => exact h.happen (fun he => ht (he ▸ rfl)) Turn.noConfusion
    | advance t =>
      exact h.extend (r := c'.run.moveClock (max c'.run.now t)) (extends_moveClock h.run _) h.idle
        Turn.noConfusion

/-! ## What stays as it is -/

/-- No turn takes back what the tasks have done. -/
structure Retains (c c' : Handle) : Prop where
  registered : c'.registered = c.registered
  ended : c.run.result? ≠ none → c'.run.result? = c.run.result?
  forwarded : c.forwarded = true → c'.forwarded = true
  logged : c.ending ≠ .running → c'.ending ≠ .running
  disconnected : c.ending = .disconnected → c'.ending = .disconnected

theorem Retains.refl (c : Handle) : c.Retains c := ⟨rfl, fun _ => rfl, id, id, id⟩

theorem Retains.trans {c'' : Handle} (h : c.Retains c') (h' : c'.Retains c'') : c.Retains c'' where
  registered := h'.registered.trans h.registered
  ended hn := (h'.ended (by rw [h.ended hn]; exact hn)).trans (h.ended hn)
  forwarded hf := h'.forwarded (h.forwarded hf)
  logged hl := h'.logged (h.logged hl)
  disconnected hd := h'.disconnected (h.disconnected hd)

theorem retains_run {r : Relay.Run} (h : c.run.result? ≠ none → r.result? = c.run.result?) :
    c.Retains { c with run := r } := ⟨rfl, h, id, id, id⟩

theorem retains_does {r : Relay.Run} (hd : c.run.Does r) : c.Retains { c with run := r } :=
  retains_run fun hn => absurd hd.result?_eq_none hn

theorem result?_happen {r : Relay.Run} (hn : r.result? ≠ none) (e : Relay.Event) :
    (r.happen e).result? = r.result? := by
  unfold Relay.Run.result? at hn ⊢
  rcases r.happen_phase e with hp | ⟨hi, -, -⟩
  · rw [hp]
  · rw [hi] at hn
    exact absurd rfl hn

theorem retains_turn (c : Handle) (t : Turn) : c.Retains (c.turn t) := by
  cases t with
  | start =>
    show c.Retains c.start.2
    unfold Handle.start
    split
    · exact .refl c
    · refine ⟨rfl, ?_, id, id, id⟩
      intro hn
      have hp : c.run.phase ≠ .idle := by
        intro hi
        rw [Relay.Run.result?, hi] at hn
        exact hn rfl
      show c.run.start.2.result? = c.run.result?
      rw [Relay.Run.start_of_ne_idle hp]
  | stop => exact retains_run fun hn => result?_happen hn .stop
  | work =>
    show c.Retains c.work
    unfold work
    split
    · rename_i hs; exact retains_does (Relay.Run.does_of_step hs)
    · exact .refl c
  | forward =>
    show c.Retains c.forward
    rcases c.forward_cases with ⟨-, e⟩ | ⟨-, hf, -, e⟩ <;> rw [e]
    · exact .refl c
    · exact ⟨rfl, fun _ => rfl, fun ht => absurd ht (by rw [hf]; exact Bool.false_ne_true), id, id⟩
  | conclude =>
    show c.Retains c.conclude
    rcases c.conclude_cases with ⟨-, e⟩ | ⟨_, _, -, he, e⟩ | ⟨_, -, he, -, e⟩ <;> rw [e]
    · exact .refl c
    · exact ⟨rfl, fun _ => rfl, id, nofun, fun hd => by rw [he] at hd; cases hd⟩
    · exact ⟨rfl, fun _ => rfl, id, nofun, fun _ => rfl⟩
  | happen e => exact retains_run fun hn => result?_happen hn e
  | advance t => exact retains_run fun _ => rfl

theorem Goes.retains (h : c.Goes ts c') : c.Retains c' := by
  induction h with
  | start => exact .refl c
  | @turn _ _ _ t _ ih => exact ih.trans (retains_turn _ t)
  | does _ hd ih => exact ih.trans (retains_does hd)

theorem Goes.trans {ts' : List Turn} {c'' : Handle} (h : c.Goes ts c') (h' : c'.Goes ts' c'') :
    c.Goes (ts ++ ts') c'' := by
  induction h' with
  | start => rw [List.append_nil]; exact h
  | turn _ ht ih => rw [← List.append_assoc]; exact ih.turn ht
  | does _ hd ih => rw [← List.append_assoc]; exact ih.does hd

/-! ## The end is reported -/

/-- Once the connection has ended the forwarding task ends when it looks at the state: it has not
yet seen the last one. -/
theorem Reports.forwarded (h : Reports ts c) (hn : c.run.result? ≠ none) :
    c.forward.forwarded = true := by
  have hterminal := (Relay.Run.isTerminal_iff h.run.shows).2 hn
  rcases c.forward_cases with ⟨hrest, e⟩ | ⟨-, -, -, e⟩ <;> rw [e]
  · by_contra hf
    have hstarted : c.started = true := by
      by_contra hs
      rw [Relay.Run.result?, h.idle (Bool.eq_false_iff.2 hs)] at hn
      exact hn rfl
    refine hrest ⟨hstarted, hf, Nat.lt_of_not_le ?_⟩
    intro hle
    obtain ⟨init, hh, -⟩ := h.run.last
    have hlast : c.run.state ∈ c.run.history.take c.seen := by
      rw [List.take_of_length_le hle, hh]
      exact List.mem_append_right _ (List.mem_singleton_self _)
    have hgoing := (h.forwards.going (Bool.eq_false_iff.2 hf)).2 _ hlast
    rw [hterminal] at hgoing
    cases hgoing
  · exact hterminal

theorem conclude_logged (hn : c.run.result? ≠ none) : c.conclude.ending ≠ .running := by
  rcases c.conclude_cases with ⟨hrest, e⟩ | ⟨_, _, -, -, e⟩ | ⟨_, -, -, -, e⟩ <;> rw [e]
  · exact (hrest hn).1
  · exact nofun
  · exact nofun

theorem conclude_disconnected (hn : c.run.result? ≠ none) (hl : c.ending ≠ .running)
    (hf : c.forwarded = true) : c.conclude.ending = .disconnected := by
  rcases c.conclude_cases with ⟨hrest, e⟩ | ⟨_, _, -, he, -⟩ | ⟨_, -, -, -, e⟩
  · rw [e]; exact (hrest hn).2 hf
  · exact absurd he hl
  · rw [e]

section
variable {c₀ : Handle} {ts' : List Turn}

/-- What a turn brings about, whenever it is taken, stays if no turn takes it back. -/
theorem Goes.brings {P : Handle → Prop} {t : Turn} (hwork : t ≠ .work)
    (hturn : ∀ {us m}, c.Goes us m → P (m.turn t))
    (hkeeps : ∀ {m m' : Handle}, m.Retains m' → P m → P m') (h : c.Goes ts c') (ht : t ∈ ts) :
    P c' := by
  induction h with
  | start => cases ht
  | does _ hd ih =>
    rw [List.mem_append, List.mem_singleton] at ht
    exact hkeeps (retains_does hd) (ih (ht.resolve_right hwork))
  | @turn us m h t' _ ih =>
    rcases List.mem_append.1 ht with ht | ht
    · exact hkeeps (retains_turn m t') (ih ht)
    · obtain rfl := List.mem_singleton.1 ht
      exact hturn h

theorem Goes.result?_ne_none (h : c.Goes ts c') (hn : c.run.result? ≠ none) :
    c'.run.result? ≠ none := by
  rw [h.retains.ended hn]
  exact hn

/-- Once the connection has ended, a turn of the forwarding task and a report of the end, in either
order, and then one more report tell the application of the disconnection. -/
theorem Goes.concludes {ts₁ ts₂ : List Turn} {m : Handle} (h₀ : c₀.IsNew) (h : c₀.Goes ts c)
    (hn : c.run.result? ≠ none) (h₁ : c.Goes ts₁ m) (h₂ : m.Goes ts₂ c') (hf : .forward ∈ ts₁)
    (hl : .conclude ∈ ts₁) (hc : .conclude ∈ ts₂) : c'.ending = .disconnected := by
  have hforwarded : m.forwarded = true :=
    h₁.brings Turn.noConfusion
      (fun hk => ((h.trans hk).reports h₀).forwarded (hk.result?_ne_none hn))
      (fun hr => hr.forwarded) hf
  have hlogged : m.ending ≠ .running :=
    h₁.brings Turn.noConfusion (fun hk => conclude_logged (hk.result?_ne_none hn))
      (fun hr => hr.logged) hl
  refine h₂.brings Turn.noConfusion ?_ (fun hr => hr.disconnected) hc
  intro us k hk
  exact conclude_disconnected (hk.result?_ne_none (h₁.result?_ne_none hn))
    (hk.retains.logged hlogged) (hk.retains.forwarded hforwarded)

end

/-! ## The law of the notices -/

/-- The states that have been told, and the newest of them. -/
theorem Reports.told (h : Reports ts c) : ∃ told : List RelayState,
    statesTold c.notices = told.map stateCode ∧ told.Sublist c.run.history ∧
    (∀ s ∈ told.dropLast, s.isTerminal = false) ∧
    (c.forwarded = true → .onStateChanged ∈ c.registered → told.getLast? = some c.run.state) := by
  cases hf : c.forwarded with
  | false =>
    obtain ⟨hsub, hgoing⟩ := h.forwards.going hf
    obtain ⟨told, htold, e⟩ := List.sublist_map_iff.1 hsub
    refine ⟨told, e, htold.trans (List.take_sublist _ _), ?_, nofun⟩
    intro s hs
    exact hgoing s (htold.subset (List.dropLast_subset _ hs))
  | true =>
    obtain ⟨init, hh, hinit⟩ := h.run.last
    obtain ⟨-, hended⟩ := h.forwards.ended hf
    by_cases hreg : .onStateChanged ∈ c.registered
    · obtain ⟨codes, hcodes, hsub⟩ := hended hreg
      rw [hh, List.dropLast_concat] at hsub
      obtain ⟨told, htold, rfl⟩ := List.sublist_map_iff.1 hsub
      refine ⟨told ++ [c.run.state], ?_, ?_, ?_, fun _ _ => List.getLast?_concat⟩
      · rw [hcodes, List.map_append]
        rfl
      · rw [hh]
        exact htold.append (List.Sublist.refl _)
      · rw [List.dropLast_concat]
        intro s hs
        exact hinit s (htold.subset hs)
    · refine ⟨[], h.forwards.unregistered hreg, List.nil_sublist _, nofun, ?_⟩
      exact fun _ hr => absurd hr hreg

/-- The code of a result tells the end of a connection apart. -/
theorem endResult_code {result : Except Error Unit}
    (h : ∀ e, result = .error e → e.EndsConnection) :
    ((endResult result).code = Result.ok.code ↔ Relay.Run.finalState result = .stopped) ∧
    ((endResult result).code = Result.exhausted.code ↔
      ∃ n, result = .error (.attemptsExhausted n)) ∧
    ((endResult result).code = Result.dnsFailed.code ↔
      ∃ text, result = .error (.dnsResolution text)) ∧
    (endResult result).code ∈ [Result.ok.code, Result.exhausted.code, Result.dnsFailed.code] := by
  cases result with
  | ok u => simp [endResult, Relay.Run.finalState, Result.code]
  | error e =>
    rcases h e rfl with ⟨n, rfl⟩ | ⟨text, rfl⟩ <;>
      simp [endResult, Relay.Run.finalState, Result.code, Result.ofError]

/-- What the application is told of the disconnection. -/
theorem Reports.disconnection (h : Reports ts c) (he : c.ending = .disconnected) :
    ∃ result, c.run.result? = some result ∧ c.run.state = Relay.Run.finalState result ∧
      (if .onDisconnected ∈ c.registered then
        ∃ ns, c.notices = ns ++ [.onDisconnected (endResult result).code] ∧ resultsTold ns = []
      else resultsTold c.notices = []) ∧
      ∀ e, result = .error e → e.EndsConnection := by
  have hc := h.concludes
  unfold Concludes at hc
  rw [he] at hc
  obtain ⟨-, result, hr, htold⟩ := hc
  have hphase := Relay.Run.result?_eq_some_iff.1 hr
  have hshows := h.run.shows
  rw [hphase] at hshows
  refine ⟨result, hr, hshows, htold, ?_⟩
  rintro e rfl
  exact h.run.result e hphase

/-- Whatever an application asks of a client and however its tasks take turns: the client starts
once; the states that it tells are some of the published ones, in their order; and it tells of the
disconnection once, last of all, after the state that ended the connection, with the code of the
result. The disconnection does get told once both tasks have had their turns. -/
theorem Goes.notices_lawful {c₀ : Handle} (h₀ : c₀.IsNew) (h : c₀.Goes ts c) :
    (.start ∉ ts → c.start.1 = .ok) ∧
    (.start ∈ ts → c.start = (.alreadyRunning, c)) ∧
    c.run.history.getLast?.map State.ofRelay = some c.state ∧
    (∃ told : List RelayState, statesTold c.notices = told.map stateCode ∧
      told.Sublist c.run.history ∧ (∀ s ∈ told.dropLast, s.isTerminal = false) ∧
      (c.ending = .disconnected → .onStateChanged ∈ c.registered →
        told.getLast? = c.run.history.getLast?)) ∧
    (c.ending ≠ .disconnected → resultsTold c.notices = []) ∧
    (c.ending = .disconnected → ∃ result code, c.run.result? = some result ∧
      c.run.history.getLast? = some (Relay.Run.finalState result) ∧
      (if .onDisconnected ∈ c.registered then
        ∃ ns, c.notices = ns ++ [.onDisconnected code] ∧ resultsTold ns = []
      else resultsTold c.notices = []) ∧
      (code = Result.ok.code ↔ c.run.history.getLast? = some .stopped) ∧
      (code = Result.exhausted.code ↔ ∃ n, result = .error (.attemptsExhausted n)) ∧
      (code = Result.dnsFailed.code ↔ ∃ text, result = .error (.dnsResolution text)) ∧
      code ∈ [Result.ok.code, Result.exhausted.code, Result.dnsFailed.code]) ∧
    (c.run.result? ≠ none → ∀ ts₁ ts₂ m c', c.Goes ts₁ m → m.Goes ts₂ c' → .forward ∈ ts₁ →
      .conclude ∈ ts₁ → .conclude ∈ ts₂ → c'.ending = .disconnected) := by
  have hreports := h.reports h₀
  have hlast : c.run.history.getLast? = some c.run.state := by
    obtain ⟨init, hh, -⟩ := hreports.run.last
    rw [hh, List.getLast?_concat]
  have hc := hreports.concludes
  unfold Concludes at hc
  refine ⟨?_, ?_, by rw [hlast]; rfl, ?_, ?_, ?_, ?_⟩
  · intro hs
    rw [← hreports.started] at hs
    rw [Handle.start, if_neg hs]
  · intro hs
    rw [Handle.start, if_pos (hreports.started.2 hs)]
  · obtain ⟨told, hcodes, hsub, hgoing, hend⟩ := hreports.told
    refine ⟨told, hcodes, hsub, hgoing, ?_⟩
    intro he hreg
    rw [he] at hc
    rw [hlast]
    exact hend hc.1 hreg
  · intro he
    cases hending : c.ending with
    | running => rw [hending] at hc; exact hc
    | logged => rw [hending] at hc; exact hc.1
    | disconnected => exact absurd hending he
  · intro he
    obtain ⟨result, hr, hstate, htold, herror⟩ := hreports.disconnection he
    obtain ⟨hok, hexhausted, hdns, hcode⟩ := endResult_code herror
    refine ⟨result, (endResult result).code, hr, by rw [hlast, hstate], htold, ?_, hexhausted, hdns,
      hcode⟩
    rw [hlast, hstate, Option.some_inj]
    exact hok
  · intro hn ts₁ ts₂ m c' h₁ h₂
    exact h.concludes h₀ hn h₁ h₂

end

end Handle

namespace ClientSession

theorem newClient_isNew (s : ClientSession) (config : Config) : (s.newClient config).IsNew where
  run := ⟨rfl, rfl, rfl, rfl, rfl, rfl, rfl, rfl, rfl⟩
  started := rfl
  seen := rfl
  forwarded := rfl
  ending := rfl
  notices := rfl

end ClientSession

namespace Handle

/-- A client of an application that answers no request. It may fail once. -/
def trialClient : Handle :=
  ClientSession.newClient
    { network := .loopback, config := none
      app := ⟨[.onStateChanged, .onDisconnected], [], [], [], []⟩ }
    { server := "127.0.0.1", port := 4242, maxAttempts := 1, retryInterval := 10 }

/-- Its forwarding task comes late to the first attempt, which is the last one. -/
def trialEnded : Handle := trialClient.turns [.start, .work, .work, .forward, .work]

/-- The small client when the end has been reported. -/
def trialReported : Handle := (trialEnded.turns [.conclude, .forward]).turns [.stop, .conclude]

/-- In the small client the first state is passed over, the last one is not. -/
theorem trialReported_notices : trialReported.ending = .disconnected ∧
    trialReported.start = (.alreadyRunning, trialReported) ∧
    (∃ told : List RelayState, statesTold trialReported.notices = told.map stateCode ∧
      told.Sublist trialReported.run.history ∧
      told.getLast? = trialReported.run.history.getLast?) ∧
    trialReported.notices = [.onStateChanged 1, .onStateChanged 5, .onDisconnected (-4)] := by
  have h₀ : trialClient.IsNew := ClientSession.newClient_isNew _ _
  have h₁ : trialClient.Goes _ trialEnded := goes_turns trialClient (by simp)
  have h₂ : trialEnded.Goes _ (trialEnded.turns [.conclude, .forward]) :=
    goes_turns trialEnded (by simp)
  have h₃ : (trialEnded.turns [.conclude, .forward]).Goes _ trialReported :=
    goes_turns _ (by simp)
  obtain ⟨-, -, -, -, -, -, hlive⟩ := h₁.notices_lawful h₀
  have hend : trialReported.ending = .disconnected :=
    hlive (by decide) _ _ _ _ h₂ h₃ (by simp) (by simp) (by simp)
  obtain ⟨-, hstart, -, ⟨told, hcodes, hsub, -, hlast⟩, -⟩ :=
    ((h₁.trans h₂).trans h₃).notices_lawful h₀
  exact ⟨hend, hstart (by simp), ⟨told, hcodes, hsub, hlast hend (by decide)⟩, rfl⟩

end Handle

end Client

end TunnelRelay
