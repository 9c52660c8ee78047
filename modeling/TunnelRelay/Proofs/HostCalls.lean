import TunnelRelay.Proofs.States
/-!
# The calls of all attempts

The calls of a run are those of its attempts, one `Block` after another. `Ledger` is the
invariant that ties the blocks to the run: they account for the calls, for the sockets taken from
the library and for the interfaces established, and `Run.Stands` says what the supervisor's phase
tells about them. Everything about host calls and about the budget of attempts is read off it.
-/

namespace TunnelRelay.Relay

open Net

/-! ## Blocks -/

/-- The closing call of a course, which is made while packets flow. -/
def Course.closing : Course → List CallRecord
  | .established _ _ _ device (some (time, ok)) => [⟨time, .close device ok, .connected⟩]
  | _ => []

/-- What one attempt asked of its host. -/
structure Block where
  /-- The number of the attempt within the budget. -/
  attempt : Nat
  /-- When the attempt was made. -/
  time : Nat
  course : Course

namespace Block

/-- The calls of an attempt, with their circumstances. -/
def records (hasListener hasDescriptor : Bool) (b : Block) : List CallRecord :=
  (b.course.opening hasListener hasDescriptor).map (fun c => ⟨b.time, c, .connecting b.attempt⟩) ++
    b.course.closing

/-- Whether the attempt got its interface. -/
def isConnected (b : Block) : Bool := b.course.device?.isSome

/-- Whether the attempt has left no interface open. -/
def IsOver (b : Block) : Prop := b.course.openDevice? = none

/-- When the attempt ended. -/
def endTime (b : Block) : Nat :=
  match b.course with
  | .established _ _ _ _ (some (time, _)) => time
  | _ => b.time

end Block

/-- The name of the interface of this number. -/
def deviceName (i : Nat) : String := "sim" ++ toString i

/-- How many attempts in a row have failed in the end. `true` stands for a connected one. -/
def failuresInRow (outcomes : List Bool) : Nat :=
  outcomes.foldl (fun f connected => if connected then 0 else f + 1) 0

theorem failuresInRow_concat (outcomes : List Bool) (connected : Bool) :
    failuresInRow (outcomes ++ [connected]) = if connected then 0 else failuresInRow outcomes + 1 := by
  simp [failuresInRow]

/-- How many attempts in a row have failed after these blocks. -/
def failures (bs : List Block) : Nat := failuresInRow (bs.map Block.isConnected)

theorem failures_concat (bs : List Block) (b : Block) :
    failures (bs ++ [b]) = if b.isConnected then 0 else failures bs + 1 := by
  rw [failures, List.map_append, List.map_singleton, failuresInRow_concat, failures]

theorem Block.endTime_of_device?_eq_none {b : Block} (h : b.course.device? = none) :
    b.endTime = b.time := by
  unfold endTime
  split
  · rename_i hc; rw [hc] at h; cases h
  · rfl

namespace Course

theorem closing_of_device?_eq_none {c : Course} (h : c.device? = none) : c.closing = [] := by
  cases c <;> first | rfl | cases h

theorem openDevice?_of_device?_eq_none {c : Course} (h : c.device? = none) : c.openDevice? = none := by
  cases c <;> first | rfl | cases h

/-- An open interface is that of an established course without its closing. -/
theorem eq_of_openDevice? {c : Course} {device : String} (h : c.openDevice? = some device) :
    ∃ fds own settings, c = .established fds own settings device none := by
  cases c with
  | established fds own settings d closing =>
    cases closing with
    | none => cases h; exact ⟨fds, own, settings, rfl⟩
    | some _ => cases h
  | _ => cases h

theorem closing_of_openDevice? {c : Course} {device : String} (h : c.openDevice? = some device) :
    c.closing = [] := by
  obtain ⟨fds, own, settings, rfl⟩ := eq_of_openDevice? h
  rfl

end Course

namespace Run

/-! ## The ledger -/

/-- What the phase of a run tells about the blocks of its attempts. The time is that of the next
attempt where one is to be made, because the clock does not move before it is. -/
def Stands (r : Run) (bs : List Block) : Prop :=
  match r.phase with
  | .idle | .starting => bs = []
  | .opening _ f | .attempting _ f =>
    f = failures bs ∧ (∀ b ∈ bs, b.IsOver) ∧
      ∀ b ∈ bs.getLast?, r.now = b.endTime + r.config.retryInterval.toNat
  | .pumping a =>
    ∃ bs' b, bs = bs' ++ [b] ∧ (∀ b ∈ bs', b.IsOver) ∧ b.course.openDevice? = some a.device
  | .pausing _ f wake =>
    f = failures bs ∧ (∀ b ∈ bs, b.IsOver) ∧ r.now ≤ wake ∧
      ∃ b ∈ bs.getLast?, wake = b.endTime + r.config.retryInterval.toNat
  | .done result => (∀ b ∈ bs, b.IsOver) ∧ ∀ e, result = .error e →
    e = .attemptsExhausted (failures bs) ∧ r.config.maxAttempts.toNat ≤ failures bs ∨
      bs = [] ∧ r.resolve = .error e

/-- The blocks `bs` account for all that a run has asked of its host. -/
structure Ledger (sockets : List Int) (r : Run) (bs : List Block) : Prop where
  calls : r.calls = bs.flatMap (Block.records r.hasListener r.hasDescriptor)
  sockets : bs.flatMap (·.course.popped) ++ r.host.sockets = sockets
  devices : bs.filterMap (·.course.device?) = (List.range r.established).map deviceName
  spaced : bs.IsChain fun b b' => b'.time = b.endTime + r.config.retryInterval.toNat
  unexhausted : r.config.maxAttempts ≠ 0 →
    ∀ bs', bs' <+: bs → bs' ≠ bs → failures bs' < r.config.maxAttempts.toNat
  stands : r.Stands bs

/-- What holds of the blocks holds on, as long as what they account for stays. -/
theorem Ledger.keep {sockets : List Int} {r r' : Run} {bs : List Block} (h : Ledger sockets r bs)
    (ht : r.SameTerms r') (hc : r'.calls = r.calls) (hh : r'.host.sockets = r.host.sockets)
    (he : r'.established = r.established) (hs : r'.Stands bs) : Ledger sockets r' bs where
  calls := by rw [hc, ht.hasListener, ht.hasDescriptor]; exact h.calls
  sockets := by rw [hh]; exact h.sockets
  devices := by rw [he]; exact h.devices
  spaced := by rw [ht.config]; exact h.spaced
  unexhausted := by rw [ht.config]; exact h.unexhausted
  stands := hs

theorem IsFresh.ledger {r : Run} (h : r.IsFresh) : Ledger r.host.sockets r [] where
  calls := h.calls
  sockets := rfl
  devices := by rw [h.established]; rfl
  spaced := .nil
  unexhausted _ bs' hp hne := absurd (List.prefix_nil.1 hp) hne
  stands := by rw [Stands, h.phase]

/-! ## One change -/

section
variable {sockets : List Int} {r r' : Run} {bs : List Block}

/-- A further attempt keeps its distance to the one before. -/
theorem spaced_concat {k : Nat} {b : Block} (h : bs.IsChain fun b b' => b'.time = b.endTime + k)
    (hl : ∀ b' ∈ bs.getLast?, b.time = b'.endTime + k) :
    (bs ++ [b]).IsChain fun b b' => b'.time = b.endTime + k := by
  refine h.append (.singleton b) ?_
  intro b' hb' b'' hb''
  cases hb''
  exact hl b' hb'

theorem unexhausted_concat {n : Nat} {b : Block}
    (h : ∀ bs', bs' <+: bs → bs' ≠ bs → failures bs' < n) (hl : failures bs < n) :
    ∀ bs', bs' <+: bs ++ [b] → bs' ≠ bs ++ [b] → failures bs' < n := by
  intro bs' hp hne
  rcases List.prefix_concat_iff.1 hp with e | hp
  · exact absurd e hne
  · by_cases e : bs' = bs
    · rw [e]; exact hl
    · exact h bs' hp e

/-- After an attempt nothing is open, and the budget decides what follows. -/
theorem stands_afterAttempt (server : Address) {f : Nat} (ho : ∀ b ∈ bs, b.IsOver)
    (hf : f = failures bs) (hl : ∃ b ∈ bs.getLast?, r.now = b.endTime) :
    (r.afterAttempt server f).Stands bs := by
  rcases r.afterAttempt_cases server f with ⟨-, log, e⟩ | ⟨-, hle, log, e⟩ | ⟨-, hlt, e⟩ <;> rw [e]
  · exact ⟨ho, fun _ he => nomatch he⟩
  · refine ⟨ho, ?_⟩
    intro e he
    cases he
    exact .inl ⟨by rw [hf], hf ▸ hle⟩
  · obtain ⟨b, hb, hnow⟩ := hl
    exact ⟨hf, ho, Nat.le_add_right _ _, b, hb, congrArg (· + _) hnow⟩

/-- An attempt that is made adds its block to the ledger. -/
theorem Ledger.concat (h : Ledger sockets r bs) {server : Address} {f : Nat}
    (hp : r.phase = .attempting server f) (hst : r.state = .connecting (f + 1))
    (hlt : r.config.maxAttempts ≠ 0 → f < r.config.maxAttempts.toNat) {c : Course} {host : HostScript}
    (hh : c.popped ++ host.sockets = r.host.sockets) (hcl : c.closing = [])
    (ht : r.SameTerms r') (hc : r'.calls = r.calls ++
      (c.opening r.hasListener r.hasDescriptor).map fun x => ⟨r.now, x, r.state⟩)
    (hhost : r'.host = host)
    (hd : (List.range r'.established).map deviceName =
      (List.range r.established).map deviceName ++ c.device?.toList)
    (hs : r'.Stands (bs ++ [⟨f + 1, r.now, c⟩])) :
    Ledger sockets r' (bs ++ [⟨f + 1, r.now, c⟩]) := by
  have hst' := h.stands
  rw [Stands, hp] at hst'
  obtain ⟨hf, ho, hl⟩ := hst'
  constructor
  case calls =>
    rw [hc, ht.hasListener, ht.hasDescriptor, h.calls, hst]
    simp [Block.records, hcl]
  case sockets =>
    rw [hhost, List.flatMap_append, ← h.sockets, ← hh]
    simp
  case devices =>
    rw [List.filterMap_append, h.devices, hd]
    simp only [List.filterMap_cons, List.filterMap_nil]
    cases c.device? <;> rfl
  case spaced =>
    rw [ht.config]
    exact spaced_concat h.spaced hl
  case unexhausted =>
    rw [ht.config]
    intro hn
    have hlt' : failures bs < r.config.maxAttempts.toNat := hf ▸ hlt hn
    exact unexhausted_concat (h.unexhausted hn) hlt'
  case stands => exact hs

/-- An attempt that ends has its last block closed. -/
theorem Ledger.close {b : Block} (h : Ledger sockets r (bs ++ [b])) {a : Attempt}
    (hst : r.state = .connected) (ho : ∀ b ∈ bs, b.IsOver)
    (hopen : b.course.openDevice? = some a.device) {ok : Bool} {host : HostScript}
    {log : List LogEvent} (hh : host.auxiliary = r.host.auxiliary) :
    Ledger sockets ((r.afterClose a.device ok host log).afterAttempt a.server 0)
      (bs ++ [{ b with course := b.course.close r.now ok }]) := by
  have ht := (r.afterClose_sameTerms a.device ok host log).afterAttempt a.server 0
  obtain ⟨k, t, c⟩ := b
  obtain ⟨fds, own, settings, rfl⟩ := Course.eq_of_openDevice? hopen
  constructor
  case calls =>
    rw [ht.hasListener, ht.hasDescriptor, afterAttempt_calls]
    simp [afterClose, afterCalls, h.calls, Block.records, Course.close, Course.opening,
      Course.closing, hst]
  case sockets =>
    have hs := h.sockets
    have hhost : (r.afterClose a.device ok host log).host.sockets = r.host.sockets :=
      HostScript.sockets_eq hh
    rw [List.flatMap_append] at hs ⊢
    rw [afterAttempt_host, hhost]
    exact hs
  case devices =>
    have hd := h.devices
    rw [afterAttempt_established]
    rw [List.filterMap_append] at hd ⊢
    exact hd
  case spaced =>
    rw [ht.config]
    obtain ⟨hsp, -, hlast⟩ := List.isChain_append.1 h.spaced
    refine spaced_concat hsp ?_
    intro b' hb'
    have hl := hlast b' hb' _ List.head?_cons
    exact hl
  case unexhausted =>
    rw [ht.config]
    intro hn
    -- the block that is closed stays the last one, so the shorter lists are those of before
    have hp {bs' : List Block} (hp : bs' <+: bs) :
        failures bs' < r.config.maxAttempts.toNat := by
      refine h.unexhausted hn bs' (hp.trans (List.prefix_append _ _)) ?_
      intro e
      have hlen := hp.length_le
      rw [e, List.length_append, List.length_singleton] at hlen
      omega
    exact unexhausted_concat (fun _ h' _ => hp h') (hp (List.prefix_refl bs))
  case stands =>
    refine stands_afterAttempt (r := r.afterClose _ ok host log) a.server ?_ ?_ ?_
    · exact List.forall_mem_append.2 ⟨ho, List.forall_mem_singleton.2 rfl⟩
    · rw [failures_concat]; rfl
    · exact ⟨_, List.getLast?_concat, r.afterClose_now _ _ _ _⟩

/-- How the blocks of a run grow with one change: an attempt adds its block, and the end of one that
has its interface closes the last. -/
inductive Grows (r r' : Run) (bs : List Block) : List Block → Prop
  | keeps (hp : ∀ server f, r.phase ≠ .attempting server f)
    (hp' : ∀ a, r.phase = .pumping a → ∃ a', r'.phase = .pumping a') : Grows r r' bs bs
  | fails {server : Address} {f : Nat} {c : Course} (hp : r.phase = .attempting server f)
    (hc : c.device? = none) (hp' : ∀ a, r'.phase ≠ .pumping a) :
    Grows r r' bs (bs ++ [⟨f + 1, r.now, c⟩])
  | connects {server : Address} {f : Nat} {c : Course} {a : Attempt} {device : String}
    (hp : r.phase = .attempting server f) (ho : c.openDevice? = some device)
    (hp' : r'.phase = .pumping a) : Grows r r' bs (bs ++ [⟨f + 1, r.now, c⟩])
  | closes {bs' : List Block} {b : Block} {a : Attempt} {ok : Bool} (hp : r.phase = .pumping a)
    (hb : bs = bs' ++ [b]) (ho : b.course.openDevice? = some a.device)
    (hp' : ∀ a, r'.phase ≠ .pumping a) :
    Grows r r' bs (bs' ++ [{ b with course := b.course.close r.now ok }])

/-- Outside attempts, and while one goes on, nothing is asked of the host. -/
theorem Ledger.keeps (h : Ledger sockets r bs) (hc : r.Change r')
    (hp : ∀ server f, r.phase ≠ .attempting server f)
    (hp' : ∀ a, r.phase = .pumping a → ∃ a', r'.phase = .pumping a') : Ledger sockets r' bs := by
  have ht := hc.sameTerms
  have hs := h.stands
  unfold Stands at hs
  cases hc with
  | resolved hp _ _ =>
    rw [hp] at hs
    refine h.keep ht rfl rfl rfl ?_
    rw [show bs = [] from hs]
    exact ⟨rfl, by simp, by simp⟩
  | unresolved hp _ he =>
    rw [hp] at hs
    refine h.keep ht rfl rfl rfl ?_
    rw [show bs = [] from hs]
    refine ⟨by simp, ?_⟩
    intro e he'
    cases he'
    exact .inr ⟨rfl, he⟩
  | stopped hp _ =>
    refine h.keep ht rfl rfl rfl ?_
    rcases hp with hp | ⟨_, _, hp⟩ | ⟨_, _, _, hp⟩ <;> rw [hp] at hs
    · rw [show bs = [] from hs]; exact ⟨by simp, fun _ he => nomatch he⟩
    · exact ⟨hs.2.1, fun _ he => nomatch he⟩
    · exact ⟨hs.2.1, fun _ he => nomatch he⟩
  | begins hp _ => rw [hp] at hs; exact h.keep ht rfl rfl rfl hs
  | outbound hp _ => rw [hp] at hs; exact h.keep ht rfl rfl rfl hs
  | inbound hp _ => rw [hp] at hs; exact h.keep ht rfl rfl rfl hs
  | wakes hp _ hw =>
    rw [hp] at hs
    obtain ⟨hfail, ho, hle, b, hb, hwake⟩ := hs
    refine h.keep ht rfl rfl rfl ⟨hfail, ho, ?_⟩
    intro b' hb'
    rw [Option.mem_def.1 hb] at hb'
    cases hb'
    exact (Nat.le_antisymm hle hw).trans hwake
  | fails hpa | connects hpa => exact absurd hpa (hp _ _)
  | loses hpa =>
    obtain ⟨a', ha'⟩ := hp' _ hpa
    exact absurd ha' (afterAttempt_ne_pumping _ _ _ _)

/-- A change leaves the ledger, adds the block of an attempt to it or closes its last block. -/
theorem Ledger.change (h : Ledger sockets r bs)
    (hf : r.phase.Shows r.state)
    (hw : r.config.maxAttempts ≠ 0 → r.phase.IsWithin r.config.maxAttempts.toNat r.stop)
    (hc : r.Change r') : ∃ bs', Ledger sockets r' bs' ∧ r.Grows r' bs bs' := by
  have ht := hc.sameTerms
  have hs := h.stands
  unfold Stands at hs
  have keeps (hp : ∀ server f, r.phase ≠ .attempting server f)
      (hp' : ∀ a, r.phase = .pumping a → ∃ a', r'.phase = .pumping a') :
      ∃ bs', Ledger sockets r' bs' ∧ r.Grows r' bs bs' := ⟨bs, h.keeps hc hp hp', .keeps hp hp'⟩
  have outside {p : Phase} (hp : r.phase = p) (hne : ∀ server f, p ≠ .attempting server f)
      (hne' : ∀ a, p ≠ .pumping a) : ∃ bs', Ledger sockets r' bs' ∧ r.Grows r' bs bs' :=
    keeps (hp ▸ hne) fun a h => absurd (hp.symm.trans h) (hne' a)
  cases hc with
  | resolved hp | unresolved hp | begins hp | wakes hp =>
    exact outside hp (fun _ _ => Phase.noConfusion) fun _ => Phase.noConfusion
  | stopped hp =>
    rcases hp with hp | ⟨_, _, hp⟩ | ⟨_, _, _, hp⟩ <;>
      exact outside hp (fun _ _ => Phase.noConfusion) fun _ => Phase.noConfusion
  | outbound hp | inbound hp =>
    refine keeps ?_ fun _ _ => ⟨_, rfl⟩
    rw [hp]
    exact fun _ _ => Phase.noConfusion
  | @fails server f c host log hp hd hh =>
    have hgrow : r.Grows _ bs _ := .fails hp hd (afterAttempt_ne_pumping
      (r.afterCalls (c.opening r.hasListener r.hasDescriptor) host log) server (f + 1))
    rw [hp] at hf hw hs
    obtain ⟨hfail, ho, -⟩ := hs
    have hopen := Course.openDevice?_of_device?_eq_none hd
    refine ⟨_, h.concat hp hf hw hh (Course.closing_of_device?_eq_none hd) ht ?_ ?_ ?_ ?_, hgrow⟩
    · rw [afterAttempt_calls]; rfl
    · rw [afterAttempt_host]; rfl
    · rw [afterAttempt_established, hd]; exact (List.append_nil _).symm
    · refine stands_afterAttempt (r := r.afterCalls _ host log) server ?_ ?_ ?_
      · exact List.forall_mem_append.2 ⟨ho, List.forall_mem_singleton.2 hopen⟩
      · rw [failures_concat, ← hfail]
        simp [Block.isConnected, hd]
      · exact ⟨_, List.getLast?_concat, (Block.endTime_of_device?_eq_none (b := ⟨f + 1, r.now, c⟩) hd).symm⟩
  | @connects server f c host log hp hd hopen hh =>
    have hgrow : ∀ r', r'.phase = .pumping ⟨server, r.nextDevice, false, false, {},
        { lastReceived := r.now }⟩ → r.Grows r' bs (bs ++ [⟨f + 1, r.now, c⟩]) :=
      fun _ hp' => .connects hp hopen hp'
    rw [hp] at hf hw hs
    refine ⟨_, h.concat hp hf hw hh (Course.closing_of_openDevice? hopen) ht rfl rfl ?_ ?_,
      hgrow _ rfl⟩
    · rw [hd, List.range_succ, List.map_append]; rfl
    · exact ⟨bs, _, rfl, hs.2.1, hopen⟩
  | @loses a _ _ ok host log hp _ _ hh =>
    have hp' := hp
    rw [hp] at hf hs
    obtain ⟨bs', b, rfl, ho, hopen⟩ := hs
    exact ⟨_, h.close hf ho hopen hh, .closes hp' rfl hopen (afterAttempt_ne_pumping _ _ _)⟩

theorem Ledger.happen (h : Ledger sockets r bs) (e : Event) : Ledger sockets (r.happen e) bs := by
  have hs := h.stands
  refine h.keep (happen_sameTerms r e) (happen_calls r e) (by rw [happen_host])
    (happen_established r e) ?_
  unfold Stands at hs ⊢
  rcases r.happen_phase e with hp | ⟨hi, -, hp⟩ <;> rw [hp]
  · rw [happen_config, happen_now, (happen_sameTerms r e).resolve]
    exact hs
  · rw [hi] at hs; exact hs

/-- The clock moves only where the next attempt is not due yet. -/
theorem Ledger.moveClock (h : Ledger sockets r bs) {t : Nat} (hn : r.step = none)
    (ht : ∀ w, r.timer? = some w → t ≤ w) : Ledger sockets (r.moveClock t) bs := by
  have hs := h.stands
  refine h.keep ⟨rfl, rfl, rfl, rfl⟩ rfl rfl rfl ?_
  unfold Stands at hs ⊢
  rw [moveClock_phase]
  cases hp : r.phase with
  | opening | attempting => simp [step, hp] at hn
  | pausing server f wake =>
    rw [hp] at hs
    obtain ⟨hf, ho, -, hb⟩ := hs
    exact ⟨hf, ho, ht wake (by rw [timer?, hp]), hb⟩
  | idle | starting | pumping a | done result => rw [hp] at hs; exact hs

/-- A run stays within the budget of its attempts. -/
theorem Leads.within {r₀ : Run} {es : List Event} (h₀ : r₀.IsFresh) (h : r₀.Leads es r) :
    r.config.maxAttempts ≠ 0 → r.phase.IsWithin r.config.maxAttempts.toNat r.stop := by
  rw [h.sameTerms.config]
  exact fun hn => (h.isPublished h₀ hn).within

/-- Every run has its ledger. -/
theorem Leads.ledger {r₀ : Run} {es : List Event} (h₀ : r₀.IsFresh) (h : r₀.Leads es r) :
    ∃ bs, Ledger r₀.host.sockets r bs := by
  induction h with
  | start => exact ⟨[], h₀.ledger⟩
  | event _ e ih => obtain ⟨bs, hb⟩ := ih; exact ⟨bs, hb.happen e⟩
  | does hl hd ih =>
    obtain ⟨bs, hb⟩ := ih
    obtain ⟨bs', hb', -⟩ := hb.change (hl.shows h₀) (hl.within h₀) hd.change
    exact ⟨bs', hb'⟩
  | clock _ hn _ ht ih => obtain ⟨bs, hb⟩ := ih; exact ⟨bs, hb.moveClock hn ht⟩

end

end Run

end TunnelRelay.Relay
