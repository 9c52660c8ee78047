import TunnelRelay.Proofs.HostCalls
/-!
# The budget of attempts

A connection that nobody stops ends with the first attempt at which as many attempts in a row have
got no interface as its budget allows, and with nothing else. The count of these failures is the
one in the supervisor's phase, so it stays below the budget and fits into 32 bits; and because the
clock never passes a timer, each attempt but the first comes exactly one pause after the end of
the one before.
-/

namespace TunnelRelay.Relay

open Net

/-! ## Failures in a row -/

/-- The count says how many of the last attempts have failed. -/
theorem replicate_suffix_iff (n : Nat) (outcomes : List Bool) :
    List.replicate n false <:+ outcomes ↔ n ≤ failuresInRow outcomes := by
  induction outcomes using List.reverseRecOn generalizing n with
  | nil => cases n <;> simp [failuresInRow, List.replicate_succ]
  | append_singleton outcomes connected ih =>
    rw [failuresInRow_concat]
    cases n with
    | zero => simp
    | succ n =>
      rw [List.replicate_succ', List.suffix_concat_iff]
      cases connected with
      | true => simp
      | false => simp [ih]

/-- How many attempts have failed in a row when the supervisor counts them. -/
def Phase.failures? : Phase → Option Nat
  | .opening _ f | .attempting _ f | .pausing _ f _ => some f
  | _ => none

namespace Run

section
variable {sockets : List Int} {r r' : Run} {bs : List Block}

/-- The budget is never overdrawn. -/
theorem Ledger.failures_le (h : Ledger sockets r bs) (hn : r.config.maxAttempts ≠ 0) :
    failures bs ≤ r.config.maxAttempts.toNat := by
  rcases List.eq_nil_or_concat' bs with rfl | ⟨bs', b, rfl⟩
  · exact Nat.zero_le _
  · have hlt := h.unexhausted hn bs' (List.prefix_append _ _) (by simp)
    rw [failures_concat]
    split <;> omega

/-- An unstopped connection that has ended has used up its budget. -/
theorem Ledger.result (h : Ledger sockets r bs) (hn : r.config.maxAttempts ≠ 0)
    (hw : r.phase.IsWithin r.config.maxAttempts.toNat r.stop) (hs : r.stop = false)
    {a : Address} (ha : r.resolve = .ok a) {result : Except Error Unit}
    (hr : r.result? = some result) : failures bs = r.config.maxAttempts.toNat ∧
      result = .error (.attemptsExhausted r.config.maxAttempts.toNat) := by
  have hst := h.stands
  unfold Stands at hst
  rw [result?_eq_some_iff.1 hr] at hw hst
  cases result with
  | ok _ => rw [hs] at hw; cases hw
  | error e =>
    rcases hst.2 e rfl with ⟨rfl, hle⟩ | ⟨-, he⟩
    · have hf := Nat.le_antisymm (h.failures_le hn) hle
      exact ⟨hf, by rw [hf]⟩
    · rw [ha] at he; cases he

/-- A connection that has used up its budget has ended. -/
theorem Ledger.result?_ne_none (h : Ledger sockets r bs) (hn : r.config.maxAttempts ≠ 0)
    (hw : r.phase.IsWithin r.config.maxAttempts.toNat r.stop)
    (hf : r.config.maxAttempts.toNat ≤ failures bs) : r.result? ≠ none := by
  have hpos : 0 < r.config.maxAttempts.toNat :=
    Nat.pos_of_ne_zero fun e => hn (UInt32.toNat_inj.1 e)
  have hst := h.stands
  unfold Stands at hst
  unfold result?
  cases hp : r.phase with
  | done result => exact Option.some_ne_none _
  | idle | starting => rw [hp] at hst; subst hst; exact absurd hf (Nat.not_le.2 hpos)
  | opening | attempting | pausing =>
    rw [hp] at hst hw
    exact absurd hf (Nat.not_le.2 (hst.1 ▸ hw))
  | pumping a =>
    rw [hp] at hst
    obtain ⟨bs', b, rfl, -, hopen⟩ := hst
    obtain ⟨fds, own, settings, hc⟩ := Course.eq_of_openDevice? hopen
    rw [failures_concat, Block.isConnected, hc] at hf
    exact absurd hf (Nat.not_le.2 hpos)

/-- Where the last attempt is over, the next one is not late. -/
theorem Ledger.now_le (h : Ledger sockets r bs) (hr : r.result? = none) {b : Block}
    (hb : b ∈ bs.getLast?) (ho : b.IsOver) :
    r.now ≤ b.endTime + r.config.retryInterval.toNat := by
  have hst := h.stands
  unfold Stands at hst
  cases hp : r.phase with
  | done result => rw [result?, hp] at hr; cases hr
  | idle | starting => rw [hp] at hst; subst hst; cases hb
  | opening | attempting => rw [hp] at hst; exact Nat.le_of_eq (hst.2.2 b hb)
  | pausing server f wake =>
    rw [hp] at hst
    obtain ⟨-, -, hle, b', hb', hwake⟩ := hst
    rw [Option.mem_def.1 hb] at hb'
    cases hb'
    exact hwake ▸ hle
  | pumping a =>
    rw [hp] at hst
    obtain ⟨bs', b', rfl, -, hopen⟩ := hst
    rw [List.getLast?_concat] at hb
    cases hb
    rw [show b.course.openDevice? = none from ho] at hopen
    cases hopen

/-! ## The next attempt -/

/-- Calls of one attempt, made at one moment. -/
theorem openAttempt_calls (r : Run) (server : Address) {f : Nat} (hst : r.state = .connecting (f + 1)) :
    ∃ b : Block, b.time = r.now ∧ (r.openAttempt server f).calls =
      r.calls ++ b.records r.hasListener r.hasDescriptor := by
  obtain ⟨c, host, log, -, ⟨hd, e⟩ | ⟨-, ho, e⟩⟩ := r.openAttempt_cases server f
  · refine ⟨⟨f + 1, r.now, c⟩, rfl, ?_⟩
    rw [e, afterAttempt_calls, Block.records, Course.closing_of_device?_eq_none hd, List.append_nil,
      ← hst]
    rfl
  · refine ⟨⟨f + 1, r.now, c⟩, rfl, ?_⟩
    rw [e, Block.records, Course.closing_of_openDevice? ho, List.append_nil, ← hst]
    rfl

theorem lookUp_eq {a : Address} (hs : r.stop = false) (ha : r.resolve = .ok a) :
    ∃ log, r.lookUp = { r with log := log, phase := .opening a 0 } := by
  unfold lookUp
  dsimp only
  rw [if_neg (show ¬(r.note _ _ _).stop = true from by simp [note, noteWith, hs]),
    show (r.note _ _ _).resolve = .ok a from ha]
  exact ⟨_, rfl⟩

/-- Where an attempt is due, it can be made at once. -/
theorem next_of_opening {server : Address} {f : Nat} (hp : r.phase = .opening server f)
    (hs : r.stop = false) : ∃ (r' : Run) (b : Block), r.Leads [] r' ∧ b.time = r.now ∧
      r'.calls = r.calls ++ b.records r.hasListener r.hasDescriptor := by
  have hb : r.beginAttempt server f =
      { r.publish (.connecting (f + 1)) with phase := .attempting server f } := by
    unfold beginAttempt
    rw [if_neg (by simp [hs])]
  obtain ⟨b, ht, hc⟩ := (r.beginAttempt server f).openAttempt_calls server (f := f) (by rw [hb]; rfl)
  rw [hb] at ht hc
  refine ⟨_, b, (Leads.start.does (.beginAttempt hp)).does (.openAttempt (by rw [hb])), ht, ?_⟩
  rw [hb]
  exact hc

/-- A connection that neither runs its pumps nor has ended makes a further attempt: at once where
there was none before, and one pause after the last one otherwise. -/
theorem Ledger.next (h : Ledger sockets r bs) (hsh : r.phase.Shows r.state) (hs : r.stop = false)
    {a : Address} (ha : r.resolve = .ok a) (hi : r.phase ≠ .idle) (hr : r.result? = none)
    (ho : ∀ b ∈ bs, b.IsOver) : ∃ (r' : Run) (b' : Block), r.Leads [] r' ∧
      r'.calls = r.calls ++ b'.records r.hasListener r.hasDescriptor ∧
      ∀ b ∈ bs.getLast?, b'.time = b.endTime + r.config.retryInterval.toNat := by
  have hst := h.stands
  unfold Stands at hst
  cases hp : r.phase with
  | idle => exact absurd hp hi
  | done result => rw [result?, hp] at hr; cases hr
  | starting =>
    rw [hp] at hst
    subst hst
    obtain ⟨log, e⟩ := lookUp_eq hs ha
    have hp' : r.lookUp.phase = .opening a 0 := by rw [e]
    have hs' : r.lookUp.stop = false := by rw [e]; exact hs
    obtain ⟨r', b', hl, -, hc⟩ := next_of_opening hp' hs'
    refine ⟨r', b', Leads.trans (Leads.start.does (.lookUp hp)) hl, ?_, by simp⟩
    rw [e] at hc
    exact hc
  | opening server f =>
    rw [hp] at hst
    obtain ⟨r', b', hl, ht, hc⟩ := next_of_opening hp hs
    exact ⟨r', b', hl, hc, fun b hb => ht.trans (hst.2.2 b hb)⟩
  | attempting server f =>
    rw [hp] at hst hsh
    obtain ⟨b', ht, hc⟩ := r.openAttempt_calls server hsh
    exact ⟨_, b', Leads.start.does (.openAttempt hp), hc, fun b hb => ht.trans (hst.2.2 b hb)⟩
  | pausing server f wake =>
    rw [hp] at hst
    obtain ⟨-, -, hle, b, hb, hwake⟩ := hst
    have due : ∀ b' ∈ bs.getLast?, wake = b'.endTime + r.config.retryInterval.toNat := by
      intro b' hb'
      rw [Option.mem_def.1 hb] at hb'
      cases hb'
      exact hwake
    -- the clock goes to the end of the pause, if it is not there yet
    have hclock : r.Leads [] (r.moveClock wake) := by
      rcases hle.eq_or_lt with e | hlt
      · rw [← e]; exact .start
      · refine Leads.start.clock ?_ hle ?_
        · simp [step, hp, hs, hlt]
        · intro w hw
          rw [timer?, hp] at hw
          cases hw
          exact Nat.le_refl _
    obtain ⟨r', b', hl, ht, hc⟩ := next_of_opening
      (r := { r.moveClock wake with phase := .opening server f }) rfl hs
    exact ⟨r', b', (hclock.does (.wake hp hs (Nat.le_refl _))).trans hl, hc,
      fun b' hb' => ht.trans (due b' hb')⟩
  | pumping a =>
    rw [hp] at hst
    obtain ⟨bs', b, rfl, -, hopen⟩ := hst
    rw [show b.course.openDevice? = none from ho b (by simp)] at hopen
    cases hopen

/-- The calls of an attempt that gets no interface are not none. -/
theorem opening_eq_concat (l d : Bool) {c : Course} (h : c.device? = none) :
    ∃ cs x, c.opening l d = cs ++ [x] := by
  rcases List.eq_nil_or_concat' (c.opening l d) with e | h'
  · cases c <;> cases e
  · exact h'

/-- A connection that nobody stops ends in the instant of its last call. -/
theorem Change.last_call (hc : r.Change r') (hs : r.stop = false) {a : Address}
    (ha : r.resolve = .ok a) (hr : r'.result? ≠ none) :
    ∃ c ∈ r'.calls.getLast?, c.time = r'.now := by
  have hnow := hc.now
  cases hc with
  | resolved | begins | connects | outbound | inbound | wakes => exact absurd rfl hr
  | unresolved _ _ he => rw [ha] at he; cases he
  | stopped _ hs' => rw [hs] at hs'; cases hs'
  | @fails server f c host log _ hd _ =>
    obtain ⟨cs, x, hx⟩ := opening_eq_concat r.hasListener r.hasDescriptor hd
    rw [hnow, afterAttempt_calls, afterCalls, hx]
    refine ⟨⟨r.now, x, r.state⟩, ?_, rfl⟩
    simp
  | @loses a _ _ ok host log _ _ _ _ =>
    rw [hnow, afterAttempt_calls, afterClose, afterCalls]
    exact ⟨_, List.getLast?_concat, rfl⟩

end

/-! ## The law of the budget -/

/-- With a resolvable server and no stop, a connection has ended exactly if as many attempts as the
budget allows have failed in a row, which no earlier moment knew; it ends by that and by nothing
else, in the instant of its last call. Until then each further attempt comes one pause after the
end of the one before and not later, and another one can always be made. The count of failures
never overflows 32 bits. -/
theorem Leads.budget_lawful {r₀ r : Run} {es : List Event} (h₀ : r₀.IsFresh)
    (hn : r₀.config.maxAttempts ≠ 0) {a : Address} (ha : r₀.resolve = .ok a) (hs : .stop ∉ es)
    (h : r₀.Leads es r) :
    (∃ bs : List Block,
      r.calls = bs.flatMap (Block.records r₀.hasListener r₀.hasDescriptor) ∧
      (∀ result, r.result? = some result ↔
        List.replicate r₀.config.maxAttempts.toNat false <:+ bs.map Block.isConnected ∧
          result = .error (.attemptsExhausted r₀.config.maxAttempts.toNat)) ∧
      (∀ bs', bs' <+: bs → bs' ≠ bs →
        ¬List.replicate r₀.config.maxAttempts.toNat false <:+ bs'.map Block.isConnected) ∧
      (bs.IsChain fun b b' => b'.time = b.endTime + r₀.config.retryInterval.toNat) ∧
      (r.result? = none → ∀ b ∈ bs.getLast?, b.IsOver →
        r.now ≤ b.endTime + r₀.config.retryInterval.toNat) ∧
      (.run ∈ es → r.result? = none → (∀ b ∈ bs, b.IsOver) →
        ∃ (r' : Run) (b' : Block), r.Leads [] r' ∧
          r'.calls = r.calls ++ b'.records r₀.hasListener r₀.hasDescriptor ∧
          ∀ b ∈ bs.getLast?, b'.time = b.endTime + r₀.config.retryInterval.toNat)) ∧
    (∀ r', r.Does r' → r'.result? ≠ none → ∃ c ∈ r'.calls.getLast?, c.time = r'.now) ∧
    (∀ f, r.phase.failures? = some f → f + 1 ≤ r₀.config.maxAttempts.toNat ∧
      (UInt32.ofNat f + 1).toNat = f + 1) := by
  obtain ⟨bs, hb⟩ := h.ledger h₀
  have ht := h.sameTerms
  have hst : r.stop = false := by
    rw [← Bool.not_eq_true, h.stop, h₀.stop]
    simpa using hs
  have ha' : r.resolve = .ok a := ht.resolve.trans ha
  have hw := (h.isPublished h₀ hn).within
  rw [← ht.config] at hn hw ⊢
  have hcalls : r.calls = bs.flatMap (Block.records r₀.hasListener r₀.hasDescriptor) := by
    rw [hb.calls, ht.hasListener, ht.hasDescriptor]
  have hends (result : Except Error Unit) : r.result? = some result ↔
      List.replicate r.config.maxAttempts.toNat false <:+ bs.map Block.isConnected ∧
        result = .error (.attemptsExhausted r.config.maxAttempts.toNat) := by
    constructor
    · intro hr
      obtain ⟨hf, e⟩ := hb.result hn hw hst ha' hr
      exact ⟨(replicate_suffix_iff _ _).2 (Nat.le_of_eq hf.symm), e⟩
    · rintro ⟨hsuf, rfl⟩
      obtain ⟨result, hr⟩ := Option.ne_none_iff_exists'.1
        (hb.result?_ne_none hn hw ((replicate_suffix_iff _ _).1 hsuf))
      rw [hr, (hb.result hn hw hst ha' hr).2]
  have hfirst : ∀ bs', bs' <+: bs → bs' ≠ bs →
      ¬List.replicate r.config.maxAttempts.toNat false <:+ bs'.map Block.isConnected := by
    intro bs' hp hne
    rw [replicate_suffix_iff]
    exact Nat.not_le.2 (hb.unexhausted hn bs' hp hne)
  have hnext (he : .run ∈ es) (hr : r.result? = none) (ho : ∀ b ∈ bs, b.IsOver) :
      ∃ (r' : Run) (b' : Block), r.Leads [] r' ∧
        r'.calls = r.calls ++ b'.records r₀.hasListener r₀.hasDescriptor ∧
        ∀ b ∈ bs.getLast?, b'.time = b.endTime + r.config.retryInterval.toNat := by
    rw [← ht.hasListener, ← ht.hasDescriptor]
    exact hb.next (h.shows h₀) hst ha' ((h.phase_ne_idle h₀.phase).2 he) hr ho
  have hcount : ∀ f, r.phase.failures? = some f → f + 1 ≤ r.config.maxAttempts.toNat ∧
      (UInt32.ofNat f + 1).toNat = f + 1 := by
    intro f hf
    -- the phases with a count are those in which it is below the budget
    have hlt : f < r.config.maxAttempts.toNat := by
      unfold Phase.failures? at hf
      split at hf <;> cases hf <;> rename_i hp <;> rw [hp] at hw <;> exact hw
    have hmax := r.config.maxAttempts.toNat_lt
    refine ⟨hlt, ?_⟩
    rw [UInt32.toNat_add, UInt32.toNat_ofNat', UInt32.toNat_one]
    omega
  refine ⟨⟨bs, hcalls, hends, hfirst, hb.spaced, ?_, hnext⟩, ?_, hcount⟩
  · intro hr b hl ho
    exact hb.now_le hr hl ho
  · intro r' hd hr
    exact hd.change.last_call hst ha' hr

/-- In the small run the budget is one failure: the first attempt connects and is lost, and the
second one, a pause later, uses it up. -/
theorem trialDone_budget : ∃ bs : List Block,
    trialDone.calls = bs.flatMap (Block.records true false) ∧
    (bs.IsChain fun b b' => b'.time = b.endTime + 10) ∧
    List.replicate 1 false <:+ bs.map Block.isConnected ∧
    ∀ bs', bs' <+: bs → bs' ≠ bs → ¬List.replicate 1 false <:+ bs'.map Block.isConnected := by
  obtain ⟨⟨bs, hc, hr, hfirst, hsp, -, -⟩, -, -⟩ :=
    trial_leads_done.budget_lawful trial_isFresh (by decide) (a := .v4 ⟨127, 0, 0, 1⟩) rfl
      (by simp [trialEvents])
  exact ⟨bs, hc, hsp, ((hr (.error (.attemptsExhausted 1))).1 rfl).1, hfirst⟩

end Run

end TunnelRelay.Relay
