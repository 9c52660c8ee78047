import TunnelRelay.Link.Timing
/-!
# What is left of the time of a send

A link remembers its last send in whole milliseconds. `lastMark` is the exact time of that send, and
`TimingSession.Remembers` says what each operation keeps true: the remembered time is the exact one,
rounded down, and not in the future. So the next keepalive is due less than a millisecond early and
never late, and with an interval of a millisecond or more none is due right after a send
(`timing_lawful`).
-/

namespace TunnelRelay

open LinkTiming

/-! ## Exact times -/

/-- How far an operation moves the clock. -/
def TimingOp.duration : TimingOp → Nat
  | .advance n => n
  | _ => 0

/-- The exact times at which sends are remembered, by a clock that stands at `now`. -/
def marksFrom (now : Nat) : List TimingOp → List Nat
  | [] => []
  | .markSent :: ops => now :: marksFrom now ops
  | op :: ops => marksFrom (now + op.duration) ops

/-- The exact time of the last send that is remembered, or of the link's start. -/
def lastMark (ops : List TimingOp) : Nat := (marksFrom 0 ops).getLast?.getD 0

namespace TimingSession

/-- A session after some operations. -/
def after (s : TimingSession) (ops : List TimingOp) : TimingSession :=
  ops.foldl (fun s op => (s.apply op).2) s

/-- The exact time of the last send was `mark`. -/
structure Remembers (s : TimingSession) (mark : Nat) : Prop where
  millis : s.timing.lastSendMillis = mark / micros
  past : mark ≤ s.now

section
variable {s : TimingSession} {mark : Nat}

theorem after_append (s : TimingSession) (ops more : List TimingOp) :
    s.after (ops ++ more) = (s.after ops).after more :=
  List.foldl_append

theorem now_apply (s : TimingSession) (op : TimingOp) :
    (s.apply op).2.now = s.now + op.duration := by
  cases op <;> rfl

theorem now_le_after (s : TimingSession) (ops : List TimingOp) : s.now ≤ (s.after ops).now := by
  induction ops generalizing s with
  | nil => exact Nat.le_refl _
  | cons op ops ih =>
    have hop : s.now ≤ (s.apply op).2.now := by
      rw [now_apply]
      exact Nat.le_add_right _ _
    exact Nat.le_trans hop (ih _)

/-- Only a send changes what is remembered. -/
theorem timing_apply {op : TimingOp} (hop : op ≠ .markSent) : (s.apply op).2.timing = s.timing := by
  cases op with
  | markSent => exact absurd rfl hop
  | _ => rfl

theorem timing_after {ops : List TimingOp} (hops : .markSent ∉ ops) :
    (s.after ops).timing = s.timing := by
  induction ops generalizing s with
  | nil => rfl
  | cons op ops ih =>
    rw [List.mem_cons, not_or] at hops
    exact (ih hops.2).trans (timing_apply (Ne.symm hops.1))

/-! ## What is remembered -/

theorem Remembers.markSent (s : TimingSession) : (s.apply .markSent).2.Remembers s.now :=
  ⟨rfl, Nat.le_refl _⟩

theorem Remembers.apply (h : s.Remembers mark) {op : TimingOp} (hop : op ≠ .markSent) :
    (s.apply op).2.Remembers mark where
  millis := by rw [timing_apply hop, h.millis]
  past := by
    rw [now_apply]
    exact Nat.le_trans h.past (Nat.le_add_right _ _)

/-- A session remembers the last of the exact times. -/
theorem Remembers.after (h : s.Remembers mark) (ops : List TimingOp) :
    (s.after ops).Remembers ((marksFrom s.now ops).getLast?.getD mark) := by
  induction ops generalizing s mark with
  | nil => exact h
  | cons op ops ih =>
    by_cases hop : op = .markSent
    · subst hop
      have hmark := ih (Remembers.markSent s)
      rwa [marksFrom, List.getLast?_cons, Option.getD_some]
    · have hnext := ih (h.apply hop)
      rw [now_apply] at hnext
      rwa [marksFrom]
      exact hop

theorem remembers_after (ops : List TimingOp) :
    (after {} ops).Remembers (lastMark ops) :=
  Remembers.after ⟨rfl, Nat.le_refl 0⟩ ops

/-- The remembered time is the exact one, rounded down. -/
theorem Remembers.lastSend (h : s.Remembers mark) :
    s.timing.lastSend ≤ mark ∧ mark < s.timing.lastSend + micros := by
  have hmod : mark % micros < micros := Nat.mod_lt mark (by decide)
  have hdiv : mark / micros * micros + mark % micros = mark := Nat.div_add_mod' mark micros
  rw [LinkTiming.lastSend, h.millis]
  omega

/-- A later send is not remembered as an earlier one. -/
theorem Remembers.lastSend_le (h : s.Remembers mark) (ops : List TimingOp) :
    s.timing.lastSend ≤ (s.after ops).timing.lastSend := by
  induction ops generalizing s mark with
  | nil => exact Nat.le_refl _
  | cons op ops ih =>
    by_cases hop : op = .markSent
    · subst hop
      have hdiv : mark / micros ≤ s.now / micros := Nat.div_le_div_right h.past
      have hnow : s.timing.lastSend ≤ (s.apply .markSent).2.timing.lastSend := by
        rw [LinkTiming.lastSend, h.millis]
        exact Nat.mul_le_mul_right micros hdiv
      exact Nat.le_trans hnow (ih (Remembers.markSent s))
    · have hnext := ih (h.apply hop)
      rwa [timing_apply hop] at hnext

end

/-- What the rounding makes of a session in which the exact time of the last send was `mark`. -/
structure RoundsDown (s : TimingSession) (mark : Nat) : Prop where
  /-- The remembered time is the last whole millisecond up to the exact time. -/
  rounded : micros ∣ s.timing.lastSend ∧ s.timing.lastSend ≤ mark ∧
    mark < s.timing.lastSend + micros
  /-- It is not in the future, so nothing is cut off when it is taken from the present. -/
  since : s.timing.lastSend ≤ s.now ∧
    s.timing.sinceLastSend s.now + s.timing.lastSend = s.now
  /-- A keepalive is due less than a millisecond early, and never late. -/
  deadline : ∀ interval, mark + interval < s.timing.keepaliveDeadline interval + micros ∧
    s.timing.keepaliveDeadline interval ≤ mark + interval
  should_iff : ∀ interval, s.timing.shouldSendKeepalive interval s.now = true ↔
    s.timing.keepaliveDeadline interval ≤ s.now
  inTime : ∀ interval, mark + interval ≤ s.now →
    s.timing.shouldSendKeepalive interval s.now = true
  notEarly : ∀ interval, s.timing.shouldSendKeepalive interval s.now = true →
    mark + interval ≤ s.now + (micros - 1)
  /-- A word of 64 bits suffices for as long as the clock counts that many milliseconds. -/
  fits : s.now < UInt64.size * micros → s.timing.lastSendMillis < UInt64.size

/-- The timing of a link after some operations. -/
structure Lawful (ops : List TimingOp) : Prop where
  roundsDown : RoundsDown (after {} ops) (lastMark ops)
  /-- The remembered time never decreases. -/
  monotone : ∀ more, (after {} ops).timing.lastSend ≤ (after {} (ops ++ more)).timing.lastSend
  /-- A keepalive that is due stays due until the next send. -/
  staysDue : ∀ more interval, .markSent ∉ more →
    (after {} ops).timing.shouldSendKeepalive interval (after {} ops).now = true →
    (after {} (ops ++ more)).timing.shouldSendKeepalive interval (after {} (ops ++ more)).now = true
  /-- None is due right after a send. -/
  notAfterSend : ∀ interval, micros ≤ interval →
    (after {} (ops ++ [.markSent])).timing.shouldSendKeepalive interval
      (after {} (ops ++ [.markSent])).now = false

theorem Remembers.roundsDown {s : TimingSession} {mark : Nat} (h : s.Remembers mark) :
    s.RoundsDown mark := by
  obtain ⟨hle, hlt⟩ := h.lastSend
  have hpast := h.past
  have hdue : ∀ interval, s.timing.shouldSendKeepalive interval s.now = true ↔
      s.timing.keepaliveDeadline interval ≤ s.now := fun _ => decide_eq_true_iff
  refine ⟨⟨Nat.dvd_mul_left _ _, hle, hlt⟩, ⟨by omega, ?_⟩, fun interval => ?_, hdue,
    fun interval hreached => ?_, fun interval hshould => ?_, fun hnow => ?_⟩
  · rw [sinceLastSend]
    omega
  · rw [keepaliveDeadline]
    omega
  · rw [hdue, keepaliveDeadline]
    omega
  · rw [hdue, keepaliveDeadline] at hshould
    rw [micros] at hlt ⊢
    omega
  · rw [h.millis, Nat.div_lt_iff_lt_mul (by decide)]
    omega

/-- The remembered times of sends, and the keepalives that they make due. -/
theorem timing_lawful (ops : List TimingOp) : Lawful ops where
  roundsDown := (remembers_after ops).roundsDown
  monotone := by
    intro more
    rw [after_append]
    exact (remembers_after ops).lastSend_le more
  staysDue := by
    intro more interval hmore hdue
    have hnow := (after {} ops).now_le_after more
    rw [after_append, timing_after hmore]
    rw [shouldSendKeepalive, decide_eq_true_iff] at hdue ⊢
    exact Nat.le_trans hdue hnow
  notAfterSend := by
    intro interval hinterval
    rw [after_append]
    obtain ⟨-, hlt⟩ := (Remembers.markSent (after {} ops)).lastSend
    refine decide_eq_false (Nat.not_le.2 ?_)
    exact Nat.lt_of_lt_of_le hlt (Nat.add_le_add_left hinterval _)

/-- A send at 999 microseconds is remembered as one at 0. -/
example : (after {} [.advance 999, .markSent, .advance 1]).timing.keepaliveDeadline 1000 = 1000 :=
  rfl

end TimingSession

end TunnelRelay
