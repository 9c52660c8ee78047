import TunnelRelay.Proofs.Frames
import TunnelRelay.Proofs.HostCalls
/-!
# Interfaces that cannot be closed

A failure to close an interface changes nothing but the log. `Run.mended` is a run as it would be
if every interface could be closed; `Run.Alike` relates a run to such a one whose log lacks the
warnings. Whatever a task of the connection does keeps the two alike (`Alike.perform`), so the
mended run is a run as well.
-/

namespace TunnelRelay.Relay

open Net

/-- A call as it would be if every interface could be closed. -/
def CallRecord.mend (c : CallRecord) : CallRecord :=
  match c.call with
  | .close device _ => { c with call := .close device true }
  | _ => c

/-- The warning that a call leaves in the log: one for each failure to close an interface. -/
def CallRecord.warning? (c : CallRecord) : Option LogEvent :=
  match c.call with
  | .close device false => some (Run.closeWarning c.time device)
  | _ => none

/-- A script by which every interface can be closed. -/
def HostScript.tame (h : HostScript) : HostScript := { h with close := [] }

namespace HostScript

/-- Nothing but the closing of an interface tells the two scripts apart. -/
theorem tame_answers : Answers tame where
  params h := by unfold takeParams tame; dsimp only; split <;> rfl
  protect h d := by unfold takeProtect tame; dsimp only; split <;> rfl
  protectLog _ := rfl
  auxiliary h := by unfold takeAuxiliary tame; dsimp only; split <;> rfl
  sockets _ := rfl
  establish h := by unfold takeEstablish tame; dsimp only; split <;> rfl

theorem tame_takeClose (h : HostScript) : h.takeClose.2.tame = h.tame := by
  unfold takeClose tame; split <;> rfl

end HostScript

namespace Run

/-- A run as it would be if every interface could be closed, with a log of its own. -/
def mended (r : Run) (log : List LogEvent) : Run :=
  { r with host := r.host.tame, calls := r.calls.map CallRecord.mend, log := log }

/-- `s` is `r` with every interface closed without a failure, and all that its log lacks are the
warnings about these failures. -/
def Alike (r s : Run) : Prop :=
  ∃ log, s = r.mended log ∧ log.Sublist r.log ∧
    r.log.Perm (log ++ r.calls.filterMap CallRecord.warning?)

/-! ## What keeps runs alike -/

section
variable {r s : Run}

theorem Alike.now (h : r.Alike s) : s.now = r.now := by
  obtain ⟨_, rfl, _⟩ := h; rfl

theorem Alike.phase (h : r.Alike s) : s.phase = r.phase := by
  obtain ⟨_, rfl, _⟩ := h; rfl

theorem Alike.stop (h : r.Alike s) : s.stop = r.stop := by
  obtain ⟨_, rfl, _⟩ := h; rfl

theorem Alike.config (h : r.Alike s) : s.config = r.config := by
  obtain ⟨_, rfl, _⟩ := h; rfl

theorem Alike.host (h : r.Alike s) : s.host = r.host.tame := by
  obtain ⟨_, rfl, _⟩ := h; rfl

/-- The same event in both logs. -/
theorem Alike.append (h : r.Alike s) (e : LogEvent) :
    Alike { r with log := r.log ++ [e] } { s with log := s.log ++ [e] } := by
  obtain ⟨log, rfl, hs, hp⟩ := h
  refine ⟨log ++ [e], rfl, hs.append (.refl _), ?_⟩
  refine (hp.append_right [e]).trans ?_
  rw [List.append_assoc, List.append_assoc]
  exact List.perm_append_comm.append_left log

theorem Alike.noteWith (h : r.Alike s) (level : Level) (target message : String)
    (fields : List (String × LogValue)) :
    (r.noteWith level target message fields).Alike (s.noteWith level target message fields) := by
  unfold Run.noteWith
  rw [h.now]
  exact h.append _

/-- A call that does not fail to close an interface. -/
theorem Alike.call (h : r.Alike s) {c : HostCall} (hc : ∀ device, c ≠ .close device false) :
    (r.call c).Alike (s.call c) := by
  obtain ⟨log, rfl, hs, hp⟩ := h
  have hm : CallRecord.mend ⟨r.now, c, r.state⟩ = ⟨r.now, c, r.state⟩ ∧
      CallRecord.warning? ⟨r.now, c, r.state⟩ = none := by
    cases c with
    | close device ok =>
      cases ok with
      | true => exact ⟨rfl, rfl⟩
      | false => exact absurd rfl (hc device)
    | _ => exact ⟨rfl, rfl⟩
  refine ⟨log, ?_, hs, by simpa [Run.call, hm.2] using hp⟩
  unfold Run.call mended
  rw [List.map_append, List.map_singleton, hm.1]
  rfl

/-- What the host has answered leaves its script alike. -/
theorem Alike.withHost (h : r.Alike s) (host : HostScript) :
    Alike { r with host := host } { s with host := host.tame } := by
  obtain ⟨log, rfl, hs, hp⟩ := h
  exact ⟨log, rfl, hs, hp⟩

/-- In an attempt both get the same answers. -/
theorem alike_frames : Frames HostScript.tame Eq Alike where
  answers := HostScript.tame_answers
  same h := by obtain ⟨_, rfl, _⟩ := h; exact ⟨rfl, rfl, rfl, rfl, rfl, rfl⟩
  withHost h host := h.withHost host
  noteWith h level target message fields := h.noteWith level target message fields
  call h _ _ hc hne := by
    cases hc with
    | listener hd | close hd => obtain rfl := hd; exact h.call fun device => hne device false
    | other => exact h.call fun device => hne device false
  device h := by obtain ⟨_, rfl, _⟩ := h; rfl
  counts h := by obtain ⟨log, rfl, hs, hp⟩ := h; exact ⟨log, rfl, hs, hp⟩

theorem Alike.publish (h : r.Alike s) (state : RelayState) (phase : Phase) :
    Alike { r.publish state with phase := phase } { s.publish state with phase := phase } := by
  obtain ⟨log, rfl, hs, hp⟩ := h
  exact ⟨log, rfl, hs, hp⟩

theorem Alike.afterAttempt (h : r.Alike s) (server : Address) (f : Nat) :
    (r.afterAttempt server f).Alike (s.afterAttempt server f) := by
  unfold Run.afterAttempt
  rw [h.stop, h.config, h.now]
  split
  · exact (h.noteWith _ _ _ _).publish _ _
  · split
    · exact (h.noteWith _ _ _ _).publish _ _
    · exact h.publish _ _

theorem Alike.startPumps (h : r.Alike s) (server : Address) (device : String) :
    (r.startPumps server device).Alike (s.startPumps server device) := by
  obtain ⟨log, rfl, hs, hp⟩ := h
  have h₁ : (r.publish .connected).Alike ((r.mended log).publish .connected) := ⟨log, rfl, hs, hp⟩
  obtain ⟨log', e, hs', hp'⟩ := h₁.noteWith .info attemptTarget "Connected"
    [("device", .text device)]
  refine ⟨log', ?_, hs', hp'⟩
  unfold Run.startPumps
  dsimp only
  rw [e]
  rfl

theorem Alike.openAttempt (h : r.Alike s) (server : Address) (f : Nat) :
    (r.openAttempt server f).Alike (s.openAttempt server f) := by
  refine alike_frames.openAttempt ?_ ?_ ?_ h server f
  · intro r s e h
    exact h.publish _ _
  · intro r s server f h
    exact h.afterAttempt server f
  · intro r s server device device' hd h
    obtain rfl := hd
    exact h.startPumps server device

theorem Alike.lookUp (h : r.Alike s) : r.lookUp.Alike s.lookUp := by
  have h₁ : (r.note .info supervisorTarget "Starting").Alike
      (s.note .info supervisorTarget "Starting") := h.noteWith _ _ _ _
  unfold Run.lookUp
  dsimp only
  generalize r.note .info supervisorTarget "Starting" = r₁ at h₁ ⊢
  generalize s.note .info supervisorTarget "Starting" = s₁ at h₁ ⊢
  have hre : s₁.resolve = r₁.resolve := by obtain ⟨_, rfl, _⟩ := h₁; rfl
  rw [h₁.stop, hre, h₁.config]
  split
  · exact (h₁.noteWith _ _ _ _).publish _ _
  · split
    · exact h₁.publish _ _
    · obtain ⟨log, e, hs, hp⟩ := h₁.noteWith .info supervisorTarget "Resolved server" _
      rw [e]
      exact ⟨log, rfl, hs, hp⟩

theorem Alike.beginAttempt (h : r.Alike s) (server : Address) (f : Nat) :
    (r.beginAttempt server f).Alike (s.beginAttempt server f) := by
  unfold Run.beginAttempt
  rw [h.stop]
  split
  · exact (h.noteWith _ _ _ _).publish _ _
  · exact h.publish _ _

theorem Alike.closeInterface (h : r.Alike s) (device : String) :
    (r.closeInterface device).Alike (s.closeInterface device) := by
  obtain ⟨log, rfl, hs, hp⟩ := h
  have hd : (r.mended log).hasDescriptor = r.hasDescriptor := rfl
  have hh : (r.mended log).host.takeClose = (true, r.host.tame) := rfl
  rw [closeInterface_eq, closeInterface_eq, hh, ← HostScript.tame_takeClose]
  dsimp only
  generalize r.host.takeClose.2 = host
  refine ⟨log, ?_, ?_, ?_⟩
  · unfold afterClose
    rw [hd]
    cases r.hasDescriptor <;> simp [afterCalls, mended, CallRecord.mend, Run.now]
  · cases r.host.takeClose.1 with
    | true => exact hs
    | false => exact hs.trans (List.sublist_append_left _ _)
  · cases r.host.takeClose.1 with
    | true => simpa [afterClose, afterCalls, CallRecord.warning?, List.filterMap_cons] using hp
    | false => simpa [afterClose, afterCalls, CallRecord.warning?, closeWarning] using hp.append_right _

theorem Alike.reportPump (h : r.Alike s) (direction : String) (result : Except Error PumpStats) :
    (r.reportPump direction result).Alike (s.reportPump direction result) := by
  unfold Run.reportPump
  split <;> exact h.noteWith _ _ _ _

theorem Alike.tearDown (h : r.Alike s) (a : Attempt) (o i : Except Error PumpStats) :
    (r.tearDown a o i).Alike (s.tearDown a o i) :=
  (((h.closeInterface a.device).reportPump _ _).reportPump _ _).afterAttempt _ _

/-! ## Mended runs -/

theorem outboundStep_mended (r : Run) (log : List LogEvent) (a : Attempt) :
    (r.mended log).outboundStep a = (r.outboundStep a).map (·.mended log) := by
  unfold outboundStep
  rw [show (r.mended log).channel = r.channel from rfl, show (r.mended log).stop = r.stop from rfl,
    show (r.mended log).config = r.config from rfl]
  split <;> rfl

theorem inboundStep_mended (r : Run) (log : List LogEvent) (a : Attempt) :
    (r.mended log).inboundStep a = (r.inboundStep a).map (·.mended log) := by
  unfold inboundStep
  rw [show (r.mended log).channel = r.channel from rfl, show (r.mended log).stop = r.stop from rfl,
    show (r.mended log).inboundConfig = r.inboundConfig from rfl]
  split <;> rfl

/-- A step of a pump neither calls the host nor logs. -/
theorem outboundStep_eq {a : Attempt} {r' : Run} (h : r.outboundStep a = some r') :
    r'.calls = r.calls ∧ r'.log = r.log := by
  unfold outboundStep at h
  split at h <;> cases h
  exact ⟨rfl, rfl⟩

theorem inboundStep_eq {a : Attempt} {r' : Run} (h : r.inboundStep a = some r') :
    r'.calls = r.calls ∧ r'.log = r.log := by
  unfold inboundStep at h
  split at h <;> cases h
  exact ⟨rfl, rfl⟩

theorem Alike.outboundStep (h : r.Alike s) (a : Attempt) :
    Option.Rel Alike (r.outboundStep a) (s.outboundStep a) := by
  obtain ⟨log, rfl, hsub, hperm⟩ := h
  rw [outboundStep_mended]
  cases ho : r.outboundStep a with
  | none => exact .none
  | some r' =>
    obtain ⟨hc, hl⟩ := outboundStep_eq ho
    exact .some ⟨log, rfl, by rw [hl]; exact hsub, by rw [hl, hc]; exact hperm⟩

theorem Alike.inboundStep (h : r.Alike s) (a : Attempt) :
    Option.Rel Alike (r.inboundStep a) (s.inboundStep a) := by
  obtain ⟨log, rfl, hsub, hperm⟩ := h
  rw [inboundStep_mended]
  cases hi : r.inboundStep a with
  | none => exact .none
  | some r' =>
    obtain ⟨hc, hl⟩ := inboundStep_eq hi
    exact .some ⟨log, rfl, by rw [hl]; exact hsub, by rw [hl, hc]; exact hperm⟩

theorem Alike.join (h : r.Alike s) (a : Attempt) : Option.Rel Alike (r.join a) (s.join a) := by
  unfold Run.join
  split
  · exact .some (h.tearDown _ _ _)
  · exact .none

/-- Whatever a task of a connection can do, that of its mended run can do as well, and both stay
alike. -/
theorem Alike.perform (h : r.Alike s) (t : Task) :
    Option.Rel Alike (r.perform t) (s.perform t) := by
  unfold Run.perform
  rw [h.phase]
  cases r.phase with
  | idle | done => cases t <;> exact .none
  | starting =>
    cases t with
    | outbound | inbound => exact .none
    | supervisor => exact .some h.lookUp
  | opening server f =>
    cases t with
    | outbound | inbound => exact .none
    | supervisor => exact .some (h.beginAttempt server f)
  | attempting server f =>
    cases t with
    | outbound | inbound => exact .none
    | supervisor => exact .some (h.openAttempt server f)
  | pumping a =>
    cases t with
    | outbound => exact h.outboundStep a
    | inbound => exact h.inboundStep a
    | supervisor => exact h.join a
  | pausing server f wake =>
    cases t with
    | outbound | inbound => exact .none
    | supervisor =>
      obtain ⟨log, rfl, hsub, hperm⟩ := h
      dsimp only
      rw [show (r.mended log).stop = r.stop from rfl, show (r.mended log).now = r.now from rfl]
      split
      · have h : r.Alike (r.mended log) := ⟨log, rfl, hsub, hperm⟩
        exact .some ((h.noteWith _ _ _ _).publish _ _)
      · split
        · exact .some ⟨log, rfl, hsub, hperm⟩
        · exact .none

theorem start_mended (r : Run) (log : List LogEvent) :
    (r.mended log).start = (r.start.1, r.start.2.mended log) := by
  unfold start
  rw [show (r.mended log).phase = r.phase from rfl]
  split <;> rfl

theorem Alike.happen (h : r.Alike s) (e : Event) : (r.happen e).Alike (s.happen e) := by
  cases e with
  | stop =>
    obtain ⟨log, rfl, hs, hp⟩ := h
    simp only [Run.happen, requestStop]
    rw [show (r.mended log).stop = r.stop from rfl]
    split
    · exact ⟨log, rfl, hs, hp⟩
    · have h₁ : Alike { r with stop := true } { r.mended log with stop := true } :=
        ⟨log, rfl, hs, hp⟩
      exact h₁.append _
  | serverSend p =>
    obtain ⟨log, rfl, hs, hp⟩ := h
    simp only [Run.happen]
    rw [show (r.mended log).isPumping = r.isPumping from rfl,
      show (r.mended log).channel = r.channel from rfl]
    split <;> exact ⟨log, rfl, hs, hp⟩
  | run =>
    obtain ⟨log, rfl, hs, hp⟩ := h
    simp only [Run.happen, start_mended]
    rcases r.start_snd with e | ⟨-, e⟩ <;> rw [e] <;> exact ⟨log, rfl, hs, hp⟩
  | _ =>
    obtain ⟨log, rfl, hs, hp⟩ := h
    exact ⟨log, rfl, hs, hp⟩

/-- If every interface could be closed, a run would go the same way without the warnings. -/
theorem Leads.mended {r₀ : Run} {es : List Event} (h₀ : r₀.IsFresh) (h : r₀.Leads es r) :
    ∃ s, (r₀.mended r₀.log).Leads es s ∧ r.Alike s := by
  induction h with
  | start =>
    refine ⟨_, .start, r₀.log, rfl, .refl _, ?_⟩
    rw [h₀.calls]
    simp
  | event _ e ih =>
    obtain ⟨s, hl, ha⟩ := ih
    exact ⟨_, hl.event e, ha.happen e⟩
  | does _ hd ih =>
    obtain ⟨s, hl, ha⟩ := ih
    obtain ⟨s', hd', ha'⟩ := hd.follow ha.perform
    exact ⟨s', hl.does hd', ha'⟩
  | @clock es r' _ t hn hle ht ih =>
    obtain ⟨s, hl, ha⟩ := ih
    have hns := (step_eq_none_of_rel ha.perform).1 hn
    obtain ⟨log, rfl, hs, hp⟩ := ha
    exact ⟨_, hl.clock hns hle ht, log, rfl, hs, hp⟩

end

end Run

end TunnelRelay.Relay
