import Mathlib.Data.Option.Defs
import TunnelRelay.Proofs.Attempts
/-!
# Attempts side by side

Two connections whose hosts give the same answers make the same attempts, whatever else they
differ in. `Frames` says what a relation between two connections has to bear for that: an answer of
the host, a note in the log, a call and one more interface. Then it bears a whole attempt
(`Frames.openAttempt`). The names of the interfaces may differ, as far as a relation `D` allows.

`Run.perform` gives each task of a connection its own step. Where the tasks of two connections go
together, so do the connections (`Does.follow`).
-/

namespace TunnelRelay.Relay

open Net

/-- The interface that a call names. -/
def HostCall.device? : HostCall → Option String
  | .listener device _ | .close device _ => some device
  | _ => none

/-- The same call, up to the name of the interface. -/
inductive HostCall.Matches (D : String → String → Prop) : HostCall → HostCall → Prop
  | listener {device device' : String} (hd : D device device') (hasDescriptor : Bool) :
    Matches D (.listener device hasDescriptor) (.listener device' hasDescriptor)
  | close {device device' : String} (hd : D device device') (closed : Bool) :
    Matches D (.close device closed) (.close device' closed)
  | other {c : HostCall} (hc : c.device? = none) : Matches D c c

/-- A change of a script that an attempt cannot notice: it asks for everything but the closing of
interfaces. -/
structure HostScript.Answers (f : HostScript → HostScript) : Prop where
  params : ∀ h, (f h).takeParams = (h.takeParams.1, f h.takeParams.2)
  protect : ∀ h d, (f h).takeProtect d = ((h.takeProtect d).1, f (h.takeProtect d).2)
  protectLog : ∀ h, (f h).protectLog = h.protectLog
  auxiliary : ∀ h, (f h).takeAuxiliary = (h.takeAuxiliary.1, f h.takeAuxiliary.2)
  sockets : ∀ h, (f h).auxiliary = h.auxiliary
  establish : ∀ h, (f h).takeEstablish = (h.takeEstablish.1, f h.takeEstablish.2)

theorem HostScript.answers_id : Answers id := by
  constructor <;> intros <;> rfl

namespace Run

/-- What two connections need to have in common to make the same attempts. -/
structure SameSurroundings (f : HostScript → HostScript) (r s : Run) : Prop where
  host : s.host = f r.host
  network : s.network = r.network
  config : s.config = r.config
  hasListener : s.hasListener = r.hasListener
  hasIntent : s.hasIntent = r.hasIntent
  hasDescriptor : s.hasDescriptor = r.hasDescriptor

/-- A relation that bears what an attempt does. -/
structure Frames (f : HostScript → HostScript) (D : String → String → Prop)
    (R : Run → Run → Prop) : Prop where
  answers : HostScript.Answers f
  same : ∀ {r s}, R r s → SameSurroundings f r s
  withHost : ∀ {r s}, R r s → ∀ host, R { r with host := host } { s with host := f host }
  noteWith : ∀ {r s}, R r s → ∀ level target message fields,
    R (r.noteWith level target message fields) (s.noteWith level target message fields)
  call : ∀ {r s}, R r s → ∀ {c c'}, c.Matches D c' → (∀ device ok, c ≠ .close device ok) →
    R (r.call c) (s.call c')
  device : ∀ {r s}, R r s → D r.nextDevice s.nextDevice
  counts : ∀ {r s}, R r s →
    R { r with established := r.established + 1 } { s with established := s.established + 1 }

/-- The same result, and runs that are related. -/
def Both {α : Type} (R : Run → Run → Prop) (x y : α × Run) : Prop :=
  ∃ a r s, x = (a, r) ∧ y = (a, s) ∧ R r s

namespace Frames

section
variable {f : HostScript → HostScript} {D : String → String → Prop} {R : Run → Run → Prop}
  {r s : Run}

/-- A call that names no interface. -/
theorem sameCall (hF : Frames f D R) (h : R r s) {c : HostCall} (hc : c.device? = none) :
    R (r.call c) (s.call c) := by
  refine hF.call h (.other hc) ?_
  rintro device ok rfl
  cases hc

theorem protect (hF : Frames f D R) (h : R r s) (d : Descriptor) :
    Both R (r.protect d) (s.protect d) := by
  have notes (es : List (Level × String × String × List (String × LogValue))) {r s : Run}
      (h : R r s) : R
        (es.foldl (fun r e => r.noteWith e.1 e.2.1 e.2.2.1 e.2.2.2) r)
        (es.foldl (fun r e => r.noteWith e.1 e.2.1 e.2.2.1 e.2.2.2) s) := by
    induction es generalizing r s with
    | nil => exact h
    | cons e es ih => exact ih (hF.noteWith h _ _ _ _)
  unfold Run.protect
  rw [(hF.same h).host, hF.answers.protect]
  dsimp only
  rw [hF.answers.protectLog]
  exact ⟨_, _, _, rfl, rfl, hF.sameCall (notes _ (hF.withHost h _)) rfl⟩

theorem protectAuxiliary (hF : Frames f D R) : ∀ (fuel : Nat) {r s : Run}, R r s →
    Both R (r.protectAuxiliary fuel) (s.protectAuxiliary fuel)
  | 0, _, _, h => ⟨_, _, _, rfl, rfl, h⟩
  | fuel + 1, r, s, h => by
    unfold Run.protectAuxiliary
    rw [(hF.same h).host, hF.answers.auxiliary]
    generalize r.host.takeAuxiliary = t
    obtain ⟨fd?, host⟩ := t
    have hc := hF.sameCall (hF.withHost h host) (c := .nextAuxiliary fd?) rfl
    dsimp only
    cases fd? with
    | none => exact ⟨_, _, _, rfl, rfl, hc⟩
    | some fd =>
      obtain ⟨granted, r₁, s₁, hr, hs, h₁⟩ := hF.protect (hF.noteWith hc .debug attemptTarget
        "Protecting auxiliary socket" [("fd", .socket (.numbered fd))]) (.numbered fd)
      dsimp only
      rw [hr, hs]
      cases granted with
      | true => exact hF.protectAuxiliary fuel h₁
      | false => exact ⟨_, _, _, rfl, rfl, h₁⟩

theorem openTransport (hF : Frames f D R) (h : R r s) (server : Address) :
    Both R (r.openTransport server) (s.openTransport server) := by
  obtain ⟨granted, r₁, s₁, hr, hs, h₁⟩ := hF.protect h .transport
  unfold Run.openTransport
  rw [hr, hs]
  cases granted with
  | false => exact ⟨_, _, _, rfl, rfl, h₁⟩
  | true =>
    dsimp only
    obtain ⟨d?, r₂, s₂, hr, hs, h₂⟩ := hF.protectAuxiliary (r₁.host.auxiliary.length + 1) h₁
    rw [(hF.same h₁).host, hF.answers.sockets, hr, hs]
    cases d? with
    | some d => exact ⟨_, _, _, rfl, rfl, h₂⟩
    | none =>
      dsimp only
      rw [(hF.same h₂).network]
      cases r₂.network.connect server with
      | error e => exact ⟨_, _, _, rfl, rfl, h₂⟩
      | ok _ => exact ⟨_, _, _, rfl, rfl, hF.sameCall h₂ rfl⟩

theorem queryParams (hF : Frames f D R) (h : R r s) : Both R r.queryParams s.queryParams := by
  unfold Run.queryParams
  rw [(hF.same h).host, hF.answers.params]
  exact ⟨_, _, _, rfl, rfl, hF.sameCall (hF.withHost h _) rfl⟩

theorem querySettings (hF : Frames f D R) (h : R r s) :
    Both R r.querySettings s.querySettings := by
  obtain ⟨mtu, r₁, s₁, hr₁, hs₁, h₁⟩ := hF.queryParams h
  obtain ⟨address, r₂, s₂, hr₂, hs₂, h₂⟩ := hF.queryParams h₁
  obtain ⟨length, r₃, s₃, hr₃, hs₃, h₃⟩ := hF.queryParams h₂
  unfold Run.querySettings
  rw [hr₁, hs₁]
  dsimp only
  rw [hr₂, hs₂]
  dsimp only
  rw [hr₃, hs₃]
  dsimp only
  rw [(hF.same h₃).config, (hF.same h₃).hasIntent]
  exact ⟨_, _, _, rfl, rfl, h₃⟩

/-- The listener is told of an interface. -/
theorem announce (hF : Frames f D R) (h : R r s) {device device' : String}
    (hd : D device device') :
    R (if r.hasListener then r.call (.listener device r.hasDescriptor) else r)
      (if s.hasListener then s.call (.listener device' s.hasDescriptor) else s) := by
  rw [(hF.same h).hasListener, (hF.same h).hasDescriptor]
  split
  · exact hF.call h (.listener hd _) fun _ _ => HostCall.noConfusion
  · exact h

theorem establish (hF : Frames f D R) (h : R r s) :
    (∃ e r' s', r.establish = (.error e, r') ∧ s.establish = (.error e, s') ∧ R r' s') ∨
      ∃ device device' r' s', r.establish = (.ok device, r') ∧ s.establish = (.ok device', s') ∧
        D device device' ∧ R r' s' := by
  obtain ⟨settings, r₁, s₁, hr, hs, h₁⟩ := hF.querySettings h
  unfold Run.establish
  rw [hr, hs]
  dsimp only
  rw [(hF.same h₁).host, hF.answers.establish]
  generalize r₁.host.takeEstablish = t
  obtain ⟨answer, host⟩ := t
  have h₂ := hF.withHost h₁ host
  dsimp only
  cases answer with
  | error e => exact .inl ⟨_, _, _, rfl, rfl, hF.sameCall h₂ rfl⟩
  | ok _ =>
    have hd := hF.device h₂
    exact .inr ⟨_, _, _, _, rfl, rfl, hd, hF.announce (hF.sameCall (hF.counts h₂) rfl) hd⟩

/-- An attempt bears what its end and the start of its pumps bear. -/
theorem openAttempt (hF : Frames f D R)
    (hfinish : ∀ {r s} e, R r s → R (r.finish (.error e)) (s.finish (.error e)))
    (hafter : ∀ {r s} server f, R r s → R (r.afterAttempt server f) (s.afterAttempt server f))
    (hstart : ∀ {r s} server device device', D device device' → R r s →
      R (r.startPumps server device) (s.startPumps server device'))
    (h : R r s) (server : Address) (f : Nat) :
    R (r.openAttempt server f) (s.openAttempt server f) := by
  have hfailed {r s : Run} (h : R r s) (e : Error) :
      R (r.attemptFailed server f e) (s.attemptFailed server f e) := by
    unfold Run.attemptFailed
    split
    · exact hafter _ _ (hF.noteWith h _ _ _ _)
    · exact hfinish _ h
  obtain ⟨result, r₁, s₁, hr, hs, h₁⟩ := hF.openTransport h server
  unfold Run.openAttempt
  rw [hr, hs]
  cases result with
  | error e => exact hfailed h₁ e
  | ok _ =>
    dsimp only
    rcases hF.establish h₁ with ⟨e, r₂, s₂, hr, hs, h₂⟩ | ⟨d, d', r₂, s₂, hr, hs, hd, h₂⟩ <;>
      rw [hr, hs]
    · exact hfailed h₂ e
    · exact hstart _ _ _ hd h₂

end

end Frames

/-! ## Task by task -/

/-- The tasks of a connection. -/
inductive Task where
  | outbound
  | inbound
  | supervisor

/-- What a task can do now. -/
def perform (r : Run) : Task → Option Run
  | .outbound => match r.phase with
    | .pumping a => r.outboundStep a
    | _ => none
  | .inbound => match r.phase with
    | .pumping a => r.inboundStep a
    | _ => none
  | .supervisor => match r.phase with
    | .idle | .done _ => none
    | .starting => some r.lookUp
    | .opening server f => some (r.beginAttempt server f)
    | .attempting server f => some (r.openAttempt server f)
    | .pumping a => r.join a
    | .pausing server f wake =>
      if r.stop then some r.finishStopped
      else if wake ≤ r.now then some { r with phase := .opening server f }
      else none

theorem does_iff {r r' : Run} : r.Does r' ↔ ∃ t, r.perform t = some r' := by
  constructor
  · intro h
    cases h with
    | lookUp hp | beginAttempt hp | openAttempt hp => exact ⟨.supervisor, by simp [perform, hp]⟩
    | outbound hp h => exact ⟨.outbound, by simp [perform, hp, h]⟩
    | inbound hp h => exact ⟨.inbound, by simp [perform, hp, h]⟩
    | tearDown hp ho hi => exact ⟨.supervisor, by simp [perform, hp, join, ho, hi]⟩
    | stopPause hp hs => exact ⟨.supervisor, by simp [perform, hp, hs]⟩
    | wake hp hs hw => exact ⟨.supervisor, by simp [perform, hp, hs, hw]⟩
  · rintro ⟨t, h⟩
    cases t with
    | outbound =>
      unfold perform at h
      dsimp only at h
      split at h
      · rename_i hp; exact .outbound hp h
      · cases h
    | inbound =>
      unfold perform at h
      dsimp only at h
      split at h
      · rename_i hp; exact .inbound hp h
      · cases h
    | supervisor =>
      unfold perform at h
      dsimp only at h
      split at h
      · cases h
      · cases h
      · rename_i hp; cases h; exact .lookUp hp
      · rename_i hp; cases h; exact .beginAttempt hp
      · rename_i hp; cases h; exact .openAttempt hp
      · rename_i hp
        unfold join at h
        split at h
        · rename_i ho hi; cases h; exact .tearDown hp ho hi
        · cases h
      · rename_i hp
        split at h
        · rename_i hs; cases h; exact .stopPause hp hs
        · rename_i hs
          split at h
          · rename_i hw; cases h; exact .wake hp (by simpa using hs) hw
          · cases h

section
variable {R : Run → Run → Prop} {r s : Run}

/-- If each task of one connection does what the same task of another one does, then so does the
connection. -/
theorem Does.follow {r' : Run} (h : ∀ t, Option.Rel R (r.perform t) (s.perform t))
    (hd : r.Does r') : ∃ s', s.Does s' ∧ R r' s' := by
  obtain ⟨t, ht⟩ := does_iff.1 hd
  have hrel := h t
  rw [ht] at hrel
  generalize hs : s.perform t = x at hrel
  cases hrel with
  | some h' => exact ⟨_, does_iff.2 ⟨t, hs⟩, h'⟩

theorem Does.follow_back {s' : Run} (h : ∀ t, Option.Rel R (r.perform t) (s.perform t))
    (hd : s.Does s') : ∃ r', r.Does r' ∧ R r' s' := by
  obtain ⟨t, ht⟩ := does_iff.1 hd
  have hrel := h t
  rw [ht] at hrel
  generalize hr : r.perform t = x at hrel
  cases hrel with
  | some h' => exact ⟨_, does_iff.2 ⟨t, hr⟩, h'⟩

/-- Then both rest at the same time. -/
theorem step_eq_none_of_rel (h : ∀ t, Option.Rel R (r.perform t) (s.perform t)) :
    r.step = none ↔ s.step = none := by
  have rests {r : Run} : r.step = none ↔ ¬∃ r', r.Does r' := by
    constructor
    · rintro hn ⟨r', hd⟩
      exact hd.step_ne_none hn
    · intro hn
      cases hr : r.step with
      | none => rfl
      | some r' => exact absurd ⟨r', does_of_step hr⟩ hn
  rw [rests, rests]
  refine not_congr ⟨?_, ?_⟩
  · rintro ⟨r', hd⟩
    obtain ⟨s', hd', -⟩ := hd.follow h
    exact ⟨s', hd'⟩
  · rintro ⟨s', hd⟩
    obtain ⟨r', hd', -⟩ := Does.follow_back h hd
    exact ⟨r', hd'⟩

end

end Run

end TunnelRelay.Relay
