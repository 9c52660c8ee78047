import Mathlib.Data.List.Forall2
import Mathlib.Data.List.TakeDrop
import TunnelRelay.Proofs.Delivery
import TunnelRelay.Proofs.Forwarding
/-!
# Packets that fit their interface

An interface is established with the MTU that the tunneling library names, whatever that is; only
the MTU of the configuration's own interface is checked against the size of the buffers. A packet
that is longer than a buffer is cut when it is read, so an interface with a greater MTU carries
packets of which only the beginning goes out (`trialWide_cuts`). Up to that size every packet that
fits its interface is sent whole.
-/

namespace TunnelRelay

namespace Relay

open Net

/-! ## One datagram for each packet -/

/-- Each packet that a pump has read and that is not empty is related to the datagram that it has
sent for it. The last one may still be in its send, or its send was refused. -/
def Outbound.SendsEach (o : Outbound) (R : Packet → Packet → Prop) (ps ds : List Packet) : Prop :=
  List.Forall₂ R (ps.filter (· ≠ [])) ds ∨
    ∃ qs q, ps = qs ++ [q] ∧ q ≠ [] ∧ List.Forall₂ R (qs.filter (· ≠ [])) ds ∧
      ((∃ p, o.phase = .sending p ∧ R q p) ∨ o.phase = .ended (.error Channel.refusal))

theorem forall₂_forwarded (ps : List Packet) :
    List.Forall₂ (fun p d => d = p.take Packet.greatestSize) (ps.filter (· ≠ []))
      (forwarded ps) := by
  rw [forwarded, List.forall₂_map_right_iff]
  exact List.forall₂_same.2 fun _ _ => rfl

theorem Outbound.Carried.sendsEach {o : Outbound} {ps ds : List Packet} (h : o.Carried ps ds) :
    o.SendsEach (fun p d => d = p.take Packet.greatestSize) ps ds := by
  unfold Outbound.Carried at h
  split at h
  · rename_i p hp
    obtain ⟨qs, q, rfl, hne, rfl, rfl⟩ := h
    exact .inr ⟨qs, q, rfl, hne, forall₂_forwarded qs, .inl ⟨_, hp, rfl⟩⟩
  · rename_i e hp
    rcases h with rfl | ⟨rfl, qs, q, rfl, hne, rfl⟩
    · exact .inl (forall₂_forwarded ps)
    · exact .inr ⟨qs, q, rfl, hne, forall₂_forwarded qs, .inr hp⟩
  · exact .inl (h ▸ forall₂_forwarded ps)

theorem Outbound.SendsEach.imp {o : Outbound} {R S : Packet → Packet → Prop} {ps ds : List Packet}
    (h : o.SendsEach R ps ds) (hRS : ∀ p d, R p d → S p d) : o.SendsEach S ps ds := by
  rcases h with h | ⟨qs, q, e, hne, h, hlast⟩
  · exact .inl (h.imp hRS)
  · refine .inr ⟨qs, q, e, hne, h.imp hRS, ?_⟩
    rcases hlast with ⟨p, hp, hR⟩ | hp
    · exact .inl ⟨p, hp, hRS q p hR⟩
    · exact .inr hp

/-! ## The interfaces of a run -/

/-- The interface that a call establishes. -/
def HostCall.opened? : HostCall → Option InterfaceSettings
  | .establish settings true => some settings
  | _ => none

namespace Course

/-- The description of the interface that is established. -/
def settings? : Course → Option InterfaceSettings
  | .established _ _ settings _ _ => some settings
  | _ => none

theorem opened_grants (fds : List Int) : (grants fds).filterMap HostCall.opened? = [] := by
  induction fds with
  | nil => rfl
  | cons fd fds ih => exact ih

/-- No request for a socket establishes an interface. -/
theorem opened_granted (fds : List Int) (cs : List HostCall) :
    (HostCall.protect .transport true :: (grants fds ++ cs)).filterMap HostCall.opened? =
      cs.filterMap HostCall.opened? := by
  rw [List.filterMap_cons_none rfl, List.filterMap_append, opened_grants, List.nil_append]

theorem opened_opening (l d : Bool) (c : Course) :
    (c.opening l d).filterMap HostCall.opened? = c.settings?.toList := by
  cases c with
  | transportRefused => rfl
  | auxiliaryRefused fds fd => exact opened_granted fds _
  | unconnected fds => exact opened_granted fds _
  | notEstablished fds own settings =>
    rw [opening, allGranted, List.cons_append, List.append_assoc]
    exact opened_granted fds _
  | established fds own settings device closing =>
    rw [opening, allGranted, List.cons_append, List.cons_append, List.append_assoc,
      List.append_assoc]
    cases l <;> exact opened_granted fds _

theorem settings?_of_device?_eq_none {c : Course} (h : c.device? = none) : c.settings? = none := by
  cases c <;> first | rfl | cases h

theorem exists_settings {c : Course} {device : String} (h : c.device? = some device) :
    ∃ settings, c.settings? = some settings := by
  cases c with
  | established fds own settings device closing => exact ⟨settings, rfl⟩
  | _ => cases h

end Course

namespace Run

/-- The interfaces that were established, in their order. -/
def openings (r : Run) : List InterfaceSettings := r.calls.filterMap (·.call.opened?)

section
variable {r r' : Run}

theorem openings_afterCalls (r : Run) (cs : List HostCall) (host : HostScript)
    (log : List LogEvent) :
    (r.afterCalls cs host log).openings = r.openings ++ cs.filterMap HostCall.opened? := by
  simp only [openings, afterCalls, List.filterMap_append, List.filterMap_map]
  rfl

/-- An interface is established where the pumps of an attempt start, and nowhere else. -/
theorem Change.openings_cases (hc : r.Change r') :
    (r'.openings = r.openings ∧ r'.established = r.established ∧
      ((∃ a, r.phase = .pumping a) ∨ ∀ a, r'.phase ≠ .pumping a)) ∨
    ∃ s, r'.openings = r.openings ++ [s] ∧ r'.established = r.established + 1 := by
  cases hc with
  | resolved | unresolved | stopped | begins | wakes =>
    exact .inl ⟨rfl, rfl, .inr fun _ => Phase.noConfusion⟩
  | outbound hp | inbound hp => exact .inl ⟨rfl, rfl, .inl ⟨_, hp⟩⟩
  | @fails server f c host log hp hc =>
    refine .inl ⟨?_, afterAttempt_established _ _ _, .inr (afterAttempt_ne_pumping _ _ _)⟩
    rw [Run.openings, afterAttempt_calls]
    refine (r.openings_afterCalls _ host log).trans ?_
    rw [Course.opened_opening, Course.settings?_of_device?_eq_none hc]
    exact List.append_nil _
  | @connects server f c host log hp hc =>
    obtain ⟨s, hs⟩ := Course.exists_settings hc
    refine .inr ⟨s, ?_, rfl⟩
    refine (r.openings_afterCalls _ host log).trans ?_
    rw [Course.opened_opening, hs]
    rfl
  | @loses a o i ok host log =>
    refine .inl ⟨?_, afterAttempt_established _ _ _, .inr (afterAttempt_ne_pumping _ _ _)⟩
    rw [Run.openings, afterAttempt_calls]
    exact (r.openings_afterCalls [.close a.device ok] host log).trans (List.append_nil _)

theorem openings_happen (r : Run) (e : Event) : (r.happen e).openings = r.openings := by
  rw [openings, happen_calls, openings]

/-- The number of interfaces established says how many were added. -/
theorem Leads.openings_append {es : List Event} (h : r.Leads es r') :
    ∃ ss, r'.openings = r.openings ++ ss ∧ r'.established = r.established + ss.length := by
  induction h with
  | start => exact ⟨[], (List.append_nil _).symm, rfl⟩
  | event _ e ih =>
    rw [openings_happen, happen_established]
    exact ih
  | does _ hd ih =>
    obtain ⟨ss, ho, hn⟩ := ih
    rcases hd.change.openings_cases with ⟨ho', hn', -⟩ | ⟨s, ho', hn'⟩
    · exact ⟨ss, ho'.trans ho, hn'.trans hn⟩
    · refine ⟨ss ++ [s], by rw [ho', ho, List.append_assoc], ?_⟩
      rw [hn', hn, List.length_append, List.length_singleton, Nat.add_assoc]
  | clock _ _ _ _ ih => exact ih

/-- As long as one attempt runs, its interface is the last one. -/
theorem Leads.openings_eq {es : List Event} (h : r.Leads es r')
    (he : r'.established = r.established) : r'.openings = r.openings := by
  obtain ⟨ss, ho, hn⟩ := h.openings_append
  have hl : ss.length = 0 := by omega
  rw [ho, List.length_eq_zero_iff.1 hl, List.append_nil]

end

end Run

/-! ## The MTUs of the library -/

namespace HostScript

/-- The MTUs that the tunneling library may still name. -/
def mtus (h : HostScript) : List UInt16 := (h.paramsDefault :: h.params).map TunnelParams.mtu

theorem takeParams_mtu (h : HostScript) :
    h.takeParams.1.mtu ∈ h.mtus ∧ h.takeParams.2.mtus ⊆ h.mtus := by
  unfold takeParams mtus
  split
  · exact ⟨List.mem_cons_self, List.Subset.refl _⟩
  · rename_i p ps hp
    rw [hp]
    simp

theorem takeProtect_mtus (h : HostScript) (d : Descriptor) : (h.takeProtect d).2.mtus = h.mtus := by
  unfold takeProtect; dsimp only; split <;> rfl

theorem takeAuxiliary_mtus (h : HostScript) : h.takeAuxiliary.2.mtus = h.mtus := by
  unfold takeAuxiliary; split <;> rfl

theorem takeEstablish_mtus (h : HostScript) : h.takeEstablish.2.mtus = h.mtus := by
  unfold takeEstablish; split <;> rfl

theorem takeClose_mtus (h : HostScript) : h.takeClose.2.mtus = h.mtus := by
  unfold takeClose; split <;> rfl

end HostScript

namespace Run

/-- Between two points of a run the library has named the MTU of every interface that was
established. -/
structure FollowsMtus (r r' : Run) : Prop where
  mtus : r'.host.mtus ⊆ r.host.mtus
  openings : ∀ s ∈ r'.openings, s ∈ r.openings ∨ s.mtu ∈ r.host.mtus

section
variable {r r' r'' : Run}

theorem FollowsMtus.trans (h : r.FollowsMtus r') (h' : r'.FollowsMtus r'') : r.FollowsMtus r'' where
  mtus := List.Subset.trans h'.mtus h.mtus
  openings := by
    intro s hs
    rcases h'.openings s hs with hs | hm
    · exact h.openings s hs
    · exact .inr (h.mtus hm)

/-- Where no interface is established, only the script matters. -/
theorem followsMtus_of_eq (hm : r'.host.mtus = r.host.mtus) (ho : r'.openings = r.openings) :
    r.FollowsMtus r' where
  mtus := by rw [hm]; exact List.Subset.refl _
  openings := by rw [ho]; exact fun _ hs => .inl hs

theorem protect_followsMtus (r : Run) (d : Descriptor) : r.FollowsMtus (r.protect d).2 := by
  unfold protect
  dsimp only
  rw [foldl_noteWith]
  refine followsMtus_of_eq (r.host.takeProtect_mtus d) ?_
  simp [openings, call, HostCall.opened?]

theorem protectAuxiliary_followsMtus : ∀ (fuel : Nat) (r : Run),
    r.FollowsMtus (r.protectAuxiliary fuel).2
  | 0, r => followsMtus_of_eq rfl rfl
  | fuel + 1, r => by
    unfold protectAuxiliary
    dsimp only
    have htake : r.FollowsMtus ({ r with host := r.host.takeAuxiliary.2 }.call
        (.nextAuxiliary r.host.takeAuxiliary.1)) := by
      refine followsMtus_of_eq r.host.takeAuxiliary_mtus ?_
      simp [openings, call, HostCall.opened?]
    split
    · exact htake
    · rename_i fd _
      generalize hr₁ : Run.noteWith _ _ _ _ _ = r₁
      have hnote : r.FollowsMtus r₁ := by rw [← hr₁]; exact htake.trans (followsMtus_of_eq rfl rfl)
      have hask := hnote.trans (r₁.protect_followsMtus (.numbered fd))
      split
      · rename_i r₂ e
        rw [e] at hask
        exact hask.trans (protectAuxiliary_followsMtus fuel r₂)
      · rename_i r₂ e
        rw [e] at hask
        exact hask

theorem openTransport_followsMtus (r : Run) (server : Address) :
    r.FollowsMtus (r.openTransport server).2 := by
  unfold openTransport
  have hask := r.protect_followsMtus .transport
  split
  · rename_i r₁ e; rw [e] at hask; exact hask
  · rename_i r₁ e
    rw [e] at hask
    have hall := hask.trans (r₁.protectAuxiliary_followsMtus (r₁.host.auxiliary.length + 1))
    split
    · rename_i d r₂ e'; rw [e'] at hall; exact hall
    · rename_i r₂ e'
      rw [e'] at hall
      split
      · exact hall
      · refine hall.trans (followsMtus_of_eq rfl ?_)
        simp [openings, call, HostCall.opened?]

theorem querySettings_mtu (r : Run) : r.querySettings.1.mtu ∈ r.host.mtus ∧
    r.FollowsMtus r.querySettings.2 := by
  refine ⟨r.host.takeParams_mtu.1, ⟨?_, ?_⟩⟩
  · intro m hm
    exact r.host.takeParams_mtu.2
      (r.host.takeParams.2.takeParams_mtu.2 (r.host.takeParams.2.takeParams.2.takeParams_mtu.2 hm))
  · intro s hs
    exact .inl (by simpa [querySettings, queryParams, openings, call, HostCall.opened?] using hs)

/-- The MTU of an interface is the one that the library has named, whatever it is. -/
theorem establish_followsMtus (r : Run) : r.FollowsMtus r.establish.2 := by
  obtain ⟨hm, hq⟩ := r.querySettings_mtu
  unfold establish
  generalize r.querySettings = q at hm hq
  obtain ⟨settings, r₁⟩ := q
  dsimp only at hm hq ⊢
  have hhost : r₁.host.takeEstablish.2.mtus ⊆ r.host.mtus := by
    rw [r₁.host.takeEstablish_mtus]
    exact hq.mtus
  generalize r₁.host.takeEstablish = t at hhost
  obtain ⟨answer, host⟩ := t
  have hopen : ∀ (s : InterfaceSettings), s ∈ r₁.openings ∨ s = settings →
      s ∈ r.openings ∨ s.mtu ∈ r.host.mtus := by
    rintro s (hs | rfl)
    · exact hq.openings s hs
    · exact .inr hm
  cases answer with
  | error e =>
    refine ⟨hhost, fun s hs => hopen s (.inl ?_)⟩
    simpa [openings, call, HostCall.opened?] using hs
  | ok _ =>
    dsimp only
    split
    · refine ⟨hhost, fun s hs => hopen s ?_⟩
      simpa [openings, call, HostCall.opened?] using hs
    · refine ⟨hhost, fun s hs => hopen s ?_⟩
      simpa [openings, call, HostCall.opened?] using hs

theorem afterAttempt_followsMtus (r : Run) (server : Address) (f : Nat) :
    r.FollowsMtus (r.afterAttempt server f) := by
  refine followsMtus_of_eq (by rw [afterAttempt_host]) ?_
  rw [openings, afterAttempt_calls, openings]

theorem attemptFailed_followsMtus (r : Run) (server : Address) (f : Nat) (e : Error) :
    r.FollowsMtus (r.attemptFailed server f e) := by
  unfold attemptFailed
  split
  · generalize hr₁ : Run.noteWith _ _ _ _ _ = r₁
    have hnote : r.FollowsMtus r₁ := by rw [← hr₁]; exact followsMtus_of_eq rfl rfl
    exact hnote.trans (r₁.afterAttempt_followsMtus server (f + 1))
  · exact followsMtus_of_eq rfl rfl

theorem openAttempt_followsMtus (r : Run) (server : Address) (f : Nat) :
    r.FollowsMtus (r.openAttempt server f) := by
  unfold openAttempt
  have hopen := r.openTransport_followsMtus server
  split
  · rename_i e r₁ h
    rw [h] at hopen
    exact hopen.trans (r₁.attemptFailed_followsMtus server f e)
  · rename_i r₁ h
    rw [h] at hopen
    have hest := hopen.trans r₁.establish_followsMtus
    split
    · rename_i e r₂ h'
      rw [h'] at hest
      exact hest.trans (r₂.attemptFailed_followsMtus server f e)
    · rename_i device r₂ h'
      rw [h'] at hest
      exact hest.trans (followsMtus_of_eq rfl rfl)

theorem tearDown_followsMtus (r : Run) (a : Attempt) (o i : Except Error PumpStats) :
    r.FollowsMtus (r.tearDown a o i) := by
  unfold tearDown
  obtain ⟨log₁, h₁⟩ := (r.closeInterface a.device).reportPump_eq "outbound" o
  rw [h₁]
  obtain ⟨log₂, h₂⟩ := reportPump_eq { r.closeInterface a.device with log := log₁ } "inbound" i
  rw [h₂, closeInterface_eq]
  refine FollowsMtus.trans (followsMtus_of_eq r.host.takeClose_mtus ?_)
    (afterAttempt_followsMtus _ a.server 0)
  exact (r.openings_afterCalls [.close a.device r.host.takeClose.1] r.host r.log).trans
    (List.append_nil _)

theorem Does.followsMtus (hd : r.Does r') : r.FollowsMtus r' := by
  cases hd with
  | lookUp =>
    unfold Run.lookUp
    dsimp only
    split
    · exact followsMtus_of_eq rfl rfl
    · split <;> exact followsMtus_of_eq rfl rfl
  | beginAttempt => unfold Run.beginAttempt; split <;> exact followsMtus_of_eq rfl rfl
  | openAttempt => exact r.openAttempt_followsMtus _ _
  | outbound _ h =>
    unfold outboundStep at h
    split at h <;> cases h
    exact followsMtus_of_eq rfl rfl
  | inbound _ h =>
    unfold inboundStep at h
    split at h <;> cases h
    exact followsMtus_of_eq rfl rfl
  | tearDown => exact r.tearDown_followsMtus _ _ _
  | stopPause | wake => exact followsMtus_of_eq rfl rfl

theorem Leads.followsMtus {es : List Event} (h : r.Leads es r') : r.FollowsMtus r' := by
  induction h with
  | start => exact followsMtus_of_eq rfl rfl
  | event _ e ih =>
    exact ih.trans (followsMtus_of_eq (by rw [happen_host]) (openings_happen _ e))
  | does _ hd ih => exact ih.trans hd.followsMtus
  | clock _ _ _ _ ih => exact ih.trans (followsMtus_of_eq rfl rfl)

end

end Run

/-- A configuration that keeps the rules has an interface that the buffers can serve. -/
theorem mtu_le_of_validate {c : Config} (h : c.validate = .ok ()) :
    c.tun.mtu.toNat ≤ Packet.greatestSize := by
  by_contra hn
  have hlt : Packet.greatestSize < c.tun.mtu.toNat := Nat.lt_of_not_le hn
  unfold Config.validate Config.violation? at h
  split_ifs at h

namespace Run

/-! ## The law of fitting packets -/

/-- However a run goes, an attempt that starts its pumps has established one more interface, with
an MTU that the library has named, and it is this interface that its pump reads. Each packet goes
out as one datagram, which is the packet itself exactly if the packet is not longer than a buffer;
so where the MTU is at most that, each packet that fits its interface is sent whole, unless its
send is refused. The MTU is at most that wherever the library names the MTU of a configuration
that keeps the rules. -/
theorem Leads.fitting_lawful {r₀ r : Run} {es : List Event} (h₀ : r₀.IsFresh)
    (h : r₀.Leads es r) {r₁ : Run} (hd : r.Does r₁) (hp : ∀ a, r.phase ≠ .pumping a)
    {a₁ : Attempt} (hp₁ : r₁.phase = .pumping a₁) :
    ∃ s : InterfaceSettings, r₁.openings = r.openings ++ [s] ∧ s.mtu ∈ r₀.host.mtus ∧
      (∀ es' r' a', r₁.Leads es' r' → r'.phase = .pumping a' → r'.established = r₁.established →
        r'.openings = r₁.openings ∧
        ∃ ps ds, r'.channel.packetsRead = r₁.channel.packetsRead ++ ps ∧
          r'.channel.outboundSent = r₁.channel.outboundSent ++ ds ∧
          a'.outbound.SendsEach (fun p d => d = p.take Packet.greatestSize ∧
            (d = p ↔ p.length ≤ Packet.greatestSize)) ps ds ∧
          (s.mtu.toNat ≤ Packet.greatestSize →
            a'.outbound.SendsEach (fun p d => p.length ≤ s.mtu.toNat → d = p) ps ds)) ∧
      (r₀.config.validate = .ok () → (∀ m ∈ r₀.host.mtus, m = r₀.config.tun.mtu) →
        s.mtu.toNat ≤ Packet.greatestSize) := by
  -- the step that starts the pumps has established the interface
  obtain ⟨s, hs⟩ : ∃ s, r₁.openings = r.openings ++ [s] := by
    rcases hd.change.openings_cases with ⟨-, -, ⟨a, ha⟩ | hne⟩ | ⟨s, hs, -⟩
    · exact absurd ha (hp a)
    · exact absurd hp₁ (hne a₁)
    · exact ⟨s, hs⟩
  have hmtu : s.mtu ∈ r₀.host.mtus := by
    have hmem : s ∈ r₁.openings := by rw [hs]; exact List.mem_concat_self
    rcases (h.does hd).followsMtus.openings s hmem with hs₀ | hm
    · rw [openings, h₀.calls] at hs₀; cases hs₀
    · exact hm
  refine ⟨s, hs, hmtu, ?_, ?_⟩
  · intro es' r' a' hl hp' he
    obtain ⟨ps, ds, hr, ho, hc⟩ :=
      (hl.carried hp₁ (hd.change.outbound_fresh hp hp₁)).2 a' hp' he
    have hcut := hc.sendsEach
    refine ⟨hl.openings_eq he, ps, ds, hr, ho, hcut.imp ?_, ?_⟩
    · rintro p d rfl
      exact ⟨rfl, List.take_eq_self_iff p⟩
    · intro hle
      refine hcut.imp ?_
      rintro p d rfl hfit
      exact (List.take_eq_self_iff p).2 (Nat.le_trans hfit hle)
  · intro hv hall
    rw [hall s.mtu hmtu]
    exact mtu_le_of_validate hv

/-- In the small run the library names an MTU of 1500, and the packet that is read goes out whole. -/
theorem trialPumping_fitting :
    ∃ s : InterfaceSettings, trialOpened.openings = [s] ∧ s.mtu = 1500 ∧ ∃ a ps ds,
      trialPumping.phase = .pumping a ∧ trialPumping.channel.packetsRead = ps ∧
      trialPumping.channel.outboundSent = ds ∧ ps = [[69, 1], []] ∧ ds = [[69, 1]] ∧
      a.outbound.SendsEach (fun p d => p.length ≤ s.mtu.toNat → d = p) ps ds := by
  have hl : trial.Leads [.run] trialAttempting := (Leads.start.event .run).settleWithin 2
  have hp : trialAttempting.phase = .attempting (.v4 ⟨127, 0, 0, 1⟩) 0 := rfl
  have hl' : trialOpened.Leads trialEvents trialPumping := trialConnected_leads
  obtain ⟨s, hs, hm, hsends, hv⟩ := hl.fitting_lawful trial_isFresh (.openAttempt hp)
    (fun a => by rw [hp]; exact Phase.noConfusion) rfl
  have hmtu : s.mtu = 1500 := List.mem_singleton.1 hm
  obtain ⟨-, ps, ds, hr, ho, -, hfit⟩ := hsends _ _ _ hl' rfl rfl
  have hle : s.mtu.toNat ≤ Packet.greatestSize := hv rfl fun m hm => List.mem_singleton.1 hm
  exact ⟨s, hs, hmtu, _, ps, ds, rfl, hr, ho, hr.symm.trans rfl, ho.symm.trans rfl, hfit hle⟩

/-- The small run with a library that names an MTU of 40000. -/
def trialWide : Run :=
  { trial with host := { trial.host with paramsDefault := ⟨⟨192, 168, 255, 6⟩, 29, 40000⟩ } }

/-- That run with its interface established. -/
def trialWideOpened : Run := (trialWide.happen .run).settleWithin 3

/-- That run after a packet was read and sent. -/
def trialWideSent (p : Packet) : Run := (trialWideOpened.happen (.push p)).settleWithin 2

theorem trialWide_leads_sent (p : Packet) : trialWide.Leads [.run, .push p] (trialWideSent p) :=
  ((Leads.start.event .run).settleWithin 3 |>.event (.push p)).settleWithin 2

/-- What was sent is what the buffer holds of the packet, and the pump is ready to read on. -/
theorem trialWideSent_eq {p : Packet} (hne : p ≠ []) :
    ((trialWideSent p).openings.map fun s => s.mtu) = [40000] ∧
    (∃ a, (trialWideSent p).phase = .pumping a ∧ a.outbound.phase = .ready) ∧
    (trialWideSent p).channel.packetsRead = [p] ∧
    (trialWideSent p).channel.outboundSent = [p.take Packet.greatestSize] := by
  cases p with
  | nil => exact absurd rfl hne
  | cons b bs => exact ⟨rfl, ⟨_, rfl, rfl⟩, rfl, rfl⟩

/-- A packet that fits an interface with an MTU of 40000. -/
def widePacket : Packet := 69 :: List.replicate 39999 1

theorem length_widePacket : widePacket.length = 40000 := by
  rw [widePacket, List.length_cons, List.length_replicate]

/-- The library's MTU is not checked: of a packet that fits its interface only the beginning is
sent, although no send is refused. -/
theorem trialWide_cuts :
    trialWide.IsFresh ∧ trialWide.config.validate = .ok () ∧
    trialWide.Leads [.run, .push widePacket] (trialWideSent widePacket) ∧
    ((trialWideSent widePacket).openings.map fun s => s.mtu) = [40000] ∧
    widePacket.length = 40000 ∧
    (∃ a, (trialWideSent widePacket).phase = .pumping a ∧ a.outbound.phase = .ready) ∧
    (trialWideSent widePacket).channel.packetsRead = [widePacket] ∧
    ∃ d, (trialWideSent widePacket).channel.outboundSent = [d] ∧ d.length = 32767 ∧
      d ≠ widePacket := by
  have hfresh : trialWide.IsFresh := by constructor <;> rfl
  obtain ⟨hmtu, hready, hread, hsent⟩ := trialWideSent_eq (p := widePacket) (List.cons_ne_nil _ _)
  have hlen : (widePacket.take Packet.greatestSize).length = 32767 := by
    rw [List.length_take, length_widePacket, Packet.greatestSize]
    exact Nat.min_eq_left (by decide)
  refine ⟨hfresh, rfl, trialWide_leads_sent _, hmtu, length_widePacket, hready, hread, _, hsent,
    hlen, ?_⟩
  intro he
  rw [he, length_widePacket] at hlen
  exact absurd hlen (by decide)

end Run

end Relay

end TunnelRelay
