import Mathlib.Data.List.Nodup
import TunnelRelay.Proofs.Lifecycle
/-!
# Which sockets are kept outside the tunnel

Each attempt asks the host to keep its transport socket and the library's sockets outside the
tunnel, and gets no interface before the library has no more sockets and all were granted. But the
library hands out each of its sockets once in the whole run, so a socket whose request was refused
is never asked about again: the attempt ends, and a later one gets its interface without it. The
requests for the library's sockets are exactly the sockets that were handed out, one by one, and
`Leads.protection_lawful` says which of them are kept outside the tunnel while an interface is open.
-/

namespace TunnelRelay.Relay

/-! ## The library's sockets in the calls -/

/-- The library's socket that a call hands out. -/
def HostCall.handedOut? : HostCall → Option Int
  | .nextAuxiliary fd? => fd?
  | _ => none

/-- The library's socket that a call asks to keep outside the tunnel, and the host's answer. -/
def HostCall.request? : HostCall → Option (Int × Bool)
  | .protect (.numbered fd) granted => some (fd, granted)
  | _ => none

namespace Course

theorem handedOut_grants (fds : List Int) : (grants fds).filterMap HostCall.handedOut? = fds := by
  induction fds with
  | nil => rfl
  | cons fd fds ih => exact congrArg (fd :: ·) ih

theorem requests_grants (fds : List Int) :
    (grants fds).filterMap HostCall.request? = fds.map (·, true) := by
  induction fds with
  | nil => rfl
  | cons fd fds ih => exact congrArg ((fd, true) :: ·) ih

/-- The calls from the transport's request on, as far as the host grants what the library hands
out. -/
theorem sockets_granted (fds : List Int) (cs : List HostCall) {rest : List Int}
    (hh : cs.filterMap HostCall.handedOut? = rest)
    (hr : (cs.filterMap HostCall.request?).map Prod.fst = rest) :
    (HostCall.protect .transport true :: (grants fds ++ cs)).filterMap HostCall.handedOut? =
        fds ++ rest ∧
      ((HostCall.protect .transport true :: (grants fds ++ cs)).filterMap HostCall.request?).map
        Prod.fst = fds ++ rest := by
  rw [List.filterMap_cons_none rfl, List.filterMap_cons_none rfl, List.filterMap_append,
    List.filterMap_append, handedOut_grants, requests_grants, List.map_append, hh, hr]
  simp [Function.comp_def]

theorem sockets_allGranted (fds : List Int) (cs : List HostCall)
    (hh : cs.filterMap HostCall.handedOut? = [])
    (hr : cs.filterMap HostCall.request? = []) :
    (allGranted fds ++ cs).filterMap HostCall.handedOut? = fds ∧
      ((allGranted fds ++ cs).filterMap HostCall.request?).map Prod.fst = fds := by
  have h := sockets_granted fds (.nextAuxiliary none :: cs) hh (congrArg (·.map Prod.fst) hr)
  rw [List.append_nil] at h
  rw [allGranted, List.cons_append, List.append_assoc, List.singleton_append]
  exact h

/-- What an attempt takes from the library is what it is handed out, and it asks the host about each
of these sockets once, in their order. -/
theorem sockets_opening (l d : Bool) (c : Course) :
    (c.opening l d).filterMap HostCall.handedOut? = c.popped ∧
      ((c.opening l d).filterMap HostCall.request?).map Prod.fst = c.popped := by
  cases c with
  | transportRefused => exact ⟨rfl, rfl⟩
  | auxiliaryRefused fds fd => exact sockets_granted fds _ rfl rfl
  | unconnected fds =>
    have h := sockets_allGranted fds [] rfl rfl
    rw [List.append_nil] at h
    exact h
  | notEstablished fds own settings => exact sockets_allGranted fds _ rfl rfl
  | established fds own settings device closing =>
    rw [opening, List.append_assoc]
    cases l <;> exact sockets_allGranted fds _ rfl rfl

end Course

namespace Block

/-- The closing of an interface concerns no socket. -/
theorem filterMap_records {α : Type} {f : HostCall → Option α}
    (hf : ∀ device ok, f (.close device ok) = none) (l d : Bool) (b : Block) :
    (b.records l d).filterMap (fun r => f r.call) = (b.course.opening l d).filterMap f := by
  have hc : b.course.closing.filterMap (fun r => f r.call) = [] := by
    unfold Course.closing
    split
    · simp [hf]
    · rfl
  rw [records, List.filterMap_append, hc, List.append_nil, List.filterMap_map]
  rfl

end Block

namespace Run

/-- The library's sockets that were handed out, in their order. -/
def handedOut (r : Run) : List Int := r.calls.filterMap (·.call.handedOut?)

/-- The requests to keep one of the library's sockets outside the tunnel, with the answers. -/
def requests (r : Run) : List (Int × Bool) := r.calls.filterMap (·.call.request?)

section
variable {sockets : List Int} {r : Run} {bs : List Block}

theorem Ledger.handedOut_eq (h : Ledger sockets r bs) :
    r.handedOut = bs.flatMap (·.course.popped) := by
  rw [handedOut, h.calls, List.filterMap_flatMap]
  refine congrArg (bs.flatMap ·) (funext fun b => ?_)
  rw [Block.filterMap_records (fun _ _ => rfl), (Course.sockets_opening _ _ _).1]

/-- The host is asked about each socket that is handed out, once and in their order. -/
theorem Ledger.requests_eq (h : Ledger sockets r bs) : r.requests.map Prod.fst = r.handedOut := by
  rw [h.handedOut_eq, requests, h.calls, List.filterMap_flatMap, List.map_flatMap]
  refine congrArg (bs.flatMap ·) (funext fun b => ?_)
  rw [Block.filterMap_records (fun _ _ => rfl), (Course.sockets_opening _ _ _).2]

/-- While an interface is open, the last calls are those of an attempt that was granted its
transport socket and all that it took from the library. -/
theorem Ledger.calls_of_openDevice? (h : Ledger sockets r bs) {device : String}
    (hd : r.openDevice? = some device) : ∃ earlier fds own settings,
    r.calls.map CallRecord.call = earlier ++ (Course.allGranted fds ++
      Course.asked own settings true ++
        if r.hasListener then [.listener device r.hasDescriptor] else []) := by
  rcases h.open_cases with ⟨hn, -⟩ | ⟨bs', b, rfl, -, -, hb⟩
  · rw [hd] at hn; cases hn
  · rw [hd] at hb
    obtain ⟨fds, own, settings, hc⟩ := Course.eq_of_openDevice? hb
    refine ⟨(bs'.flatMap (Block.records r.hasListener r.hasDescriptor)).map CallRecord.call, fds, own,
      settings, ?_⟩
    rw [h.calls, List.flatMap_append, List.map_append, List.flatMap_singleton, b.map_call_records, hc]
    exact congrArg (_ ++ ·) (List.append_nil _)

end

/-! ## The law of protection -/

/-- While an interface is open, the host has granted that the attempt's transport socket and the
sockets that this attempt took from the library stay outside the tunnel. Over the whole run the
library has handed out its sockets in their order, each once, and the host was asked about each
once, so all that were handed out are kept outside the tunnel exactly if none was refused for
good; of distinct sockets, those that were refused are the ones that are not. -/
theorem Leads.protection_lawful {r₀ r : Run} {es : List Event} (h₀ : r₀.IsFresh)
    (h : r₀.Leads es r) {device : String} (hd : r.openDevice? = some device) :
    (∃ earlier fds own settings, r.calls.map CallRecord.call = earlier ++
      (Course.allGranted fds ++ Course.asked own settings true ++
        if r₀.hasListener then [.listener device r₀.hasDescriptor] else [])) ∧
    r.handedOut ++ r.host.sockets = r₀.host.sockets ∧
    r.requests.map Prod.fst = r.handedOut ∧
    ((∀ fd ∈ r.handedOut, (fd, true) ∈ r.requests) ↔
      ∀ fd, (fd, false) ∈ r.requests → (fd, true) ∈ r.requests) ∧
    (r₀.host.sockets.Nodup →
      ∀ fd ∈ r.handedOut, (fd, true) ∉ r.requests ↔ (fd, false) ∈ r.requests) := by
  obtain ⟨bs, hb⟩ := h.ledger h₀
  have hreq := hb.requests_eq
  have hout : r.handedOut ++ r.host.sockets = r₀.host.sockets := by
    rw [hb.handedOut_eq]; exact hb.sockets
  have hopen := hb.calls_of_openDevice? hd
  rw [h.sameTerms.hasListener, h.sameTerms.hasDescriptor] at hopen
  have answered : ∀ fd ∈ r.handedOut, (fd, true) ∈ r.requests ∨ (fd, false) ∈ r.requests := by
    intro fd hfd
    rw [← hreq, List.mem_map] at hfd
    obtain ⟨⟨fd, granted⟩, hp, rfl⟩ := hfd
    cases granted
    · exact .inr hp
    · exact .inl hp
  have asked : ∀ fd granted, (fd, granted) ∈ r.requests → fd ∈ r.handedOut := by
    intro fd granted hp
    rw [← hreq]
    exact List.mem_map_of_mem hp
  refine ⟨hopen, hout, hreq, ⟨?_, ?_⟩, ?_⟩
  · intro hall fd hp
    exact hall fd (asked fd false hp)
  · intro hall fd hfd
    rcases answered fd hfd with hp | hp
    · exact hp
    · exact hall fd hp
  · intro hnodup fd hfd
    have hone : (r.requests.map Prod.fst).Nodup := by
      rw [hreq]
      exact (List.nodup_append.1 (hout ▸ hnodup)).1
    constructor
    · intro hn
      exact (answered fd hfd).resolve_left hn
    · intro hf ht
      have he := List.inj_on_of_nodup_map hone hf ht rfl
      cases he

/-- In the small run the only socket of the library is granted before the interface opens. -/
theorem trialConnected_protection :
    trialConnected.handedOut = [7] ∧
    ∀ fd ∈ trialConnected.handedOut, (fd, true) ∈ trialConnected.requests := by
  have hd : trialConnected.openDevice? = some "sim0" := rfl
  obtain ⟨-, -, -, hall, -⟩ := trial_leads_connected.protection_lawful trial_isFresh hd
  have hr : trialConnected.requests = [(7, true)] := rfl
  refine ⟨rfl, hall.2 ?_⟩
  intro fd hf
  rw [hr] at hf
  cases hf with
  | tail _ hf => cases hf

/-- The small run with a second attempt, and with a host that refuses the library's socket once. -/
def trialRefusing : Run :=
  { trial with
    config := { trial.config with maxAttempts := 2 }
    host := { trial.host with protect := [true, false, true] } }

/-- That run when its second attempt has its interface. -/
def trialUnprotected : Run := (((trialRefusing.happen .run).settleWithin 3).moveClock 10).settleWithin 3

/-- A socket that was refused is forgotten: the next attempt opens its interface, and the host was
never brought to keep the library's socket outside the tunnel. -/
theorem trialUnprotected_not_granted :
    trialRefusing.IsFresh ∧ trialRefusing.Leads [.run] trialUnprotected ∧
    trialUnprotected.openDevice? = some "sim0" ∧
    7 ∈ trialUnprotected.handedOut ∧ (7, true) ∉ trialUnprotected.requests := by
  have hfresh : trialRefusing.IsFresh := by constructor <;> rfl
  have hpause : trialRefusing.Leads [.run] ((trialRefusing.happen .run).settleWithin 3) :=
    (Leads.start.event .run).settleWithin 3
  have hleads : trialRefusing.Leads [.run] trialUnprotected :=
    (hpause.clock rfl (by decide) (le_timer (s := 10) rfl (Nat.le_refl _))).settleWithin 3
  have hout : trialUnprotected.handedOut = [7] := rfl
  have hreq : trialUnprotected.requests = [(7, false)] := rfl
  refine ⟨hfresh, hleads, rfl, ?_, ?_⟩
  · rw [hout]; exact List.mem_singleton.2 rfl
  · rw [hreq]; simp

end Run

end TunnelRelay.Relay
