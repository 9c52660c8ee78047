import TunnelRelay.Proofs.Runs
/-!
# What an attempt asks of its host

A `Course` is how far an attempt comes with its host: its transport socket is refused, or one of
the library's sockets is, or the transport cannot be connected, or the host establishes no
interface, or it establishes one, which is later closed. `Course.opening` lists the calls of each
up to the start of the pumps.

The main statement is `openAttempt_cases`: an attempt makes the calls of one course, and then it
either has failed or runs its pumps.
-/

namespace TunnelRelay.Relay

open Net

/-- How an attempt goes, as its host sees it. -/
inductive Course where
  | transportRefused
  /-- The library's sockets are granted up to one that is refused. -/
  | auxiliaryRefused (granted : List Int) (refused : Int)
  | unconnected (granted : List Int)
  | notEstablished (granted : List Int) (own : Address) (settings : InterfaceSettings)
  /-- `closing` is when the interface is closed and whether that succeeds. -/
  | established (granted : List Int) (own : Address) (settings : InterfaceSettings)
    (device : String) (closing : Option (Nat × Bool))

namespace Course

/-- The library's sockets that an attempt takes from the library, in order. -/
def popped : Course → List Int
  | .transportRefused => []
  | .auxiliaryRefused fds fd => fds ++ [fd]
  | .unconnected fds | .notEstablished fds _ _ | .established fds _ _ _ _ => fds

/-- The interface that is established. -/
def device? : Course → Option String
  | .established _ _ _ device _ => some device
  | _ => none

/-- The interface that is established and not closed. -/
def openDevice? : Course → Option String
  | .established _ _ _ device none => some device
  | _ => none

/-- One request after another for sockets of the library, all granted. -/
def grants (fds : List Int) : List HostCall :=
  fds.flatMap fun fd => [.nextAuxiliary (some fd), .protect (.numbered fd) true]

/-- The calls until the library has no more sockets, all granted. -/
def allGranted (fds : List Int) : List HostCall :=
  .protect .transport true :: (grants fds ++ [.nextAuxiliary none])

/-- The calls from the connected transport to the host's answer about the interface. -/
def asked (own : Address) (settings : InterfaceSettings) (ok : Bool) : List HostCall :=
  [.localAddress own, .params, .params, .params, .establish settings ok]

/-- The calls up to the start of the pumps. -/
def opening (hasListener hasDescriptor : Bool) : Course → List HostCall
  | .transportRefused => [.protect .transport false]
  | .auxiliaryRefused fds fd =>
    .protect .transport true ::
      (grants fds ++ [.nextAuxiliary (some fd), .protect (.numbered fd) false])
  | .unconnected fds => allGranted fds
  | .notEstablished fds own settings => allGranted fds ++ asked own settings false
  | .established fds own settings device _ =>
    allGranted fds ++ asked own settings true ++
      if hasListener then [.listener device hasDescriptor] else []

/-- The course with its interface closed. -/
def close (time : Nat) (ok : Bool) : Course → Course
  | .established fds own settings device _ =>
    .established fds own settings device (some (time, ok))
  | c => c

end Course

/-- The library's sockets that are still to be taken. -/
def HostScript.sockets (h : HostScript) : List Int := h.auxiliary.filterMap id

theorem HostScript.sockets_eq {h h' : HostScript} (e : h.auxiliary = h'.auxiliary) :
    h.sockets = h'.sockets := by
  rw [sockets, e, sockets]

namespace Run

/-- A run after some more calls, with what they make of the host's script and of the log. -/
def afterCalls (r : Run) (cs : List HostCall) (host : HostScript) (log : List LogEvent) : Run :=
  { r with host := host, log := log, calls := r.calls ++ cs.map fun c => ⟨r.now, c, r.state⟩ }

@[simp] theorem afterCalls_host (r : Run) (cs : List HostCall) (h : HostScript) (l : List LogEvent) :
    (r.afterCalls cs h l).host = h := rfl

theorem afterCalls_afterCalls (r : Run) (cs cs' : List HostCall) (h h' : HostScript)
    (l l' : List LogEvent) :
    (r.afterCalls cs h l).afterCalls cs' h' l' = r.afterCalls (cs ++ cs') h' l' := by
  simp [afterCalls, now]

/-- Notes of the host about a request. -/
theorem foldl_noteWith (es : List (Level × String × String × List (String × LogValue))) (r : Run) :
    es.foldl (fun r e => r.noteWith e.1 e.2.1 e.2.2.1 e.2.2.2) r =
      { r with log := r.log ++ es.map fun e => ⟨r.now, e.1, e.2.1, true, e.2.2.1, e.2.2.2⟩ } := by
  induction es generalizing r with
  | nil => simp
  | cons e es ih => rw [List.foldl_cons, ih]; simp [noteWith, now]

theorem takeProtect_auxiliary (h : HostScript) (d : Descriptor) :
    (h.takeProtect d).2.auxiliary = h.auxiliary := by
  unfold HostScript.takeProtect; dsimp only; split <;> rfl

theorem protect_eq (r : Run) (d : Descriptor) :
    ∃ granted host log, r.protect d = (granted, r.afterCalls [.protect d granted] host log) ∧
      host.auxiliary = r.host.auxiliary := by
  unfold protect
  dsimp only
  rw [foldl_noteWith]
  exact ⟨_, _, _, rfl, takeProtect_auxiliary r.host d⟩

/-- The library's sockets are taken in their order, each is asked for before the next one is
taken, and the first refusal ends that. -/
theorem protectAuxiliary_cases : ∀ (fuel : Nat) (r : Run), r.host.auxiliary.length < fuel →
    ∃ fds host log,
      (r.protectAuxiliary fuel =
          (none, r.afterCalls (Course.grants fds ++ [.nextAuxiliary none]) host log) ∧
        fds ++ host.sockets = r.host.sockets) ∨
      ∃ fd, r.protectAuxiliary fuel =
          (some (.numbered fd), r.afterCalls (Course.grants fds ++
            [.nextAuxiliary (some fd), .protect (.numbered fd) false]) host log) ∧
        fds ++ [fd] ++ host.sockets = r.host.sockets
  | 0, _, h => absurd h (Nat.not_lt_zero _)
  | fuel + 1, r, h => by
    unfold protectAuxiliary HostScript.takeAuxiliary
    cases haux : r.host.auxiliary with
    | nil => exact ⟨[], r.host, r.log, .inl ⟨rfl, rfl⟩⟩
    | cons fd? rest =>
      cases fd? with
      | none =>
        exact ⟨[], { r.host with auxiliary := rest }, r.log, .inl ⟨rfl, by simp [HostScript.sockets, haux]⟩⟩
      | some fd =>
        dsimp only
        -- the run in which the socket's own request is made
        generalize hr₁ : Run.noteWith _ _ _ _ _ = r₁
        obtain ⟨granted, host, log, hp, hh⟩ := r₁.protect_eq (.numbered fd)
        have haux₁ : host.auxiliary = rest := by rw [hh, ← hr₁]; rfl
        have hcalls : r₁.afterCalls [.protect (.numbered fd) granted] host log =
            r.afterCalls [.nextAuxiliary (some fd), .protect (.numbered fd) granted] host log := by
          rw [← hr₁]; simp [afterCalls, noteWith, call, now]
        rw [hp, hcalls]
        cases granted with
        | false =>
          exact ⟨[], host, log, .inr ⟨fd, rfl, by simp [HostScript.sockets, haux, haux₁]⟩⟩
        | true =>
          dsimp only
          generalize hr₂ : r.afterCalls _ host log = r₂
          have hhost : r₂.host = host := by rw [← hr₂]; rfl
          obtain ⟨fds, host', log', ih⟩ := protectAuxiliary_cases fuel r₂ (by
            rw [hhost, haux₁]; rw [haux] at h; simpa using h)
          have hs : fd :: r₂.host.sockets = r.host.sockets := by
            rw [hhost]; simp [HostScript.sockets, haux, haux₁]
          refine ⟨fd :: fds, host', log', ?_⟩
          rcases ih with ⟨e, hf⟩ | ⟨fd', e, hf⟩
          · refine .inl ⟨?_, by rw [← hs, ← hf]; rfl⟩
            rw [e, ← hr₂, afterCalls_afterCalls]
            rfl
          · refine .inr ⟨fd', ?_, by rw [← hs, ← hf]; rfl⟩
            rw [e, ← hr₂, afterCalls_afterCalls]
            rfl

/-- The calls for a transport socket, and what becomes of it. -/
theorem openTransport_cases (r : Run) (server : Address) :
    ∃ host log,
      (r.openTransport server = (.error (.protectFailed .transport),
          r.afterCalls [.protect .transport false] host log) ∧
        host.sockets = r.host.sockets) ∨
      ∃ fds,
        (∃ fd, r.openTransport server = (.error (.protectFailed (.numbered fd)),
            r.afterCalls (.protect .transport true :: (Course.grants fds ++
              [.nextAuxiliary (some fd), .protect (.numbered fd) false])) host log) ∧
          fds ++ [fd] ++ host.sockets = r.host.sockets) ∨
        fds ++ host.sockets = r.host.sockets ∧
        ((∃ e, r.openTransport server =
            (.error (.io (.os e)), r.afterCalls (Course.allGranted fds) host log)) ∨
          ∃ own, r.openTransport server =
            (.ok (), r.afterCalls (Course.allGranted fds ++ [.localAddress own]) host log)) := by
  obtain ⟨granted, host, log, hp, hh⟩ := r.protect_eq .transport
  unfold openTransport
  rw [hp]
  cases granted with
  | false => exact ⟨host, log, .inl ⟨rfl, HostScript.sockets_eq hh⟩⟩
  | true =>
    dsimp only
    obtain ⟨fds, host', log', h⟩ := protectAuxiliary_cases (host.auxiliary.length + 1)
      (r.afterCalls [.protect .transport true] host log) (Nat.lt_succ_self _)
    simp only [afterCalls_afterCalls, afterCalls_host, HostScript.sockets_eq hh] at h
    refine ⟨host', log', .inr ⟨fds, ?_⟩⟩
    rcases h with ⟨e, hf⟩ | ⟨fd, e, hf⟩
    · rw [afterCalls_host, e]
      refine .inr ⟨hf, ?_⟩
      dsimp only
      split
      · rename_i e' _; exact .inl ⟨e', rfl⟩
      · exact .inr ⟨_, by simp [afterCalls, call, Course.allGranted, now]; rfl⟩
    · rw [afterCalls_host, e]
      exact .inl ⟨fd, rfl, hf⟩

theorem takeParams_auxiliary (h : HostScript) : h.takeParams.2.auxiliary = h.auxiliary := by
  unfold HostScript.takeParams; split <;> rfl

theorem querySettings_eq (r : Run) : ∃ settings host,
    r.querySettings = (settings, r.afterCalls [.params, .params, .params] host r.log) ∧
      host.auxiliary = r.host.auxiliary := by
  refine ⟨r.querySettings.1, r.querySettings.2.host, Prod.ext rfl ?_, ?_⟩
  · simp [querySettings, queryParams, afterCalls, call, now]
  · simp [querySettings, queryParams, call, takeParams_auxiliary]

/-- The calls for an interface, and the host's answer. -/
theorem establish_cases (r : Run) : ∃ settings host log, host.auxiliary = r.host.auxiliary ∧
    ((∃ e, r.establish = (.error (.notEstablished e),
        r.afterCalls [.params, .params, .params, .establish settings false] host log)) ∨
      r.establish = (.ok r.nextDevice,
        { r.afterCalls ([.params, .params, .params, .establish settings true] ++
            if r.hasListener then [.listener r.nextDevice r.hasDescriptor] else []) host log with
          established := r.established + 1 })) := by
  have answer (h : HostScript) : h.takeEstablish.2.auxiliary = h.auxiliary := by
    unfold HostScript.takeEstablish; split <;> rfl
  obtain ⟨settings, host, e, hh⟩ := r.querySettings_eq
  refine ⟨settings, host.takeEstablish.2, r.log, (answer host).trans hh, ?_⟩
  unfold establish
  rw [e]
  dsimp only
  rw [afterCalls_host]
  generalize host.takeEstablish = t
  obtain ⟨reply, host'⟩ := t
  cases reply with
  | error e => exact .inl ⟨e, by simp [afterCalls, call, now]⟩
  | ok _ =>
    right
    by_cases hl : r.hasListener = true
    · simp [afterCalls, call, now, hl, nextDevice, hasDescriptor]
    · simp [afterCalls, call, now, hl, nextDevice]

theorem attemptFailed_eq (r : Run) (cs : List HostCall) (host : HostScript) (log : List LogEvent)
    (server : Address) (f : Nat) {e : Error} (he : e.isRetriable = true) :
    ∃ log', (r.afterCalls cs host log).attemptFailed server f e =
      (r.afterCalls cs host log').afterAttempt server (f + 1) := by
  unfold attemptFailed
  rw [if_pos he]
  exact ⟨_, rfl⟩

/-- An attempt makes the calls of one course. Either it has no interface and has failed, or its
interface is open and its pumps run. -/
theorem openAttempt_cases (r : Run) (server : Address) (f : Nat) : ∃ (c : Course) (host : HostScript)
    (log : List LogEvent), c.popped ++ host.sockets = r.host.sockets ∧
    (c.device? = none ∧ r.openAttempt server f =
        (r.afterCalls (c.opening r.hasListener r.hasDescriptor) host log).afterAttempt server (f + 1) ∨
      c.device? = some r.nextDevice ∧ c.openDevice? = some r.nextDevice ∧ r.openAttempt server f =
        { r.afterCalls (c.opening r.hasListener r.hasDescriptor) host log with
          established := r.established + 1 }.startPumps server r.nextDevice) := by
  obtain ⟨host, log, h⟩ := r.openTransport_cases server
  unfold openAttempt
  rcases h with ⟨e, hf⟩ | ⟨fds, ⟨fd, e, hf⟩ | ⟨hf, ⟨e', e⟩ | ⟨own, e⟩⟩⟩ <;> rw [e] <;> dsimp only
  · obtain ⟨log', hl⟩ := r.attemptFailed_eq [.protect .transport false] host log server f
      (e := .protectFailed .transport) rfl
    exact ⟨.transportRefused, host, log', hf, .inl ⟨rfl, hl⟩⟩
  · obtain ⟨log', hl⟩ := r.attemptFailed_eq _ host log server f
      (e := .protectFailed (.numbered fd)) rfl
    exact ⟨.auxiliaryRefused fds fd, host, log', hf, .inl ⟨rfl, hl⟩⟩
  · obtain ⟨log', hl⟩ := r.attemptFailed_eq _ host log server f (e := .io (.os e')) rfl
    exact ⟨.unconnected fds, host, log', hf, .inl ⟨rfl, hl⟩⟩
  · -- the transport is connected; the host decides about the interface
    generalize hr₁ : r.afterCalls _ host log = r₁
    obtain ⟨settings, host', log', hh, h⟩ := r₁.establish_cases
    have hh₁ : r₁.host = host := by rw [← hr₁]; rfl
    have hd : r₁.nextDevice = r.nextDevice := by rw [← hr₁]; rfl
    have hs : fds ++ host'.sockets = r.host.sockets := by
      rw [HostScript.sockets_eq hh, hh₁]; exact hf
    rcases h with ⟨e', e⟩ | e <;> rw [e] <;> dsimp only
    · rw [← hr₁, afterCalls_afterCalls]
      obtain ⟨log'', hl⟩ := r.attemptFailed_eq _ host' log' server f
        (e := .notEstablished e') rfl
      refine ⟨.notEstablished fds own settings, host', log'', hs, .inl ⟨rfl, ?_⟩⟩
      rw [hl]
      simp [Course.opening, Course.asked]
    · refine ⟨.established fds own settings r.nextDevice none, host', log', hs,
        .inr ⟨rfl, rfl, ?_⟩⟩
      rw [hd, ← hr₁, afterCalls_afterCalls]
      simp [Course.opening, Course.asked, afterCalls, hasDescriptor]

end Run

end TunnelRelay.Relay
