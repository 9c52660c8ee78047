import TunnelRelay.Proofs.Forwarding
import TunnelRelay.Proofs.Silence
/-!
# What the log says of attempts

The end of an attempt is reported: by one warning if it got no interface, and by one line for each of
its pumps if it did. `Run.reports` are these lines. `Run.Adds` states of each function what it
reports, and `Run.Tells` lists what a step can report. `Run.Accounts` divides the reports of a run
among its blocks, and `Run.CountedSince` ties the counters of the pumps to what has gone through
since they started.
-/

namespace TunnelRelay

namespace Relay

/-- Whether an event reports the end of an attempt: of one of its pumps, or that it failed. -/
def isReport (e : LogEvent) : Bool :=
  e.target = Run.attemptTarget &&
      (e.message = "Pump finished" || e.message = "Connection lost, will retry") ||
    e.target = Run.supervisorTarget && e.message = "Attempt failed"

/-- The report of the end of a pump. -/
def pumpReport (time : Nat) (direction : String) : Except Error PumpStats → LogEvent
  | .ok s => ⟨time, .debug, Run.attemptTarget, true, "Pump finished",
      [("direction", .quoted direction), ("packets", .number s.packets), ("bytes", .number s.bytes)]⟩
  | .error e => ⟨time, .warn, Run.attemptTarget, true, "Connection lost, will retry",
      [("direction", .quoted direction), ("error", .failure e)]⟩

/-- The report that an attempt has failed. -/
def failureReport (time : Nat) (e : Error) : LogEvent :=
  ⟨time, .warn, Run.supervisorTarget, true, "Attempt failed", [("error", .failure e)]⟩

/-- What the host logs about its answers comes from the host. -/
def HostScript.IsForeign (h : HostScript) : Prop :=
  ∀ d granted, ∀ line ∈ h.protectLog d granted,
    line.2.1 ≠ Run.attemptTarget ∧ line.2.1 ≠ Run.supervisorTarget

theorem isReport_pumpReport (time : Nat) (direction : String) (result : Except Error PumpStats) :
    isReport (pumpReport time direction result) = true := by
  cases result <;> simp [pumpReport, isReport]

/-- The report of a pump tells its result. -/
theorem pumpReport_injective {time : Nat} {direction : String}
    {result result' : Except Error PumpStats}
    (h : pumpReport time direction result = pumpReport time direction result') :
    result = result' := by
  rcases result with e | ⟨packets, bytes⟩ <;> rcases result' with e' | ⟨packets', bytes'⟩ <;>
    simp [pumpReport] at h
  · rw [h]
  · rw [h.1, h.2]

theorem isReport_failureReport (time : Nat) (e : Error) :
    isReport (failureReport time e) = true := by
  simp [failureReport, isReport]

section
variable {time : Nat} {level : Level} {inConnection : Bool} {message : String}
  {fields : List (String × LogValue)}

/-- Of the supervisor's lines only one is a report. -/
theorem isReport_of_supervisor (h : message ≠ "Attempt failed") :
    isReport ⟨time, level, Run.supervisorTarget, inConnection, message, fields⟩ = false := by
  simp [isReport, Run.attemptTarget, Run.supervisorTarget, h]

/-- Of the lines of an attempt two are reports. -/
theorem isReport_of_attempt (h : message ≠ "Pump finished")
    (h' : message ≠ "Connection lost, will retry") :
    isReport ⟨time, level, Run.attemptTarget, inConnection, message, fields⟩ = false := by
  simp [isReport, Run.attemptTarget, Run.supervisorTarget, h, h']

end

namespace Run

/-- What has been reported. -/
def reports (r : Run) : List LogEvent := r.log.filter isReport

section
variable {r r' r'' : Run}

/-! ## What functions report -/

/-- From `r` to `r'` the lines are reported, and nothing else unless the host imitates a report. -/
structure Adds (r : Run) (lines : List LogEvent) (r' : Run) : Prop where
  protectLog : r'.host.protectLog = r.host.protectLog
  reports : r.host.IsForeign → r'.reports = r.reports ++ lines

theorem Adds.foreign {lines : List LogEvent} (h : r.Adds lines r') (hq : r.host.IsForeign) :
    r'.host.IsForeign := by
  unfold HostScript.IsForeign
  rw [h.protectLog]
  exact hq

theorem Adds.trans {lines lines' : List LogEvent} (h : r.Adds lines r') (h' : r'.Adds lines' r'') :
    r.Adds (lines ++ lines') r'' where
  protectLog := h'.protectLog.trans h.protectLog
  reports hq := by rw [h'.reports (h.foreign hq), h.reports hq, List.append_assoc]

/-- What leaves the log alone reports nothing. -/
theorem adds_nil (hh : r'.host.protectLog = r.host.protectLog) (hl : r'.log = r.log) :
    r.Adds [] r' where
  protectLog := hh
  reports _ := by rw [reports, hl, reports, List.append_nil]

theorem adds_nil_of_concat {e : LogEvent} (hh : r'.host.protectLog = r.host.protectLog)
    (hl : r'.log = r.log ++ [e]) (he : isReport e = false) : r.Adds [] r' where
  protectLog := hh
  reports _ := by
    rw [reports, hl, List.filter_append, List.filter_singleton, he, reports]
    rfl

theorem adds_singleton {e : LogEvent} (hh : r'.host.protectLog = r.host.protectLog)
    (hl : r'.log = r.log ++ [e]) (he : isReport e = true) : r.Adds [e] r' where
  protectLog := hh
  reports _ := by
    rw [reports, hl, List.filter_append, List.filter_singleton, he, reports]
    rfl

theorem noteWith_adds (r : Run) (level : Level) {target message : String}
    (fields : List (String × LogValue))
    (h : isReport ⟨r.now, level, target, true, message, fields⟩ = false) :
    r.Adds [] (r.noteWith level target message fields) :=
  adds_nil_of_concat rfl rfl h

/-- What the host logs is no report. -/
theorem protect_adds (r : Run) (d : Descriptor) : r.Adds [] (r.protect d).2 := by
  have hscript : (r.host.takeProtect d).2.protectLog = r.host.protectLog := by
    unfold HostScript.takeProtect; dsimp only; split <;> rfl
  unfold protect
  dsimp only
  rw [foldl_noteWith]
  refine ⟨hscript, ?_⟩
  intro hq
  have happend {lines : List LogEvent} (hl : ∀ e ∈ lines, ¬ isReport e = true) :
      (r.log ++ lines).filter isReport = r.log.filter isReport ++ [] := by
    rw [List.filter_append, List.filter_eq_nil_iff.2 hl]
  refine happend ?_
  intro e he
  obtain ⟨line, hline, rfl⟩ := List.mem_map.1 he
  rw [hscript] at hline
  obtain ⟨ha, hs⟩ := hq d _ line hline
  simp [isReport, ha, hs]

theorem protectAuxiliary_adds : ∀ (fuel : Nat) (r : Run), r.Adds [] (r.protectAuxiliary fuel).2
  | 0, r => adds_nil rfl rfl
  | fuel + 1, r => by
    unfold protectAuxiliary
    dsimp only
    have htake : r.Adds [] ({ r with host := r.host.takeAuxiliary.2 }.call
        (.nextAuxiliary r.host.takeAuxiliary.1)) := by
      refine adds_nil ?_ rfl
      show r.host.takeAuxiliary.2.protectLog = _
      unfold HostScript.takeAuxiliary
      split <;> rfl
    split
    · exact htake
    · rename_i fd _
      have hreport {time : Nat} {fields : List (String × LogValue)} : isReport ⟨time, .debug,
          attemptTarget, true, "Protecting auxiliary socket", fields⟩ = false :=
        isReport_of_attempt (by decide) (by decide)
      have hnote := htake.trans (noteWith_adds _ .debug [("fd", .socket (.numbered fd))] hreport)
      have hask := hnote.trans (protect_adds _ (.numbered fd))
      split
      · rename_i r₂ e
        rw [e] at hask
        exact hask.trans (protectAuxiliary_adds fuel r₂)
      · rename_i r₂ e
        rw [e] at hask
        exact hask

theorem openTransport_adds (r : Run) (server : Net.Address) :
    r.Adds [] (r.openTransport server).2 := by
  unfold openTransport
  have hask := r.protect_adds .transport
  split
  · rename_i r₁ e; rw [e] at hask; exact hask
  · rename_i r₁ e
    rw [e] at hask
    have hall := hask.trans (r₁.protectAuxiliary_adds (r₁.host.auxiliary.length + 1))
    split
    · rename_i d r₂ e'; rw [e'] at hall; exact hall
    · rename_i r₂ e'
      rw [e'] at hall
      split
      · exact hall
      · exact hall.trans (adds_nil rfl rfl)

theorem establish_adds (r : Run) : r.Adds [] r.establish.2 := by
  have hparams (h : HostScript) : h.takeParams.2.protectLog = h.protectLog := by
    unfold HostScript.takeParams; split <;> rfl
  have hanswer (h : HostScript) : h.takeEstablish.2.protectLog = h.protectLog := by
    unfold HostScript.takeEstablish; split <;> rfl
  have hquery : r.querySettings.2.host.protectLog = r.host.protectLog ∧
      r.querySettings.2.log = r.log := by
    refine ⟨?_, rfl⟩
    simp [querySettings, queryParams, call, hparams]
  unfold establish
  generalize r.querySettings = q at hquery
  obtain ⟨settings, r₁⟩ := q
  have hhost : r₁.host.takeEstablish.2.protectLog = r.host.protectLog :=
    (hanswer r₁.host).trans hquery.1
  dsimp only at hquery ⊢
  generalize r₁.host.takeEstablish = t at hhost
  obtain ⟨answer, host⟩ := t
  cases answer with
  | error e => exact adds_nil hhost hquery.2
  | ok _ =>
    dsimp only
    split <;> exact adds_nil hhost hquery.2

theorem finishStopped_adds (r : Run) : r.Adds [] r.finishStopped :=
  adds_nil_of_concat rfl rfl (isReport_of_supervisor (by decide))

theorem afterAttempt_adds (r : Run) (server : Net.Address) (f : Nat) :
    r.Adds [] (r.afterAttempt server f) := by
  unfold afterAttempt
  split
  · exact r.finishStopped_adds
  · split
    · exact adds_nil_of_concat rfl rfl (isReport_of_supervisor (by decide))
    · exact adds_nil rfl rfl

theorem startPumps_adds (r : Run) (server : Net.Address) (device : String) :
    r.Adds [] (r.startPumps server device) :=
  adds_nil_of_concat (e := ⟨r.now, .info, attemptTarget, true, "Connected",
    [("device", .text device)]⟩) rfl rfl (isReport_of_attempt (by decide) (by decide))

theorem closeInterface_adds (r : Run) (device : String) : r.Adds [] (r.closeInterface device) := by
  have hscript : r.host.takeClose.2.protectLog = r.host.protectLog := by
    unfold HostScript.takeClose; split <;> rfl
  rw [closeInterface_eq]
  split
  · exact adds_nil hscript rfl
  · exact adds_nil_of_concat (e := closeWarning r.now device) hscript rfl
      (isReport_of_attempt (by decide) (by decide))

theorem lookUp_adds (r : Run) : r.Adds [] r.lookUp := by
  have hstart : r.Adds [] (r.note .info supervisorTarget "Starting") :=
    r.noteWith_adds .info [] (isReport_of_supervisor (by decide))
  unfold lookUp
  dsimp only
  generalize r.note .info supervisorTarget "Starting" = r₁ at hstart ⊢
  split
  · exact (hstart.trans (r₁.noteWith_adds .info [] (isReport_of_supervisor (by decide)))).trans
      (adds_nil rfl rfl)
  · split
    · exact hstart.trans (adds_nil rfl rfl)
    · exact (hstart.trans (r₁.noteWith_adds .info _ (isReport_of_supervisor (by decide)))).trans
        (adds_nil rfl rfl)

theorem reportPump_adds (r : Run) (direction : String) (result : Except Error PumpStats) :
    r.Adds [pumpReport r.now direction result] (r.reportPump direction result) := by
  refine adds_singleton ?_ ?_ (isReport_pumpReport r.now direction result) <;> cases result <;> rfl

/-- The end of an attempt that has its interface is reported once for each pump, after the close. -/
theorem tearDown_adds (r : Run) (a : Attempt) (o i : Except Error PumpStats) :
    r.Adds [pumpReport r.now "outbound" o, pumpReport r.now "inbound" i] (r.tearDown a o i) := by
  have hclose := r.closeInterface_adds a.device
  have hnow : (r.closeInterface a.device).now = r.now := by rw [closeInterface_eq, afterClose_now]
  unfold tearDown
  generalize r.closeInterface a.device = r₁ at hclose hnow ⊢
  have hout := r₁.reportPump_adds "outbound" o
  have hnow' : (r₁.reportPump "outbound" o).now = r₁.now := by
    obtain ⟨log, h⟩ := r₁.reportPump_eq "outbound" o
    rw [h]
    rfl
  have hin := (r₁.reportPump "outbound" o).reportPump_adds "inbound" i
  rw [hnow', hnow] at hin
  rw [hnow] at hout
  exact ((hclose.trans hout).trans hin).trans (afterAttempt_adds _ a.server 0)

/-- An attempt that gets no interface is reported once. -/
theorem attemptFailed_adds (r : Run) (server : Net.Address) (f : Nat) {e : Error}
    (he : e.isRetriable = true) : (∀ a, (r.attemptFailed server f e).phase ≠ .pumping a) ∧
      r.Adds [failureReport r.now e] (r.attemptFailed server f e) := by
  unfold attemptFailed
  rw [if_pos he]
  refine ⟨afterAttempt_ne_pumping _ _ _, ?_⟩
  have hnote : r.Adds [failureReport r.now e]
      (r.noteWith .warn supervisorTarget "Attempt failed" [("error", .failure e)]) :=
    adds_singleton rfl rfl (isReport_failureReport r.now e)
  exact hnote.trans (afterAttempt_adds _ server (f + 1))

/-- An attempt is reported once if it gets no interface, and not yet if it gets one. -/
theorem openAttempt_adds (r : Run) (server : Net.Address) (f : Nat) :
    (∀ a, (r.openAttempt server f).phase ≠ .pumping a) ∧
        (∃ e, r.Adds [failureReport r.now e] (r.openAttempt server f)) ∨
      (∃ a, (r.openAttempt server f).phase = .pumping a) ∧ r.Adds [] (r.openAttempt server f) := by
  have failed {r₁ : Run} (h : r.Adds [] r₁) (hnow : r₁.now = r.now) {e : Error}
      (he : e.isRetriable = true) : (∀ a, (r₁.attemptFailed server f e).phase ≠ .pumping a) ∧
        ∃ e', r.Adds [failureReport r.now e'] (r₁.attemptFailed server f e) := by
    obtain ⟨hp, hs⟩ := r₁.attemptFailed_adds server f he
    rw [hnow] at hs
    exact ⟨hp, e, h.trans hs⟩
  have hopen := r.openTransport_adds server
  obtain ⟨host, log, h⟩ := r.openTransport_cases server
  unfold openAttempt
  rcases h with ⟨e, -⟩ | ⟨fds, ⟨fd, e, -⟩ | ⟨-, ⟨e', e⟩ | ⟨own, e⟩⟩⟩ <;> rw [e] at hopen ⊢ <;>
    dsimp only at hopen ⊢
  · exact .inl (failed hopen rfl rfl)
  · exact .inl (failed hopen rfl rfl)
  · exact .inl (failed hopen rfl rfl)
  · -- the transport is connected; the host decides about the interface
    generalize hr₁ : r.afterCalls (Course.allGranted fds ++ [.localAddress own]) host log = r₁ at hopen
    have hnow : r₁.now = r.now := by rw [← hr₁]; rfl
    have hestablish := hopen.trans r₁.establish_adds
    obtain ⟨settings, host', log', -, ⟨e', e⟩ | e⟩ := r₁.establish_cases <;>
      rw [e] at hestablish ⊢ <;> dsimp only at hestablish ⊢
    · exact .inl (failed hestablish hnow rfl)
    · exact .inr ⟨⟨_, rfl⟩, hestablish.trans (startPumps_adds _ server r₁.nextDevice)⟩

theorem happen_adds (r : Run) (e : Event) : r.Adds [] (r.happen e) := by
  have hhost : (r.happen e).host.protectLog = r.host.protectLog := by rw [happen_host]
  cases e with
  | stop =>
    simp only [happen, requestStop]
    split
    · exact adds_nil rfl rfl
    · exact adds_nil_of_concat rfl rfl (isReport_of_supervisor (by decide))
  | serverSend d =>
    refine adds_nil hhost ?_
    simp only [happen]
    split <;> rfl
  | run =>
    refine adds_nil hhost ?_
    simp only [happen]
    rcases r.start_snd with h | ⟨-, h⟩ <;> rw [h]
  | _ => exact adds_nil rfl rfl

/-! ## What a step reports -/

/-- What one step reports: nothing where no attempt ends, one line for an attempt that gets no
interface, and two for one that had it. -/
inductive Tells (r r' : Run) : Prop
  | nothing (hs : r.Adds [] r')
    (hp : ∀ server f, r.phase = .attempting server f → ∃ a, r'.phase = .pumping a)
    (hp' : ∀ a, r.phase = .pumping a → ∃ a', r'.phase = .pumping a')
  | failure {server : Net.Address} {f : Nat} {e : Error} (hp : r.phase = .attempting server f)
    (hp' : ∀ a, r'.phase ≠ .pumping a) (hs : r.Adds [failureReport r.now e] r')
  | pumps {a : Attempt} {o i : Except Error PumpStats} (hp : r.phase = .pumping a)
    (hp' : ∀ a, r'.phase ≠ .pumping a) (ho : a.outbound.result? = some o)
    (hi : a.inbound.result? = some i) (hr : r' = r.tearDown a o i)
    (hs : r.Adds [pumpReport r.now "outbound" o, pumpReport r.now "inbound" i] r')

theorem Does.tells (h : r.Does r') : r.Tells r' := by
  -- a step that ends no attempt only has to leave the log without a report
  have outside (hs : r.Adds [] r') {p : Phase} (hp : r.phase = p)
      (hne : ∀ server f, p ≠ .attempting server f) (hne' : ∀ a, p ≠ .pumping a) : r.Tells r' :=
    .nothing hs (fun server f h => absurd (hp.symm.trans h) (hne server f))
      fun a h => absurd (hp.symm.trans h) (hne' a)
  have inside {a a' : Attempt} (hs : r.Adds [] r') (hp : r.phase = .pumping a)
      (hp' : r'.phase = .pumping a') : r.Tells r' :=
    .nothing hs (fun server f h => Phase.noConfusion (hp.symm.trans h)) fun _ _ => ⟨a', hp'⟩
  cases h with
  | lookUp hp =>
    exact outside r.lookUp_adds hp (fun _ _ => Phase.noConfusion) fun _ => Phase.noConfusion
  | @beginAttempt server f hp =>
    refine outside ?_ hp (fun _ _ => Phase.noConfusion) fun _ => Phase.noConfusion
    unfold Run.beginAttempt
    split
    · exact r.finishStopped_adds
    · exact adds_nil rfl rfl
  | @openAttempt server f hp =>
    rcases r.openAttempt_adds server f with ⟨hp', e, hs⟩ | ⟨hp', hs⟩
    · exact .failure hp hp' hs
    · refine .nothing hs (fun _ _ _ => hp') ?_
      intro a ha
      rw [hp] at ha
      cases ha
  | @outbound a r' hp h =>
    unfold outboundStep at h
    split at h <;> cases h
    exact inside (adds_nil rfl rfl) hp rfl
  | @inbound a r' hp h =>
    unfold inboundStep at h
    split at h <;> cases h
    exact inside (adds_nil rfl rfl) hp rfl
  | @tearDown a o i hp ho hi =>
    exact .pumps hp (afterAttempt_ne_pumping _ _ _) ho hi rfl (r.tearDown_adds a o i)
  | stopPause hp =>
    exact outside r.finishStopped_adds hp (fun _ _ => Phase.noConfusion) fun _ => Phase.noConfusion
  | wake hp =>
    exact outside (adds_nil rfl rfl) hp (fun _ _ => Phase.noConfusion) fun _ => Phase.noConfusion

theorem Tells.foreign (h : r.Tells r') (hq : r.host.IsForeign) : r'.host.IsForeign := by
  cases h with
  | nothing hs | failure _ _ hs | pumps _ _ _ _ _ hs => exact hs.foreign hq

/-- A run leaves the host what it is. -/
theorem Leads.foreign {es : List Event} (h : r.Leads es r') (hq : r.host.IsForeign) :
    r'.host.IsForeign := by
  induction h with
  | start => exact hq
  | event _ e ih => exact (happen_adds _ e).foreign ih
  | does _ hd ih => exact hd.tells.foreign ih
  | clock _ _ _ _ ih => exact ih

end

end Run

/-! ## Attempt by attempt -/

/-- The lines that report an attempt: one if it got no interface, and otherwise two from the time of
its close on. -/
def Block.Reported (b : Block) (lines : List LogEvent) : Prop :=
  match b.course with
  | .established _ _ _ _ none => lines = []
  | .established _ _ _ _ (some (time, _)) =>
    ∃ o i, lines = [pumpReport time "outbound" o, pumpReport time "inbound" i]
  | _ => ∃ e, lines = [failureReport b.time e]

theorem Block.reported_of_not_connected {b : Block} (h : b.course.device? = none) (e : Error) :
    b.Reported [failureReport b.time e] := by
  obtain ⟨n, time, c⟩ := b
  cases c with
  | established => cases h
  | _ => exact ⟨e, rfl⟩

theorem Block.reported_of_open {b : Block} {device : String}
    (h : b.course.openDevice? = some device) {lines : List LogEvent} :
    b.Reported lines ↔ lines = [] := by
  obtain ⟨n, time, c⟩ := b
  obtain ⟨fds, own, settings, rfl⟩ := Course.eq_of_openDevice? h
  rfl

theorem Block.reported_of_close {b : Block} {device : String}
    (h : b.course.openDevice? = some device) (time : Nat) (ok : Bool) (o i : Except Error PumpStats) :
    Block.Reported { b with course := b.course.close time ok }
      [pumpReport time "outbound" o, pumpReport time "inbound" i] := by
  obtain ⟨n, time, c⟩ := b
  obtain ⟨fds, own, settings, rfl⟩ := Course.eq_of_openDevice? h
  exact ⟨o, i, rfl⟩

namespace Run

/-- Since `prior` the lines of the attempts `bs` have been reported, one attempt after another. -/
def Accounts (prior : List LogEvent) (r : Run) (bs : List Block) : Prop :=
  ∃ entries : List (Block × List LogEvent), entries.map Prod.fst = bs ∧
    (∀ e ∈ entries, e.1.Reported e.2) ∧ r.reports = prior ++ entries.flatMap Prod.snd

section
variable {prior : List LogEvent} {r r' : Run} {bs : List Block}

theorem Accounts.concat (h : Accounts prior r bs) {b : Block} {lines : List LogEvent}
    (hr : r'.reports = r.reports ++ lines) (hb : b.Reported lines) :
    Accounts prior r' (bs ++ [b]) := by
  obtain ⟨entries, hfst, hall, hrep⟩ := h
  refine ⟨entries ++ [(b, lines)], ?_, ?_, ?_⟩
  · rw [List.map_append, hfst]
    rfl
  · exact List.forall_mem_append.2 ⟨hall, List.forall_mem_singleton.2 hb⟩
  · rw [hr, hrep, List.flatMap_append, List.flatMap_singleton, List.append_assoc]

/-- An attempt that has not ended yet has reported nothing. -/
theorem Accounts.of_open {b : Block} (h : Accounts prior r (bs ++ [b])) {device : String}
    (ho : b.course.openDevice? = some device) : Accounts prior r bs := by
  obtain ⟨entries, hfst, hall, hrep⟩ := h
  obtain ⟨entries', last, rfl, hfst', hlast⟩ := List.map_eq_append_iff.1 hfst
  obtain ⟨⟨b', lines⟩, rfl, rfl⟩ := List.map_eq_singleton_iff.1 hlast
  rw [List.forall_mem_append, List.forall_mem_singleton] at hall
  obtain ⟨hall, hb⟩ := hall
  rw [Block.reported_of_open ho] at hb
  refine ⟨entries', hfst', hall, ?_⟩
  rw [hrep, List.flatMap_append, List.flatMap_singleton, show lines = [] from hb, List.append_nil]

/-- As the blocks grow, so do the reports. -/
theorem Accounts.does (h : Accounts prior r bs) (hq : r.host.IsForeign) (ht : r.Tells r')
    {bs' : List Block} (hg : r.Grows r' bs bs') : Accounts prior r' bs' := by
  cases ht with
  | nothing hs hp hp' =>
    have hsame : r'.reports = r.reports ++ [] := hs.reports hq
    cases hg with
    | keeps =>
      obtain ⟨entries, hfst, hall, hrep⟩ := h
      exact ⟨entries, hfst, hall, by rw [hsame, List.append_nil, hrep]⟩
    | fails hph _ hne =>
      obtain ⟨a, ha⟩ := hp _ _ hph
      exact absurd ha (hne a)
    | connects _ ho _ => exact h.concat hsame ((Block.reported_of_open ho).2 rfl)
    | closes hph _ _ hne =>
      obtain ⟨a, ha⟩ := hp' _ hph
      exact absurd ha (hne a)
  | @failure server f e hph hne hs =>
    cases hg with
    | keeps hp => exact absurd hph (hp _ _)
    | @fails server' f' c hph' hd _ =>
      refine h.concat (hs.reports hq) ?_
      exact Block.reported_of_not_connected (b := ⟨f' + 1, r.now, c⟩) hd e
    | connects _ _ ha => exact absurd ha (hne _)
    | closes hph' => exact Phase.noConfusion (hph.symm.trans hph')
  | @pumps a o i hph hne _ _ _ hs =>
    cases hg with
    | keeps _ hp' =>
      obtain ⟨a', ha'⟩ := hp' _ hph
      exact absurd ha' (hne a')
    | fails hph' | connects hph' => exact Phase.noConfusion (hph.symm.trans hph')
    | closes _ hb ho =>
      -- the open block had no lines; closed it gets both
      subst hb
      exact (h.of_open ho).concat (hs.reports hq) (Block.reported_of_close ho r.now _ o i)

/-- In every run the lines that report attempts are those of its blocks. -/
theorem Leads.accounts {r₀ : Run} {es : List Event} (h₀ : r₀.IsFresh) (hq : r₀.host.IsForeign)
    (h : r₀.Leads es r) : ∃ bs, Ledger r₀.host.sockets r bs ∧ Accounts r₀.reports r bs := by
  induction h with
  | start => exact ⟨[], h₀.ledger, [], rfl, nofun, (List.append_nil _).symm⟩
  | @event es r hl e ih =>
    obtain ⟨bs, hb, entries, hfst, hall, hrep⟩ := ih
    have hsame := (happen_adds r e).reports (hl.foreign hq)
    rw [List.append_nil] at hsame
    exact ⟨bs, hb.happen e, entries, hfst, hall, hsame.trans hrep⟩
  | does hl hd ih =>
    obtain ⟨bs, hb, ha⟩ := ih
    obtain ⟨bs', hb', hg⟩ := hb.change (hl.shows h₀) (hl.within h₀) hd.change
    exact ⟨bs', hb', ha.does (hl.foreign hq) hd.tells hg⟩
  | clock _ hn _ ht ih =>
    obtain ⟨bs, hb, ha⟩ := ih
    exact ⟨bs, hb.moveClock hn ht, ha⟩

end

end Run

/-! ## The counters -/

/-- The count of these packets: their number and their total length. -/
def PumpStats.of (ps : List Packet) : PumpStats := ⟨ps.length, ps.flatten.length⟩

theorem PumpStats.of_concat (ps : List Packet) (p : Packet) :
    PumpStats.of (ps ++ [p]) = (PumpStats.of ps).record p := by
  simp [of, record]

/-- The pump has counted these packets, and a count that it ends with is theirs. -/
structure Outbound.Counts (o : Outbound) (ds : List Packet) : Prop where
  stats : o.stats = .of ds
  result : ∀ s, o.phase = .ended (.ok s) → s = .of ds

structure Inbound.Counts (i : Inbound) (ps : List Packet) : Prop where
  stats : i.stats = .of ps
  result : ∀ s, i.phase = .ended (.ok s) → s = .of ps

section
variable {stop : Bool} {c c' : Channel}

/-- The outbound pump counts what it sends. -/
theorem Outbound.Moves.counts {idle : Nat} {o o' : Outbound} (h : o.Moves stop idle c o' c')
    {qs ds : List Packet} (hs : c.outboundSent = qs ++ ds) (hc : o.Counts ds) :
    ∃ ds', c'.outboundSent = qs ++ ds' ∧ o'.Counts ds' := by
  have hstats := hc.stats
  cases h with
  | stopped =>
    refine ⟨ds, hs, hstats, ?_⟩
    intro s he
    cases he
    exact hstats
  | readFailed | foundEmpty | woke | refused => exact ⟨ds, hs, hstats, nofun⟩
  | tookEmpty | took => exact ⟨ds, (c.outboundSent_take _ _).trans hs, hstats, nofun⟩
  | @sent p =>
    refine ⟨ds ++ [p], ?_, ?_, nofun⟩
    · rw [← List.append_assoc, ← hs]
      exact c.outboundSent_push_outbound p
    · rw [PumpStats.of_concat, ← hstats]

/-- The inbound pump counts what it writes. -/
theorem Inbound.Moves.counts {config : InboundConfig} {i i' : Inbound}
    (h : i.Moves stop config c i' c') {qs ps : List Packet} (hw : c.packetsWritten = qs ++ ps)
    (hc : i.Counts ps) : ∃ ps', c'.packetsWritten = qs ++ ps' ∧ i'.Counts ps' := by
  have hstats := hc.stats
  cases h with
  | stopped =>
    refine ⟨ps, hw, hstats, ?_⟩
    intro s he
    cases he
    exact hstats
  | silent | refused | due | panicked | writeFailed | pingRefused | pinged =>
    exact ⟨ps, hw, hstats, nofun⟩
  | received =>
    refine ⟨ps, hw, hstats, ?_⟩
    intro s he
    unfold Inbound.accept at he
    dsimp only at he
    split at he <;> cases he
  | @written p =>
    refine ⟨ps ++ [p], ?_, ?_, nofun⟩
    · rw [← List.append_assoc, ← hw]
      simp [Channel.packetsWritten]
    · rw [PumpStats.of_concat, ← hstats]

end

theorem Outbound.result?_eq_some_iff {o : Outbound} {result : Except Error PumpStats} :
    o.result? = some result ↔ o.phase = .ended result := by
  unfold result?
  cases o.phase <;> simp

/-- A panic is no success. -/
theorem Inbound.result?_eq_ok_iff {i : Inbound} {s : PumpStats} :
    i.result? = some (.ok s) ↔ i.phase = .ended (.ok s) := by
  unfold result?
  cases i.phase <;> simp

namespace Run

section
variable {r r' : Run}

/-- What the pumps of the attempt that runs in `r₁` have counted since then, as long as that attempt
runs. -/
def CountedSince (r₁ : Run) : Run → Prop :=
  Within r₁.established fun o i c => ∃ ds ps,
    c.outboundSent = r₁.channel.outboundSent ++ ds ∧ o.Counts ds ∧
    c.packetsWritten = r₁.channel.packetsWritten ++ ps ∧ i.Counts ps

theorem CountedSince.change {r₁ : Run} (h : CountedSince r₁ r) (hc : r.Change r') :
    CountedSince r₁ r' := by
  refine Within.change h hc ?_ ?_
  · rintro a o c hm ⟨ds, ps, hs, ho, hw, hi⟩
    obtain ⟨ds', hs', ho'⟩ := hm.counts hs ho
    exact ⟨ds', ps, hs', ho', hm.inbound_eq.2.trans hw, hi⟩
  · rintro a i c hm ⟨ds, ps, hs, ho, hw, hi⟩
    obtain ⟨ps', hw', hi'⟩ := hm.counts hw hi
    exact ⟨ds, ps', hm.outbound_eq.2.trans hs, ho, hw', hi'⟩

theorem CountedSince.happen {r₁ : Run} (h : CountedSince r₁ r) (e : Event) :
    CountedSince r₁ (r.happen e) := by
  refine Within.happen h e ?_
  intro a _ hcount
  obtain ⟨hsent, -⟩ := happen_sent_taken r e
  unfold Channel.outboundSent Channel.packetsWritten at hcount ⊢
  rw [hsent, happen_delivered]
  exact hcount

/-- In each attempt the pumps count what they forward. -/
theorem Leads.counted {es : List Event} (h : r.Leads es r') {a : Attempt}
    (hp : r.phase = .pumping a) (ho : a.outbound = {}) (hi : a.inbound = { lastReceived := r.now }) :
    CountedSince r r' := by
  induction h with
  | start =>
    refine ⟨Nat.le_refl _, ?_⟩
    intro a' hp' _
    rw [hp] at hp'
    cases hp'
    rw [ho, hi]
    exact ⟨[], [], (List.append_nil _).symm, ⟨rfl, nofun⟩, (List.append_nil _).symm, ⟨rfl, nofun⟩⟩
  | event _ e ih => exact ih.happen e
  | does _ hd ih => exact ih.change hd.change
  | clock _ _ _ _ ih => exact ih

/-! ## One attempt -/

/-- As long as the attempt runs that runs in `r₁`, nothing is reported. -/
def UnreportedSince (r₁ r : Run) : Prop :=
  r₁.established ≤ r.established ∧
    ∀ a, r.phase = .pumping a → r.established = r₁.established → r.reports = r₁.reports

theorem Tells.adds_nil {a a' : Attempt} (h : r.Tells r') (hp : r.phase = .pumping a)
    (hp' : r'.phase = .pumping a') : r.Adds [] r' := by
  cases h with
  | nothing hs => exact hs
  | failure hph => exact Phase.noConfusion (hp.symm.trans hph)
  | pumps _ hne => exact absurd hp' (hne a')

theorem UnreportedSince.does {r₁ : Run} (h : UnreportedSince r₁ r) (hq : r.host.IsForeign)
    (hd : r.Does r') : UnreportedSince r₁ r' := by
  obtain ⟨hle, h⟩ := h
  have keep {a a' : Attempt} (hp : r.phase = .pumping a) (hp' : r'.phase = .pumping a')
      (he : r.established = r₁.established) : r'.reports = r₁.reports := by
    rw [(hd.tells.adds_nil hp hp').reports hq, List.append_nil, h a hp he]
  cases hd.change with
  | resolved | unresolved | stopped | begins | wakes => exact ⟨hle, fun a hp => nomatch hp⟩
  | fails | loses =>
    refine ⟨by rw [afterAttempt_established]; exact hle, ?_⟩
    intro a hp
    exact absurd hp (afterAttempt_ne_pumping _ _ _ _)
  | connects =>
    refine ⟨Nat.le_succ_of_le hle, ?_⟩
    intro a _ he
    have he' : r.established + 1 = r₁.established := he
    omega
  | outbound hp | inbound hp => exact ⟨hle, fun _ hp' he => keep hp hp' he⟩

theorem UnreportedSince.happen {r₁ : Run} (h : UnreportedSince r₁ r) (hq : r.host.IsForeign)
    (e : Event) : UnreportedSince r₁ (r.happen e) := by
  obtain ⟨hle, h⟩ := h
  unfold UnreportedSince
  rw [happen_established, (happen_adds r e).reports hq, List.append_nil]
  exact ⟨hle, fun a hp he => h a (phase_of_happen hp) he⟩

theorem Leads.unreported {es : List Event} (h : r.Leads es r') (hq : r.host.IsForeign) :
    UnreportedSince r r' := by
  induction h with
  | start => exact ⟨Nat.le_refl _, fun _ _ _ => rfl⟩
  | event hl e ih => exact ih.happen (hl.foreign hq) e
  | does hl hd ih => exact ih.does (hl.foreign hq) hd
  | clock _ _ _ _ ih => exact ih

/-- The results of an attempt whose pumps start in `r₁` and have ended in `r₂` are exact: a count is
that of the packets forwarded since then, and not both pumps have ended without a failure unless the
connection was asked to stop. -/
structure IsExact (r₁ r₂ : Run) (outbound inbound : Except Error PumpStats) : Prop where
  sent : ∃ ds, r₂.channel.outboundSent = r₁.channel.outboundSent ++ ds ∧
    ∀ s, outbound = .ok s → s = .of ds
  written : ∃ ps, r₂.channel.packetsWritten = r₁.channel.packetsWritten ++ ps ∧
    ∀ s, inbound = .ok s → s = .of ps
  lost : r₂.stop = false → ∃ e, outbound = .error e ∨ inbound = .error e

/-- Where the signals go with the pumps, an attempt that ends without a failure was stopped. -/
theorem lost_of_linked {a : Attempt} {o i : Except Error PumpStats} (hl : a.Linked false)
    (ho : a.outbound.result? = some o) (hi : a.inbound.result? = some i) :
    ∃ e, o = .error e ∨ i = .error e := by
  cases o with
  | error e => exact ⟨e, .inl rfl⟩
  | ok s =>
    have hstop : a.stop = true := by
      rcases hl.outbound_ok s (Outbound.result?_eq_some_iff.1 ho) with h | h
      · cases h
      · exact h
    rw [hl.stop_eq, Inbound.hasFailed_iff] at hstop
    obtain ⟨e, he⟩ := hstop
    rw [Inbound.result?, he] at hi
    cases hi
    exact ⟨e, .inr rfl⟩

theorem CountedSince.isExact {r₁ : Run} (h : CountedSince r₁ r) {a : Attempt} (hl : a.Linked r.stop)
    (hp : r.phase = .pumping a) (he : r.established = r₁.established)
    {o i : Except Error PumpStats} (ho : a.outbound.result? = some o)
    (hi : a.inbound.result? = some i) : r₁.IsExact r o i := by
  obtain ⟨ds, ps, hs, hout, hw, hin⟩ := h.2 a hp he
  refine ⟨⟨ds, hs, ?_⟩, ⟨ps, hw, ?_⟩, ?_⟩
  · rintro s rfl
    exact hout.result s (Outbound.result?_eq_some_iff.1 ho)
  · rintro s rfl
    exact hin.result s (Inbound.result?_eq_ok_iff.1 hi)
  · intro hstop
    rw [hstop] at hl
    exact lost_of_linked hl ho hi

end

/-! ## The law of reports -/

/-- However a run goes, the lines that report attempts are those of its blocks, one attempt after
another. An attempt that gets no interface is reported by one warning. One that gets its interface
reports nothing until it ends; then it closes the interface and reports the outbound pump and the
inbound pump, in this order and with exact counts, and one of them as failed unless the connection
was asked to stop. -/
theorem Leads.reports_lawful {r₀ r : Run} {es : List Event} (h₀ : r₀.IsFresh)
    (hq : r₀.host.IsForeign) (h : r₀.Leads es r) :
    (∃ bs, Ledger r₀.host.sockets r bs ∧ Accounts r₀.reports r bs) ∧
    ∀ server f, r.phase = .attempting server f → ∀ r₁, r.Does r₁ →
      (∀ a, r₁.phase ≠ .pumping a) ∧ (∃ e, r₁.reports = r.reports ++ [failureReport r.now e]) ∨
      (∃ a, r₁.phase = .pumping a) ∧
        ∀ es' r₂ a, r₁.Leads es' r₂ → r₂.phase = .pumping a → r₂.established = r₁.established →
          r₂.reports = r.reports ∧
          ∀ r₃, r₂.Does r₃ → (∀ a', r₃.phase ≠ .pumping a') → ∃ o i,
            r₃ = (((r₂.closeInterface a.device).reportPump "outbound" o).reportPump "inbound"
              i).afterAttempt a.server 0 ∧
            r₃.reports =
              r.reports ++ [pumpReport r₂.now "outbound" o, pumpReport r₂.now "inbound" i] ∧
            r₁.IsExact r₂ o i := by
  refine ⟨h.accounts h₀ hq, ?_⟩
  intro server f hp r₁ hd
  have hforeign := h.foreign hq
  cases hd.tells with
  | failure _ hne hs => exact .inl ⟨hne, _, hs.reports hforeign⟩
  | pumps hp' => exact Phase.noConfusion (hp.symm.trans hp')
  | nothing hs hc =>
    obtain ⟨a₁, hp₁⟩ := hc server f hp
    refine .inr ⟨⟨a₁, hp₁⟩, ?_⟩
    intro es' r₂ a hl hp₂ he
    have hne : ∀ a, r.phase ≠ .pumping a := by
      intro a ha
      exact Phase.noConfusion (hp.symm.trans ha)
    have hopen : r₁.reports = r.reports := (hs.reports hforeign).trans (List.append_nil _)
    have hstay : r₂.reports = r.reports :=
      ((hl.unreported (hs.foreign hforeign)).2 a hp₂ he).trans hopen
    refine ⟨hstay, ?_⟩
    intro r₃ hd₃ hne₃
    have hlinked := ((h.does hd).trans hl).linked h₀
    have hcount : CountedSince r₁ r₂ :=
      hl.counted hp₁ (hd.change.outbound_fresh hne hp₁) (hd.change.inbound_fresh hne hp₁).1
    have hforeign₂ := hl.foreign (hs.foreign hforeign)
    cases hd₃.tells with
    | nothing _ _ hp₃ =>
      obtain ⟨a', ha'⟩ := hp₃ a hp₂
      exact absurd ha' (hne₃ a')
    | failure hp₃ => exact Phase.noConfusion (hp₂.symm.trans hp₃)
    | @pumps a' o i hp₃ _ ho hi hr hs₃ =>
      cases hp₂.symm.trans hp₃
      refine ⟨o, i, hr, ?_, hcount.isExact (hlinked a hp₂) hp₂ he ho hi⟩
      rw [hs₃.reports hforeign₂, hstay]

/-- The small run when the pumps of its first attempt have been stopped after one packet. -/
def trialEnding : Run := (trialPumping.happen .stop).settleWithin 2

theorem trialConnected_leads_ending : trialConnected.Leads (trialEvents ++ [.stop]) trialEnding :=
  (trialConnected_leads.event .stop).settleWithin 2

/-- In the small run the reports count the packet that was sent, and a second attempt, which gets no
interface, is accounted for as well. -/
theorem trialEnding_reports :
    (∃ bs, Ledger [7] trialDone bs ∧ Accounts [] trialDone bs) ∧ ∃ o i,
      (trialEnding.settleWithin 1).reports = [pumpReport 0 "outbound" o, pumpReport 0 "inbound" i] ∧
      trialConnected.IsExact trialEnding o i ∧ o = .ok ⟨1, 2⟩ ∧ i = .ok ⟨0, 0⟩ := by
  have hforeign : trial.host.IsForeign := fun _ _ _ h => nomatch h
  obtain ⟨hall, -⟩ := trial_leads_done.reports_lawful trial_isFresh hforeign
  refine ⟨hall, ?_⟩
  have hbegin : trial.Leads [.run] trialAttempting := (Leads.start.event .run).settleWithin 2
  obtain ⟨-, hone⟩ := hbegin.reports_lawful trial_isFresh hforeign
  rcases hone (.v4 ⟨127, 0, 0, 1⟩) 0 rfl trialConnected (does_of_step rfl) with ⟨hne, -⟩ | ⟨-, hend⟩
  · exact absurd rfl (hne _)
  obtain ⟨-, hlast⟩ := hend _ trialEnding _ trialConnected_leads_ending rfl rfl
  obtain ⟨o, i, -, hr, hexact⟩ := hlast (trialEnding.settleWithin 1) (does_of_step rfl)
    fun _ => Phase.noConfusion
  refine ⟨o, i, hr, hexact, ?_⟩
  -- the lines that were logged tell the results
  have hlines : [pumpReport 0 "outbound" o, pumpReport 0 "inbound" i] =
      [pumpReport 0 "outbound" (.ok ⟨1, 2⟩), pumpReport 0 "inbound" (.ok ⟨0, 0⟩)] := hr.symm.trans rfl
  rw [List.cons.injEq, List.cons.injEq] at hlines
  exact ⟨pumpReport_injective hlines.1, pumpReport_injective hlines.2.1⟩

end Run

end Relay

end TunnelRelay
