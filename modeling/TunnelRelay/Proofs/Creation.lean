import TunnelRelay.Proofs.Plans
/-!
# A tunnel device is created whole or not at all

What a creation tries is its plan up to the first failure (`Setup.follows_creation`). The resolvers
are not among what can fail, so the plan without them decides about the result. The descriptors are
followed apart from the plan, in a ledger: all but three of the steps leave it alone, and so the two
loops have no part in what is open at the end.
-/

namespace TunnelRelay.Device

open Net Host

/-! ## Resolvers -/

/-- Whether an action is a command that sets resolvers. -/
def Action.setsResolver : Action → Bool
  | .command (.setResolver _ _) _ | .command (.claimDomain _) _ => true
  | _ => false

/-- Right after each command that has set a resolver of a device, and at no other point, all names
are sent there. -/
inductive DomainsFollow (device : List Char) : List Action → Prop where
  | nil : DomainsFollow device []
  | other {a : Action} {as : List Action} : a.setsResolver = false → DomainsFollow device as →
      DomainsFollow device (a :: as)
  | refused {server : Address} {ending : Ending} {as : List Action} : ending.isSuccess = false →
      DomainsFollow device as →
      DomainsFollow device (.command (.setResolver device server) ending :: as)
  | taken {server : Address} {ending ending' : Ending} {as : List Action} :
      ending.isSuccess = true → DomainsFollow device as →
      DomainsFollow device (.command (.setResolver device server) ending ::
        .command (.claimDomain device) ending' :: as)

section
variable {device : List Char} {as bs : List Action} {plan : List Try}

theorem DomainsFollow.append (has : DomainsFollow device as) (hbs : DomainsFollow device bs) :
    DomainsFollow device (as ++ bs) := by
  induction has with
  | nil => exact hbs
  | other ha _ ih => exact .other ha ih
  | refused hending _ ih => exact .refused hending ih
  | taken hending _ ih => exact .taken hending ih

theorem DomainsFollow.of_forall (h : ∀ a ∈ as, a.setsResolver = false) :
    DomainsFollow device as := by
  induction as with
  | nil => exact .nil
  | cons a as ih =>
    rw [List.forall_mem_cons] at h
    exact .other h.1 (ih h.2)

/-- A plan that sets no resolver. -/
def WithoutResolvers (plan : List Try) : Prop := ∀ t ∈ plan, t.action.setsResolver = false

theorem WithoutResolvers.carriedOut (h : WithoutResolvers plan) {a : Action}
    (ha : a ∈ carriedOut plan) : a.setsResolver = false := by
  obtain ⟨t, ht, rfl⟩ := exists_of_mem_carriedOut ha
  exact h t ht

theorem WithoutResolvers.filter (h : WithoutResolvers plan) :
    (Device.carriedOut plan).filter (!·.setsResolver) = Device.carriedOut plan := by
  rw [List.filter_eq_self]
  intro a ha
  rw [h.carriedOut ha, Bool.not_false]

/-- What the plan of the routes tries is to add one. -/
theorem addRoute_of_mem_routePlan {script : ExitScript} {routes : List Route} {t : Try}
    (h : t ∈ routePlan device script routes) :
    ∃ route ending, t = ⟨.command (.addRoute route device) ending,
      Setup.routeFailure device route ending⟩ := by
  induction routes generalizing script with
  | nil => cases h
  | cons route routes ih =>
    rcases List.mem_cons.1 h with rfl | h
    · exact ⟨route, _, rfl⟩
    · exact ih h

theorem withoutResolvers_configPlan (k : Kernel) (requested : List Char)
    (settings : InterfaceSettings) : WithoutResolvers (k.configPlan requested settings) := by
  have hlink : WithoutResolvers (k.linkPlan requested settings) := by
    simp [WithoutResolvers, Kernel.linkPlan, Action.setsResolver]
  rw [WithoutResolvers, Kernel.configPlan, List.forall_mem_append]
  refine ⟨hlink, fun t ht => ?_⟩
  obtain ⟨route, ending, rfl⟩ := addRoute_of_mem_routePlan ht
  rfl

theorem withoutResolvers_register (k : Kernel) :
    WithoutResolvers [⟨.call .register, (k.refusal .register).map .os⟩] := by
  simp [WithoutResolvers, Action.setsResolver]

/-- A resolver that cannot be set fails nothing. -/
theorem firstFailure_resolverPlan (device : List Char) (script : ExitScript)
    (servers : List Address) : firstFailure (resolverPlan device script servers) = none := by
  induction servers generalizing script with
  | nil => rfl
  | cons server servers ih =>
    rw [resolverPlan, firstFailure_cons, Option.none_or]
    split
    · rw [firstFailure_cons, Option.none_or, ih]
    · exact ih _

/-- So all of them are tried, and what comes after them. -/
theorem carriedOut_resolverPlan_append (device : List Char) (script : ExitScript)
    (servers : List Address) (plan : List Try) :
    carriedOut (resolverPlan device script servers ++ plan) =
      (resolverPlan device script servers).map Try.action ++ carriedOut plan := by
  have hnone := firstFailure_resolverPlan device script servers
  rw [carriedOut_append, if_pos hnone, carriedOut_of_firstFailure hnone]

/-- What the plan of the resolvers tries is to set one. -/
theorem setsResolver_of_mem_resolverPlan {script : ExitScript} {servers : List Address} {t : Try}
    (h : t ∈ resolverPlan device script servers) : t.action.setsResolver = true := by
  induction servers generalizing script with
  | nil => cases h
  | cons server servers ih =>
    rw [resolverPlan] at h
    split at h
    · rcases List.mem_cons.1 h with rfl | h
      · rfl
      · rcases List.mem_cons.1 h with rfl | h
        · rfl
        · exact ih h
    · rcases List.mem_cons.1 h with rfl | h
      · rfl
      · exact ih h

theorem filter_resolverPlan (device : List Char) (script : ExitScript) (servers : List Address) :
    ((resolverPlan device script servers).map Try.action).filter (!·.setsResolver) = [] := by
  rw [List.filter_eq_nil_iff, List.forall_mem_map]
  intro t ht
  simp [setsResolver_of_mem_resolverPlan ht]

theorem domainsFollow_resolverPlan (device : List Char) (script : ExitScript)
    (servers : List Address) :
    DomainsFollow device ((resolverPlan device script servers).map Try.action) := by
  induction servers generalizing script with
  | nil => exact .nil
  | cons server servers ih =>
    rw [resolverPlan]
    split
    · rename_i hending; exact .taken hending (ih _)
    · rename_i hending; exact .refused (Bool.eq_false_iff.2 hending) (ih _)

end

namespace Kernel

section
variable (k : Kernel) (requested : List Char) (settings : InterfaceSettings)

/-- What there is in the plan of a creation. -/
theorem cases_of_mem_plan {t : Try} (h : t ∈ k.plan requested settings) :
    t ∈ k.linkPlan requested settings ∨
      (∃ route ending, t = ⟨.command (.addRoute route (k.deviceName requested)) ending,
        Setup.routeFailure (k.deviceName requested) route ending⟩) ∨
      t.action.setsResolver = true ∨ t.action = .call .register := by
  simp only [plan, configPlan, List.mem_append, List.mem_singleton] at h
  rcases h with (h | h) | h | rfl
  · exact .inl h
  · exact .inr (.inl (addRoute_of_mem_routePlan h))
  · exact .inr (.inr (.inl (setsResolver_of_mem_resolverPlan h)))
  · exact .inr (.inr (.inr rfl))

/-- The resolvers have no part in the failure of a creation. -/
theorem firstFailure_plan : firstFailure (k.plan requested settings) =
    firstFailure (k.mandatoryPlan requested settings) := by
  simp only [plan, mandatoryPlan, firstFailure_append, firstFailure_resolverPlan, Option.none_or]

/-- Beside the resolvers, the same is tried as if there were none. -/
theorem filter_carriedOut_plan :
    (carriedOut (k.plan requested settings)).filter (!·.setsResolver) =
      carriedOut (k.mandatoryPlan requested settings) := by
  rw [plan, mandatoryPlan, carriedOut_append, carriedOut_resolverPlan_append, carriedOut_append,
    List.filter_append, (withoutResolvers_configPlan k requested settings).filter]
  by_cases hconfig : firstFailure (k.configPlan requested settings) = none
  · rw [if_pos hconfig, if_pos hconfig, List.filter_append, filter_resolverPlan, List.nil_append,
      (withoutResolvers_register k).filter]
  · rw [if_neg hconfig, if_neg hconfig, List.filter_nil]

theorem domainsFollow_plan :
    DomainsFollow (k.deviceName requested) (carriedOut (k.plan requested settings)) := by
  rw [plan, carriedOut_append, carriedOut_resolverPlan_append]
  refine .append (.of_forall fun a => (withoutResolvers_configPlan k requested settings).carriedOut)
    ?_
  split
  · exact (domainsFollow_resolverPlan _ _ _).append
      (.of_forall fun a => (withoutResolvers_register k).carriedOut)
  · exact .nil

end

end Kernel

/-- A command for a route has failed exactly if it has not exited with 0. -/
theorem routeFailure_eq_none_iff {device : List Char} {route : Route} {ending : Ending} :
    Setup.routeFailure device route ending = none ↔ ending = .exited 0 := by
  cases ending with
  | unstarted e => simp [Setup.routeFailure]
  | exited code => cases code <;> simp [Setup.routeFailure]
  | killed signal => simp [Setup.routeFailure]

/-- It fails with what kept it from being started, or with a message that names the route. -/
theorem cases_of_routeFailure {device : List Char} {route : Route} {ending : Ending} {e : IoError}
    (h : Setup.routeFailure device route ending = some e) :
    (∃ o, ending = .unstarted o ∧ e = .os o) ∨ (∀ o, ending ≠ .unstarted o) ∧
      e = .other (String.ofList
        ("Failed to add route ".toList ++ route.render ++ " dev ".toList ++ device)) := by
  cases ending with
  | unstarted o =>
    cases h
    exact .inl ⟨o, rfl, rfl⟩
  | exited code =>
    cases code with
    | zero => cases h
    | succ code =>
      cases h
      exact .inr ⟨by simp, rfl⟩
  | killed signal =>
    cases h
    exact .inr ⟨by simp, rfl⟩

theorem failure_eq_of_addRoute {k : Kernel} {requested : List Char}
    {settings : InterfaceSettings} {t : Try} (ht : t ∈ k.plan requested settings) {route : Route}
    {device : List Char} {ending : Ending}
    (hta : t.action = .command (.addRoute route device) ending) :
    t.failure = Setup.routeFailure device route ending := by
  rcases k.cases_of_mem_plan _ _ ht with ht | ⟨route, ending, rfl⟩ | hcommand | hcall
  · simp only [Kernel.linkPlan, List.mem_cons, List.not_mem_nil, or_false] at ht
    rcases ht with rfl | rfl | rfl | rfl | rfl | rfl | rfl | rfl <;> cases hta
  · cases hta
    rfl
  · rw [hta] at hcommand
    cases hcommand
  · rw [hta] at hcall
    cases hcall

/-! ## Flags -/

/-- A link that is taken up keeps its flags, and has two more. -/
theorem getLsbD_switchFlags (flags : Int16) (i : Nat) :
    (switchFlags true flags).toBitVec.getLsbD i =
      (flags.toBitVec.getLsbD i || i == 0 || i == 6) := by
  have hup : upFlags.toBitVec.getLsbD i = (i == 0 || i == 6) := by
    by_cases hi : i < 16
    · decide +revert
    · rw [BitVec.getLsbD_of_ge _ _ (by omega)]
      symm
      rw [Bool.or_eq_false_iff, beq_eq_false_iff_ne, beq_eq_false_iff_ne]
      omega
  rw [switchFlags, if_pos rfl, Int16.toBitVec_or, BitVec.getLsbD_or, hup, Bool.or_assoc]

/-- No flags are written in a creation but those of the link, taken up. -/
theorem eq_of_writeFlags_mem {k : Kernel} {requested : List Char} {settings : InterfaceSettings}
    {device : NameField} {flags : Int16}
    (h : .request (.writeFlags device flags) ∈ carriedOut (k.plan requested settings)) :
    device = .ofName (k.deviceName requested) ∧ flags = switchFlags true k.flags := by
  obtain ⟨t, ht, hta⟩ := exists_of_mem_carriedOut h
  rcases k.cases_of_mem_plan _ _ ht with ht | ⟨route, ending, rfl⟩ | hcommand | hcall
  · simp only [Kernel.linkPlan, List.mem_cons, List.not_mem_nil, or_false] at ht
    rcases ht with rfl | rfl | rfl | rfl | rfl | rfl | rfl | rfl <;> cases hta
    exact ⟨rfl, rfl⟩
  · cases hta
  · rw [hta] at hcommand
    cases hcommand
  · rw [hta] at hcall
    cases hcall

/-! ## Descriptors -/

/-- Descriptors as they are opened and released. -/
structure Ledger where
  now : List Handle := []
  past : List Handle := []

/-- Keeps the ledger. No descriptor is opened twice, and only an open one is released. -/
def Ledger.book (l : Ledger) : Action → Option Ledger
  | .opened h => if h ∈ l.now ++ l.past then none else some { l with now := l.now ++ [h] }
  | .released h => if h ∈ l.now then some ⟨l.now.erase h, h :: l.past⟩ else none
  | _ => some l

/-- The descriptors of some actions. -/
def descriptors (actions : List Action) : Option Ledger := actions.foldlM Ledger.book {}

theorem descriptors_concat (actions : List Action) (a : Action) :
    descriptors (actions ++ [a]) = (descriptors actions).bind (·.book a) := by
  rw [descriptors, List.foldlM_append, descriptors]
  cases actions.foldlM Ledger.book {} with
  | none => rfl
  | some l => exact bind_pure (l.book a)

/-- Whether a step opens or releases a descriptor. -/
def SetupStep.isLoud : SetupStep → Bool
  | .openTunnel | .openControl | .register => true
  | _ => false

/-- The descriptors that a creation opens. -/
def Kernel.opens (k : Kernel) : List Handle :=
  if k.refusal .openTunnel = none then
    if k.refusal .attach = none then
      if k.refusal .openControl = none then [.tunnel, .control] else [.tunnel]
    else [.tunnel]
  else []

namespace Setup

/-- Neither opens nor releases a descriptor. -/
structure Quiet (s t : Setup) : Prop where
  handles : t.handles = s.handles
  descriptors : descriptors t.actions = descriptors s.actions

section
variable {settings : InterfaceSettings} {s t u : Setup} {past : List Handle}

theorem Quiet.refl (s : Setup) : s.Quiet s := ⟨rfl, rfl⟩

theorem Quiet.trans (h : s.Quiet t) (h' : t.Quiet u) : s.Quiet u :=
  ⟨h'.handles.trans h.handles, h'.descriptors.trans h.descriptors⟩

theorem quiet_act (s : Setup) {a : Action} (ha : a.isTry = true) : s.Quiet (s.act a) := by
  refine ⟨rfl, ?_⟩
  rw [act, descriptors_concat]
  cases Device.descriptors s.actions with
  | none => rfl
  | some l => cases a <;> first | rfl | cases ha

theorem quiet_runRouting (s : Setup) (c : Command) : s.Quiet (s.runRouting c).2 :=
  ⟨rfl, (quiet_act { s with kernel := { s.kernel with routing := s.kernel.routing.take.2 } }
    (a := .command c s.kernel.routing.take.1) rfl).descriptors⟩

theorem quiet_runResolver (s : Setup) (c : Command) : s.Quiet (s.runResolver c).2 :=
  ⟨rfl, (quiet_act { s with kernel := { s.kernel with resolver := s.kernel.resolver.take.2 } }
    (a := .command c s.kernel.resolver.take.1) rfl).descriptors⟩

theorem quiet_configureResolver (s : Setup) (server : Address) :
    s.Quiet (s.configureResolver server) := by
  have hset := s.quiet_runResolver (.setResolver s.name server)
  simp only [configureResolver]
  split
  · exact hset.trans (quiet_runResolver _ _)
  · exact hset

theorem Quiet.onSuccess {x : Option IoError × Setup} {f : Setup → Setup} (h : s.Quiet x.2)
    (hf : ∀ t : Setup, t.Quiet (f t)) : s.Quiet (onSuccess f x).2 := by
  obtain ⟨_ | e, t⟩ := x
  · exact h.trans (hf t)
  · exact h

/-- All but three of the steps leave the descriptors alone. -/
theorem quiet_perform (s : Setup) {step : SetupStep} (hstep : step.isLoud = false) :
    s.Quiet (s.perform settings step).2 := by
  cases step with
  | openTunnel | openControl | register => cases hstep
  | attach | readFlags => exact (s.quiet_act rfl).onSuccess fun t => ⟨rfl, rfl⟩
  | setAddress | setNetmask | setMtu | writeFlags => exact s.quiet_act rfl
  | addRoute route => exact s.quiet_runRouting _
  | configureResolver server => exact s.quiet_configureResolver server

theorem quiet_performAll (s : Setup) {steps : List SetupStep}
    (hsteps : ∀ step ∈ steps, step.isLoud = false) :
    s.Quiet (s.performAll settings steps).2 := by
  induction steps generalizing s with
  | nil => exact .refl s
  | cons step steps ih =>
    rw [List.forall_mem_cons] at hsteps
    have hstep : s.Quiet (s.perform settings step).2 := s.quiet_perform hsteps.1
    rw [performAll]
    rcases hp : s.perform settings step with ⟨_ | e, t⟩ <;> rw [hp] at hstep
    · exact hstep.trans (ih t hsteps.2)
    · exact hstep

/-- The ledger of what has been done, in which the open descriptors are those that are left to be
released. -/
def Books (s : Setup) (past : List Handle) : Prop :=
  descriptors s.actions = some ⟨s.handles, past⟩

theorem Books.of_quiet (hs : s.Books past) (h : s.Quiet t) : t.Books past := by
  rw [Books, h.descriptors, h.handles]
  exact hs

theorem Books.opened (hs : s.Books past) {h : Handle} (hnew : h ∉ s.handles ++ past) :
    (s.opened h).Books past := by
  rw [Books, Setup.opened, act, descriptors_concat, hs]
  exact if_neg hnew

theorem Books.release (hs : s.Books past) {h : Handle} (hopen : h ∈ s.handles) :
    (s.release h).Books (h :: past) := by
  rw [Books, Setup.release, act, descriptors_concat, hs]
  exact if_pos hopen

theorem handles_release (s : Setup) (h : Handle) :
    (s.release h).handles = s.handles.erase h := rfl

/-- Releasing all descriptors that are open leaves none. -/
theorem Books.releaseAll (hs : s.Books past) :
    (s.releaseAll s.handles).Books (s.handles ++ past) ∧
      (s.releaseAll s.handles).handles = [] := by
  -- What is released next is open: the rest to release are the open ones in another order.
  have hall : ∀ (order : List Handle) (s : Setup) (past : List Handle), s.Books past →
      s.handles.Perm order →
      (order.foldl Setup.release s).Books (order.reverse ++ past) ∧
        (order.foldl Setup.release s).handles = [] := by
    intro order
    induction order with
    | nil => exact fun s past hs hperm => ⟨hs, hperm.eq_nil⟩
    | cons h order ih =>
      intro s past hs hperm
      have hopen : h ∈ s.handles := hperm.mem_iff.2 List.mem_cons_self
      have hrest : (s.release h).handles.Perm order :=
        (hperm.erase h).trans (by rw [List.erase_cons_head])
      rw [List.foldl_cons, List.reverse_cons, List.append_assoc]
      exact ih _ _ (hs.release hopen) hrest
  have hreverse := hall s.handles.reverse s past hs (List.reverse_perm _).symm
  rwa [List.reverse_reverse] at hreverse

end

/-- The steps of a creation after the descriptors are opened and before the tunnel is registered. -/
def quietSteps (settings : InterfaceSettings) : List SetupStep :=
  [.setAddress, .setNetmask, .setMtu, .readFlags, .writeFlags true] ++
    settings.routes.map .addRoute ++ settings.dnsServers.map .configureResolver

theorem isLoud_of_mem_quietSteps {settings : InterfaceSettings} {step : SetupStep}
    (h : step ∈ quietSteps settings) : step.isLoud = false := by
  simp only [quietSteps, List.mem_append, List.mem_map, List.mem_cons, List.not_mem_nil,
    or_false] at h
  rcases h with (h | ⟨route, -, rfl⟩) | ⟨server, -, rfl⟩
  · rcases h with rfl | rfl | rfl | rfl | rfl <;> rfl
  · rfl
  · rfl

/-- How the descriptors stand when some steps have come to their end: all that were opened are open
or have been released, and all are open after a success. -/
def Accounts (opens : List Handle) (made : Option IoError × Setup) : Prop :=
  ∃ past, made.2.Books past ∧ (made.2.handles ++ past).Perm opens ∧
    (made.1 = none → made.2.handles = [.tunnel, .control] ∧ past = [])

section
variable {settings : InterfaceSettings} {s : Setup}

theorem Books.register (hs : s.Books []) (hopen : s.handles = [.tunnel, .control]) :
    Accounts [.tunnel, .control] (s.perform settings .register) := by
  have hcall : (s.act (.call .register)).Books [] := hs.of_quiet (s.quiet_act rfl)
  have hopen' : (s.act (.call .register)).handles = [.tunnel, .control] := hopen
  rw [perform, call]
  cases s.kernel.failure .register with
  | none => exact ⟨[], hcall, by rw [hopen', List.append_nil], fun _ => ⟨hopen', rfl⟩⟩
  | some e =>
    refine ⟨[.tunnel], hcall.release (by rw [hopen']; decide), ?_, fun h => ?_⟩
    · rw [handles_release, hopen']
      decide
    · cases h

/-- The descriptors are not touched after both are open, unless the tunnel cannot be registered. -/
theorem Books.configured (hs : s.Books []) (hopen : s.handles = [.tunnel, .control]) :
    Accounts [.tunnel, .control]
      (s.performAll settings (quietSteps settings ++ [.register])) := by
  have hquiet : s.Quiet (s.performAll settings (quietSteps settings)).2 :=
    s.quiet_performAll fun step => isLoud_of_mem_quietSteps
  rw [performAll_append]
  rcases hp : s.performAll settings (quietSteps settings) with ⟨_ | e, t⟩ <;> rw [hp] at hquiet
  · show Accounts _ (t.performAll settings [.register])
    rw [performAll_singleton]
    exact (hs.of_quiet hquiet).register (hquiet.handles.trans hopen)
  · exact ⟨[], hs.of_quiet hquiet, by rw [hquiet.handles, hopen, List.append_nil], nofun⟩

/-- A step that tries something first and goes on where that succeeds. -/
theorem Accounts.cons {step : SetupStep} {steps : List SetupStep} {a : Action}
    {refusal : Option OsError} {f : Setup → Setup} {opens : List Handle} (hs : s.Books [])
    (ha : a.isTry = true)
    (hstep : s.perform settings step = onSuccess f (refusal.map .os, s.act a))
    (hdone : Accounts opens ((f (s.act a)).performAll settings steps)) :
    Accounts (if refusal = none then opens else s.handles)
      (s.performAll settings (step :: steps)) := by
  cases refusal with
  | none => rwa [performAll_cons_of_none hstep, if_pos rfl]
  | some e =>
    rw [performAll_cons_of_some hstep, if_neg nofun]
    exact ⟨[], hs.of_quiet (s.quiet_act ha), by rw [List.append_nil]; exact .refl _, nofun⟩

end

/-- The descriptors of a creation before those that are open are released. -/
theorem accounts_creation (k : Kernel) (requested : List Char) (settings : InterfaceSettings) :
    Accounts k.opens
      (performAll settings { kernel := k, name := requested } (creationSteps settings)) := by
  have hsteps : creationSteps settings =
      .openTunnel :: .attach :: .openControl :: (quietSteps settings ++ [.register]) := by
    simp [creationSteps, quietSteps]
  let start : Setup := { kernel := k, name := requested }
  let tunnel : Setup := (start.act (.request .openTunnel)).opened .tunnel
  let attached : Setup := { tunnel.act (.request (.attach tunnel.field tunnelFlags)) with
    name := (k.assign tunnel.field).name }
  let both : Setup := (attached.act (.call .openControl)).opened .control
  have hstart : start.Books [] := rfl
  have htunnel : tunnel.Books [] := rfl
  have hattached : attached.Books [] := rfl
  have hboth : both.Books [] := rfl
  have hconfigured : Accounts [.tunnel, .control]
      (both.performAll settings (quietSteps settings ++ [.register])) := hboth.configured rfl
  rw [hsteps]
  exact .cons hstart rfl rfl (.cons htunnel rfl rfl (.cons hattached rfl rfl hconfigured))

end Setup

/-! ## All or nothing -/

/-- The descriptors that a creation leaves open. -/
def TunDevice.kept : Except IoError TunDevice → List Handle
  | .error _ => []
  | .ok _ => [.tunnel]

/-- How the creation of a device goes, whatever the kernel and the programs answer. -/
structure TunDevice.WholeOrNot (k : Kernel) (requested : List Char) (settings : InterfaceSettings)
    (made : Except IoError TunDevice × List Action) : Prop where
  /-- The plan is tried up to the first failure, and nothing after it. -/
  tried : attempts made.2 = carriedOut (k.plan requested settings)
  /-- That failure is the result. There is a device if nothing fails. -/
  result : made.1.map (fun d => (d.io, d.settings)) =
    match firstFailure (k.plan requested settings) with
    | some e => .error e
    | none => .ok ({ name := String.ofList (k.deviceName requested) }, settings)
  /-- So a creation that fails has tried all up to what failed. -/
  failed : ∀ e, made.1 = .error e → ∃ before t after,
    k.plan requested settings = before ++ t :: after ∧ firstFailure before = none ∧
      t.failure = some e ∧ attempts made.2 = (before ++ [t]).map Try.action
  /-- A route is added exactly if its command exits with 0. The failure of one that cannot be
  started is passed on, and that of any other names the route. -/
  routes : ∀ t ∈ k.plan requested settings, ∀ route device ending,
    t.action = .command (.addRoute route device) ending →
      (t.failure = none ↔ ending = .exited 0) ∧ ∀ e, t.failure = some e →
        (∃ o, ending = .unstarted o ∧ e = .os o) ∨ (∀ o, ending ≠ .unstarted o) ∧
          e = .other (String.ofList
            ("Failed to add route ".toList ++ route.render ++ " dev ".toList ++ device))
  /-- Resolvers have no part in the failure, nor in what else is tried. -/
  mandatory : firstFailure (k.plan requested settings) =
      firstFailure (k.mandatoryPlan requested settings) ∧
    (attempts made.2).filter (!·.setsResolver) = carriedOut (k.mandatoryPlan requested settings)
  domains : DomainsFollow (k.deviceName requested) (attempts made.2)
  /-- Each descriptor that is opened has been released, but that of the tunnel in a device. -/
  descriptors : ∃ past, descriptors made.2 = some ⟨kept made.1, past⟩ ∧
    (kept made.1 ++ past).Perm k.opens
  /-- The link is taken up with the flags that it has and two more. -/
  flags : ∀ device flags, .request (.writeFlags device flags) ∈ made.2 →
    device = .ofName (k.deviceName requested) ∧
      ∀ i, flags.toBitVec.getLsbD i = (k.flags.toBitVec.getLsbD i || i == 0 || i == 6)

section
variable (k : Kernel) (requested : List Char) (settings : InterfaceSettings)

theorem TunDevice.attempts_create :
    attempts (create k requested settings).2 = carriedOut (k.plan requested settings) := by
  have htried : attempts (Setup.performAll settings { kernel := k, name := requested }
      (creationSteps settings)).2.actions = carriedOut (k.plan requested settings) :=
    (Setup.follows_creation k requested settings).tried
  rw [create]
  split <;> rename_i hmade <;> rw [hmade] at htried
  · exact (Setup.attempts_releaseAll _ _).trans htried
  · exact (Setup.attempts_release _ _).trans htried

theorem TunDevice.map_create :
    (create k requested settings).1.map (fun d => (d.io, d.settings)) =
      match firstFailure (k.plan requested settings) with
      | some e => .error e
      | none => .ok ({ name := String.ofList (k.deviceName requested) }, settings) := by
  obtain ⟨hfailure, -, hfinal⟩ := Setup.follows_creation k requested settings
  rw [create]
  split <;> rename_i hmade <;> rw [hmade] at hfailure hfinal <;> rw [← hfailure]
  · rfl
  · rw [← hfinal hfailure.symm]
    rfl

/-- A tunnel device is created whole or not at all. -/
theorem TunDevice.create_wholeOrNot :
    WholeOrNot k requested settings (create k requested settings) where
  tried := attempts_create k requested settings
  result := map_create k requested settings
  failed := by
    intro e he
    have hresult := map_create k requested settings
    rw [he] at hresult
    rw [attempts_create]
    cases hfailure : firstFailure (k.plan requested settings) with
    | none => rw [hfailure] at hresult; cases hresult
    | some e' =>
      rw [hfailure] at hresult
      cases hresult
      exact exists_of_firstFailure hfailure
  routes := by
    intro t ht route device ending hta
    rw [failure_eq_of_addRoute ht hta]
    exact ⟨routeFailure_eq_none_iff, fun e => cases_of_routeFailure⟩
  mandatory := by
    rw [attempts_create]
    exact ⟨k.firstFailure_plan requested settings, k.filter_carriedOut_plan requested settings⟩
  domains := by
    rw [attempts_create]
    exact k.domainsFollow_plan requested settings
  descriptors := by
    obtain ⟨past, hbooks, hopens, hopen⟩ := Setup.accounts_creation k requested settings
    rw [create]
    split <;> rename_i s hmade <;> rw [hmade] at hbooks hopens hopen
    · obtain ⟨hall, hnone⟩ := hbooks.releaseAll
      rw [Setup.Books, hnone] at hall
      exact ⟨_, hall, hopens⟩
    · obtain ⟨hboth, rfl⟩ := hopen rfl
      have hcontrol := hbooks.release (h := .control) (by rw [hboth]; decide)
      rw [Setup.Books, Setup.handles_release, hboth] at hcontrol
      rw [hboth] at hopens
      exact ⟨_, hcontrol, hopens⟩
  flags := by
    intro device flags h
    have hwrite : .request (.writeFlags device flags) ∈
        carriedOut (k.plan requested settings) := by
      rw [← attempts_create]
      exact List.mem_filter.2 ⟨h, rfl⟩
    obtain ⟨hdevice, rfl⟩ := eq_of_writeFlags_mem hwrite
    exact ⟨hdevice, getLsbD_switchFlags k.flags⟩

end

end TunnelRelay.Device
