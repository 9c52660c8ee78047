import TunnelRelay.Device.Tun
/-!
# What the creation of a tunnel device tries

`Kernel.plan` lists what the creation of a device tries, each with the failure that the kernel and
the programs have in store for it; a resolver that cannot be set fails nothing. `Setup.Follows` says
of some steps that they carry out a plan: they try it in its order, up to the first failure, which
is their result. Plans are put together as steps are (`Follows.append`), so each step and each of
the two loops is looked at once.
-/

namespace TunnelRelay.Device

open Net Host

/-! ## Plans -/

/-- Something that is tried, and its failure, if there is one that matters. -/
structure Try where
  action : Action
  failure : Option IoError

/-- What is tried of a plan: nothing follows a failure. -/
def carriedOut : List Try → List Action
  | [] => []
  | t :: ts => t.action :: if t.failure = none then carriedOut ts else []

/-- The failure of the first try that fails. -/
def firstFailure (plan : List Try) : Option IoError := plan.findSome? Try.failure

section
variable {plan plan' : List Try}

theorem firstFailure_append (plan plan' : List Try) :
    firstFailure (plan ++ plan') = (firstFailure plan).or (firstFailure plan') := by
  rw [firstFailure, List.findSome?_append, firstFailure, firstFailure]

theorem firstFailure_cons (t : Try) (plan : List Try) :
    firstFailure (t :: plan) = t.failure.or (firstFailure plan) := by
  rw [firstFailure, List.findSome?_cons, firstFailure]
  cases t.failure <;> rfl

theorem carriedOut_append (plan plan' : List Try) : carriedOut (plan ++ plan') =
    carriedOut plan ++ if firstFailure plan = none then carriedOut plan' else [] := by
  induction plan with
  | nil => rfl
  | cons t plan ih =>
    rw [List.cons_append, carriedOut, carriedOut, firstFailure_cons]
    cases t.failure with
    | none => by_cases hp : firstFailure plan = none <;> simp [ih, hp]
    | some e => simp

/-- Where nothing fails, all of a plan is tried. -/
theorem carriedOut_of_firstFailure (h : firstFailure plan = none) :
    carriedOut plan = plan.map Try.action := by
  induction plan with
  | nil => rfl
  | cons t plan ih =>
    rw [firstFailure_cons, Option.or_eq_none_iff] at h
    rw [carriedOut, if_pos h.1, ih h.2, List.map_cons]

/-- Where something fails, all up to that is tried. -/
theorem exists_of_firstFailure {e : IoError} (h : firstFailure plan = some e) :
    ∃ before t after, plan = before ++ t :: after ∧ firstFailure before = none ∧
      t.failure = some e ∧ carriedOut plan = (before ++ [t]).map Try.action := by
  obtain ⟨before, t, after, rfl, ht, hbefore⟩ := List.findSome?_eq_some_iff.1 h
  have hnone : firstFailure before = none := List.findSome?_eq_none_iff.2 hbefore
  refine ⟨before, t, after, rfl, hnone, ht, ?_⟩
  rw [carriedOut_append, if_pos hnone, carriedOut_of_firstFailure hnone, carriedOut,
    if_neg (by simp [ht]), List.map_append, List.map_singleton]

theorem exists_of_mem_carriedOut {a : Action} (h : a ∈ carriedOut plan) :
    ∃ t ∈ plan, t.action = a := by
  induction plan with
  | nil => cases h
  | cons t plan ih =>
    rw [carriedOut, List.mem_cons] at h
    rcases h with rfl | h
    · exact ⟨t, by simp, rfl⟩
    · split at h
      · obtain ⟨u, hu, hua⟩ := ih h
        exact ⟨u, List.mem_cons_of_mem _ hu, hua⟩
      · cases h

end

/-- Adding routes through a device. -/
def routePlan (device : List Char) (script : ExitScript) : List Route → List Try
  | [] => []
  | route :: routes =>
    ⟨.command (.addRoute route device) script.take.1,
      Setup.routeFailure device route script.take.1⟩ :: routePlan device script.take.2 routes

/-- Setting the resolvers of a device. Each that could be set is made the resolver of all names. No
failure matters. -/
def resolverPlan (device : List Char) (script : ExitScript) : List Address → List Try
  | [] => []
  | server :: servers =>
    ⟨.command (.setResolver device server) script.take.1, none⟩ ::
      if script.take.1.isSuccess then
        ⟨.command (.claimDomain device) script.take.2.take.1, none⟩ ::
          resolverPlan device script.take.2.take.2 servers
      else resolverPlan device script.take.2 servers

namespace Kernel

/-- The name that a device gets. -/
def deviceName (k : Kernel) (requested : List Char) : List Char :=
  (k.assign (.ofName requested)).name

/-- Making a device and configuring its link. -/
def linkPlan (k : Kernel) (requested : List Char) (settings : InterfaceSettings) : List Try :=
  let device := NameField.ofName (k.deviceName requested)
  [⟨.request .openTunnel, (k.refusal .openTunnel).map .os⟩,
    ⟨.request (.attach (.ofName requested) tunnelFlags), (k.refusal .attach).map .os⟩,
    ⟨.call .openControl, (k.refusal .openControl).map .os⟩,
    ⟨.request (.setAddress device settings.address), (k.refusal .setAddress).map .os⟩,
    ⟨.request (.setNetmask device settings.netmask), (k.refusal .setNetmask).map .os⟩,
    ⟨.request (.setMtu device settings.mtu), (k.refusal .setMtu).map .os⟩,
    ⟨.request (.readFlags device), (k.refusal .readFlags).map .os⟩,
    ⟨.request (.writeFlags device (switchFlags true k.flags)), (k.refusal .writeFlags).map .os⟩]

/-- Making a device, configuring its link and adding its routes. -/
def configPlan (k : Kernel) (requested : List Char) (settings : InterfaceSettings) : List Try :=
  k.linkPlan requested settings ++
    routePlan (k.deviceName requested) k.routing settings.routes

/-- The creation of a device. -/
def plan (k : Kernel) (requested : List Char) (settings : InterfaceSettings) : List Try :=
  k.configPlan requested settings ++
    (resolverPlan (k.deviceName requested) k.resolver settings.dnsServers ++
      [⟨.call .register, (k.refusal .register).map .os⟩])

/-- The creation of a device without its resolvers. -/
def mandatoryPlan (k : Kernel) (requested : List Char) (settings : InterfaceSettings) : List Try :=
  k.configPlan requested settings ++ [⟨.call .register, (k.refusal .register).map .os⟩]

end Kernel

/-! ## Steps and their plan -/

/-- Whether an action is something that is tried, and not the record of a descriptor. -/
def Action.isTry : Action → Bool
  | .opened _ | .released _ => false
  | _ => true

/-- What is tried among some actions. -/
def attempts (actions : List Action) : List Action := actions.filter Action.isTry

namespace Setup

section
variable {settings : InterfaceSettings} {s : Setup} {steps steps' : List SetupStep}
  {plan plan' : List Try} {Q Q' : Setup → Prop}

theorem attempts_act (s : Setup) {a : Action} (ha : a.isTry = true) :
    attempts (s.act a).actions = attempts s.actions ++ [a] := by
  simp [attempts, act, ha]

theorem attempts_opened (s : Setup) (h : Handle) :
    attempts (s.opened h).actions = attempts s.actions := by
  simp [attempts, opened, act, Action.isTry]

theorem attempts_release (s : Setup) (h : Handle) :
    attempts (s.release h).actions = attempts s.actions := by
  simp [attempts, release, act, Action.isTry]

theorem attempts_releaseAll (s : Setup) (hs : List Handle) :
    attempts (s.releaseAll hs).actions = attempts s.actions := by
  unfold releaseAll
  induction hs.reverse generalizing s with
  | nil => rfl
  | cons h hs ih => exact (ih (s.release h)).trans (s.attempts_release h)

theorem performAll_singleton (s : Setup) (step : SetupStep) :
    s.performAll settings [step] = s.perform settings step := by
  rw [performAll]
  split
  · rename_i h; rw [h]; rfl
  · rfl

theorem performAll_cons_of_none {step : SetupStep} {t : Setup}
    (h : s.perform settings step = (none, t)) :
    s.performAll settings (step :: steps) = t.performAll settings steps := by
  rw [performAll, h]

theorem performAll_cons_of_some {step : SetupStep} {e : IoError} {t : Setup}
    (h : s.perform settings step = (some e, t)) :
    s.performAll settings (step :: steps) = (some e, t) := by
  rw [performAll, h]

theorem performAll_append (s : Setup) (steps steps' : List SetupStep) :
    s.performAll settings (steps ++ steps') = match s.performAll settings steps with
      | (none, s) => s.performAll settings steps'
      | failed => failed := by
  induction steps generalizing s with
  | nil => rfl
  | cons step steps ih =>
    rw [List.cons_append, performAll, performAll]
    rcases s.perform settings step with ⟨_ | e, t⟩
    · exact ih t
    · rfl

/-- Some steps carry out a plan, and where it does not fail they come to a state with `Q`. -/
structure Follows (settings : InterfaceSettings) (s : Setup) (steps : List SetupStep)
    (plan : List Try) (Q : Setup → Prop) : Prop where
  failure : (s.performAll settings steps).1 = firstFailure plan
  tried : attempts (s.performAll settings steps).2.actions =
    attempts s.actions ++ carriedOut plan
  final : firstFailure plan = none → Q (s.performAll settings steps).2

/-- Steps that follow one another carry out their plans one after the other. -/
theorem Follows.append (h : Follows settings s steps plan Q)
    (h' : ∀ t, Q t → Follows settings t steps' plan' Q') :
    Follows settings s (steps ++ steps') (plan ++ plan') Q' := by
  obtain ⟨hfailure, htried, hfinal⟩ := h
  cases hplan : firstFailure plan with
  | none =>
    obtain ⟨hfailure', htried', hfinal'⟩ := h' _ (hfinal hplan)
    have hall : s.performAll settings (steps ++ steps') =
        (s.performAll settings steps).2.performAll settings steps' := by
      rw [performAll_append]
      rcases hp : s.performAll settings steps with ⟨_ | e, t⟩
      · rfl
      · rw [hp, hplan] at hfailure; cases hfailure
    refine ⟨?_, ?_, ?_⟩
    · rw [hall, hfailure', firstFailure_append, hplan, Option.none_or]
    · rw [hall, htried', htried, carriedOut_append, if_pos hplan, List.append_assoc]
    · rw [hall, firstFailure_append, hplan, Option.none_or]
      exact hfinal'
  | some e =>
    have hall : s.performAll settings (steps ++ steps') = s.performAll settings steps := by
      rw [performAll_append]
      rcases hp : s.performAll settings steps with ⟨_ | e, t⟩
      · rw [hp, hplan] at hfailure; cases hfailure
      · rfl
    refine ⟨?_, ?_, ?_⟩
    · rw [hall, hfailure, firstFailure_append, hplan, Option.some_or]
    · rw [hall, htried, carriedOut_append, if_neg (by simp [hplan]), List.append_nil]
    · rw [firstFailure_append, hplan]
      exact nofun

/-- One step with one try. -/
theorem Follows.of_perform {step : SetupStep} {a : Action} {failure : Option IoError}
    (hfailure : (s.perform settings step).1 = failure)
    (htried : attempts (s.perform settings step).2.actions = attempts s.actions ++ [a])
    (hfinal : failure = none → Q (s.perform settings step).2) :
    Follows settings s [step] [⟨a, failure⟩] Q := by
  refine ⟨?_, ?_, ?_⟩ <;> rw [performAll_singleton]
  · rw [hfailure, firstFailure_cons]
    exact (Option.or_none).symm
  · rw [htried, carriedOut]
    split <;> rfl
  · intro h
    rw [firstFailure_cons] at h
    exact hfinal (Option.or_eq_none_iff.1 h).1

theorem Follows.cons {step : SetupStep} {t : Try} (h : Follows settings s [step] [t] Q)
    (h' : ∀ s', Q s' → Follows settings s' steps plan Q') :
    Follows settings s (step :: steps) (t :: plan) Q' :=
  h.append h'

/-- A step that tries something and goes on where that succeeds. -/
theorem Follows.of_onSuccess {step : SetupStep} {a : Action} {failure : Option IoError} {t : Setup}
    {f : Setup → Setup} (hstep : s.perform settings step = onSuccess f (failure, t))
    (ht : attempts t.actions = attempts s.actions ++ [a])
    (hf : attempts (f t).actions = attempts t.actions) (hQ : Q (f t)) :
    Follows settings s [step] [⟨a, failure⟩] Q := by
  cases failure with
  | none =>
    have hdone : s.perform settings step = (none, f t) := hstep
    exact .of_perform (by rw [hdone]) (by rw [hdone, hf, ht]) fun _ => by rw [hdone]; exact hQ
  | some e =>
    have hdone : s.perform settings step = (some e, t) := hstep
    exact .of_perform (by rw [hdone]) (by rw [hdone, ht]) nofun

theorem onSuccess_id (x : Option IoError × Setup) : onSuccess id x = x := by
  rcases x with ⟨_ | e, s⟩ <;> rfl

end

/-- Where a creation stands: the device's name, the flags of its link and what is left of the
scripts of the two programs. -/
structure At (k : Kernel) (routing resolver : ExitScript) (name : List Char) (flags : Int16)
    (s : Setup) : Prop where
  kernel : s.kernel = { k with routing, resolver }
  name : s.name = name
  flags : s.flags = flags

section
variable {settings : InterfaceSettings} {s : Setup} {k : Kernel} {routing resolver : ExitScript}
  {name : List Char} {flags : Int16}

theorem At.failure (h : s.At k routing resolver name flags) (c : Call) :
    s.kernel.failure c = (k.refusal c).map .os := by
  rw [h.kernel]; rfl

theorem At.act (h : s.At k routing resolver name flags) (a : Action) :
    (s.act a).At k routing resolver name flags :=
  ⟨h.kernel, h.name, h.flags⟩

/-- A step that makes one request. -/
theorem At.follows_ask (h : s.At k routing resolver name flags) {step : SetupStep} {c : Call}
    {r r' : Request} (hstep : s.perform settings step = s.ask c r') (hr : r' = r) :
    Follows settings s [step] [⟨.request r, (k.refusal c).map .os⟩]
      (At k routing resolver name flags) := by
  subst hr
  have hask : s.ask c r' = onSuccess id ((k.refusal c).map .os, s.act (.request r')) := by
    rw [onSuccess_id, ask, h.failure]
  exact .of_onSuccess (hstep.trans hask) (s.attempts_act rfl) rfl (h.act _)

/-- Opening the socket that configuration goes through. -/
theorem At.follows_control (h : s.At k routing resolver name flags) :
    Follows settings s [.openControl] [⟨.call .openControl, (k.refusal .openControl).map .os⟩]
      (At k routing resolver name flags) := by
  refine .of_onSuccess (t := s.act (.call .openControl)) (f := (opened · .control)) ?_
    (s.attempts_act rfl) (attempts_opened _ _) ⟨h.kernel, h.name, h.flags⟩
  rw [perform, call, h.failure]

/-- Reading the flags of the link. -/
theorem At.follows_readFlags (h : s.At k routing resolver name flags) :
    Follows settings s [.readFlags]
      [⟨.request (.readFlags (.ofName name)), (k.refusal .readFlags).map .os⟩]
      (At k routing resolver name k.flags) := by
  refine .of_onSuccess (t := s.act (.request (.readFlags (.ofName name))))
    (f := fun t => { t with flags := t.kernel.flags }) ?_ (s.attempts_act rfl) rfl
    ⟨h.kernel, h.name, ?_⟩
  · rw [perform, ask, h.failure, field, h.name]
  · show s.kernel.flags = _
    rw [h.kernel]

/-- Making a device and configuring its link. -/
theorem At.follows_link (h : s.At k routing resolver name flags) :
    Follows settings s [.openTunnel, .attach, .openControl, .setAddress, .setNetmask, .setMtu,
      .readFlags, .writeFlags true] (k.linkPlan name settings)
      (At k routing resolver (k.deviceName name) k.flags) := by
  have hopen : Follows settings s [.openTunnel]
      [⟨.request .openTunnel, (k.refusal .openTunnel).map .os⟩]
      (At k routing resolver name flags) := by
    refine .of_onSuccess (t := s.act (.request .openTunnel)) (f := (opened · .tunnel)) ?_
      (s.attempts_act rfl) (attempts_opened _ _) ⟨h.kernel, h.name, h.flags⟩
    rw [perform, ask, h.failure]
  have hattach : ∀ t : Setup, t.At k routing resolver name flags → Follows settings t [.attach]
      [⟨.request (.attach (.ofName name) tunnelFlags), (k.refusal .attach).map .os⟩]
      (At k routing resolver (k.deviceName name) flags) := by
    intro t ht
    refine .of_onSuccess (t := t.act (.request (.attach (.ofName name) tunnelFlags)))
      (f := fun t => { t with name := (t.kernel.assign t.field).name }) ?_
      (t.attempts_act rfl) rfl ⟨ht.kernel, ?_, ht.flags⟩
    · rw [perform, ask, ht.failure, field, ht.name]
    · show (t.kernel.assign t.field).name = _
      rw [ht.kernel, field, ht.name]
      rfl
  refine hopen.cons fun t ht => (hattach t ht).cons fun t ht => ?_
  refine ht.follows_control.cons fun t ht => ?_
  refine (ht.follows_ask rfl (by rw [field, ht.name])).cons fun t ht => ?_
  refine (ht.follows_ask rfl (by rw [field, ht.name])).cons fun t ht => ?_
  refine (ht.follows_ask rfl (by rw [field, ht.name])).cons fun t ht => ?_
  refine ht.follows_readFlags.cons fun t ht => ?_
  exact ht.follows_ask rfl (by rw [field, ht.name, ht.flags])

/-- A command of the program that sets routes takes one ending of its script. -/
theorem At.runRouting (h : s.At k routing resolver name flags) (c : Command) :
    (s.runRouting c).1 = routing.take.1 ∧
      attempts (s.runRouting c).2.actions = attempts s.actions ++ [.command c routing.take.1] ∧
      (s.runRouting c).2.At k routing.take.2 resolver name flags := by
  simp only [Setup.runRouting, h.kernel]
  exact ⟨trivial, attempts_act _ rfl, rfl, h.name, h.flags⟩

theorem At.runResolver (h : s.At k routing resolver name flags) (c : Command) :
    (s.runResolver c).1 = resolver.take.1 ∧
      attempts (s.runResolver c).2.actions = attempts s.actions ++ [.command c resolver.take.1] ∧
      (s.runResolver c).2.At k routing resolver.take.2 name flags := by
  simp only [Setup.runResolver, h.kernel]
  exact ⟨trivial, attempts_act _ rfl, rfl, h.name, h.flags⟩

/-- Adding routes, in their order. -/
theorem At.follows_routes (h : s.At k routing resolver name flags) (routes : List Route) :
    Follows settings s (routes.map .addRoute) (routePlan name routing routes)
      fun t => ∃ routing', t.At k routing' resolver name flags := by
  induction routes generalizing s routing with
  | nil => exact ⟨rfl, (List.append_nil _).symm, fun _ => ⟨routing, h⟩⟩
  | cons route routes ih =>
    have hstep : Follows settings s [.addRoute route]
        [⟨.command (.addRoute route name) routing.take.1,
          routeFailure name route routing.take.1⟩]
        (At k routing.take.2 resolver name flags) := by
      obtain ⟨hending, htried, hat⟩ := h.runRouting (.addRoute route name)
      rw [← h.name] at hending htried hat ⊢
      exact .of_perform (congrArg (routeFailure s.name route) hending) htried fun _ => hat
    exact hstep.cons fun t ht => ih ht

/-- Setting one resolver. No failure matters. -/
theorem At.follows_resolver (h : s.At k routing resolver name flags) (server : Address) :
    Follows settings s [.configureResolver server]
      (if resolver.take.1.isSuccess then
        [⟨.command (.setResolver name server) resolver.take.1, none⟩,
          ⟨.command (.claimDomain name) resolver.take.2.take.1, none⟩]
      else [⟨.command (.setResolver name server) resolver.take.1, none⟩])
      (At k routing
        (if resolver.take.1.isSuccess then resolver.take.2.take.2 else resolver.take.2)
        name flags) := by
  obtain ⟨hending, htried, hat⟩ := h.runResolver (.setResolver name server)
  obtain ⟨-, htried', hat'⟩ := hat.runResolver (.claimDomain name)
  have hstep : s.perform settings (.configureResolver server) = (none,
      if resolver.take.1.isSuccess then
        ((s.runResolver (.setResolver name server)).2.runResolver (.claimDomain name)).2
      else (s.runResolver (.setResolver name server)).2) := by
    rw [← hending, perform, configureResolver, h.name]
  by_cases hs : resolver.take.1.isSuccess = true
  · simp only [if_pos hs] at hstep ⊢
    refine ⟨?_, ?_, fun _ => ?_⟩ <;> rw [performAll_singleton, hstep]
    · rfl
    · rw [htried', htried, List.append_assoc]
      rfl
    · exact hat'
  · simp only [if_neg hs] at hstep ⊢
    exact .of_perform (by rw [hstep]) (by rw [hstep, htried]) fun _ => by rw [hstep]; exact hat

/-- Setting resolvers, in their order. -/
theorem At.follows_resolvers (h : s.At k routing resolver name flags) (servers : List Address) :
    Follows settings s (servers.map .configureResolver) (resolverPlan name resolver servers)
      fun t => ∃ resolver', t.At k routing resolver' name flags := by
  induction servers generalizing s resolver with
  | nil => exact ⟨rfl, (List.append_nil _).symm, fun _ => ⟨resolver, h⟩⟩
  | cons server servers ih =>
    have hserver : Follows settings s _ _ _ := h.follows_resolver server
    have hall := hserver.append fun t ht => ih ht
    rw [resolverPlan]
    split
    · rename_i hs; rw [if_pos hs, if_pos hs] at hall; exact hall
    · rename_i hs; rw [if_neg hs, if_neg hs] at hall; exact hall

/-- Registering a device. -/
theorem At.follows_register (h : s.At k routing resolver name flags) :
    Follows settings s [.register] [⟨.call .register, (k.refusal .register).map .os⟩]
      fun t => t.name = name := by
  have hcall : s.call .register = ((k.refusal .register).map .os, s.act (.call .register)) := by
    rw [call, h.failure]
  refine .of_perform ?_ ?_ ?_ <;> rw [perform, hcall]
  · cases k.refusal .register <;> rfl
  · cases k.refusal .register with
    | none => exact s.attempts_act rfl
    | some e => exact (attempts_release _ _).trans (s.attempts_act rfl)
  · intro hnone
    rw [hnone]
    exact h.name

/-- The steps of a creation carry out the plan of the kernel. -/
theorem follows_creation (k : Kernel) (requested : List Char) (settings : InterfaceSettings) :
    Follows settings { kernel := k, name := requested } (creationSteps settings)
      (k.plan requested settings) fun t => t.name = k.deviceName requested := by
  have hstart : At k k.routing k.resolver requested 0 { kernel := k, name := requested } :=
    ⟨rfl, rfl, rfl⟩
  unfold creationSteps Kernel.plan Kernel.configPlan
  rw [List.append_assoc, List.append_assoc, List.append_assoc]
  refine hstart.follows_link.append fun t ht => ?_
  refine (ht.follows_routes _).append fun t ht => ?_
  obtain ⟨routing, ht⟩ := ht
  refine (ht.follows_resolvers _).append fun t ht => ?_
  obtain ⟨resolver, ht⟩ := ht
  exact ht.follows_register

end

end Setup

end TunnelRelay.Device
