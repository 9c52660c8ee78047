import Mathlib.Data.List.TakeWhile
import TunnelRelay.Client.Config
import TunnelRelay.Proofs.RoundTrip
/-!
# Two ways to hand over a configuration

An application hands over a record of byte strings and numbers, and a file holds a JSON object.
`ClientConfig.toJson` is the object of the same content, without the members that stand for their
default. Both ways accept the same and give the same configuration
(`ClientConfig.toConfig?_eq_some_iff_load`).
-/

namespace TunnelRelay

open Net Json

/-- A file is loaded if its text is a configuration and the configuration is valid. -/
theorem Config.load_encode_eq_ok {path : String} {cs : List Char} {c : Config} :
    load path (.ok (Text.Utf8.encode cs)) = .ok c ↔
      decode cs = .ok c ∧ c.validate = .ok () := by
  simp only [load, fileText, Text.Utf8.decode?_encode]
  cases decode cs with
  | error e => simp
  | ok c' =>
    simp only [Except.ok.injEq]
    constructor
    · intro h
      split at h
      · cases h
      · rename_i hvalid
        cases h
        exact ⟨rfl, hvalid⟩
    · rintro ⟨rfl, hvalid⟩
      rw [hvalid]

theorem Config.validate_eq_ok {c : Config} : c.validate = .ok () ↔ c.violation? = none := by
  rw [validate]
  cases c.violation? <;> simp

namespace Client

/-- A text is handed over without loss if no character zero stands in it. -/
theorem textOf?_encode {t? : Option (List Char)} (h : ∀ t ∈ t?, '\x00' ∉ t) :
    textOf? (t?.map Text.Utf8.encode) = t? := by
  cases t? with
  | none => rfl
  | some t =>
    have hall : ∀ b ∈ Text.Utf8.encode t, (b != 0) = true := by
      intro b hb
      rw [bne_iff_ne]
      rintro rfl
      exact Text.Utf8.zero_notMem_encode (h t rfl) hb
    have hwhole : (Text.Utf8.encode t).takeWhile (· != 0) = Text.Utf8.encode t := by
      exact List.takeWhile_eq_self_iff.2 hall
    simp [textOf?, hwhole]

/-- A number that does not stand for a default. -/
def nonZero? (n : UInt32) : Option UInt32 := if n = 0 then none else some n

/-- The default is what an absent number stands for. -/
theorem orDefault_eq {α : Type} (n : UInt32) (ofNumber : UInt32 → α) (default : α) :
    orDefault n ofNumber default = ((nonZero? n).map ofNumber).getD default := by
  unfold orDefault nonZero?
  split <;> rfl

/-- A member of an object, if there is a value for it. -/
def member? {α : Type} (name : String) (a? : Option α) (f : α → Value) :
    List (List Char × Value) :=
  (a?.map fun a => (name.toList, f a)).toList

namespace ClientConfig

/-- The numbers that do not stand for their defaults. -/
def numberMembers (c : ClientConfig) : List (List Char × Value) :=
  member? "max_attempts" (nonZero? c.maxAttempts) (fun n => .number n.toNat) ++
  (member? "retry_interval_ms" (nonZero? c.retryInterval) (fun n => .number n.toNat) ++
  (member? "keepalive_interval_ms" (nonZero? c.keepaliveInterval) (fun n => .number n.toNat) ++
  (member? "receive_timeout_ms" (nonZero? c.receiveTimeout) (fun n => .number n.toNat) ++ [])))

/-- The members with the content of a configuration whose texts are `server` and `dnsServer`. -/
def members (c : ClientConfig) (server dnsServer : Option (List Char)) :
    List (List Char × Value) :=
  ("connection_id".toList, .number c.connectionId.toNat) ::
  ("port".toList, .number c.port.toNat) ::
  (member? "server" server .text ++ (member? "dns_server" dnsServer .text ++ c.numberMembers))

/-- The JSON object with the content of a configuration whose texts are `server` and
`dnsServer`. -/
def toJson (c : ClientConfig) (server dnsServer : Option (List Char)) : Value :=
  .object (c.members server dnsServer)

/-- The configuration that is meant, valid or not. -/
def meant? (c : ClientConfig) (server dnsServer : Option (List Char)) : Option Config := do
  let server ← server
  let port ← if c.port.toNat < 65536 then some c.port.toUInt16 else none
  let dnsServer ← dnsServer.elim (some (.v4 ⟨8, 8, 8, 8⟩)) Address.parse?
  pure {
    connectionId := c.connectionId
    server := String.ofList server
    port := port
    maxAttempts := ((nonZero? c.maxAttempts).map id).getD 10
    retryInterval := ((nonZero? c.retryInterval).map UInt32.toUInt64).getD 3000
    keepaliveInterval := ((nonZero? c.keepaliveInterval).map UInt32.toUInt64).getD 15000
    receiveTimeout := ((nonZero? c.receiveTimeout).map UInt32.toUInt64).getD 20000
    dnsServer := dnsServer }

/-- An application gets the configuration that it means if that is valid. -/
theorem toConfig?_eq_some {c : ClientConfig} {server dnsServer : Option (List Char)}
    (hserver : textOf? c.server = server) (hdns : textOf? c.dnsServer = dnsServer)
    {config : Config} :
    c.toConfig? = some config ↔
      c.meant? server dnsServer = some config ∧ config.validate = .ok () := by
  have hvalid : ∀ meant : Config, meant.violation?.elim (some meant) (fun _ => none) = some config ↔
      some meant = some config ∧ config.validate = .ok () := by
    intro meant
    rw [Config.validate_eq_ok]
    constructor
    · intro h
      cases hv : meant.violation? with
      | some _ => rw [hv] at h; cases h
      | none =>
        rw [hv] at h
        cases h
        exact ⟨rfl, hv⟩
    · rintro ⟨⟨⟩, hnone⟩
      rw [hnone]
      rfl
  rw [toConfig?, meant?, hserver, hdns]
  cases server with
  | none => simp
  | some server =>
    by_cases hport : c.port.toNat < 65536
    · simp only [Option.bind_eq_bind, Option.bind_some, if_pos hport, orDefault_eq]
      cases dnsServer with
      | none =>
        refine Iff.trans ?_ (hvalid _)
        dsimp only
        generalize Config.violation? _ = v
        cases v <;> rfl
      | some cs =>
        simp only [Option.elim_some]
        cases Address.parse? cs with
        | none => simp
        | some a =>
          refine Iff.trans ?_ (hvalid _)
          rw [Option.bind_some]
          generalize Config.violation? _ = v
          cases v <;> rfl
    · simp [hport]

/-- The compact text is one way of writing the object. -/
theorem writes_toNode (c : ClientConfig) (server dnsServer : Option (List Char)) :
    (c.toJson server dnsServer).toNode.Writes (c.toJson server dnsServer) := by
  have hnumber : ∀ k : UInt32, (Value.number k.toNat).toNode.Writes (.number k.toNat) := fun k =>
    Value.writes_number (le_trans k.toNat_lt.le (by decide))
  refine Value.writes_object fun m hm => ?_
  simp only [members, numberMembers, member?, List.mem_cons, List.mem_append, Option.mem_toList,
    Option.map_eq_some_iff, List.not_mem_nil, or_false] at hm
  rcases hm with rfl | rfl | ⟨t, -, rfl⟩ | ⟨t, -, rfl⟩ | ⟨k, -, rfl⟩ | ⟨k, -, rfl⟩ | ⟨k, -, rfl⟩ |
    ⟨k, -, rfl⟩
  · exact hnumber _
  · exact hnumber _
  · exact Value.writes_text t
  · exact Value.writes_text t
  all_goals exact hnumber k

section

variable {c : ClientConfig} {server dnsServer : Option (List Char)} {n : Node}

theorem readAs_port (h : n.Writes (.number c.port.toNat)) :
    n.readAs readUInt16 =
      if c.port.toNat < 65536 then .ok c.port.toUInt16
      else .error (.outOfRange (.unsigned c.port.toNat) "u16") := by
  rw [h.readAs_uint16_eq]
  by_cases hport : c.port.toNat < 65536
  · rw [if_pos hport, if_pos (Nat.le_of_lt_succ hport)]
    rfl
  · rw [if_neg hport, if_neg fun hle => hport (Nat.lt_succ_of_le hle)]

theorem readAs_text {cs : List Char} (h : n.Writes (.text cs)) :
    n.readAs readString = .ok (String.ofList cs) :=
  Node.Writes.readAs_string (by simpa using h)

theorem readAs_wider {k : UInt32} (h : n.Writes (.number k.toNat)) :
    n.readAs readUInt64 = .ok k.toUInt64 :=
  Node.Writes.readAs_uint64 (by simpa using h)

/-- What has been read in front of the resolver. -/
def draft (c : ClientConfig) (server : Option (List Char)) : Config.Draft :=
  { connectionId := some c.connectionId
    port := some c.port.toUInt16
    server := server.map String.ofList }

/-- What has been read of the whole object. -/
def wholeDraft (c : ClientConfig) (server : Option (List Char)) (resolver? : Option Address) :
    Config.Draft :=
  { c.draft server with
    dnsServer := resolver?
    maxAttempts := (nonZero? c.maxAttempts).map id
    retryInterval := (nonZero? c.retryInterval).map UInt32.toUInt64
    keepaliveInterval := (nonZero? c.keepaliveInterval).map UInt32.toUInt64
    receiveTimeout := (nonZero? c.receiveTimeout).map UInt32.toUInt64 }

theorem enters_numberMembers (resolver? : Option Address) :
    Schema.Enters Config.schema.members c.numberMembers
      { c.draft server with dnsServer := resolver? } (.ok (c.wholeDraft server resolver?)) := by
  have hnodup := Config.schema_isLawful.nodup
  refine .option hnodup 3 rfl (by simp) rfl (fun d a => { d with maxAttempts := a }) rfl
    (fun _ => rfl) (fun _ _ h => h.readAs_uint32) ?_
  refine .option hnodup 4 rfl (by simp) rfl (fun d a => { d with retryInterval := a }) rfl
    (fun _ => rfl) (fun _ _ h => readAs_wider h) ?_
  refine .option hnodup 6 rfl (by simp) rfl (fun d a => { d with keepaliveInterval := a }) rfl
    (fun _ => rfl) (fun _ _ h => readAs_wider h) ?_
  exact .option hnodup 7 rfl (by simp) rfl (fun d a => { d with receiveTimeout := a }) rfl
    (fun _ => rfl) (fun _ _ h => readAs_wider h) .nil

/-- The members in front of the resolver are read if the port is one. -/
theorem enters_toJson (hport : c.port.toNat < 65536) {x : Except Json.Error Config.Draft}
    (hx : Schema.Enters Config.schema.members
      (member? "dns_server" dnsServer .text ++ c.numberMembers) (c.draft server) x) :
    Schema.Enters Config.schema.members (c.members server dnsServer) {} x := by
  have hnodup := Config.schema_isLawful.nodup
  refine .cons hnodup 0 rfl (by simp) rfl (fun _ h => h.readAs_uint32) ?_
  refine .cons hnodup 2 rfl (by simp) rfl (fun _ h => (readAs_port h).trans (if_pos hport)) ?_
  exact .option hnodup 1 rfl (by simp) rfl (fun d a => { d with server := a }) rfl
    (fun _ => rfl) (fun _ _ h => readAs_text h) hx

theorem complete_wholeDraft (hport : c.port.toNat < 65536) {r : Option Address}
    (hr : dnsServer.elim (some (.v4 ⟨8, 8, 8, 8⟩)) Address.parse? =
      some (r.getD (.v4 ⟨8, 8, 8, 8⟩))) {config : Config} :
    Config.schema.complete (c.wholeDraft server r) = .ok config ↔
      c.meant? server dnsServer = some config := by
  cases server with
  | none => simp [Config.schema, wholeDraft, draft, meant?]
  | some server => simp [Config.schema, wholeDraft, draft, meant?, hport, hr]

/-- The object gives the configuration that is meant. -/
theorem ofNode_eq_ok (hn : n.Writes (c.toJson server dnsServer)) {config : Config} :
    Config.schema.ofNode n = .ok config ↔ c.meant? server dnsServer = some config := by
  have hnodup := Config.schema_isLawful.nodup
  by_cases hport : c.port.toNat < 65536
  · -- what has been read in front of the resolver is the same in every case
    have hresult : ∀ x, Schema.Enters Config.schema.members
        (member? "dns_server" dnsServer .text ++ c.numberMembers) (c.draft server) x →
        (Config.schema.ofNode n = .ok config ↔
          ∃ d, x = .ok d ∧ Config.schema.complete d = .ok config) := fun x hx =>
      Config.schema_isLawful.ofNode_writes hn (enters_toJson hport hx)
    cases dnsServer with
    | none =>
      rw [hresult _ (enters_numberMembers none), ← complete_wholeDraft hport (r := none) rfl]
      simp
    | some cs =>
      cases ha : Address.parse? cs with
      | some a =>
        have hx : Schema.Enters Config.schema.members
            (member? "dns_server" (some cs) .text ++ c.numberMembers) (c.draft server)
            (.ok (c.wholeDraft server (some a))) :=
          .cons hnodup 8 rfl (by simp) rfl
            (fun _ h => h.readAs_address.trans (congrArg (addressOr "IP") ha))
            (enters_numberMembers (some a))
        have hr : (some cs).elim (some (.v4 ⟨8, 8, 8, 8⟩)) Address.parse? =
            some ((some a).getD (.v4 ⟨8, 8, 8, 8⟩)) := ha
        rw [hresult _ hx, ← complete_wholeDraft hport hr]
        simp
      | none =>
        have hx : Schema.Enters Config.schema.members
            (member? "dns_server" (some cs) .text ++ c.numberMembers) (c.draft server)
            (.error (.notAnAddress "IP")) :=
          .cons_error hnodup 8 rfl (by simp) rfl
            fun _ h => h.readAs_address.trans (congrArg (addressOr "IP") ha)
        rw [hresult _ hx]
        cases server <;> simp [meant?, hport, ha]
  · have hx : Schema.Enters Config.schema.members (c.members server dnsServer) {}
        (.error (.outOfRange (.unsigned c.port.toNat) "u16")) :=
      .cons hnodup 0 rfl (by simp) rfl (fun _ h => h.readAs_uint32)
        (.cons_error hnodup 2 rfl (by simp) rfl
          fun _ h => (readAs_port h).trans (if_neg hport))
    rw [Config.schema_isLawful.ofNode_writes hn hx]
    cases server <;> simp [meant?, hport]

end

/-- Both ways to hand over a configuration accept the same and give the same, and what they give
is valid. The texts are there or not, and no character zero stands in them. -/
theorem toConfig?_eq_some_iff_load {c : ClientConfig} {server dnsServer : Option (List Char)}
    (hserver : c.server = server.map Text.Utf8.encode)
    (hdns : c.dnsServer = dnsServer.map Text.Utf8.encode)
    (hserver₀ : ∀ t ∈ server, '\x00' ∉ t) (hdns₀ : ∀ t ∈ dnsServer, '\x00' ∉ t) {d : Document}
    (hd : d.core.Writes (c.toJson server dnsServer)) (path : String) (config : Config) :
    (c.toConfig? = some config ↔
      Config.load path (.ok (Text.Utf8.encode d.render)) = .ok config) ∧
    (c.toConfig? = some config → config.validate = .ok ()) := by
  have hserver' : textOf? c.server = server := by rw [hserver, textOf?_encode hserver₀]
  have hdns' : textOf? c.dnsServer = dnsServer := by rw [hdns, textOf?_encode hdns₀]
  have hmeant : c.toConfig? = some config ↔
      c.meant? server dnsServer = some config ∧ config.validate = .ok () :=
    toConfig?_eq_some hserver' hdns'
  refine ⟨?_, fun h => (hmeant.1 h).2⟩
  rw [hmeant, Config.load_encode_eq_ok, Config.decode_render, ofNode_eq_ok hd]

/-- A server and a port with one number that is not its default. -/
theorem toConfig?_eq_some_iff_load_minimal :
    Config.load "relay.json" (.ok (Text.Utf8.encode (Value.object [
      ("connection_id".toList, .number 3), ("port".toList, .number 7777),
      ("server".toList, .text ['a']), ("retry_interval_ms".toList, .number 500)]).render)) =
      .ok { connectionId := 3, server := "a", port := 7777, retryInterval := 500 } := by
  have hd := writes_toNode ⟨3, some [0x61], 7777, none, 0, 500, 0, 0⟩ (some ['a']) none
  exact (toConfig?_eq_some_iff_load (d := ⟨.none, _, .none⟩) rfl rfl (by decide) (by decide) hd
    "relay.json" _).1.1 (by decide)

end ClientConfig

end Client

end TunnelRelay
