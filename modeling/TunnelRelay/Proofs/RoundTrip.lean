import TunnelRelay.Config.Load
import TunnelRelay.Proofs.Layouts
/-!
# A configuration is read back

Every way of writing the JSON value of a configuration gives that configuration
(`Config.decode_writes`), the compact text among them, and a file that holds it is loaded if the
configuration is valid (`Config.decode_encode`).
-/

namespace TunnelRelay

open Net Json

namespace TunConfig

theorem ofNode_writes {t : TunConfig} {n : Node} (h : n.Writes t.toJson) :
    schema.ofNode n = .ok t := by
  have hnodup := schema_isLawful.nodup
  let draft : Draft :=
    ⟨some t.name, some t.address, some t.prefixLength, some t.mtu, some t.protectInterface⟩
  refine (schema_isLawful.ofNode_writes h (x := .ok draft) ?_).2 ⟨_, rfl, rfl⟩
  refine .cons hnodup 0 rfl (by simp) rfl (fun _ h => h.readAs_string) ?_
  refine .cons hnodup 1 rfl (by simp) rfl (fun _ h => h.readAs_ipv4) ?_
  refine .cons hnodup 2 rfl (by simp) rfl (fun _ h => h.readAs_uint8) ?_
  refine .cons hnodup 3 rfl (by simp) rfl (fun _ h => h.readAs_uint16) ?_
  exact .cons hnodup 4 rfl (by simp) rfl (fun _ h => h.readAs_optionalString) .nil

theorem writes_toNode (t : TunConfig) : t.toJson.toNode.Writes t.toJson := by
  have hprefix : t.prefixLength.toNat < 256 := t.prefixLength.toNat_lt
  have hmtu : t.mtu.toNat < 65536 := t.mtu.toNat_lt
  refine Value.writes_object ?_
  simp only [List.forall_mem_cons]
  refine ⟨Value.writes_text _, Value.writes_text _, Value.writes_number ?_, Value.writes_number ?_,
    ?_, by simp⟩
  · exact le_trans hprefix.le (by decide)
  · exact le_trans hmtu.le (by decide)
  · cases t.protectInterface with
    | none => exact .null
    | some name => exact Value.writes_text _

end TunConfig

namespace Config

theorem ofNode_writes {c : Config} {n : Node} (h : n.Writes c.toJson) :
    schema.ofNode n = .ok c := by
  have hnodup := schema_isLawful.nodup
  let draft : Draft :=
    ⟨some c.connectionId, some c.server, some c.port, some c.maxAttempts, some c.retryInterval,
      some c.idleInterval, some c.keepaliveInterval, some c.receiveTimeout, some c.dnsServer,
      some c.tun⟩
  refine (schema_isLawful.ofNode_writes h (x := .ok draft) ?_).2 ⟨_, rfl, rfl⟩
  refine .cons hnodup 0 rfl (by simp) rfl (fun _ h => h.readAs_uint32) ?_
  refine .cons hnodup 1 rfl (by simp) rfl (fun _ h => h.readAs_string) ?_
  refine .cons hnodup 2 rfl (by simp) rfl (fun _ h => h.readAs_uint16) ?_
  refine .cons hnodup 3 rfl (by simp) rfl (fun _ h => h.readAs_uint32) ?_
  refine .cons hnodup 4 rfl (by simp) rfl (fun _ h => h.readAs_uint64) ?_
  refine .cons hnodup 5 rfl (by simp) rfl (fun _ h => h.readAs_uint64) ?_
  refine .cons hnodup 6 rfl (by simp) rfl (fun _ h => h.readAs_uint64) ?_
  refine .cons hnodup 7 rfl (by simp) rfl (fun _ h => h.readAs_uint64) ?_
  refine .cons hnodup 8 rfl (by simp) rfl (a := c.dnsServer) (fun _ h => ?_) ?_
  · rw [h.readAs_address, Address.parse?_render]
    rfl
  refine .cons hnodup 9 rfl (by simp) rfl (a := c.tun) (fun n h => ?_) .nil
  exact (readAs_tun n).trans (TunConfig.ofNode_writes h)

theorem writes_toNode (c : Config) : c.toJson.toNode.Writes c.toJson := by
  have h16 : ∀ k : UInt16, k.toNat ≤ greatestInteger := fun k =>
    le_trans k.toNat_lt.le (by decide)
  have h32 : ∀ k : UInt32, k.toNat ≤ greatestInteger := fun k =>
    le_trans k.toNat_lt.le (by decide)
  have h64 : ∀ k : UInt64, k.toNat ≤ greatestInteger := fun k =>
    Nat.le_sub_one_of_lt k.toNat_lt
  refine Value.writes_object ?_
  simp only [List.forall_mem_cons]
  exact ⟨Value.writes_number (h32 _), Value.writes_text _, Value.writes_number (h16 _),
    Value.writes_number (h32 _), Value.writes_number (h64 _), Value.writes_number (h64 _),
    Value.writes_number (h64 _), Value.writes_number (h64 _), Value.writes_text _,
    c.tun.writes_toNode, by simp⟩

/-- A configuration is read back from every way of writing it. -/
theorem decode_writes {c : Config} {d : Document} (h : d.core.Writes c.toJson) :
    decode d.render = .ok c :=
  (decode_render d).trans (ofNode_writes h)

/-- The compact text of a configuration is one way of writing it. -/
theorem encode_eq_render (c : Config) :
    c.encode = Document.render ⟨.none, c.toJson.toNode, .none⟩ := by
  simp [encode, Document.render, Node.renderPadded, Value.render_toNode, Space.none]

/-- A configuration is read back from its text, and a file of that text is loaded if the
configuration is valid and refused for the rule that it breaks if it is not. -/
theorem decode_encode (c : Config) (path : String) :
    decode c.encode = .ok c ∧
      load path (.ok (Text.Utf8.encode c.encode)) =
        match c.validate with
        | .ok () => .ok c
        | .error e => .error (.invalid e) := by
  have hdecode : decode c.encode = .ok c := by
    rw [encode_eq_render]
    exact decode_writes (writes_toNode c)
  refine ⟨hdecode, ?_⟩
  simp only [load, fileText, Text.Utf8.decode?_encode, hdecode]
  cases c.validate <;> rfl

end Config

end TunnelRelay
