import Mathlib.Logic.Relation
import TunnelRelay.Proofs.Grammar
import TunnelRelay.Proofs.Values
/-!
# Layouts of a configuration's text

A configuration depends on the members that its text has of the known names, and on nothing else.
Every text that gives one is the text of a `Document`. `Config.Change` is one change of its layout,
at the level of the configuration or inside its `tun`; every sequence of changes keeps the
configuration. A repeated member is refused at both levels, and so is a text without `server` or
without `port`. A list of values stands for the object of the first members.
-/

namespace TunnelRelay

open Net Json

/-! ## The two records -/

theorem TunConfig.schema_isLawful : TunConfig.schema.IsLawful where
  isField := by
    simp only [TunConfig.schema, List.forall_mem_cons]
    exact ⟨.member _ readsValue_string fun _ _ => rfl, .member _ readsValue_ipv4 fun _ _ => rfl,
      .member _ readsValue_uint8 fun _ _ => rfl, .member _ readsValue_uint16 fun _ _ => rfl,
      .member _ readsValue_string.optional fun _ _ => rfl, by simp⟩
  independent := by
    simp only [TunConfig.schema, List.pairwise_cons, List.forall_mem_cons, List.not_mem_nil,
      false_imp_iff, implies_true, and_true, List.Pairwise.nil]
    and_intros <;>
      exact independent_member (by simp) (by simp) (fun _ _ => rfl) (fun _ _ => rfl)
        fun _ _ _ => rfl
  nodup := by decide
  blank := by decide

theorem TunConfig.takesMembers : Schema.TakesMembers TunConfig.schema.members := by
  simp only [Schema.TakesMembers, TunConfig.schema, List.forall_mem_cons]
  exact ⟨takes_string.member _ _ _, takes_ipv4.member _ _ _, takes_uint8.member _ _ _,
    takes_uint16.member _ _ _, takes_string.optional.member _ _ _, by simp⟩

@[simp]
theorem TunConfig.readsValue : ReadsValue TunConfig.schema.read :=
  TunConfig.schema.readsValue TunConfig.schema_isLawful.reads

theorem Config.schema_isLawful : Config.schema.IsLawful where
  isField := by
    simp only [Config.schema, List.forall_mem_cons]
    exact ⟨.member _ readsValue_uint32 fun _ _ => rfl, .member _ readsValue_string fun _ _ => rfl,
      .member _ readsValue_uint16 fun _ _ => rfl, .member _ readsValue_uint32 fun _ _ => rfl,
      .member _ readsValue_uint64 fun _ _ => rfl, .member _ readsValue_uint64 fun _ _ => rfl,
      .member _ readsValue_uint64 fun _ _ => rfl, .member _ readsValue_uint64 fun _ _ => rfl,
      .member _ readsValue_address fun _ _ => rfl, .member _ TunConfig.readsValue fun _ _ => rfl,
      by simp⟩
  independent := by
    simp only [Config.schema, List.pairwise_cons, List.forall_mem_cons, List.not_mem_nil,
      false_imp_iff, implies_true, and_true, List.Pairwise.nil]
    and_intros <;>
      exact independent_member (by simp) (by simp) (fun _ _ => rfl) (fun _ _ => rfl)
        fun _ _ _ => rfl
  nodup := by decide
  blank := by decide

theorem Config.takesMembers : Schema.TakesMembers Config.schema.members := by
  simp only [Schema.TakesMembers, Config.schema, List.forall_mem_cons]
  exact ⟨takes_uint32.member _ _ _, takes_string.member _ _ _, takes_uint16.member _ _ _,
    takes_uint32.member _ _ _, takes_uint64.member _ _ _, takes_uint64.member _ _ _,
    takes_uint64.member _ _ _, takes_uint64.member _ _ _, takes_address.member _ _ _,
    (Schema.takes TunConfig.takesMembers).member _ _ _, by simp⟩

/-- A text that gives a configuration is the text of a document. -/
theorem Config.exists_document {cs : List Char} {c : Config} (h : Config.decode cs = .ok c) :
    ∃ d : Document, d.render = cs :=
  Schema.exists_document Config.takesMembers h

theorem Config.decode_render (d : Document) :
    Config.decode d.render = Config.schema.ofNode d.core :=
  Config.schema.decode_render Config.schema_isLawful.reads d

/-! ## Defaults -/

/-- The values that mean the same as an absent member of an interface's configuration. -/
inductive TunConfig.Default : String → Node → Prop where
  | name {n : Node} (h : n.readAs readString = .ok "skywire0") : Default "name" n
  | address {n : Node} (h : n.readAs readIpv4 = .ok ⟨192, 168, 255, 2⟩) : Default "address" n
  | prefixLength {n : Node} (h : n.readAs readUInt8 = .ok 29) : Default "prefix_len" n
  | mtu {n : Node} (h : n.readAs readUInt16 = .ok 1500) : Default "mtu" n
  | protectInterface {n : Node} (h : n.readAs (readOptional readString) = .ok none) :
    Default "protect_interface" n

/-- The values that mean the same as an absent member of a configuration. -/
inductive Config.Default : String → Node → Prop where
  | connectionId {n : Node} (h : n.readAs readUInt32 = .ok 0) : Default "connection_id" n
  | maxAttempts {n : Node} (h : n.readAs readUInt32 = .ok 10) : Default "max_attempts" n
  | retryInterval {n : Node} (h : n.readAs readUInt64 = .ok 3000) : Default "retry_interval_ms" n
  | idleInterval {n : Node} (h : n.readAs readUInt64 = .ok 100) : Default "idle_interval_ms" n
  | keepaliveInterval {n : Node} (h : n.readAs readUInt64 = .ok 15000) :
    Default "keepalive_interval_ms" n
  | receiveTimeout {n : Node} (h : n.readAs readUInt64 = .ok 20000) :
    Default "receive_timeout_ms" n
  | dnsServer {n : Node} (h : n.readAs readAddress = .ok (.v4 ⟨8, 8, 8, 8⟩)) :
    Default "dns_server" n
  | tun {n : Node} (h : n.readAs TunConfig.schema.read =
      .ok ⟨"skywire0", ⟨192, 168, 255, 2⟩, 29, 1500, none⟩) : Default "tun" n

theorem TunConfig.completes_of_default {name : String} {n : Node} (h : TunConfig.Default name n) :
    TunConfig.schema.Completes name n := by
  cases h with
  | name h =>
    exact Schema.completes_member 0 rfl (by simp) h fun d hd => by simp [TunConfig.schema, hd]
  | address h =>
    exact Schema.completes_member 1 rfl (by simp) h fun d hd => by simp [TunConfig.schema, hd]
  | prefixLength h =>
    exact Schema.completes_member 2 rfl (by simp) h fun d hd => by simp [TunConfig.schema, hd]
  | mtu h =>
    exact Schema.completes_member 3 rfl (by simp) h fun d hd => by simp [TunConfig.schema, hd]
  | protectInterface h =>
    exact Schema.completes_member 4 rfl (by simp) h fun d hd => by simp [TunConfig.schema, hd]

theorem Config.completes_of_default {name : String} {n : Node} (h : Config.Default name n) :
    Config.schema.Completes name n := by
  cases h with
  | connectionId h =>
    exact Schema.completes_member 0 rfl (by simp) h fun d hd => by simp [Config.schema, hd]
  | maxAttempts h =>
    exact Schema.completes_member 3 rfl (by simp) h fun d hd => by simp [Config.schema, hd]
  | retryInterval h =>
    exact Schema.completes_member 4 rfl (by simp) h fun d hd => by simp [Config.schema, hd]
  | idleInterval h =>
    exact Schema.completes_member 5 rfl (by simp) h fun d hd => by simp [Config.schema, hd]
  | keepaliveInterval h =>
    exact Schema.completes_member 6 rfl (by simp) h fun d hd => by simp [Config.schema, hd]
  | receiveTimeout h =>
    exact Schema.completes_member 7 rfl (by simp) h fun d hd => by simp [Config.schema, hd]
  | dnsServer h =>
    exact Schema.completes_member 8 rfl (by simp) h fun d hd => by simp [Config.schema, hd]
  | tun h =>
    exact Schema.completes_member 9 rfl (by simp) h fun d hd => by simp [Config.schema, hd]

namespace Config

/-- A change of a configuration's text, at its own level or inside `tun`. -/
inductive AtEitherLevel (Own Tun : Node → Node → Prop) : Node → Node → Prop where
  | own {n n' : Node} (h : Own n n') : AtEitherLevel Own Tun n n'
  | tun {inside : Space} {l r : List (Entry Node)} {key : Padded Quoted} {before after : Space}
    {n n' : Node} (hkey : key.core.text = .ok "tun".toList) (h : Tun n n') :
    AtEitherLevel Own Tun (.object inside (l ++ ⟨key, ⟨before, n, after⟩⟩ :: r))
      (.object inside (l ++ ⟨key, ⟨before, n', after⟩⟩ :: r))

/-- One change of the layout. -/
def Change : Node → Node → Prop :=
  AtEitherLevel (schema.Change Default) (TunConfig.schema.Change TunConfig.Default)

/-- One repeated member. -/
def Repeat : Node → Node → Prop := AtEitherLevel schema.Repeat TunConfig.schema.Repeat

/-- One object written as the list of its first values: three of them or more for the
configuration, any number for `tun`. -/
def AsList : Node → Node → Prop := AtEitherLevel (schema.AsList 3) (TunConfig.schema.AsList 0)

/-- One member left out. -/
inductive Remove (name : String) : Node → Node → Prop where
  | member {inside : Space} {l r : List (Entry Node)} {e : Entry Node}
    (he : e.key.core.text = .ok name.toList) :
    Remove name (.object inside (l ++ e :: r)) (.object inside (l ++ r))

/-! ## Members that must be there -/

theorem target_server {e : Entry Node} (h : e.key.core.text = .ok "server".toList) :
    Schema.target schema.members e = .ok (some (member "server" Draft.server
      (fun d a => { d with server := some a }) readString)) :=
  Schema.target_eq_of_text schema_isLawful.nodup (List.mem_of_getElem? (i := 1) rfl) h

theorem target_port {e : Entry Node} (h : e.key.core.text = .ok "port".toList) :
    Schema.target schema.members e = .ok (some (member "port" Draft.port
      (fun d a => { d with port := some a }) readUInt16)) :=
  Schema.target_eq_of_text schema_isLawful.nodup (List.mem_of_getElem? (i := 2) rfl) h

/-- A configuration has a server and a port. -/
theorem isSet_of_complete {d : Draft} {c : Config} (h : schema.complete d = .ok c) :
    d.server.isSome = true ∧ d.port.isSome = true := by
  simp only [schema] at h
  split at h
  · cases h
  · cases h
  · rename_i hserver hport
    simp [hserver, hport]

/-- The server and the port are all that a configuration needs. -/
theorem exists_complete {d : Draft} (hserver : d.server.isSome = true)
    (hport : d.port.isSome = true) : ∃ c, schema.complete d = .ok c := by
  obtain ⟨server, hserver⟩ := Option.isSome_iff_exists.1 hserver
  obtain ⟨port, hport⟩ := Option.isSome_iff_exists.1 hport
  simp [schema, hserver, hport]

theorem complete_of_server_eq_none {d : Draft} (h : d.server = none) :
    schema.complete d = .error (1, "server") := by
  simp [schema, h]

theorem complete_of_port_eq_none {d : Draft} (hserver : d.server.isSome = true)
    (h : d.port = none) : schema.complete d = .error (2, "port") := by
  obtain ⟨server, hserver⟩ := Option.isSome_iff_exists.1 hserver
  simp [schema, hserver, h]

theorem ofNode_remove_server {n n' : Node} (hremove : Remove "server" n n') {c : Config}
    (h : schema.ofNode n = .ok c) : schema.ofNode n' = .error (.missing "server") := by
  obtain ⟨he⟩ := hremove
  obtain ⟨d, hd, -⟩ := Schema.ofNode_object_eq_ok.1 h
  obtain ⟨d₁, hd₁, hset⟩ := schema_isLawful.foldlM_remove (target_server he) hd
  have hserver : d₁.server = none := Option.not_isSome_iff_eq_none.1 (ne_true_of_eq_false hset)
  exact Schema.ofNode_missing hd₁ (complete_of_server_eq_none hserver)

theorem ofNode_remove_port {n n' : Node} (hremove : Remove "port" n n') {c : Config}
    (h : schema.ofNode n = .ok c) : schema.ofNode n' = .error (.missing "port") := by
  obtain ⟨he⟩ := hremove
  obtain ⟨d, hd, hc⟩ := Schema.ofNode_object_eq_ok.1 h
  obtain ⟨d₁, hd₁, henter⟩ := schema_isLawful.foldlM_insert.1 hd
  obtain ⟨d₂, hd₂, hset⟩ := schema_isLawful.foldlM_remove (target_port he) hd
  obtain rfl := Except.ok.inj (hd₁.symm.trans hd₂)
  have hport : d₁.port = none := Option.not_isSome_iff_eq_none.1 (ne_true_of_eq_false hset)
  -- the server stands in another member, so it is still there
  have hserver : d₁.server.isSome = true := by
    refine ((schema_isLawful.isSet_enter (List.mem_of_getElem? (i := 1) rfl) henter).1
      (isSet_of_complete hc).1).resolve_right fun htarget => ?_
    have hname := (Schema.target_eq_some htarget).2.symm.trans he
    exact absurd (Except.ok.inj hname) (by decide)
  exact Schema.ofNode_missing hd₁ (complete_of_port_eq_none hserver hport)

/-! ## The interface's configuration inside -/

theorem target_tun {e : Entry Node} (h : e.key.core.text = .ok "tun".toList) :
    Schema.target schema.members e = .ok (some (member "tun" Draft.tun
      (fun d a => { d with tun := some a }) TunConfig.schema.read)) :=
  Schema.target_eq_of_text schema_isLawful.nodup (List.mem_of_getElem? (i := 9) rfl) h

theorem readAs_tun (n : Node) : n.readAs TunConfig.schema.read = TunConfig.schema.ofNode n :=
  (TunConfig.schema.reads_ofNode TunConfig.schema_isLawful.reads).readAs_eq n

/-- What `tun` is read as is all that matters of it. -/
theorem ofNode_replace_tun {inside : Space} {l r : List (Entry Node)} {key : Padded Quoted}
    (hkey : key.core.text = .ok "tun".toList) {before after : Space} {n n' : Node}
    (h : TunConfig.schema.ofNode n = TunConfig.schema.ofNode n') :
    schema.ofNode (.object inside (l ++ ⟨key, ⟨before, n, after⟩⟩ :: r)) =
      schema.ofNode (.object inside (l ++ ⟨key, ⟨before, n', after⟩⟩ :: r)) := by
  refine Schema.ofNode_replace fun m d hm => ?_
  rw [target_tun hkey] at hm
  cases hm
  rw [readAs_member _ _ _ TunConfig.readsValue, readAs_member _ _ _ TunConfig.readsValue,
    readAs_tun, readAs_tun, h]

/-- In an object that gives a configuration `tun` gives an interface's configuration. -/
theorem exists_ofNode_tun {inside : Space} {l r : List (Entry Node)} {key : Padded Quoted}
    (hkey : key.core.text = .ok "tun".toList) {before after : Space} {n : Node} {c : Config}
    (h : schema.ofNode (.object inside (l ++ ⟨key, ⟨before, n, after⟩⟩ :: r)) = .ok c) :
    ∃ t, TunConfig.schema.ofNode n = .ok t := by
  obtain ⟨d, hd, -⟩ := Schema.ofNode_object_eq_ok.1 h
  obtain ⟨d₁, -, henter⟩ := schema_isLawful.foldlM_insert.1 hd
  obtain ⟨htarget, -⟩ | ⟨m, htarget, -, hread⟩ := Schema.enter_eq_ok.1 henter
  · rw [target_tun hkey] at htarget
    cases htarget
  · rw [target_tun hkey] at htarget
    cases htarget
    rw [readAs_member _ _ _ TunConfig.readsValue, bind_eq_ok] at hread
    obtain ⟨t, ht, -⟩ := hread
    exact ⟨t, (readAs_tun n).symm.trans ht⟩

/-! ## What the layout decides -/

theorem ofNode_change {n n' : Node} (h : Change n n') {c : Config}
    (hc : schema.ofNode n = .ok c) : schema.ofNode n' = .ok c := by
  cases h with
  | own h => exact schema_isLawful.ofNode_change completes_of_default h hc
  | tun hkey h =>
    obtain ⟨t, ht⟩ := exists_ofNode_tun hkey hc
    have ht' := TunConfig.schema_isLawful.ofNode_change TunConfig.completes_of_default h ht
    rwa [← ofNode_replace_tun hkey (ht.trans ht'.symm)]

theorem ofNode_changes {n n' : Node} (h : Relation.ReflTransGen Change n n') {c : Config}
    (hc : schema.ofNode n = .ok c) : schema.ofNode n' = .ok c := by
  induction h with
  | refl => exact hc
  | tail _ h ih => exact ofNode_change h ih

theorem ofNode_repeat {n n' : Node} (h : Repeat n n') :
    ∃ error, schema.ofNode n' = .error error := by
  cases h with
  | own h => exact schema_isLawful.ofNode_repeat h
  | @tun inside l r key before after n n' hkey h =>
    obtain ⟨error, herror⟩ := TunConfig.schema_isLawful.ofNode_repeat h
    cases hc : schema.ofNode (.object inside (l ++ ⟨key, ⟨before, n', after⟩⟩ :: r)) with
    | error error => exact ⟨error, rfl⟩
    | ok c =>
      obtain ⟨t, ht⟩ := exists_ofNode_tun hkey hc
      rw [herror] at ht
      cases ht

theorem ofNode_asList {n n' : Node} (h : AsList n n') : schema.ofNode n' = schema.ofNode n := by
  cases h with
  | own h =>
    refine schema_isLawful.ofNode_asList (fun d hd => ?_) h
    exact exists_complete (hd _ (List.mem_of_getElem? (i := 1) rfl))
      (hd _ (List.mem_of_getElem? (i := 2) rfl))
  | tun hkey h =>
    exact (ofNode_replace_tun hkey
      (TunConfig.schema_isLawful.ofNode_asList (fun _ _ => ⟨_, rfl⟩) h).symm).symm

/-- A text that gives a configuration is the text of a document, and gives the configuration in
every other layout. A repeated member, and one that must be there and is not, are refused, and a
list is read like the object that it stands for. -/
theorem decode_layouts {cs : List Char} {c : Config} (hc : decode cs = .ok c) :
    (∃ d : Document, d.render = cs) ∧
    ∀ d d' : Document, d.render = cs →
      (Relation.ReflTransGen Change d.core d'.core → decode d'.render = .ok c) ∧
      (Repeat d.core d'.core → ∃ error, decode d'.render = .error error) ∧
      (∀ name, name = "server" ∨ name = "port" → Remove name d.core d'.core →
        decode d'.render = .error (.missing name)) ∧
      ∀ d₀ : Document, AsList d₀.core d'.core → decode d'.render = decode d₀.render := by
  refine ⟨exists_document hc, ?_⟩
  rintro d d' rfl
  rw [decode_render] at hc
  simp only [decode_render]
  refine ⟨fun h => ofNode_changes h hc, ofNode_repeat, ?_, fun _ => ofNode_asList⟩
  rintro name (rfl | rfl) h
  · exact ofNode_remove_server h hc
  · exact ofNode_remove_port h hc

/-- The two members that are needed, the other way round and with an unknown one between them. -/
theorem decode_layouts_minimal :
    decode (Value.object [
      ("port".toList, .number 1), (['x'], .list [.null]), ("server".toList, .text ['a'])]).render =
      .ok { server := "a", port := 1 } := by
  have hc : decode (Document.render ⟨.none, (Value.object [
      ("server".toList, .text ['a']), ("port".toList, .number 1)]).toNode, .none⟩) =
      .ok { server := "a", port := 1 } := rfl
  have hswap : Change
      (Value.object [("server".toList, .text ['a']), ("port".toList, .number 1)]).toNode
      (Value.object [("port".toList, .number 1), ("server".toList, .text ['a'])]).toNode :=
    .own (.permute (.swap ..))
  have hinsert : Change
      (Value.object [("port".toList, .number 1), ("server".toList, .text ['a'])]).toNode
      (Value.object [("port".toList, .number 1), (['x'], .list [.null]),
        ("server".toList, .text ['a'])]).toNode :=
    .own (.insert (l := [_]) (r := [_]) (Quoted.text_ofText ['x']) (by decide))
  exact ((decode_layouts hc).2 _ ⟨.none, _, .none⟩ rfl).1 (.head hswap (.single hinsert))

end Config

end TunnelRelay
