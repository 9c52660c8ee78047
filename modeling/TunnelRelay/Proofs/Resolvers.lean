import TunnelRelay.Proofs.Handover
/-!
# The resolver that an application hands over

A resolver is handed over as bytes that a zero ends. They decide about the resolver, and perhaps
that there is no configuration at all, but about nothing else (`toConfig?_eq_bind`). The text of an
address chooses that address, and any other text is refused. Bytes that are no text are not
refused: they stand for the default as if nothing had been handed over, so there the application's
choice is replaced (`toConfig?_undecodable`), although an undecodable server is refused.
-/

namespace TunnelRelay.Client.ClientConfig

open Net Text

/-- The same configuration without a resolver. -/
def withoutResolver (c : ClientConfig) : ClientConfig := { c with dnsServer := none }

/-- The resolver that stands for none. -/
def defaultResolver : Address := .v4 ⟨8, 8, 8, 8⟩

/-- The resolver that a text names. Where there is no text it is the default. -/
def resolverOf? (text? : Option (List Char)) : Option Address :=
  text?.elim (some defaultResolver) Address.parse?

theorem meant?_eq_bind (c : ClientConfig) (server text? : Option (List Char)) :
    c.meant? server text? = (resolverOf? text?).bind fun a =>
      (c.withoutResolver.meant? server none).map fun config => { config with dnsServer := a } := by
  unfold meant?
  cases server with
  | none => cases resolverOf? text? <;> rfl
  | some server =>
    by_cases hp : c.port.toNat < 65536
    · have hp' : c.withoutResolver.port.toNat < 65536 := hp
      simp only [Option.bind_eq_bind, Option.bind_some, if_pos hp, if_pos hp']
      cases h : resolverOf? text? <;> rw [resolverOf?, defaultResolver] at h <;> rw [h] <;> rfl
    · have hp' : ¬ c.withoutResolver.port.toNat < 65536 := hp
      cases resolverOf? text? <;> simp [hp, hp']

/-- The resolver is one thing, the rest of a configuration another. -/
theorem toConfig?_eq_bind (c : ClientConfig) :
    c.toConfig? = (resolverOf? (textOf? c.dnsServer)).bind fun a =>
      c.withoutResolver.toConfig?.map fun config => { config with dnsServer := a } := by
  ext config
  have hrest : ∀ rest, c.withoutResolver.toConfig? = some rest ↔
      c.withoutResolver.meant? (textOf? c.server) none = some rest ∧ rest.validate = .ok () :=
    fun rest => toConfig?_eq_some rfl rfl
  rw [toConfig?_eq_some rfl rfl, meant?_eq_bind]
  simp only [Option.bind_eq_some_iff, Option.map_eq_some_iff, hrest]
  -- no rule for configurations looks at the resolver, so `hv` goes over as it is
  constructor
  · rintro ⟨⟨a, ha, rest, hm, rfl⟩, hv⟩
    exact ⟨a, ha, rest, ⟨hm, hv⟩, rfl⟩
  · rintro ⟨a, ha, rest, ⟨hm, hv⟩, rfl⟩
    exact ⟨⟨a, ha, rest, hm, rfl⟩, hv⟩

theorem dnsServer_of_toConfig? {c : ClientConfig} {config : Config}
    (h : c.toConfig? = some config) :
    resolverOf? (textOf? c.dnsServer) = some config.dnsServer := by
  rw [toConfig?_eq_bind, Option.bind_eq_some_iff] at h
  obtain ⟨a, ha, hc⟩ := h
  obtain ⟨rest, -, rfl⟩ := Option.map_eq_some_iff.1 hc
  exact ha

/-- Where there is no text the resolver is the default and all else is as it is. -/
theorem toConfig?_of_textOf?_eq_none {c : ClientConfig} (h : textOf? c.dnsServer = none) :
    c.toConfig? = c.withoutResolver.toConfig? := by
  unfold toConfig?
  rw [h]
  rfl

/-- What becomes of a resolver that is handed over, where `chars` is what stands in front of the
zero. The text of an address chooses that address and changes nothing else; another text is
refused; bytes of no text count as if nothing had been handed over. So whatever comes out, it has
the chosen resolver, or else no text was handed over and it has the default. -/
theorem toConfig?_of_dnsServer {c : ClientConfig} {bytes chars : List UInt8}
    (hdns : c.dnsServer = some bytes) (hchars : bytes.takeWhile (· != 0) = chars) :
    (∀ cs, chars = Utf8.encode cs → c.toConfig? = (Address.parse? cs).bind fun a =>
      c.withoutResolver.toConfig?.map fun config => { config with dnsServer := a }) ∧
    ((∀ cs, chars ≠ Utf8.encode cs) → c.toConfig? = c.withoutResolver.toConfig?) ∧
    ∀ config, c.toConfig? = some config →
      (∃ cs, chars = Utf8.encode cs ∧ Address.parse? cs = some config.dnsServer) ∨
      (∀ cs, chars ≠ Utf8.encode cs) ∧ config.dnsServer = defaultResolver := by
  have htext : textOf? c.dnsServer = Utf8.decode? chars := by
    rw [hdns, textOf?, Option.bind_some, hchars]
  have hnone : (∀ cs, chars ≠ Utf8.encode cs) → textOf? c.dnsServer = none := by
    intro h
    rw [htext, Option.eq_none_iff_forall_ne_some]
    intro cs hcs
    exact h cs (Utf8.decode?_eq_some_iff.1 hcs)
  have hsome : ∀ cs, chars = Utf8.encode cs → textOf? c.dnsServer = some cs := by
    intro cs h
    rw [htext, Utf8.decode?_eq_some_iff.2 h]
  refine ⟨?_, ?_, ?_⟩
  · intro cs h
    rw [toConfig?_eq_bind c, hsome cs h]
    rfl
  · intro h
    exact toConfig?_of_textOf?_eq_none (hnone h)
  · intro config h
    have hr := dnsServer_of_toConfig? h
    by_cases ht : ∃ cs, chars = Utf8.encode cs
    · obtain ⟨cs, hcs⟩ := ht
      rw [hsome cs hcs] at hr
      exact .inl ⟨cs, hcs, hr⟩
    · rw [not_exists] at ht
      rw [hnone ht] at hr
      exact .inr ⟨ht, (Option.some.inj hr).symm⟩

/-- A server at 10.10.0.1 and the given resolver. -/
def handed (dns : List UInt8) : ClientConfig :=
  ⟨3, some [49, 48, 46, 49, 48, 46, 48, 46, 49, 0], 7777, some dns, 0, 0, 0, 0⟩

/-- The text 9.9.9.9 chooses that resolver. -/
theorem toConfig?_of_quad_nine :
    (handed [57, 46, 57, 46, 57, 46, 57, 0]).toConfig? = some
      { connectionId := 3, server := "10.10.0.1", port := 7777, dnsServer := .v4 ⟨9, 9, 9, 9⟩ } := by
  have hchars : [57, 46, 57, 46, 57, 46, 57, 0].takeWhile (· != 0) =
      Utf8.encode ['9', '.', '9', '.', '9', '.', '9'] := by decide
  rw [(toConfig?_of_dnsServer rfl hchars).1 _ rfl]
  decide

/-- The byte 0xFF is no text. It is handed over as a resolver, and what comes out is a configuration
with another one. -/
theorem toConfig?_undecodable : ¬ ∀ config, (handed [0xFF, 0]).toConfig? = some config →
    ∃ cs, [0xFF] = Utf8.encode cs ∧ Address.parse? cs = some config.dnsServer := by
  intro h
  obtain ⟨cs, hcs, -⟩ := h
    { connectionId := 3, server := "10.10.0.1", port := 7777, dnsServer := .v4 ⟨8, 8, 8, 8⟩ }
    (by decide)
  have hnone : Utf8.decode? [0xFF] = none := by decide
  rw [Utf8.decode?_eq_some_iff.2 hcs] at hnone
  cases hnone

end TunnelRelay.Client.ClientConfig
