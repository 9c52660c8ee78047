import TunnelRelay.Net.Address
import TunnelRelay.Proofs.Encodings
/-!
# Addresses as they are written

`Address.parse?_render`: an address of either family is read back from its canonical text, also
where that text leaves out a run of zero groups or ends in a dotted form. No IPv6 text starts like
an IPv4 text, so the two families do not get in each other's way.
-/

namespace TunnelRelay.Net

namespace Ipv4

theorem readByte_renderByte (n : UInt8) {rest : List Char}
    (hr : ∀ c ∈ rest.head?, c.isDigit = false) :
    readByte (renderByte n ++ rest) = some (n, rest) := by
  have hn : n.toNat < 256 := n.toNat_lt
  obtain ⟨ht, hd⟩ := takeWhile_toDigits (b := 10) (p := Char.isDigit) (by omega)
    (fun d hd => by simp [hd]) n.toNat rest hr
  have hv := foldl_toDigits (b := 10) (by omega) (fun c => c.toNat - 0x30)
    (fun d hd => Nat.toNat_digitChar_sub_48_of_lt_ten hd) n.toNat
  have hl : (Nat.toDigits 10 n.toNat).length ≤ 3 :=
    (Nat.length_toDigits_le_iff (by omega) (by omega)).2 (by omega)
  unfold readByte renderByte
  simp only [ht, hd, hv]
  rw [if_neg]
  · simp
  · simp only [not_or, List.isEmpty_iff]
    refine ⟨Nat.toDigits_ne_nil, by omega, by omega, ?_⟩
    rintro ⟨hlt, h0⟩
    rw [eq_zero_of_head?_toDigits (by omega) _ h0] at hlt
    simp at hlt

theorem read_render (ip : Ipv4) (rest : List Char) (hr : ∀ c ∈ rest.head?, c.isDigit = false) :
    read (ip.render ++ rest) = some (ip, rest) := by
  simp only [read, render, List.append_assoc, List.cons_append]
  rw [readByte_renderByte _ (by simp)]
  simp only [Option.bind_eq_bind, Option.bind_some, readPoint]
  rw [readByte_renderByte _ (by simp)]
  simp only [Option.bind_some]
  rw [readByte_renderByte _ (by simp)]
  simp only [Option.bind_some]
  rw [readByte_renderByte _ hr]
  rfl

theorem parse?_render (ip : Ipv4) : parse? ip.render = some ip := by
  have h := read_render ip [] (by simp)
  rw [List.append_nil] at h
  rw [parse?, h]

/-- An address starts with digits and a point. -/
theorem head?_of_read {cs : List Char} (h : (read cs).isSome) :
    (cs.dropWhile Char.isDigit).head? = some '.' := by
  unfold read readByte at h
  simp only [Option.bind_eq_bind] at h
  split at h
  · simp at h
  · simp only [Option.bind_some] at h
    cases hc : cs.dropWhile Char.isDigit with
    | nil => simp [hc, readPoint] at h
    | cons c rest =>
      by_cases hp : c = '.'
      · simp [hp]
      · rw [hc] at h
        unfold readPoint at h
        split at h
        · rename_i he
          cases he
          simp at hp
        · simp at h

end Ipv4

namespace Ipv6

theorem digit?_digitChar {d : Nat} (hd : d < 16) : digit? d.digitChar = some d := by
  interval_cases d <;> rfl

theorem digitChar_ne_point {d : Nat} (hd : d < 16) : d.digitChar ≠ '.' := by
  interval_cases d <;> decide

/-- What can follow a group: nothing, or a colon. -/
def EndsGroup (rest : List Char) : Prop := ∀ c ∈ rest.head?, c = ':'

theorem readGroup_renderGroup (g : UInt16) {rest : List Char} (hr : EndsGroup rest) :
    readGroup (renderGroup g ++ rest) = some (g, rest) := by
  have hg : g.toNat < 65536 := g.toNat_lt
  obtain ⟨ht, -⟩ := takeWhile_toDigits (b := 16) (p := fun c => (digit? c).isSome) (by omega)
    (fun d hd => by simp [digit?_digitChar hd]) g.toNat rest
    (fun c hc => by rw [hr c hc]; rfl)
  have hv := foldl_toDigits (b := 16) (by omega) (fun c => (digit? c).getD 0)
    (fun d hd => by simp [digit?_digitChar hd]) g.toNat
  have hl : (Nat.toDigits 16 g.toNat).length ≤ 4 :=
    (Nat.length_toDigits_le_iff (by omega) (by omega)).2 (by omega)
  simp only [readGroup, renderGroup, ht, hv]
  rw [if_neg (by simp [hl])]
  simp

theorem readGroup_eq_none {cs : List Char} (h : EndsGroup cs) : readGroup cs = none := by
  unfold readGroup
  cases cs with
  | nil => rfl
  | cons c cs =>
    obtain rfl := h c rfl
    rfl

/-- A group that no point follows does not start an IPv4 address. -/
theorem read_renderGroup (g : UInt16) {rest : List Char} (hr : EndsGroup rest) :
    Ipv4.read (renderGroup g ++ rest) = none := by
  by_contra h
  have hp := Ipv4.head?_of_read (Option.isSome_iff_ne_none.2 h)
  have hm : '.' ∈ renderGroup g ++ rest :=
    (List.dropWhile_sublist _).mem (List.mem_of_head? hp)
  rw [List.dropWhile_append] at hp
  split at hp
  · cases rest with
    | nil => simp at hp
    | cons c rest =>
      obtain rfl := hr c rfl
      simp at hp
  · rename_i hne
    rw [List.head?_append_of_ne_nil _ (by simpa using hne)] at hp
    have hm := (List.dropWhile_sublist _).mem (List.mem_of_head? hp)
    obtain ⟨d, hd, h⟩ := exists_digitChar_of_mem_toDigits (by omega) _ hm
    exact digitChar_ne_point hd h.symm

theorem read_eq_none {cs : List Char} (h : EndsGroup cs) : Ipv4.read cs = none := by
  cases cs with
  | nil => rfl
  | cons c cs =>
    obtain rfl := h c rfl
    rfl

/-- Groups behind a first one, each with its colon. -/
def renderMore (gs : List UInt16) : List Char := gs.flatMap fun g => ':' :: renderGroup g

theorem renderGroups_cons (g : UInt16) (gs : List UInt16) :
    renderGroups (g :: gs) = renderGroup g ++ renderMore gs := by
  induction gs generalizing g with
  | nil => simp [renderGroups, renderMore]
  | cons g' gs ih => simp [renderGroups, ih, renderMore]

/-- What can follow groups: nothing, or the colons of left-out groups. -/
def EndsGroups (rest : List Char) : Prop := rest = [] ∨ ∃ more, rest = ':' :: ':' :: more

theorem EndsGroups.endsGroup {rest : List Char} (h : EndsGroups rest) (gs : List UInt16) :
    EndsGroup (renderMore gs ++ rest) := by
  cases gs with
  | nil =>
    rcases h with rfl | ⟨more, rfl⟩ <;> simp [EndsGroup, renderMore]
  | cons g gs => simp [EndsGroup, renderMore]

theorem readGroups_group (limit : Nat) (isFirst : Bool) {cs : List Char} (g : UInt16)
    (rest : List Char) (hc : readColon isFirst cs = some (renderGroup g ++ rest))
    (hr : EndsGroup rest) :
    readGroups (limit + 1) isFirst cs =
      (g :: (readGroups limit false rest).1, (readGroups limit false rest).2) := by
  rw [readGroups, hc]
  simp only [Option.bind_eq_bind, Option.bind_some, read_renderGroup g hr, ite_self,
    readGroup_renderGroup g hr]

theorem readGroups_more (limit : Nat) (gs : List UInt16) {rest : List Char}
    (hl : gs.length ≤ limit) (hr : EndsGroups rest) :
    readGroups limit false (renderMore gs ++ rest) = (gs, false, rest) := by
  induction gs generalizing limit with
  | nil =>
    cases limit with
    | zero => rfl
    | succ limit =>
      rcases hr with rfl | ⟨more, rfl⟩
      · simp [renderMore, readGroups, readColon]
      · have he : EndsGroup (':' :: more) := by simp [EndsGroup]
        simp [renderMore, readGroups, readColon, read_eq_none he, readGroup_eq_none he]
  | cons g gs ih =>
    cases limit with
    | zero => simp at hl
    | succ limit =>
      rw [readGroups_group limit false g (renderMore gs ++ rest)
        (by simp [renderMore, readColon]) (hr.endsGroup gs), ih limit (by simpa using hl)]

theorem readGroups_renderGroups (limit : Nat) (gs : List UInt16) (rest : List Char)
    (hl : gs.length ≤ limit) (hr : EndsGroups rest) :
    readGroups limit true (renderGroups gs ++ rest) = (gs, false, rest) := by
  cases gs with
  | nil =>
    have he : EndsGroup rest := hr.endsGroup []
    cases limit with
    | zero => rfl
    | succ limit =>
      simp [renderGroups, readGroups, readColon, read_eq_none he, readGroup_eq_none he]
  | cons g gs =>
    cases limit with
    | zero => simp at hl
    | succ limit =>
      rw [renderGroups_cons, readGroups_group limit true g (renderMore gs ++ rest)
        (by simp [readColon]) (hr.endsGroup gs), readGroups_more limit gs (by simpa using hl) hr]

theorem leadingZeros_spec (gs : List UInt16) :
    gs = List.replicate (leadingZeros gs) 0 ++ gs.drop (leadingZeros gs) := by
  fun_induction leadingZeros gs with
  | case1 gs ih => simpa [List.replicate_succ] using ih
  | case2 gs _ => simp

/-- The run that is left out is a run of zero groups. -/
theorem longestZeros_spec (place : Nat) (gs : List UInt16) :
    ∃ start, (longestZeros place gs).1 = place + start ∧
      gs = gs.take start ++ List.replicate (longestZeros place gs).2 0 ++
        gs.drop (start + (longestZeros place gs).2) := by
  induction gs generalizing place with
  | nil => exact ⟨0, rfl, rfl⟩
  | cons g gs ih =>
    rw [longestZeros]
    split
    · exact ⟨0, rfl, by simpa using leadingZeros_spec (g :: gs)⟩
    · obtain ⟨start, hs, hg⟩ := ih (place + 1)
      refine ⟨start + 1, by rw [hs]; omega, ?_⟩
      rw [Nat.add_right_comm]
      simpa using hg

theorem ofGroups_groups (ip : Ipv6) : ofGroups ip.groups = ip := by
  obtain ⟨gs, hs⟩ := ip
  simp [ofGroups, ← hs]

theorem toUInt16_bytes (g : UInt16) :
    (g >>> 8).toUInt8.toUInt16 * 256 + g.toUInt8.toUInt16 = g := by
  have hg : g.toNat < 65536 := g.toNat_lt
  rw [← UInt16.toNat_inj]
  simp [Nat.shiftRight_eq_div_pow]
  omega

theorem groups_of_mapped? {ip : Ipv6} {v4 : Ipv4} (h : ip.mapped? = some v4) :
    ip.groups = [0, 0, 0, 0, 0, 0xFFFF] ++ groupsOf v4 := by
  unfold mapped? at h
  split at h
  · rename_i g k hg
    cases h
    rw [hg, groupsOf, toUInt16_bytes, toUInt16_bytes]
    rfl
  · cases h

/-- The dotted form of a mapped address. -/
theorem readGroups_dotted (v4 : Ipv4) :
    readGroups 7 true (['f', 'f', 'f', 'f', ':'] ++ v4.render) =
      (0xFFFF :: groupsOf v4, true, []) := by
  have he : EndsGroup (':' :: v4.render) := by simp [EndsGroup]
  have hv := Ipv4.read_render v4 [] (by simp)
  rw [List.append_nil] at hv
  change readGroups (6 + 1) true (renderGroup 0xFFFF ++ ':' :: v4.render) = _
  rw [readGroups_group 6 true 0xFFFF _ rfl he]
  simp [readGroups, readColon, hv]

/-- Groups on either side of left-out ones. -/
theorem parse?_gap (front back : List UInt16) {n : Nat} (hn : 0 < n)
    (hs : front.length + n + back.length = 8) {cs : List Char} {dotted : Bool}
    (hb : readGroups (7 - front.length) true cs = (back, dotted, [])) :
    parse? (renderGroups front ++ [':', ':'] ++ cs) =
      some (ofGroups (front ++ List.replicate n 0 ++ back)) := by
  have hf := readGroups_renderGroups 8 front (':' :: ':' :: cs) (by omega)
    (.inr ⟨cs, rfl⟩)
  rw [List.append_assoc, parse?, read, List.cons_append, List.cons_append, List.nil_append, hf]
  simp only [if_neg (show front.length ≠ 8 by omega), Bool.false_eq_true, if_false, hb]
  rw [show 8 - front.length - back.length = n by omega]

theorem parse?_render (ip : Ipv6) : parse? ip.render = some ip := by
  unfold render
  cases hm : ip.mapped? with
  | some v4 =>
    have hg := groups_of_mapped? hm
    have hp := parse?_gap [] (0xFFFF :: groupsOf v4) (n := 5) (by omega) rfl
      (readGroups_dotted v4)
    rw [← ofGroups_groups ip, hg]
    exact hp
  | none =>
    obtain ⟨start, hs, hg⟩ := longestZeros_spec 0 ip.groups
    rw [Nat.zero_add] at hs
    dsimp only
    rw [hs]
    have h8 := ip.size_groups
    split
    · rename_i hl
      have h8' := congrArg List.length hg
      simp only [List.length_append, List.length_replicate, List.length_drop, List.length_take,
        h8] at h8'
      conv_rhs => rw [← ofGroups_groups ip, hg]
      refine parse?_gap _ _ (by omega) ?_ (?_ : _ = (_, false, _))
      · simp only [List.length_take, List.length_drop, h8]
        omega
      · have := readGroups_renderGroups (7 - (ip.groups.take start).length)
          (ip.groups.drop (start + (longestZeros 0 ip.groups).2)) []
          (by simp only [List.length_take, List.length_drop, h8]; omega) (.inl rfl)
        rwa [List.append_nil] at this
    · have := readGroups_renderGroups 8 ip.groups [] (by omega) (.inl rfl)
      rw [List.append_nil] at this
      rw [parse?, read, this]
      simp only [h8, if_true, ofGroups_groups]

/-- No IPv6 address starts like an IPv4 address. -/
theorem read_render (ip : Ipv6) : Ipv4.read ip.render = none := by
  have hgs : ∀ gs rest, EndsGroups rest → Ipv4.read (renderGroups gs ++ rest) = none := by
    intro gs rest hr
    cases gs with
    | nil => exact read_eq_none (hr.endsGroup [])
    | cons g gs =>
      rw [renderGroups_cons, List.append_assoc]
      exact read_renderGroup g (hr.endsGroup gs)
  unfold render
  cases ip.mapped? with
  | some v4 => rfl
  | none =>
    dsimp only
    split
    · rw [List.append_assoc]
      exact hgs _ _ (.inr ⟨_, rfl⟩)
    · rw [← List.append_nil (renderGroups _)]
      exact hgs _ _ (.inl rfl)

end Ipv6

theorem Address.parse?_render (a : Address) : parse? a.render = some a := by
  cases a with
  | v4 ip =>
    have h := Ipv4.read_render ip [] (by simp)
    rw [List.append_nil] at h
    simp [parse?, render, h]
  | v6 ip => simp [parse?, render, Ipv6.read_render, Ipv6.parse?_render]

end TunnelRelay.Net
