import Mathlib.Data.List.TakeWhile
import TunnelRelay.Proofs.Creation
import TunnelRelay.Proofs.Encodings
import TunnelRelay.Proofs.Queues
/-!
# Which device the requests address

The kernel writes the bytes of a device's name back. They are read as a text, with a replacement
character for what cannot be decoded, and each later request carries the bytes of that text, cut to
fifteen once more; the commands carry the text. So all of them address one device
(`TunDevice.addressedAs`), but it is the one that was made only if its name survives being read and
cut: the name has to be a text, or for the requests one that is cut inside of a replacement
character (`NameField.ofName_decodeLenient_eq_iff`). A requested name is itself cut to fifteen bytes
first. If the cut falls inside of a character, another device is addressed.
-/

namespace TunnelRelay.Text.Utf8

/-! ## Texts that are cut -/

/-- The bytes are those of some text. -/
def IsText (bs : List UInt8) : Prop := ∃ cs, bs = encode cs

theorem encode_append (cs cs' : List Char) : encode (cs ++ cs') = encode cs ++ encode cs' :=
  List.flatMap_append

theorem encode_singleton (c : Char) : encode [c] = String.utf8EncodeChar c :=
  List.flatMap_singleton _ c

@[simp] theorem decodeLenient_encode_append (cs : List Char) (bs : List UInt8) :
    decodeLenient (encode cs ++ bs) = cs ++ decodeLenient bs := by
  simp [decodeLenient, pieces_encode_append]

@[simp] theorem decodeLenient_encode (cs : List Char) : decodeLenient (encode cs) = cs := by
  simp [decodeLenient, pieces_encode]

/-- A text is decoded without loss, and nothing else is. -/
theorem encode_decodeLenient_eq_iff {bs : List UInt8} :
    encode (decodeLenient bs) = bs ↔ IsText bs := by
  constructor
  · intro h
    exact ⟨_, h.symm⟩
  · rintro ⟨cs, rfl⟩
    rw [decodeLenient_encode]

/-- A character that breaks off is one undecodable piece. -/
theorem pieces_take_encodeChar {c : Char} {n : Nat} (hpos : 0 < n)
    (hn : n < (String.utf8EncodeChar c).length) :
    pieces ((String.utf8EncodeChar c).take n) = [none] := by
  obtain ⟨v, hv⟩ : ∃ v, c.toNat = v := ⟨_, rfl⟩
  have hvalid : v < 0xD800 ∨ 0xDFFF < v ∧ v < 0x110000 := hv ▸ c.valid
  simp only [String.utf8EncodeChar, show c.val.toNat = v from hv] at hn ⊢
  -- the four lengths, and for each the lengths of what is left of it
  split_ifs at hn ⊢ with h₁ h₂ h₃ <;> simp only [List.length_cons, List.length_nil] at hn
  · omega
  · obtain rfl : n = 1 := by omega
    simp only [List.take_succ_cons, List.take_zero, pieces, piecesFrom]
    rw [startSequence_two (by omega) (by omega)]
    rfl
  · have hstart := startSequence_three (n := v / 4096 % 16 + 224) (by omega) (by omega)
    obtain rfl | rfl : n = 1 ∨ n = 2 := by omega
    · simp only [List.take_succ_cons, List.take_zero, pieces, piecesFrom, hstart]
      rfl
    · simp only [List.take_succ_cons, List.take_zero, pieces]
      rw [piecesFrom, hstart, List.nil_append,
        piecesFrom_more _ (by split_ifs <;> (simp only [UInt8.reduceToNat]; omega))
          (by split_ifs <;> (simp only [UInt8.reduceToNat]; omega))]
      rfl
  · have hstart := startSequence_four (n := v / 262144 % 8 + 240) (by omega) (by omega)
    obtain rfl | hmore : n = 1 ∨ n = 2 ∨ n = 3 := by omega
    · simp only [List.take_succ_cons, List.take_zero, pieces, piecesFrom, hstart]
      rfl
    · obtain rfl | rfl := hmore <;> simp only [List.take_succ_cons, List.take_zero, pieces] <;>
        rw [piecesFrom, hstart, List.nil_append,
          piecesFrom_more _ (by split_ifs <;> (simp only [UInt8.reduceToNat]; omega))
            (by split_ifs <;> (simp only [UInt8.reduceToNat]; omega))]
      · rfl
      · rw [piecesFrom_more _ (by simp) (by simp; omega)]
        rfl

theorem decodeLenient_take_encodeChar {c : Char} {n : Nat} (hpos : 0 < n)
    (hn : n < (String.utf8EncodeChar c).length) :
    decodeLenient ((String.utf8EncodeChar c).take n) = ['\uFFFD'] := by
  rw [decodeLenient, pieces_take_encodeChar hpos hn]
  rfl

theorem length_encodeChar_replacement : (String.utf8EncodeChar '\uFFFD').length = 3 := by decide

/-- A cut inside of a replacement character at the end of a text makes no difference. -/
theorem decodeLenient_take_replacement {kept : List Char} {m : Nat}
    (hm : (encode kept).length < m) :
    decodeLenient ((encode (kept ++ ['\uFFFD'])).take m) = kept ++ ['\uFFFD'] := by
  have hlength := length_encodeChar_replacement
  rw [encode_append, List.take_append, List.take_of_length_le hm.le, decodeLenient_encode_append,
    encode_singleton]
  by_cases hcut : m - (encode kept).length < 3
  · rw [decodeLenient_take_encodeChar (by omega) (by omega)]
  · rw [List.take_of_length_le (by omega), ← encode_singleton, decodeLenient_encode]

/-- What cannot be decoded is read as a text that starts with a replacement character. -/
theorem exists_replacement {bs : List UInt8} (h : (pieces bs).head? = some none) :
    ∃ more, decodeLenient bs = '\uFFFD' :: more := by
  obtain ⟨ps, hps⟩ := List.head?_eq_some_iff.1 h
  exact ⟨ps.map fun piece => piece.getD '\uFFFD', by rw [decodeLenient, hps]; rfl⟩

/-- A cut falls between two characters of a text, or inside of one. -/
theorem take_encode_cases (cs : List Char) (m : Nat) :
    (∃ kept rest, cs = kept ++ rest ∧ (encode cs).take m = encode kept) ∨
      ∃ kept c rest n, cs = kept ++ c :: rest ∧ 0 < n ∧ n < (String.utf8EncodeChar c).length ∧
        (encode cs).take m = encode kept ++ (String.utf8EncodeChar c).take n := by
  induction cs generalizing m with
  | nil => exact .inl ⟨[], [], rfl, List.take_nil⟩
  | cons c cs ih =>
    by_cases hzero : m = 0
    · exact .inl ⟨[], c :: cs, rfl, by simp [hzero, encode]⟩
    by_cases hm : m < (String.utf8EncodeChar c).length
    · refine .inr ⟨[], c, cs, m, rfl, Nat.pos_of_ne_zero hzero, hm, ?_⟩
      rw [encode_cons, List.take_append_of_le_length hm.le]
      rfl
    · have htake : (encode (c :: cs)).take m = String.utf8EncodeChar c ++
          (encode cs).take (m - (String.utf8EncodeChar c).length) := by
        rw [encode_cons, List.take_append, List.take_of_length_le (Nat.le_of_not_lt hm)]
      rcases ih (m - (String.utf8EncodeChar c).length) with
        ⟨kept, rest, rfl, hkept⟩ | ⟨kept, d, rest, n, rfl, hpos, hn, hkept⟩
      · exact .inl ⟨c :: kept, rest, rfl, by rw [htake, hkept, encode_cons]⟩
      · refine .inr ⟨c :: kept, d, rest, n, rfl, hpos, hn, ?_⟩
        rw [htake, hkept, encode_cons, List.append_assoc]

/-- Bytes start with a text, and it is all of them or what follows it cannot be decoded. -/
theorem exists_front (bs : List UInt8) :
    ∃ cs rest, bs = encode cs ++ rest ∧ (rest = [] ∨ (pieces rest).head? = some none) := by
  obtain ⟨n, hn⟩ : ∃ n, bs.length = n := ⟨_, rfl⟩
  induction n using Nat.strong_induction_on generalizing bs with
  | _ n ih =>
    by_cases hne : bs = []
    · exact ⟨[], [], hne, .inl rfl⟩
    by_cases hhead : (pieces bs).head? = some none
    · exact ⟨[], bs, rfl, .inr hhead⟩
    obtain ⟨c, after, rfl, -⟩ := exists_char_of_pieces hne hhead
    have hc : 0 < (String.utf8EncodeChar c).length := by simp [Char.utf8Size_pos]
    rw [List.length_append] at hn
    obtain ⟨cs, rest, rfl, hrest⟩ := ih after.length (by omega) after rfl
    exact ⟨c :: cs, rest, by rw [encode_cons, List.append_assoc], hrest⟩

end TunnelRelay.Text.Utf8

namespace TunnelRelay.Device

open Net Host Text.Utf8

/-! ## Names in fields -/

namespace NameField

theorem bne_zero_of_mem {bs : List UInt8} (hnz : 0 ∉ bs) : ∀ b ∈ bs, (b != 0) = true := by
  intro b hb
  exact bne_iff_ne.2 (ne_of_mem_of_not_mem hb hnz)

theorem ofBytes_take (bs : List UInt8) : ofBytes (bs.take nameLimit) = ofBytes bs := by
  simp [ofBytes, List.take_take]

theorem bytes_ofBytes (bs : List UInt8) :
    (ofBytes bs).bytes = (bs.take nameLimit).takeWhile (· != 0) := by
  simp only [bytes, ofBytes, List.takeWhile_append, List.takeWhile_replicate, bne_self_eq_false]
  split
  · rename_i h; simp [(List.takeWhile_prefix _).eq_of_length h]
  · rfl

section
variable {device : List UInt8}

/-- A field carries a name of at most fifteen bytes as it is. -/
theorem bytes_ofBytes_of_short (hshort : device.length ≤ nameLimit) (hnz : 0 ∉ device) :
    (ofBytes device).bytes = device := by
  rw [bytes_ofBytes, List.take_of_length_le hshort,
    List.takeWhile_eq_self_iff.2 (bne_zero_of_mem hnz)]

/-- The bytes of a text that begins a field, and what follows them there. -/
theorem bytes_ofBytes_append {front rest : List UInt8} (hnz : 0 ∉ front)
    (hshort : front.length ≤ nameLimit) : (ofBytes (front ++ rest)).bytes =
      front ++ (rest.take (nameLimit - front.length)).takeWhile (· != 0) := by
  rw [bytes_ofBytes, List.take_append, List.take_of_length_le hshort,
    List.takeWhile_append_of_pos (bne_zero_of_mem hnz)]

/-- The name that is read out of a field and put into one again is the same there if it is a text,
or if it is cut inside of a replacement character, which then stands for its own remains. -/
theorem ofName_decodeLenient_eq_iff (hshort : device.length ≤ nameLimit) (hnz : 0 ∉ device) :
    ofName (decodeLenient device) = ofBytes device ↔ IsText device ∨
      ∃ kept, (encode kept).length < nameLimit ∧
        device = (encode (kept ++ ['\uFFFD'])).take nameLimit := by
  have hlength := length_encodeChar_replacement
  have hnonzero : ∀ b ∈ String.utf8EncodeChar '\uFFFD', (b != 0) = true :=
    bne_zero_of_mem fun h => absurd (eq_of_zero_mem_encodeChar h) (by decide)
  constructor
  · intro h
    obtain ⟨kept, rest, rfl, hrest⟩ := exists_front device
    rcases hrest with rfl | hhead
    · exact .inl ⟨kept, List.append_nil _⟩
    obtain ⟨more, hmore⟩ := exists_replacement hhead
    rw [List.mem_append, not_or] at hnz
    rw [List.length_append] at hshort
    -- what the two fields have behind the text in front
    have hrest : rest = ((String.utf8EncodeChar '\uFFFD' ++ encode more).take
        (nameLimit - (encode kept).length)).takeWhile (· != 0) := by
      have hbytes := congrArg bytes h
      rw [decodeLenient_encode_append, hmore, ofName, encode_append,
        bytes_ofBytes_append hnz.1 (by omega),
        bytes_ofBytes_of_short (by simpa using hshort) (by simpa using hnz)] at hbytes
      exact (List.append_cancel_left hbytes).symm
    by_cases hroom : 3 ≤ nameLimit - (encode kept).length
    · -- a whole replacement character would have been decoded
      rw [List.take_append, List.take_of_length_le (by omega),
        List.takeWhile_append_of_pos hnonzero, ← encode_singleton] at hrest
      rw [hrest, pieces_encode_append] at hhead
      cases hhead
    · rw [List.take_append_of_le_length (by omega),
        List.takeWhile_eq_self_iff.2 fun b hb => hnonzero b (List.mem_of_mem_take hb)] at hrest
      have hfits : (encode kept).length < nameLimit := by
        by_contra hfull
        rw [Nat.sub_eq_zero_of_le (Nat.le_of_not_lt hfull), List.take_zero] at hrest
        rw [hrest] at hhead
        cases hhead
      refine .inr ⟨kept, hfits, ?_⟩
      rw [encode_append, encode_singleton, List.take_append, List.take_of_length_le hfits.le,
        ← hrest]
  · rintro (⟨cs, rfl⟩ | ⟨kept, hkept, rfl⟩)
    · rw [decodeLenient_encode, ofName]
    · rw [decodeLenient_take_replacement hkept, ofName, ofBytes_take]

end

end NameField

/-! ## Names in interfaces -/

namespace DescriptorInterface

theorem name_await (i : DescriptorInterface) (d : Direction) : (i.await d).name = i.name := by
  obtain ⟨r, w, h⟩ := i.await_eq d
  rw [h]

theorem name_withdraw (i : DescriptorInterface) (d : Direction) :
    (i.withdraw d).name = i.name := by
  obtain ⟨r, w, h⟩ := i.withdraw_eq d
  rw [h]

theorem name_perform {α : Type} (op : SocketOp α) (i : DescriptorInterface) :
    (i.perform op).2.name = i.name := by
  fun_induction perform op i with
  | case1 i _ => rfl
  | case2 i _ j _ socket _ _ ih =>
    rw [ih, name_withdraw]
    exact i.name_await _
  | case3 i _ j _ _ _ _ _ => exact i.name_await _
  | case4 i _ j _ => exact i.name_await _

/-- An interface keeps its name. -/
theorem name_apply (i : DescriptorInterface) (op : InterfaceOp) : (i.apply op).2.name = i.name := by
  cases op with
  | recv size => exact name_perform (.read size) i
  | send p => exact name_perform (.write p) i
  | peerRecv => rw [apply]; split <;> rfl
  | _ => rfl

end DescriptorInterface

/-! ## Requests and commands -/

/-- The device that a command names. -/
def Command.device? : Command → Option (List Char)
  | .addRoute _ device | .setResolver device _ | .claimDomain device => some device
  | .showDefault => none

/-- The requests that make a device and configure its link, with `field` for the device. -/
def creationRequests (k : Kernel) (requested : List Char) (settings : InterfaceSettings)
    (field : NameField) : List Request :=
  [.openTunnel, .attach (.ofName requested) tunnelFlags, .setAddress field settings.address,
    .setNetmask field settings.netmask, .setMtu field settings.mtu, .readFlags field,
    .writeFlags field (switchFlags true k.flags)]

/-- The requests that take a link down. -/
def takeDownRequests (k : Kernel) (field : NameField) : List Request :=
  [.readFlags field, .writeFlags field (switchFlags false k.flags)]

/-- Which device is addressed once one is there: by the requests with `field`, by the commands with
`name`. -/
structure TunDevice.AddressedAs (k : Kernel) (requested : List Char) (settings : InterfaceSettings)
    (field : NameField) (name : List Char) : Prop where
  tried : requests (create k requested settings).2 <+: creationRequests k requested settings field
  /-- All of the requests are made if the creation succeeds. -/
  created : ∀ d, (create k requested settings).1 = .ok d →
    requests (create k requested settings).2 = creationRequests k requested settings field
  commands : ∀ c ending, .command c ending ∈ (create k requested settings).2 →
    c.device? = some name
  /-- Whatever is done with the device, it makes no other requests, and a close that succeeds makes
  all of them. -/
  closed : ∀ d, (create k requested settings).1 = .ok d →
    ∀ (ops : List InterfaceOp) op answer made, (op, answer, made) ∈ ops.zip (d.run ops) →
      made <+: takeDownRequests d.kernel field ∧
        (op = .close → answer = .done → made = takeDownRequests d.kernel field)

section
variable {device : List Char} {as : List Action}

theorem requests_append (as bs : List Action) :
    requests (as ++ bs) = requests as ++ requests bs := List.filterMap_append

/-- A request is something that is tried. -/
theorem requests_attempts (as : List Action) : requests (attempts as) = requests as := by
  rw [requests, attempts, List.filterMap_filter, requests]
  congr 1
  funext a
  cases a <;> rfl

theorem carriedOut_isPrefix (plan : List Try) : carriedOut plan <+: plan.map Try.action := by
  induction plan with
  | nil => exact List.nil_prefix
  | cons t plan ih =>
    rw [carriedOut, List.map_cons, List.prefix_cons_inj]
    split
    · exact ih
    · exact List.nil_prefix

theorem DomainsFollow.device?_eq (h : DomainsFollow device as) {c : Command} {ending : Ending}
    (hc : .command c ending ∈ as) (hs : (Action.command c ending).setsResolver = true) :
    c.device? = some device := by
  induction h with
  | nil => cases hc
  | other ha _ ih =>
    rcases List.mem_cons.1 hc with rfl | hc
    · rw [hs] at ha
      cases ha
    · exact ih hc
  | refused _ _ ih =>
    rcases List.mem_cons.1 hc with h | hc
    · cases h
      rfl
    · exact ih hc
  | taken _ _ ih =>
    rcases List.mem_cons.1 hc with h | hc
    · cases h
      rfl
    · rcases List.mem_cons.1 hc with h | hc
      · cases h
        rfl
      · exact ih hc

end

namespace Kernel

section
variable (k : Kernel) (requested : List Char) (settings : InterfaceSettings)

theorem requests_plan : requests ((k.plan requested settings).map Try.action) =
    creationRequests k requested settings (.ofName (k.deviceName requested)) := by
  have hroutes : requests ((routePlan (k.deviceName requested) k.routing settings.routes).map
      Try.action) = [] := by
    rw [requests, List.filterMap_eq_nil_iff, List.forall_mem_map]
    intro t ht
    obtain ⟨route, ending, rfl⟩ := addRoute_of_mem_routePlan ht
    rfl
  have hresolvers : requests ((resolverPlan (k.deviceName requested) k.resolver
      settings.dnsServers).map Try.action) = [] := by
    rw [requests, List.filterMap_eq_nil_iff, List.forall_mem_map]
    intro t ht
    have hsets := setsResolver_of_mem_resolverPlan ht
    cases ha : t.action with
    | request r => rw [ha] at hsets; cases hsets
    | _ => rfl
  rw [plan, configPlan, List.map_append, List.map_append, List.map_append, requests_append,
    requests_append, requests_append, hroutes, hresolvers]
  rfl

/-- Each command of a creation names the device. -/
theorem device?_of_mem_plan {c : Command} {ending : Ending}
    (h : .command c ending ∈ carriedOut (k.plan requested settings)) :
    c.device? = some (k.deviceName requested) := by
  obtain ⟨t, ht, hta⟩ := exists_of_mem_carriedOut h
  rcases k.cases_of_mem_plan _ _ ht with ht | ⟨route, ending, rfl⟩ | hcommand | hcall
  · simp only [linkPlan, List.mem_cons, List.not_mem_nil, or_false] at ht
    rcases ht with rfl | rfl | rfl | rfl | rfl | rfl | rfl | rfl <;> cases hta
  · cases hta
    rfl
  · rw [hta] at hcommand
    exact (k.domainsFollow_plan requested settings).device?_eq h hcommand
  · rw [hta] at hcall
    cases hcall

/-- Taking a link down. -/
def takeDownPlan (device : List Char) : List Try :=
  [⟨.call .openControl, (k.refusal .openControl).map .os⟩,
    ⟨.request (.readFlags (.ofName device)), (k.refusal .readFlags).map .os⟩,
    ⟨.request (.writeFlags (.ofName device) (switchFlags false k.flags)),
      (k.refusal .writeFlags).map .os⟩]

end

end Kernel

/-- The steps that take a link down carry out their plan. -/
theorem Setup.follows_takeDown (k : Kernel) (settings : InterfaceSettings) (name : List Char) :
    Follows settings { kernel := k, name } takeDownSteps (k.takeDownPlan name)
      (At k k.routing k.resolver name k.flags) := by
  have hstart : At k k.routing k.resolver name 0 { kernel := k, name } := ⟨rfl, rfl, rfl⟩
  refine hstart.follows_control.cons fun t ht => ht.follows_readFlags.cons fun t ht => ?_
  exact ht.follows_ask rfl (by rw [field, ht.name, ht.flags])

namespace TunDevice

/-- A close makes the requests of its plan up to the first failure. -/
theorem requests_close (d : TunDevice) :
    requests d.close.2.1 <+: takeDownRequests d.kernel (.ofName d.io.name.toList) ∧
      (d.close.1 = none →
        requests d.close.2.1 = takeDownRequests d.kernel (.ofName d.io.name.toList)) := by
  obtain ⟨hfailure, htried, -⟩ :=
    Setup.follows_takeDown d.kernel d.settings d.io.name.toList
  have hrequests : requests d.close.2.1 =
      requests (carriedOut (d.kernel.takeDownPlan d.io.name.toList)) := by
    rw [← requests_attempts, close, Setup.attempts_releaseAll, htried]
    rfl
  constructor
  · rw [hrequests]
    exact (carriedOut_isPrefix _).filterMap _
  · intro h
    rw [hrequests, carriedOut_of_firstFailure (hfailure.symm.trans h)]
    rfl

/-- An operation other than a close is one on the interface. -/
theorem apply_of_ne (d : TunDevice) {op : InterfaceOp} (hop : op ≠ .close) :
    d.apply op = ((d.io.apply op).1, [], { d with io := (d.io.apply op).2 }) := by
  cases op with
  | close => exact absurd rfl hop
  | _ => rfl

theorem apply_close (d : TunDevice) : d.apply .close =
    ((match d.close.1 with | none => .done | some e => .failed e), d.close.2) := by
  rw [apply]
  rcases d.close with ⟨_ | e, made⟩ <;> rfl

/-- A device keeps its name and its kernel. -/
theorem name_apply (d : TunDevice) (op : InterfaceOp) :
    (d.apply op).2.2.io.name = d.io.name ∧ (d.apply op).2.2.kernel = d.kernel := by
  by_cases hop : op = .close
  · subst hop
    rw [apply_close]
    exact ⟨rfl, rfl⟩
  · rw [d.apply_of_ne hop]
    exact ⟨d.io.name_apply op, rfl⟩

/-- What a device does in a run. -/
theorem exists_of_mem_run {d : TunDevice} {ops : List InterfaceOp} {op : InterfaceOp}
    {answer : InterfaceAnswer} {made : List Request}
    (h : (op, answer, made) ∈ ops.zip (d.run ops)) :
    ∃ e : TunDevice, e.io.name = d.io.name ∧ e.kernel = d.kernel ∧
      answer = (e.apply op).1 ∧ made = requests (e.apply op).2.1 := by
  induction ops generalizing d with
  | nil => cases h
  | cons o ops ih =>
    rw [run, List.zip_cons_cons] at h
    rcases List.mem_cons.1 h with h | h
    · cases h
      exact ⟨d, rfl, rfl, rfl, rfl⟩
    · obtain ⟨hname, hkernel⟩ := d.name_apply o
      obtain ⟨e, hename, hekernel, hdone⟩ := ih h
      exact ⟨e, hename.trans hname, hekernel.trans hkernel, hdone⟩

section
variable (k : Kernel) (requested : List Char) (settings : InterfaceSettings)

/-- Nothing fails in the creation of a device that is there, and it has the name that is read. -/
theorem of_create_eq_ok {d : TunDevice} (h : (create k requested settings).1 = .ok d) :
    firstFailure (k.plan requested settings) = none ∧
      d.io.name.toList = k.deviceName requested := by
  have hresult := map_create k requested settings
  rw [h] at hresult
  cases hplan : firstFailure (k.plan requested settings) with
  | some e => rw [hplan] at hresult; cases hresult
  | none =>
    simp only [hplan, Except.map, Except.ok.injEq, Prod.mk.injEq] at hresult
    exact ⟨rfl, by rw [hresult.1, String.toList_ofList]⟩

/-- All later requests and commands are for the name that the bytes of the kernel are read as. -/
theorem addressedAs : AddressedAs k requested settings (.ofName (k.deviceName requested))
    (k.deviceName requested) where
  tried := by
    rw [← requests_attempts, attempts_create, ← k.requests_plan]
    exact (carriedOut_isPrefix _).filterMap _
  created := by
    intro d hd
    obtain ⟨hplan, -⟩ := of_create_eq_ok k requested settings hd
    rw [← requests_attempts, attempts_create, carriedOut_of_firstFailure hplan, k.requests_plan]
  commands := by
    intro c ending h
    have htried : .command c ending ∈ carriedOut (k.plan requested settings) := by
      rw [← attempts_create]
      exact List.mem_filter.2 ⟨h, rfl⟩
    exact k.device?_of_mem_plan requested settings htried
  closed := by
    intro d hd ops op answer made h
    obtain ⟨-, hname⟩ := of_create_eq_ok k requested settings hd
    obtain ⟨e, hename, hekernel, rfl, rfl⟩ := exists_of_mem_run h
    by_cases hop : op = .close
    · subst hop
      obtain ⟨hpre, hall⟩ := e.requests_close
      rw [hename, hname, hekernel] at hpre hall
      rw [apply_close]
      refine ⟨hpre, fun _ hdone => hall ?_⟩
      cases hclose : e.close.1 with
      | none => rfl
      | some failure => rw [hclose] at hdone; cases hdone
    · rw [e.apply_of_ne hop]
      exact ⟨List.nil_prefix, fun h => absurd h hop⟩

end

end TunDevice

/-! ## Addressing the device that was made -/

/-- The kernel makes a device with some name and writes that back. -/
structure Kernel.WritesBack (k : Kernel) (requested : List Char) (device : List UInt8) : Prop where
  short : device.length ≤ nameLimit
  nonzero : 0 ∉ device
  assigned : k.assign (.ofName requested) = .ofBytes device

theorem Kernel.WritesBack.deviceName_eq {k : Kernel} {requested : List Char} {device : List UInt8}
    (h : k.WritesBack requested device) : k.deviceName requested = decodeLenient device := by
  rw [deviceName, h.assigned, NameField.name, NameField.bytes_ofBytes_of_short h.short h.nonzero]

/-- Which device is addressed when the kernel has made one with the name `device`. -/
structure TunDevice.Addresses (k : Kernel) (requested : List Char) (settings : InterfaceSettings)
    (device : List UInt8) : Prop where
  /-- It is the same one throughout, whose name is what `device` is read as. -/
  alike : AddressedAs k requested settings (.ofName (decodeLenient device)) (decodeLenient device)
  /-- So it is the one that was made if its name is a text. -/
  text : ∀ cs, device = encode cs → AddressedAs k requested settings (.ofBytes device) cs
  /-- The commands name the one that was made in no other case. -/
  commands : encode (decodeLenient device) = device ↔ IsText device
  /-- The requests are for it in one more: its name is cut inside of a replacement character. -/
  requests : NameField.ofName (decodeLenient device) = .ofBytes device ↔ IsText device ∨
    ∃ kept, (encode kept).length < nameLimit ∧
      device = (encode (kept ++ ['\uFFFD'])).take nameLimit
  /-- A requested name that is granted is cut between two characters, or inside of one. That one is
  addressed as a replacement character. -/
  granted : device = (encode requested).take nameLimit →
    (∃ kept rest, requested = kept ++ rest ∧ device = encode kept ∧ decodeLenient device = kept) ∨
      ∃ kept c rest n, requested = kept ++ c :: rest ∧ 0 < n ∧
        n < (String.utf8EncodeChar c).length ∧
        device = encode kept ++ (String.utf8EncodeChar c).take n ∧
        decodeLenient device = kept ++ ['\uFFFD']

/-- The device that was made is the one that is addressed exactly if its name is not lost on the
way. -/
theorem TunDevice.addresses_of_writesBack {k : Kernel} {requested : List Char}
    {device : List UInt8} (h : k.WritesBack requested device) (settings : InterfaceSettings) :
    Addresses k requested settings device where
  alike := by
    rw [← h.deviceName_eq]
    exact addressedAs k requested settings
  text := by
    rintro cs rfl
    have haddressed := addressedAs k requested settings
    rwa [h.deviceName_eq, decodeLenient_encode, NameField.ofName] at haddressed
  commands := encode_decodeLenient_eq_iff
  requests := NameField.ofName_decodeLenient_eq_iff h.short h.nonzero
  granted := by
    rintro rfl
    rcases take_encode_cases requested nameLimit with
      ⟨kept, rest, hrequested, hkept⟩ | ⟨kept, c, rest, n, hrequested, hpos, hn, hkept⟩
    · exact .inl ⟨kept, rest, hrequested, hkept, by rw [hkept, decodeLenient_encode]⟩
    · refine .inr ⟨kept, c, rest, n, hrequested, hpos, hn, hkept, ?_⟩
      rw [hkept, decodeLenient_encode_append, decodeLenient_take_encodeChar hpos hn]

/-- A kernel that grants the name that is requested. -/
def trialKernel : Kernel where
  refusal _ := none
  assign := Kernel.assignOr (encode "tun0".toList)
  flags := 0x1090
  routing := .codes []
  resolver := .codes []

def trialSettings : InterfaceSettings :=
  .ofTunnel ⟨⟨10, 0, 0, 2⟩, 24, 1500⟩ (.v4 ⟨8, 8, 8, 8⟩) "trial" false

/-- Fourteen bytes, and a character of four. -/
def trialName : List Char := "abcdefghijklmn😀".toList

/-- What is granted of it. -/
def trialDevice : List UInt8 := encode "abcdefghijklmn".toList ++ [0xF0]

theorem trialKernel_addresses :
    trialKernel.WritesBack trialName trialDevice ∧
      TunDevice.Addresses trialKernel trialName trialSettings trialDevice := by
  have h : trialKernel.WritesBack trialName trialDevice := ⟨by decide, by decide, by decide⟩
  exact ⟨h, TunDevice.addresses_of_writesBack h trialSettings⟩

/-- Neither the requests nor the commands are for the device that was made. -/
theorem trialKernel_misaddresses :
    trialKernel.WritesBack trialName trialDevice ∧
      (∀ name, ¬ TunDevice.AddressedAs trialKernel trialName trialSettings
        (.ofBytes trialDevice) name) ∧
      ∀ field name, TunDevice.AddressedAs trialKernel trialName trialSettings field name →
        encode name ≠ trialDevice := by
  refine ⟨⟨by decide, by decide, by decide⟩, fun name h => ?_, fun field name h => ?_⟩
  · exact absurd h.tried (by decide)
  · have hname := h.commands (.claimDomain "abcdefghijklmn\uFFFD".toList) (.exited 0) (by decide)
    obtain rfl := Option.some.inj hname
    decide

end TunnelRelay.Device
