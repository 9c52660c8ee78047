import TunnelRelay.Json.Value
import TunnelRelay.Proofs.Addresses
import TunnelRelay.Proofs.Members
/-!
# Values as they are written

A node writes a value if its scalars mean the value's and an object has the value's members in any
order. `Value.toNode` is the way in which `Value.render` writes (`render_toNode`), so that what is
read from every way of writing is read from the compact text too.
-/

namespace TunnelRelay.Json

/-! ## Scalars in their compact form -/

/-- A digit that an escape is written with. -/
def HexDigit.ofNat (n : Nat) (h : n < 16) : HexDigit where
  char := Text.hexDigit n
  value := n
  isValue := by interval_cases n <;> rfl

/-- A character of a text, with an escape only where it must not stand for itself. -/
def Piece.ofChar (c : Char) : Piece :=
  if h₁ : c = '"' then .short '"' '"' rfl
  else if h₂ : c = '\\' then .short '\\' '\\' rfl
  else if c = '\x08' then .short 'b' '\x08' rfl
  else if c = '\x0c' then .short 'f' '\x0c' rfl
  else if c = '\n' then .short 'n' '\n' rfl
  else if c = '\r' then .short 'r' '\r' rfl
  else if c = '\t' then .short 't' '\t' rfl
  else if h : c.toNat < 0x20 then
    .unit (.ofNat 0 (by omega)) (.ofNat 0 (by omega)) (.ofNat (c.toNat / 16) (by omega))
      (.ofNat (c.toNat % 16) (by omega))
  else .plain c ⟨h₁, h₂, Nat.le_of_not_lt h⟩

theorem Piece.chars_ofChar (c : Char) : (Piece.ofChar c).chars = escapeChar c := by
  unfold Piece.ofChar escapeChar
  split_ifs <;> rfl

/-- A character is read back from its piece. -/
theorem Quoted.text_ofChar (c : Char) (q : Quoted) :
    Quoted.text (.ofChar c :: q) = (Quoted.text q).map (c :: ·) := by
  unfold Piece.ofChar
  split_ifs
  any_goals subst c; rfl
  · have hn : Piece.number (.ofNat 0 (by omega)) (.ofNat 0 (by omega))
        (.ofNat (c.toNat / 16) (by omega)) (.ofNat (c.toNat % 16) (by omega)) = c.toNat := by
      simp only [Piece.number, HexDigit.ofNat]
      omega
    conv_lhs => unfold Quoted.text
    rw [hn, if_neg (by omega), if_neg (by omega), Char.ofNat_toNat]
  · rw [Quoted.text]

/-- A text in its compact form. -/
def Quoted.ofText (cs : List Char) : Quoted := cs.map .ofChar

theorem Quoted.chars_ofText (cs : List Char) :
    (Quoted.ofText cs).chars = cs.flatMap escapeChar := by
  simp only [Quoted.chars, Quoted.ofText, List.flatMap_map, Piece.chars_ofChar]

@[simp]
theorem Quoted.text_ofText (cs : List Char) : (Quoted.ofText cs).text = .ok cs := by
  induction cs with
  | nil => rfl
  | cons c cs ih =>
    rw [Quoted.ofText, List.map_cons, Quoted.text_ofChar]
    exact congrArg (Except.map (c :: ·)) ih

/-- A natural number in its compact form. -/
def Numeral.ofNat (n : Nat) : Numeral where
  isNegative := false
  whole := {
    chars := Nat.toDigits 10 n
    ne_nil := Nat.toDigits_ne_nil
    isDigit := fun c hc => by
      obtain ⟨d, hd, rfl⟩ := exists_digitChar_of_mem_toDigits (by omega) n hc
      simpa using hd }
  eq_zero h := by rw [eq_zero_of_head?_toDigits (by omega) n h]; rfl
  fraction := none
  exponent := none

theorem Numeral.chars_ofNat (n : Nat) : (Numeral.ofNat n).chars = Nat.toDigits 10 n := by
  simp [Numeral.chars, Numeral.ofNat, Numeral.magnitude, Numeral.tail]

theorem le_foldl_digitValue (cs : List Char) (n : Nat) :
    n ≤ cs.foldl (fun n c => n * 10 + digitValue c) n := by
  induction cs generalizing n with
  | nil => exact le_rfl
  | cons c cs ih => exact le_trans (show n ≤ n * 10 + digitValue c by omega) (ih _)

/-- Digits of a number of 64 bits are all taken. -/
theorem integerDigits_eq (cs : List Char) (n : Nat)
    (h : cs.foldl (fun n c => n * 10 + digitValue c) n ≤ greatestInteger) :
    integerDigits n 0 cs = (cs.foldl (fun n c => n * 10 + digitValue c) n, 0) := by
  induction cs generalizing n with
  | nil => rfl
  | cons c cs ih =>
    have hle := (le_foldl_digitValue cs (n * 10 + digitValue c)).trans h
    rw [integerDigits, if_neg (by omega)]
    exact ih _ h

theorem Numeral.number_ofNat {n : Nat} (h : n ≤ greatestInteger) :
    (Numeral.ofNat n).number = .ok (.unsigned n) := by
  have hv := foldl_toDigits (b := 10) (by omega) digitValue
    (fun d hd => Nat.toNat_digitChar_sub_48_of_lt_ten hd) n
  have hd := integerDigits_eq (Nat.toDigits 10 n) 0 (hv.trans_le h)
  rw [hv] at hd
  simp [Numeral.number, Numeral.ofNat, hd, integerNumber]

/-! ## Values -/

mutual

/-- A value in its compact form. -/
def Value.toNode : Value → Node
  | .null => .null
  | .bool b => .bool b
  | .number n => .number (.ofNat n)
  | .text cs => .text (.ofText cs)
  | .list vs => .list .none (toItems vs)
  | .object ms => .object .none (toEntries ms)

def Value.toItems : List Value → List (Padded Node)
  | [] => []
  | v :: vs => ⟨.none, v.toNode, .none⟩ :: toItems vs

def Value.toEntries : List (List Char × Value) → List (Entry Node)
  | [] => []
  | (k, v) :: ms => ⟨⟨.none, .ofText k, .none⟩, ⟨.none, v.toNode, .none⟩⟩ :: toEntries ms

end

mutual

theorem Value.render_toNode (v : Value) : v.toNode.render = v.render := by
  match v with
  | .null => rfl
  | .bool true => rfl
  | .bool false => rfl
  | .number n => exact Numeral.chars_ofNat n
  | .text cs =>
    rw [Value.toNode, Node.render, Quoted.chars_ofText]
    rfl
  | .list vs =>
    rw [Value.toNode, Node.render, Value.render, Value.render_toItems vs]
    rfl
  | .object ms =>
    rw [Value.toNode, Node.render, Value.render, Value.render_toEntries ms]
    rfl

theorem Value.render_toItems (vs : List Value) :
    Node.renderItems (Value.toItems vs) = Value.renderList vs := by
  match vs with
  | [] => rfl
  | [v] =>
    simp [Value.toItems, Node.renderItems, Node.renderPadded, Node.renderMoreItems,
      Value.renderList, Value.render_toNode v, Space.none]
  | v :: w :: vs =>
    have ih := Value.render_toItems (w :: vs)
    rw [Value.toItems, Node.renderItems] at ih
    simp [Value.toItems, Node.renderItems, Node.renderPadded, Node.renderMoreItems,
      Value.renderList, Value.render_toNode v, Space.none, ← ih]

theorem Value.render_toEntries (ms : List (List Char × Value)) :
    Node.renderEntries (Value.toEntries ms) = Value.renderMembers ms := by
  match ms with
  | [] => rfl
  | [(k, v)] =>
    simp [Value.toEntries, Node.renderEntries, Node.renderEntry, Node.renderPadded,
      Node.renderMoreEntries, Value.renderMembers, Value.render_toNode v, Space.none, renderText,
      Quoted.chars_ofText]
  | (k, v) :: m :: ms =>
    have ih := Value.render_toEntries (m :: ms)
    rw [Value.toEntries, Node.renderEntries] at ih
    simp [Value.toEntries, Node.renderEntries, Node.renderEntry, Node.renderPadded,
      Node.renderMoreEntries, Value.renderMembers, Value.render_toNode v, Space.none, renderText,
      Quoted.chars_ofText, ← ih]

end


/-! ## Every way of writing a value -/

mutual

/-- A node writes a value, with its scalars in any form and the members of an object in any
order. -/
inductive Node.Writes : Node → Value → Prop where
  | null : Writes .null .null
  | bool (b : Bool) : Writes (.bool b) (.bool b)
  | number {n : Numeral} {k : Nat} (h : n.number = .ok (.unsigned k)) :
    Writes (.number n) (.number k)
  | text {q : Quoted} {cs : List Char} (h : q.text = .ok cs) : Writes (.text q) (.text cs)
  | list {inside : Space} {items : List (Padded Node)} {vs : List Value}
    (h : WritesItems items vs) : Writes (.list inside items) (.list vs)
  | object {inside : Space} {es es' : List (Entry Node)} {ms : List (List Char × Value)}
    (hperm : es.Perm es') (h : WritesMembers es' ms) : Writes (.object inside es) (.object ms)

/-- The values of a list in their order. -/
inductive Node.WritesItems : List (Padded Node) → List Value → Prop where
  | nil : WritesItems [] []
  | cons {p : Padded Node} {ps : List (Padded Node)} {v : Value} {vs : List Value}
    (h : Writes p.core v) (hrest : WritesItems ps vs) : WritesItems (p :: ps) (v :: vs)

/-- The members of an object in their order. -/
inductive Node.WritesMembers : List (Entry Node) → List (List Char × Value) → Prop where
  | nil : WritesMembers [] []
  | cons {e : Entry Node} {es : List (Entry Node)} {name : List Char} {v : Value}
    {ms : List (List Char × Value)} (hname : e.key.core.text = .ok name)
    (h : Writes e.value.core v) (hrest : WritesMembers es ms) :
    WritesMembers (e :: es) ((name, v) :: ms)

end

namespace Value

theorem writes_number {k : Nat} (h : k ≤ greatestInteger) :
    (Value.number k).toNode.Writes (.number k) :=
  .number (Numeral.number_ofNat h)

theorem writes_text (cs : List Char) : (Value.text cs).toNode.Writes (.text cs) :=
  .text (Quoted.text_ofText cs)

theorem writesMembers_toEntries {ms : List (List Char × Value)}
    (h : ∀ m ∈ ms, m.2.toNode.Writes m.2) : Node.WritesMembers (toEntries ms) ms := by
  induction ms with
  | nil => exact .nil
  | cons m ms ih =>
    exact .cons (Quoted.text_ofText m.1) (h m (List.mem_cons_self ..))
      (ih fun m hm => h m (List.mem_cons_of_mem _ hm))

/-- The compact form writes an object if it writes the values of the members. -/
theorem writes_object {ms : List (List Char × Value)} (h : ∀ m ∈ ms, m.2.toNode.Writes m.2) :
    (Value.object ms).toNode.Writes (.object ms) :=
  .object (.refl _) (writesMembers_toEntries h)

end Value

open Net

namespace Node.Writes

variable {n : Node}

theorem unsigned {k : Nat} (h : n.Writes (.number k)) (greatest : Nat) (expected : String) :
    n.unsigned greatest expected =
      if k ≤ greatest then .ok k else .error (.outOfRange (.unsigned k) expected) := by
  cases h with
  | number h => simp [Node.unsigned, h, bind, Except.bind]

theorem quoted {cs : List Char} (h : n.Writes (.text cs)) (expected : String) :
    n.quoted expected = .ok cs := by
  cases h with
  | text h => exact h

theorem readAs_string {s : String} (h : n.Writes (.text s.toList)) :
    n.readAs readString = .ok s := by
  rw [reads_string.readAs_eq, h.quoted]
  simp [bind, Except.bind]

theorem readAs_optionalString {s? : Option String}
    (h : n.Writes (match s? with | none => .null | some s => .text s.toList)) :
    n.readAs (readOptional readString) = .ok s? := by
  rw [(reads_optional readsValue_string.reads).readAs_eq]
  cases s? with
  | none =>
    obtain ⟨⟩ := h
    rfl
  | some s =>
    have hs : n.readAs readString = .ok s := readAs_string h
    obtain ⟨⟩ := h
    exact congrArg (Except.map some) hs

theorem readAs_uint8 {k : UInt8} (h : n.Writes (.number k.toNat)) : n.readAs readUInt8 = .ok k := by
  have hk : k.toNat < 256 := k.toNat_lt
  rw [reads_uint8.readAs_eq, h.unsigned, if_pos (by omega)]
  simp [bind, Except.bind]

theorem readAs_uint16_eq {k : Nat} (h : n.Writes (.number k)) :
    n.readAs readUInt16 =
      if k ≤ 0xFFFF then .ok k.toUInt16 else .error (.outOfRange (.unsigned k) "u16") := by
  rw [reads_uint16.readAs_eq, h.unsigned]
  split <;> rfl

theorem readAs_uint16 {k : UInt16} (h : n.Writes (.number k.toNat)) :
    n.readAs readUInt16 = .ok k := by
  have hk : k.toNat < 65536 := k.toNat_lt
  rw [h.readAs_uint16_eq, if_pos (by omega)]
  simp

theorem readAs_uint32 {k : UInt32} (h : n.Writes (.number k.toNat)) :
    n.readAs readUInt32 = .ok k := by
  have hk : k.toNat < 4294967296 := k.toNat_lt
  rw [reads_uint32.readAs_eq, h.unsigned, if_pos (by omega)]
  simp [bind, Except.bind]

theorem readAs_uint64 {k : UInt64} (h : n.Writes (.number k.toNat)) :
    n.readAs readUInt64 = .ok k := by
  have hk : k.toNat ≤ greatestInteger := Nat.le_sub_one_of_lt k.toNat_lt
  rw [reads_uint64.readAs_eq, h.unsigned, if_pos hk]
  simp [bind, Except.bind]

theorem readAs_ipv4 {ip : Ipv4} (h : n.Writes (.text ip.render)) : n.readAs readIpv4 = .ok ip := by
  rw [reads_ipv4.readAs_eq, h.quoted]
  simp [bind, Except.bind, Ipv4.parse?_render, addressOr]

theorem readAs_address {cs : List Char} (h : n.Writes (.text cs)) :
    n.readAs readAddress = addressOr "IP" (Address.parse? cs) := by
  rw [reads_address.readAs_eq, h.quoted]
  rfl

end Node.Writes

/-! ## Members of an object, written in any way -/

namespace Schema

variable {α β δ γ : Type} {members : List (Member δ)} {ms : List (List Char × Value)} {d : δ}
  {x : Except Error δ}

/-- What members do to a draft, in every way of writing them in this order. -/
def Enters (members : List (Member δ)) (ms : List (List Char × Value)) (d : δ)
    (x : Except Error δ) : Prop :=
  ∀ es : List (Entry Node), Node.WritesMembers es ms → es.foldlM (enter members) d = x

theorem Enters.nil : Enters members [] d (.ok d) := by
  rintro es ⟨⟩
  rfl

section

variable {name : String} {get : δ → Option α} {set : δ → α → δ} {read : Reader α} {v : Value}

/-- A member that is not in the draft yet is read into its field. -/
theorem enter_member (hnodup : (members.map (·.name)).Nodup) (i : Nat)
    (hm : members[i]? = some (member name get set read)) (hread : ReadsValue read)
    (hget : get d = none) {e : Entry Node} (he : e.key.core.text = .ok name.toList) :
    enter members d e = e.value.core.readAs read >>= fun a => .ok (set d a) := by
  have hset : (member name get set read).isSet d = false := congrArg Option.isSome hget
  rw [enter, target_eq_of_text hnodup (List.mem_of_getElem? hm) he]
  simp only [bind, Except.bind, hset, Bool.false_eq_true, if_false]
  exact readAs_member _ _ _ hread d _

theorem Enters.cons (hnodup : (members.map (·.name)).Nodup) (i : Nat)
    (hm : members[i]? = some (member name get set read)) (hread : ReadsValue read)
    (hget : get d = none) {a : α} (ha : ∀ n : Node, n.Writes v → n.readAs read = .ok a)
    (h : Enters members ms (set d a) x) : Enters members ((name.toList, v) :: ms) d x := by
  rintro _ ⟨⟩
  rename_i e es hname hv hrest
  rw [List.foldlM_cons, enter_member hnodup i hm hread hget hname, ha _ hv]
  exact h es hrest

theorem Enters.cons_error (hnodup : (members.map (·.name)).Nodup) (i : Nat)
    (hm : members[i]? = some (member name get set read)) (hread : ReadsValue read)
    (hget : get d = none) {error : Error}
    (herror : ∀ n : Node, n.Writes v → n.readAs read = .error error) :
    Enters members ((name.toList, v) :: ms) d (.error error) := by
  rintro _ ⟨⟩
  rename_i e es hname hv hrest
  rw [List.foldlM_cons, enter_member hnodup i hm hread hget hname, herror _ hv]
  rfl

/-- A member that may be left out. `put` writes its field or leaves it out. -/
theorem Enters.option (hnodup : (members.map (·.name)).Nodup) (i : Nat)
    (hm : members[i]? = some (member name get set read)) (hread : ReadsValue read)
    (hget : get d = none) (put : δ → Option α → δ) (hnone : put d none = d)
    (hsome : ∀ a, put d (some a) = set d a) {o : Option β} {f : β → Value} {g : β → α}
    (hg : ∀ b, ∀ n : Node, n.Writes (f b) → n.readAs read = .ok (g b))
    (h : Enters members ms (put d (o.map g)) x) :
    Enters members ((o.map fun b => (name.toList, f b)).toList ++ ms) d x := by
  cases o with
  | none =>
    rw [Option.map_none, hnone] at h
    exact h
  | some b =>
    rw [Option.map_some, hsome] at h
    exact .cons hnodup i hm hread hget (hg b) h

end

/-- What a record is read as, in every way of writing its members. -/
theorem IsLawful.ofNode_writes {schema : Schema δ γ} (h : schema.IsLawful) {n : Node}
    (hn : n.Writes (.object ms)) (hx : Enters schema.members ms schema.blank x) {record : γ} :
    schema.ofNode n = .ok record ↔ ∃ d, x = .ok d ∧ schema.complete d = .ok record := by
  obtain ⟨⟩ := hn
  rename_i inside es es' hperm hes
  rw [ofNode_object_eq_ok, ← hx es' hes]
  exact exists_congr fun d => and_congr_left fun _ =>
    ⟨h.foldlM_perm hperm, h.foldlM_perm hperm.symm⟩

end Schema

end TunnelRelay.Json
