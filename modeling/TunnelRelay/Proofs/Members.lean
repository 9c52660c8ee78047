import TunnelRelay.Proofs.Records
/-!
# Members of records

A record's members are lawful if each of them writes a field of its own under a name of its own.
Then the members of an object can be taken in every order (`IsLawful.foldlM_perm`), a name that
comes twice is refused (`IsLawful.ofNode_repeat`), members of other names and absent members
with their defaults change nothing (`IsLawful.ofNode_change`), and the list of the first values is
read like the object of these members (`IsLawful.ofNode_asList`).
-/

namespace TunnelRelay.Json

variable {α β δ : Type}

theorem bind_eq_ok {x : Except Error α} {f : α → Except Error β} {b : β} :
    (x >>= f) = .ok b ↔ ∃ a, x = .ok a ∧ f a = .ok b := by
  cases x with
  | error e => simp [bind, Except.bind]
  | ok a => simp [bind, Except.bind]

/-! ## Laws of members -/

/-- What a member makes of a value depends on the draft only through where it is put. -/
theorem readAs_member (name : String) (get : δ → Option α) (set : δ → α → δ) {read : Reader α}
    (h : ReadsValue read) (draft : δ) (n : Node) :
    n.readAs ((member name get set read).read draft) =
      n.readAs read >>= fun a => .ok (set draft a) :=
  (h.reads.bind (g := fun a => .ok (set draft a)) fun _ _ => rfl).readAs_eq n

theorem ReadsValue.member (name : String) (get : δ → Option α) (set : δ → α → δ) {read : Reader α}
    (h : ReadsValue read) (draft : δ) : ReadsValue ((member name get set read).read draft) :=
  (h.reads.bind (g := fun a => .ok (set draft a)) fun _ _ => rfl).readsValue fun n => by
    rw [h.readAs_bare]

/-- A member that reads one value into one field of the draft. -/
inductive Member.IsField : Member δ → Prop where
  | member {α : Type} (name : String) {get : δ → Option α} {set : δ → α → δ} {read : Reader α}
    (reads : ReadsValue read) (get_set : ∀ d a, get (set d a) = some a) :
    IsField (Json.member name get set read)

theorem Member.IsField.readsValue {m : Member δ} (h : m.IsField) (draft : δ) :
    ReadsValue (m.read draft) := by
  obtain ⟨name, reads, -⟩ := h
  exact reads.member name _ _ draft

/-- A field that has been read is not read again. -/
theorem Member.IsField.isSet {m : Member δ} (h : m.IsField) {n : Node} {d d' : δ}
    (hn : n.readAs (m.read d) = .ok d') : m.isSet d' = true := by
  obtain ⟨name, reads, get_set⟩ := h
  rw [readAs_member _ _ _ reads, bind_eq_ok] at hn
  obtain ⟨a, -, ⟨⟩⟩ := hn
  exact congrArg Option.isSome (get_set d a)

/-- Two members that leave each other's part of the draft alone. -/
structure Member.Independent (m m' : Member δ) : Prop where
  keeps : ∀ {n : Node} {d d' : δ}, n.readAs (m.read d) = .ok d' → m'.isSet d' = m'.isSet d
  keeps' : ∀ {n : Node} {d d' : δ}, n.readAs (m'.read d) = .ok d' → m.isSet d' = m.isSet d
  swap : ∀ {n n' : Node} {d d' : δ},
    (n.readAs (m.read d) >>= fun d => n'.readAs (m'.read d)) = .ok d' ↔
      (n'.readAs (m'.read d) >>= fun d => n.readAs (m.read d)) = .ok d'

theorem Member.Independent.symm {m m' : Member δ} (h : m.Independent m') : m'.Independent m where
  keeps := h.keeps'
  keeps' := h.keeps
  swap := h.swap.symm

instance : Std.Symm (@Member.Independent δ) where
  symm _ _ := Member.Independent.symm

/-- Members that write different fields are independent. -/
theorem independent_member {name name' : String} {get : δ → Option α}
    {set : δ → α → δ} {read : Reader α} (h : ReadsValue read) {get' : δ → Option β}
    {set' : δ → β → δ} {read' : Reader β} (h' : ReadsValue read')
    (hget : ∀ d b, get (set' d b) = get d) (hget' : ∀ d a, get' (set d a) = get' d)
    (hset : ∀ d a b, set' (set d a) b = set (set' d b) a) :
    (member name get set read).Independent (member name' get' set' read') where
  keeps {n d d'} hn := by
    rw [readAs_member _ _ _ h, bind_eq_ok] at hn
    obtain ⟨a, -, ⟨⟩⟩ := hn
    exact congrArg Option.isSome (hget' d a)
  keeps' {n d d'} hn := by
    rw [readAs_member _ _ _ h', bind_eq_ok] at hn
    obtain ⟨b, -, ⟨⟩⟩ := hn
    exact congrArg Option.isSome (hget d b)
  swap {n n' d d'} := by
    simp only [readAs_member _ _ _ h, readAs_member _ _ _ h', bind_eq_ok]
    constructor
    · rintro ⟨_, ⟨a, ha, ⟨⟩⟩, b, hb, ⟨⟩⟩
      exact ⟨_, ⟨b, hb, rfl⟩, a, ha, by rw [hset]⟩
    · rintro ⟨_, ⟨b, hb, ⟨⟩⟩, a, ha, ⟨⟩⟩
      exact ⟨_, ⟨a, ha, rfl⟩, b, hb, by rw [hset]⟩

/-- The members of a record each write a field of their own under a name of their own, and none of
them is there at the start. -/
structure Schema.IsLawful {γ : Type} (schema : Schema δ γ) : Prop where
  isField : ∀ m ∈ schema.members, m.IsField
  independent : schema.members.Pairwise Member.Independent
  nodup : (schema.members.map (·.name)).Nodup
  blank : ∀ m ∈ schema.members, m.isSet schema.blank = false

theorem Schema.IsLawful.reads {γ : Type} {schema : Schema δ γ} (h : schema.IsLawful) :
    Schema.ReadsMembers schema.members := fun m hm => (h.isField m hm).readsValue

namespace Schema

variable {γ : Type}

/-! ## Members of an object -/

section

variable {members : List (Member δ)} {e e' : Entry Node} {d d' : δ} {m : Member δ}

theorem target_eq_some (h : target members e = .ok (some m)) :
    m ∈ members ∧ e.key.core.text = .ok m.name.toList := by
  unfold target at h
  cases htext : e.key.core.text with
  | error error => rw [htext] at h; cases h
  | ok key =>
    rw [htext] at h
    have hfind := Except.ok.inj h
    have hname := List.find?_some hfind
    exact ⟨List.mem_of_find?_eq_some hfind, congrArg _ (beq_iff_eq.1 hname).symm⟩

/-- A name leads to its member. -/
theorem target_eq_of_text (hnodup : (members.map (·.name)).Nodup) (hm : m ∈ members)
    (h : e.key.core.text = .ok m.name.toList) : target members e = .ok (some m) := by
  rw [target, h]
  cases hfind : members.find? fun m' => m'.name.toList == m.name.toList with
  | none => simpa using List.find?_eq_none.1 hfind m hm
  | some m' =>
    have hfound : (m'.name.toList == m.name.toList) = true := by simpa using List.find?_some hfind
    have hname := String.toList_injective (beq_iff_eq.1 hfound)
    have hmem := List.mem_of_find?_eq_some hfind
    rw [List.inj_on_of_nodup_map hnodup hmem hm hname] at hfind
    exact congrArg Except.ok hfind

theorem target_eq_none {name : List Char} (h : e.key.core.text = .ok name)
    (hname : name ∉ members.map (·.name.toList)) : target members e = .ok none := by
  rw [target, h]
  refine congrArg Except.ok (List.find?_eq_none.2 fun m hm hbeq => hname ?_)
  exact List.mem_map.2 ⟨m, hm, beq_iff_eq.1 hbeq⟩

theorem enter_eq_ok : enter members d e = .ok d' ↔
    (target members e = .ok none ∧ d = d') ∨
      ∃ m, target members e = .ok (some m) ∧ m.isSet d = false ∧
        e.value.core.readAs (m.read d) = .ok d' := by
  rw [enter]
  cases target members e with
  | error error => simp [bind, Except.bind]
  | ok m? =>
    cases m? with
    | none => simp [bind, Except.bind]
    | some m => cases hset : m.isSet d <;> simp [bind, Except.bind, hset]

theorem enter_of_target_none (h : target members e = .ok none) (d : δ) :
    enter members d e = .ok d :=
  enter_eq_ok.2 (.inl ⟨h, rfl⟩)

end

variable {schema : Schema δ γ} {e e' : Entry Node} {l r : List (Entry Node)} {inside : Space}
  {d d' d'' : δ} {m m' : Member δ} {name : String}

theorem IsLawful.independent_of_ne (h : schema.IsLawful) (hm : m ∈ schema.members)
    (hm' : m' ∈ schema.members) (hne : m ≠ m') : m.Independent m' :=
  h.independent.forall hm hm' hne

/-- One member of an object sets the member of the record that it is for. -/
theorem IsLawful.isSet_enter (h : schema.IsLawful) (hm : m ∈ schema.members)
    (henter : enter schema.members d e = .ok d') :
    m.isSet d' = true ↔ m.isSet d = true ∨ target schema.members e = .ok (some m) := by
  obtain ⟨htarget, rfl⟩ | ⟨m', htarget, hset, hread⟩ := enter_eq_ok.1 henter
  · simp [htarget]
  · have hm' := (target_eq_some htarget).1
    by_cases hne : m' = m
    · subst hne
      simp [htarget, (h.isField m' hm').isSet hread]
    · rw [(h.independent_of_ne hm' hm hne).keeps hread, htarget]
      simp [hne]

/-- Two members of an object may change places. -/
theorem IsLawful.enter_swap (h : schema.IsLawful) (he : enter schema.members d e = .ok d')
    (he' : enter schema.members d' e' = .ok d'') :
    ∃ d₁, enter schema.members d e' = .ok d₁ ∧ enter schema.members d₁ e = .ok d'' := by
  obtain ⟨htarget, rfl⟩ | ⟨m, htarget, hset, hread⟩ := enter_eq_ok.1 he
  · exact ⟨d'', he', enter_of_target_none htarget d''⟩
  obtain ⟨htarget', rfl⟩ | ⟨m', htarget', hset', hread'⟩ := enter_eq_ok.1 he'
  · exact ⟨d, enter_of_target_none htarget' d, he⟩
  have hm := (target_eq_some htarget).1
  have hm' := (target_eq_some htarget').1
  have hne : m ≠ m' := by
    rintro rfl
    rw [(h.isField m hm).isSet hread] at hset'
    cases hset'
  have hind := h.independent_of_ne hm hm' hne
  obtain ⟨d₁, hread₁, hread₂⟩ := bind_eq_ok.1 (hind.swap.1 (bind_eq_ok.2 ⟨d', hread, hread'⟩))
  refine ⟨d₁, enter_eq_ok.2 (.inr ⟨m', htarget', ?_, hread₁⟩),
    enter_eq_ok.2 (.inr ⟨m, htarget, ?_, hread₂⟩)⟩
  · rw [← hset', hind.keeps hread]
  · rw [← hset, hind.keeps' hread₁]

/-- The order of the members does not matter. -/
theorem IsLawful.foldlM_perm (h : schema.IsLawful) {es es' : List (Entry Node)}
    (hperm : es.Perm es') (hes : es.foldlM (enter schema.members) d = .ok d') :
    es'.foldlM (enter schema.members) d = .ok d' := by
  induction hperm generalizing d with
  | nil => exact hes
  | cons e hperm ih =>
    obtain ⟨d₁, hd₁, hrest⟩ := bind_eq_ok.1 hes
    exact bind_eq_ok.2 ⟨d₁, hd₁, ih hrest⟩
  | swap e e' es =>
    obtain ⟨d₁, hd₁, hrest⟩ := bind_eq_ok.1 hes
    obtain ⟨d₂, hd₂, hrest⟩ := bind_eq_ok.1 hrest
    obtain ⟨d₃, hd₃, hd₄⟩ := h.enter_swap hd₁ hd₂
    exact bind_eq_ok.2 ⟨d₃, hd₃, bind_eq_ok.2 ⟨d₂, hd₄, hrest⟩⟩
  | trans _ _ ih ih' => exact ih' (ih hes)

/-- One member can be taken last. -/
theorem IsLawful.foldlM_insert (h : schema.IsLawful) :
    (l ++ e :: r).foldlM (enter schema.members) d = .ok d' ↔
      ∃ d₁, (l ++ r).foldlM (enter schema.members) d = .ok d₁ ∧
        enter schema.members d₁ e = .ok d' := by
  have hperm : (l ++ e :: r).Perm (l ++ r ++ [e]) :=
    List.perm_middle.trans (List.perm_append_singleton e (l ++ r)).symm
  have hlast : (l ++ r ++ [e]).foldlM (enter schema.members) d = .ok d' ↔
      ∃ d₁, (l ++ r).foldlM (enter schema.members) d = .ok d₁ ∧
        enter schema.members d₁ e = .ok d' := by
    rw [List.foldlM_append, bind_eq_ok]
    simp only [List.foldlM_cons, List.foldlM_nil, bind_pure]
  rw [← hlast]
  exact ⟨h.foldlM_perm hperm, h.foldlM_perm hperm.symm⟩

/-- What is set in the draft has stood among the members. -/
theorem IsLawful.isSet_foldlM (h : schema.IsLawful) (hm : m ∈ schema.members)
    {es : List (Entry Node)} (hes : es.foldlM (enter schema.members) d = .ok d') :
    m.isSet d' = true ↔
      m.isSet d = true ∨ ∃ e ∈ es, target schema.members e = .ok (some m) := by
  induction es generalizing d with
  | nil =>
    obtain rfl := Except.ok.inj hes
    simp
  | cons e es ih =>
    obtain ⟨d₁, hd₁, hrest⟩ := bind_eq_ok.1 hes
    rw [ih hrest, h.isSet_enter hm hd₁, or_assoc, List.exists_mem_cons_iff]

/-- A member does not stand twice. -/
theorem IsLawful.foldlM_duplicate (h : schema.IsLawful)
    (he : target schema.members e = .ok (some m))
    (hmem : ∃ e' ∈ l ++ r, target schema.members e' = .ok (some m)) :
    ∃ error, (l ++ e :: r).foldlM (enter schema.members) d = .error error := by
  cases hfold : (l ++ e :: r).foldlM (enter schema.members) d with
  | error error => exact ⟨error, rfl⟩
  | ok d' =>
    obtain ⟨d₁, hd₁, henter⟩ := h.foldlM_insert.1 hfold
    have hset := (h.isSet_foldlM (target_eq_some he).1 hd₁).2 (.inr hmem)
    obtain ⟨htarget, -⟩ | ⟨m', htarget, hfalse, -⟩ := enter_eq_ok.1 henter
    · rw [he] at htarget
      cases htarget
    · rw [he] at htarget
      cases htarget
      rw [hset] at hfalse
      cases hfalse

/-- Without one of its members the record lacks it. -/
theorem IsLawful.foldlM_remove (h : schema.IsLawful)
    (he : target schema.members e = .ok (some m))
    (hes : (l ++ e :: r).foldlM (enter schema.members) d = .ok d') :
    ∃ d₁, (l ++ r).foldlM (enter schema.members) d = .ok d₁ ∧ m.isSet d₁ = false := by
  obtain ⟨d₁, hd₁, henter⟩ := h.foldlM_insert.1 hes
  refine ⟨d₁, hd₁, ?_⟩
  obtain ⟨htarget, -⟩ | ⟨m', htarget, hfalse, -⟩ := enter_eq_ok.1 henter
  · rw [he] at htarget
    cases htarget
  · rw [he] at htarget
    cases htarget
    exact hfalse

/-- A member of another name changes nothing. -/
theorem foldlM_unknown {members : List (Member δ)}
    (he : target members e = .ok none) :
    (l ++ e :: r).foldlM (enter members) d = (l ++ r).foldlM (enter members) d := by
  simp only [List.foldlM_append, List.foldlM_cons, enter_of_target_none he]
  rfl

/-! ## Objects -/

theorem ofNode_object_eq_ok {inside : Space} {es : List (Entry Node)} {record : γ} :
    schema.ofNode (.object inside es) = .ok record ↔
      ∃ d, es.foldlM (enter schema.members) schema.blank = .ok d ∧
        schema.complete d = .ok record := by
  rw [ofNode]
  cases es.foldlM (enter schema.members) schema.blank with
  | error error => simp [bind, Except.bind]
  | ok d => cases hd : schema.complete d <;> simp [bind, Except.bind, hd]

theorem ofNode_missing {inside : Space} {es : List (Entry Node)} {d : δ} {place : Nat}
    {name : String} (hd : es.foldlM (enter schema.members) schema.blank = .ok d)
    (hcomplete : schema.complete d = .error (place, name)) :
    schema.ofNode (.object inside es) = .error (.missing name) := by
  simp [ofNode, hd, bind, Except.bind, hcomplete]

/-- One more member of a name that stands among the members already. -/
inductive Repeat (schema : Schema δ γ) : Node → Node → Prop where
  | second {inside : Space} {l r : List (Entry Node)} {e : Entry Node} {name : String}
    (hname : name ∈ schema.members.map (·.name)) (he : e.key.core.text = .ok name.toList)
    (hmem : ∃ e' ∈ l ++ r, e'.key.core.text = .ok name.toList) :
    Repeat schema (.object inside (l ++ r)) (.object inside (l ++ e :: r))

/-- A repeated member is refused, whatever else there is. -/
theorem IsLawful.ofNode_repeat (h : schema.IsLawful) {n n' : Node}
    (hrepeat : Repeat schema n n') : ∃ error, schema.ofNode n' = .error error := by
  obtain @⟨inside, l, r, e, name, hname, he, hmem⟩ := hrepeat
  obtain ⟨m, hm, rfl⟩ := List.mem_map.1 hname
  obtain ⟨e', he', htext⟩ := hmem
  obtain ⟨error, herror⟩ := h.foldlM_duplicate (d := schema.blank) (l := l) (r := r)
    (target_eq_of_text h.nodup hm he) ⟨e', he', target_eq_of_text h.nodup hm htext⟩
  exact ⟨error, by simp [ofNode, herror, bind, Except.bind]⟩

/-- A value may be replaced by one that its member reads alike. -/
theorem ofNode_replace {inside : Space} {l r : List (Entry Node)} {key : Padded Quoted}
    {before before' after after' : Space} {n n' : Node}
    (h : ∀ m d, target schema.members ⟨key, ⟨before, n, after⟩⟩ = .ok (some m) →
      n.readAs (m.read d) = n'.readAs (m.read d)) :
    schema.ofNode (.object inside (l ++ ⟨key, ⟨before, n, after⟩⟩ :: r)) =
      schema.ofNode (.object inside (l ++ ⟨key, ⟨before', n', after'⟩⟩ :: r)) := by
  have henter : ∀ d, enter schema.members d ⟨key, ⟨before, n, after⟩⟩ =
      enter schema.members d ⟨key, ⟨before', n', after'⟩⟩ := by
    intro d
    have htarget : target schema.members ⟨key, ⟨before', n', after'⟩⟩ =
      target schema.members ⟨key, ⟨before, n, after⟩⟩ := rfl
    rw [enter, enter, htarget]
    cases hm : target schema.members ⟨key, ⟨before, n, after⟩⟩ with
    | error error => rfl
    | ok m? =>
      cases m? with
      | none => rfl
      | some m => simp only [bind, Except.bind, h m d hm]
  simp only [ofNode, List.foldlM_append, List.foldlM_cons, henter]

/-! ## Lists -/

/-- Members of an object that are for the first members of the record, in declaration order. -/
def AreFirst (members : List (Member δ)) (es : List (Entry Node)) : Prop :=
  es.map (·.key.core.text) = (members.take es.length).map fun m => .ok m.name.toList

theorem AreFirst.length_le {members : List (Member δ)} {es : List (Entry Node)}
    (h : AreFirst members es) : es.length ≤ members.length := by
  have hlength := congrArg List.length h
  rw [List.length_map, List.length_map, List.length_take] at hlength
  omega

/-- The values of a list go where the members of an object with their names go. -/
theorem foldlM_eq_enterValues {members left : List (Member δ)}
    (hnodup : (members.map (·.name)).Nodup) (hleft : left ⊆ members)
    (hind : left.Pairwise Member.Independent) {es : List (Entry Node)} (hes : AreFirst left es)
    (hd : ∀ m ∈ left, m.isSet d = false) :
    es.foldlM (enter members) d = enterValues left d (es.map (·.value)) := by
  induction left generalizing es d with
  | nil =>
    cases es with
    | nil => rfl
    | cons e es => simp [AreFirst] at hes
  | cons m left ih =>
    cases es with
    | nil => rfl
    | cons e es =>
      obtain ⟨he, hes⟩ := List.cons.inj hes
      obtain ⟨hm, hleft⟩ := List.cons_subset.1 hleft
      obtain ⟨hmind, hind⟩ := List.pairwise_cons.1 hind
      have htarget := target_eq_of_text hnodup hm he
      have hset := hd m (List.mem_cons_self ..)
      have henter : enter members d e = e.value.core.readAs (m.read d) := by
        simp [enter, htarget, bind, Except.bind, hset]
      rw [List.foldlM_cons, List.map_cons, enterValues, henter]
      cases hread : e.value.core.readAs (m.read d) with
      | error error => rfl
      | ok d' =>
        refine ih hleft hind hes fun m' hm' => ?_
        rw [(hmind m' hm').keeps hread]
        exact hd m' (List.mem_cons_of_mem _ hm')

/-- The list of the values in place of the object of the first `least` members or more. -/
inductive AsList (schema : Schema δ γ) (least : Nat) : Node → Node → Prop where
  | values {inside inside' : Space} {es : List (Entry Node)} (hes : AreFirst schema.members es)
    (hlength : least ≤ es.length) :
    AsList schema least (.object inside es) (.list inside' (es.map (·.value)))

/-- A list is read like the object that it stands for, if the first `least` members complete the
record. -/
theorem IsLawful.ofNode_asList (h : schema.IsLawful) {least : Nat}
    (hcomplete : ∀ d, (∀ m ∈ schema.members.take least, m.isSet d = true) →
      ∃ record, schema.complete d = .ok record) {n n' : Node} (hlist : AsList schema least n n') :
    schema.ofNode n' = schema.ofNode n := by
  obtain @⟨inside, inside', es, hes, hlength⟩ := hlist
  have hfold := foldlM_eq_enterValues h.nodup (List.Subset.refl _) h.independent hes h.blank
  rw [ofNode, ofNode, ← hfold]
  cases hd : es.foldlM (enter schema.members) schema.blank with
  | error error => rfl
  | ok d =>
    obtain ⟨record, hrecord⟩ := hcomplete d fun m hm => by
      have hm := (List.take_sublist_take_left hlength).mem hm
      have hmem := List.mem_of_mem_take hm
      have htext : .ok m.name.toList ∈ es.map (·.key.core.text) := by
        rw [hes]
        exact List.mem_map_of_mem hm
      obtain ⟨e, he, htext⟩ := List.mem_map.1 htext
      exact (h.isSet_foldlM hmem hd).2 (.inr ⟨e, he, target_eq_of_text h.nodup hmem htext⟩)
    simp [bind, Except.bind, hrecord, hes.length_le]

/-! ## Layouts of an object -/

/-- One change of a value that leaves a record as it is. `IsDefault` says which values of which
names mean the same as their absence. -/
inductive Change (schema : Schema δ γ) (IsDefault : String → Node → Prop) : Node → Node → Prop where
  /-- Other insignificant characters. -/
  | respace {n n' : Node} (h : n.bare = n'.bare) : Change schema IsDefault n n'
  /-- The members in another order. -/
  | permute {inside : Space} {es es' : List (Entry Node)} (h : es.Perm es') :
    Change schema IsDefault (.object inside es) (.object inside es')
  /-- One more member, of a name that the record does not have. -/
  | insert {inside : Space} {l r : List (Entry Node)} {e : Entry Node} {name : List Char}
    (hname : e.key.core.text = .ok name) (hunknown : name ∉ schema.members.map (·.name.toList)) :
    Change schema IsDefault (.object inside (l ++ r)) (.object inside (l ++ e :: r))
  /-- An absent member with its default. -/
  | fill {inside : Space} {l r : List (Entry Node)} {e : Entry Node} {name : String}
    (hname : e.key.core.text = .ok name.toList)
    (habsent : ∀ e' ∈ l ++ r, e'.key.core.text ≠ .ok name.toList)
    (hdefault : IsDefault name e.value.core) :
    Change schema IsDefault (.object inside (l ++ r)) (.object inside (l ++ e :: r))

/-- A value that the record has when the member is absent. -/
def Completes (schema : Schema δ γ) (name : String) (n : Node) : Prop :=
  ∃ m ∈ schema.members, m.name = name ∧ ∀ d, m.isSet d = false →
    ∃ d', n.readAs (m.read d) = .ok d' ∧ schema.complete d' = schema.complete d

/-- A member completes the record with the value that its absence means. -/
theorem completes_member {α : Type} {name : String} {get : δ → Option α} {set : δ → α → δ}
    {read : Reader α} (i : Nat) (hm : schema.members[i]? = some (member name get set read))
    (hread : ReadsValue read) {n : Node} {a : α} (hn : n.readAs read = .ok a)
    (hcomplete : ∀ d, get d = none → schema.complete (set d a) = schema.complete d) :
    Completes schema name n := by
  refine ⟨_, List.mem_of_getElem? hm, rfl, fun d hd => ⟨set d a, ?_, hcomplete d ?_⟩⟩
  · rw [readAs_member _ _ _ hread, hn]
    rfl
  · exact Option.not_isSome_iff_eq_none.1 (ne_true_of_eq_false hd)

theorem IsLawful.ofNode_change (h : schema.IsLawful) {IsDefault : String → Node → Prop}
    (hdefault : ∀ {name n}, IsDefault name n → Completes schema name n) {n n' : Node}
    (hchange : Change schema IsDefault n n') {record : γ} (hn : schema.ofNode n = .ok record) :
    schema.ofNode n' = .ok record := by
  cases hchange with
  | respace hbare => rwa [← ofNode_bare schema h.reads, ← hbare, ofNode_bare schema h.reads]
  | permute hperm =>
    obtain ⟨d, hd, hrecord⟩ := ofNode_object_eq_ok.1 hn
    exact ofNode_object_eq_ok.2 ⟨d, h.foldlM_perm hperm hd, hrecord⟩
  | insert hname hunknown =>
    obtain ⟨d, hd, hrecord⟩ := ofNode_object_eq_ok.1 hn
    rw [← foldlM_unknown (target_eq_none hname hunknown)] at hd
    exact ofNode_object_eq_ok.2 ⟨d, hd, hrecord⟩
  | @fill inside l r e name hname habsent hd =>
    obtain ⟨d, hfold, hrecord⟩ := ofNode_object_eq_ok.1 hn
    obtain ⟨m, hm, rfl, hread⟩ := hdefault hd
    have hset : m.isSet d = false := by
      rw [← Bool.not_eq_true, h.isSet_foldlM hm hfold]
      rintro (hblank | ⟨e', he', htarget⟩)
      · rw [h.blank m hm] at hblank
        cases hblank
      · exact habsent e' he' (target_eq_some htarget).2
    obtain ⟨d', hd', hcomplete⟩ := hread d hset
    refine ofNode_object_eq_ok.2 ⟨d', h.foldlM_insert.2 ⟨d, hfold, ?_⟩, hcomplete.trans hrecord⟩
    exact enter_eq_ok.2 (.inr ⟨m, target_eq_of_text h.nodup hm hname, hset, hd'⟩)

end Schema

end TunnelRelay.Json
