import Mathlib.Tactic
import TunnelRelay.Text.Utf8
/-!
# Bytes of a text, digits of a number

What is written is read back: the UTF-8 bytes of a text give the text, and the digits of a number
in any base give the number. Both are stated for a reader that goes on behind what it has read.
Bytes that no text has are not decoded (`decode?_eq_some_iff`).
-/

namespace TunnelRelay.Text.Utf8

/-! ## UTF-8 -/

theorem toNat_ofNat_byte {n : Nat} (h : n < 256) : (UInt8.ofNat n).toNat = n :=
  UInt8.toNat_ofNat_of_lt' h

theorem startSequence_one {n : Nat} (h : n < 0x80) :
    startSequence (UInt8.ofNat n) = ([some (Char.ofNat n)], .fresh) := by
  have hn := toNat_ofNat_byte (show n < 256 by omega)
  rw [startSequence, if_pos (by rw [UInt8.lt_iff_toNat_lt, hn]; exact h), hn]

theorem startSequence_two {n : Nat} (hl : 0xC2 ≤ n) (hg : n < 0xE0) :
    startSequence (UInt8.ofNat n) = ([], .inside 0 (n - 0xC0) 0x80 0xBF) := by
  have hn := toNat_ofNat_byte (show n < 256 by omega)
  simp only [startSequence, UInt8.lt_iff_toNat_lt, hn, UInt8.reduceToNat]
  rw [if_neg (by omega), if_neg (by omega), if_pos hg]

theorem startSequence_three {n : Nat} (hl : 0xE0 ≤ n) (hg : n < 0xF0) :
    startSequence (UInt8.ofNat n) =
      ([], .inside 1 (n - 0xE0) (if n = 0xE0 then 0xA0 else 0x80)
        (if n = 0xED then 0x9F else 0xBF)) := by
  have hn := toNat_ofNat_byte (show n < 256 by omega)
  simp only [startSequence, UInt8.lt_iff_toNat_lt, ← UInt8.toNat_inj, hn, UInt8.reduceToNat]
  rw [if_neg (by omega), if_neg (by omega), if_neg (by omega)]
  by_cases h : n = 0xE0
  · simp [h]
  · by_cases h' : n = 0xED
    · simp [h']
    · simp [h, h', hg]

theorem startSequence_four {n : Nat} (hl : 0xF0 ≤ n) (hg : n ≤ 0xF4) :
    startSequence (UInt8.ofNat n) =
      ([], .inside 2 (n - 0xF0) (if n = 0xF0 then 0x90 else 0x80)
        (if n = 0xF4 then 0x8F else 0xBF)) := by
  have hn := toNat_ofNat_byte (show n < 256 by omega)
  simp only [startSequence, UInt8.lt_iff_toNat_lt, ← UInt8.toNat_inj, hn, UInt8.reduceToNat]
  rw [if_neg (by omega), if_neg (by omega), if_neg (by omega), if_neg (by omega),
    if_neg (by omega), if_neg (by omega)]
  by_cases h : n = 0xF0
  · simp [h]
  · by_cases h' : n = 0xF4
    · simp [h']
    · simp [h, h', show n < 0xF4 by omega]

section
variable {value n : Nat} {least greatest : UInt8} (bs : List UInt8)

/-- A byte that goes on a character and does not complete it. -/
theorem piecesFrom_more {owed : Nat} (hl : least.toNat ≤ n) (hg : n ≤ greatest.toNat) :
    piecesFrom (.inside (owed + 1) value least greatest) (UInt8.ofNat n :: bs) =
      piecesFrom (.inside owed (value * 64 + (n - 0x80)) 0x80 0xBF) bs := by
  have hn := toNat_ofNat_byte (hg.trans_lt greatest.toNat_lt)
  simp only [piecesFrom, UInt8.le_iff_toNat_le, hn, hl, hg, and_self, if_true]

/-- A byte that completes a character. -/
theorem piecesFrom_last {c : Char} (hl : least.toNat ≤ n) (hg : n ≤ greatest.toNat)
    (hc : value * 64 + (n - 0x80) = c.toNat) :
    piecesFrom (.inside 0 value least greatest) (UInt8.ofNat n :: bs) =
      some c :: piecesFrom .fresh bs := by
  have hn := toNat_ofNat_byte (hg.trans_lt greatest.toNat_lt)
  simp only [piecesFrom, UInt8.le_iff_toNat_le, hn, hl, hg, and_self, if_true, hc,
    Char.ofNat_toNat]

end

/-- The bytes of a character are read as that character, whatever follows. -/
theorem piecesFrom_encodeChar (c : Char) (bs : List UInt8) :
    piecesFrom .fresh (String.utf8EncodeChar c ++ bs) = some c :: piecesFrom .fresh bs := by
  obtain ⟨v, hv⟩ : ∃ v, c.toNat = v := ⟨_, rfl⟩
  have hvalid : v < 0xD800 ∨ 0xDFFF < v ∧ v < 0x110000 := hv ▸ c.valid
  simp only [String.utf8EncodeChar, show c.val.toNat = v from hv]
  -- the four lengths; the first byte gives the bounds of the second one
  split_ifs with h₁ h₂ h₃ <;> simp only [List.cons_append, List.nil_append]
  · rw [piecesFrom, startSequence_one (by omega), ← hv, Char.ofNat_toNat]
    rfl
  · rw [piecesFrom, startSequence_two (by omega) (by omega), List.nil_append]
    exact piecesFrom_last bs (by simp) (by simp; omega) (by omega)
  · rw [piecesFrom, startSequence_three (by omega) (by omega), List.nil_append,
      piecesFrom_more _ (by split_ifs <;> (simp only [UInt8.reduceToNat]; omega))
        (by split_ifs <;> (simp only [UInt8.reduceToNat]; omega))]
    exact piecesFrom_last bs (by simp) (by simp; omega) (by omega)
  · rw [piecesFrom, startSequence_four (by omega) (by omega), List.nil_append,
      piecesFrom_more _ (by split_ifs <;> (simp only [UInt8.reduceToNat]; omega))
        (by split_ifs <;> (simp only [UInt8.reduceToNat]; omega)),
      piecesFrom_more _ (by simp) (by simp; omega)]
    exact piecesFrom_last bs (by simp) (by simp; omega) (by omega)

theorem encode_cons (c : Char) (cs : List Char) :
    encode (c :: cs) = String.utf8EncodeChar c ++ encode cs := List.flatMap_cons

/-- The bytes of a text are read as its characters, whatever follows. -/
theorem pieces_encode_append (cs : List Char) (bs : List UInt8) :
    pieces (encode cs ++ bs) = cs.map some ++ pieces bs := by
  induction cs with
  | nil => rfl
  | cons c cs ih =>
    rw [encode_cons, List.append_assoc, pieces, piecesFrom_encodeChar, ← pieces, ih]
    rfl

/-- A text is the characters of its bytes. -/
theorem pieces_encode (cs : List Char) : pieces (encode cs) = cs.map some := by
  simpa [pieces, piecesFrom] using pieces_encode_append cs []

/-- A text is decoded if each of its pieces is a character. -/
theorem decode?_eq_some_iff_pieces {bs : List UInt8} {cs : List Char} :
    decode? bs = some cs ↔ pieces bs = cs.map some := by
  rw [decode?]
  induction pieces bs generalizing cs with
  | nil => cases cs <;> simp
  | cons p ps ih =>
    cases p with
    | none => cases cs <;> simp
    | some c => cases cs <;> simp [Option.bind_eq_some_iff, ih, and_comm]

@[simp] theorem decode?_encode (cs : List Char) : decode? (encode cs) = some cs :=
  decode?_eq_some_iff_pieces.2 (pieces_encode cs)

/-- The first byte of a sequence is a character, starts none, or says how many bytes follow. -/
theorem startSequence_cases (b : UInt8) :
    (b.toNat < 0x80 ∧ startSequence b = ([some (Char.ofNat b.toNat)], .fresh)) ∨
    startSequence b = ([none], .fresh) ∨
    (0xC2 ≤ b.toNat ∧ b.toNat < 0xE0 ∧
      startSequence b = ([], .inside 0 (b.toNat - 0xC0) 0x80 0xBF)) ∨
    (0xE0 ≤ b.toNat ∧ b.toNat < 0xF0 ∧ startSequence b =
      ([], .inside 1 (b.toNat - 0xE0) (if b.toNat = 0xE0 then 0xA0 else 0x80)
        (if b.toNat = 0xED then 0x9F else 0xBF))) ∨
    (0xF0 ≤ b.toNat ∧ b.toNat ≤ 0xF4 ∧ startSequence b =
      ([], .inside 2 (b.toNat - 0xF0) (if b.toNat = 0xF0 then 0x90 else 0x80)
        (if b.toNat = 0xF4 then 0x8F else 0xBF))) := by
  by_cases h₁ : b.toNat < 0x80
  · exact .inl ⟨h₁, by simpa only [UInt8.ofNat_toNat] using startSequence_one h₁⟩
  by_cases h₂ : b.toNat < 0xC2
  · refine .inr (.inl ?_)
    simp only [startSequence, UInt8.lt_iff_toNat_lt, UInt8.reduceToNat]
    rw [if_neg h₁, if_pos h₂]
  by_cases h₃ : b.toNat < 0xE0
  · refine .inr (.inr (.inl ⟨by omega, h₃, ?_⟩))
    simpa only [UInt8.ofNat_toNat] using startSequence_two (by omega) h₃
  by_cases h₄ : b.toNat < 0xF0
  · refine .inr (.inr (.inr (.inl ⟨by omega, h₄, ?_⟩)))
    simpa only [UInt8.ofNat_toNat] using startSequence_three (by omega) h₄
  by_cases h₅ : b.toNat ≤ 0xF4
  · refine .inr (.inr (.inr (.inr ⟨by omega, h₅, ?_⟩)))
    simpa only [UInt8.ofNat_toNat] using startSequence_four (by omega) h₅
  · refine .inr (.inl ?_)
    simp only [startSequence, UInt8.lt_iff_toNat_lt, ← UInt8.toNat_inj, UInt8.reduceToNat]
    rw [if_neg h₁, if_neg h₂, if_neg h₃, if_neg (by omega), if_neg (by omega), if_neg h₄,
      if_neg (by omega), if_neg (by omega), if_neg (by omega)]

section
variable {value : Nat} {least greatest : UInt8} {bs : List UInt8}

/-- Where the next piece is decoded, a character that lacks one byte gets it. -/
theorem exists_byte_of_last
    (h : (piecesFrom (.inside 0 value least greatest) bs).head? ≠ some none) :
    ∃ b rest, bs = b :: rest ∧ least.toNat ≤ b.toNat ∧ b.toNat ≤ greatest.toNat ∧
      piecesFrom (.inside 0 value least greatest) bs =
        some (Char.ofNat (value * 64 + (b.toNat - 0x80))) :: piecesFrom .fresh rest := by
  cases bs with
  | nil => simp [piecesFrom] at h
  | cons b rest =>
    rw [piecesFrom] at h ⊢
    split at h
    · rename_i hb
      exact ⟨b, rest, rfl, hb.1, hb.2, if_pos hb⟩
    · simp at h

/-- Where the next piece is decoded, a character that lacks more bytes gets the next one. -/
theorem exists_byte_of_more {owed : Nat}
    (h : (piecesFrom (.inside (owed + 1) value least greatest) bs).head? ≠ some none) :
    ∃ b rest, bs = b :: rest ∧ least.toNat ≤ b.toNat ∧ b.toNat ≤ greatest.toNat ∧
      piecesFrom (.inside (owed + 1) value least greatest) bs =
        piecesFrom (.inside owed (value * 64 + (b.toNat - 0x80)) 0x80 0xBF) rest := by
  cases bs with
  | nil => simp [piecesFrom] at h
  | cons b rest =>
    rw [piecesFrom] at h ⊢
    split at h
    · rename_i hb
      exact ⟨b, rest, rfl, hb.1, hb.2, if_pos hb⟩
    · simp at h

end

theorem encodeChar_ofNat {v : Nat} (h : v.isValidChar) : String.utf8EncodeChar (Char.ofNat v) =
    if v ≤ 127 then [UInt8.ofNat v]
    else if v ≤ 2047 then [UInt8.ofNat (v / 64 % 32 + 192), UInt8.ofNat (v % 64 + 128)]
    else if v ≤ 65535 then
      [UInt8.ofNat (v / 4096 % 16 + 224), UInt8.ofNat (v / 64 % 64 + 128),
        UInt8.ofNat (v % 64 + 128)]
    else
      [UInt8.ofNat (v / 262144 % 8 + 240), UInt8.ofNat (v / 4096 % 64 + 128),
        UInt8.ofNat (v / 64 % 64 + 128), UInt8.ofNat (v % 64 + 128)] := by
  have hv : (Char.ofNat v).val.toNat = v := by
    unfold Char.ofNat
    rw [dif_pos h]
    rfl
  simp only [String.utf8EncodeChar, hv]

/-- A number is a byte if that has its value. -/
theorem ofNat_eq_byte {n : Nat} {b : UInt8} (h : n = b.toNat) : UInt8.ofNat n = b := by
  rw [h, UInt8.ofNat_toNat]

/-- Where the first piece is decoded, the bytes are those of a character and what follows it. -/
theorem exists_char_of_pieces {bs : List UInt8} (hne : bs ≠ [])
    (h : (piecesFrom .fresh bs).head? ≠ some none) : ∃ c rest,
      bs = String.utf8EncodeChar c ++ rest ∧
        piecesFrom .fresh bs = some c :: piecesFrom .fresh rest := by
  obtain ⟨b, bs, rfl⟩ := List.exists_cons_of_ne_nil hne
  rw [piecesFrom] at h ⊢
  -- the number of bytes; those that follow are in the bounds that the first one sets
  rcases startSequence_cases b with ⟨hb, e⟩ | e | ⟨hl, hg, e⟩ | ⟨hl, hg, e⟩ | ⟨hl, hg, e⟩ <;>
    rw [e] at h ⊢ <;> dsimp only [List.nil_append] at h ⊢
  · refine ⟨Char.ofNat b.toNat, bs, ?_, rfl⟩
    rw [encodeChar_ofNat (.inl (by omega)), if_pos (by omega), UInt8.ofNat_toNat]
    rfl
  · simp at h
  · obtain ⟨b₁, rest, rfl, hl₁, hg₁, e₁⟩ := exists_byte_of_last h
    simp only [UInt8.reduceToNat] at hl₁ hg₁
    refine ⟨_, rest, ?_, e₁⟩
    rw [encodeChar_ofNat (.inl (by omega)), if_neg (by omega), if_pos (by omega),
      ofNat_eq_byte (b := b) (by omega), ofNat_eq_byte (b := b₁) (by omega)]
    rfl
  · obtain ⟨b₁, bs₁, rfl, hl₁, hg₁, e₁⟩ := exists_byte_of_more h
    rw [e₁] at h
    obtain ⟨b₂, rest, rfl, hl₂, hg₂, e₂⟩ := exists_byte_of_last h
    simp only [UInt8.reduceToNat] at hl₂ hg₂
    obtain ⟨hb₁, hleast, hgreatest⟩ : (0x80 ≤ b₁.toNat ∧ b₁.toNat ≤ 0xBF) ∧
        (b.toNat = 0xE0 → 0xA0 ≤ b₁.toNat) ∧ (b.toNat = 0xED → b₁.toNat ≤ 0x9F) := by
      split_ifs at hl₁ hg₁ <;> simp only [UInt8.reduceToNat] at hl₁ hg₁ <;> omega
    refine ⟨_, rest, ?_, e₁.trans e₂⟩
    rw [encodeChar_ofNat (by unfold Nat.isValidChar; omega), if_neg (by omega), if_neg (by omega),
      if_pos (by omega), ofNat_eq_byte (b := b) (by omega), ofNat_eq_byte (b := b₁) (by omega),
      ofNat_eq_byte (b := b₂) (by omega)]
    rfl
  · obtain ⟨b₁, bs₁, rfl, hl₁, hg₁, e₁⟩ := exists_byte_of_more h
    rw [e₁] at h
    obtain ⟨b₂, bs₂, rfl, hl₂, hg₂, e₂⟩ := exists_byte_of_more h
    rw [e₂] at h
    obtain ⟨b₃, rest, rfl, hl₃, hg₃, e₃⟩ := exists_byte_of_last h
    simp only [UInt8.reduceToNat] at hl₂ hg₂ hl₃ hg₃
    obtain ⟨hb₁, hleast, hgreatest⟩ : (0x80 ≤ b₁.toNat ∧ b₁.toNat ≤ 0xBF) ∧
        (b.toNat = 0xF0 → 0x90 ≤ b₁.toNat) ∧ (b.toNat = 0xF4 → b₁.toNat ≤ 0x8F) := by
      split_ifs at hl₁ hg₁ <;> simp only [UInt8.reduceToNat] at hl₁ hg₁ <;> omega
    refine ⟨_, rest, ?_, (e₁.trans e₂).trans e₃⟩
    rw [encodeChar_ofNat (.inr (by omega)), if_neg (by omega), if_neg (by omega),
      if_neg (by omega), ofNat_eq_byte (b := b) (by omega), ofNat_eq_byte (b := b₁) (by omega),
      ofNat_eq_byte (b := b₂) (by omega), ofNat_eq_byte (b := b₃) (by omega)]
    rfl

/-- Bytes whose pieces are the characters of a text are the bytes of that text. -/
theorem eq_encode_of_pieces {bs : List UInt8} {cs : List Char}
    (h : pieces bs = cs.map some) : bs = encode cs := by
  induction cs generalizing bs with
  | nil =>
    by_contra hne
    obtain ⟨c, rest, -, e⟩ := exists_char_of_pieces hne (by rw [← pieces, h]; nofun)
    rw [← pieces, h] at e
    cases e
  | cons c cs ih =>
    have hne : bs ≠ [] := by
      rintro rfl
      cases h
    obtain ⟨c', rest, rfl, e⟩ := exists_char_of_pieces hne (by rw [← pieces, h]; simp)
    rw [← pieces, h, List.map_cons, List.cons.injEq, Option.some.injEq] at e
    obtain ⟨rfl, e⟩ := e
    rw [ih e.symm, encode_cons]

/-- A byte string is decoded exactly if it is the bytes of a text. -/
theorem decode?_eq_some_iff {bs : List UInt8} {cs : List Char} :
    decode? bs = some cs ↔ bs = encode cs :=
  ⟨fun h => eq_encode_of_pieces (decode?_eq_some_iff_pieces.1 h), fun h => h ▸ decode?_encode cs⟩

/-- Only the character zero has a zero byte. -/
theorem eq_of_zero_mem_encodeChar {c : Char} (h : 0 ∈ String.utf8EncodeChar c) : c = '\x00' := by
  have hz : ∀ n, 0 < n → n < 256 → (0 : UInt8) ≠ UInt8.ofNat n := by
    intro n hp hn h
    have he := congrArg UInt8.toNat h
    rw [toNat_ofNat_byte hn] at he
    exact hp.ne he
  obtain ⟨v, hv⟩ : ∃ v, c.toNat = v := ⟨_, rfl⟩
  rw [← Char.toNat_inj, hv]
  simp only [String.utf8EncodeChar, show c.val.toNat = v from hv] at h
  split_ifs at h with h₁ h₂ h₃ <;> simp only [List.mem_cons, List.not_mem_nil, or_false] at h
  · by_contra hne
    exact hz v (Nat.pos_of_ne_zero hne) (by omega) h
  · rcases h with h | h <;> exact absurd h (hz _ (by omega) (by omega))
  · rcases h with h | h | h <;> exact absurd h (hz _ (by omega) (by omega))
  · rcases h with h | h | h | h <;> exact absurd h (hz _ (by omega) (by omega))

theorem zero_notMem_encode {cs : List Char} (h : '\x00' ∉ cs) : 0 ∉ encode cs := by
  intro hm
  obtain ⟨c, hc, hz⟩ := List.mem_flatMap.1 hm
  exact h (eq_of_zero_mem_encodeChar hz ▸ hc)

end TunnelRelay.Text.Utf8

namespace TunnelRelay

/-! ## Digits -/

theorem exists_digitChar_of_mem_toDigits {b : Nat} (hb : 1 < b) (n : Nat) {c : Char}
    (hc : c ∈ Nat.toDigits b n) : ∃ d < b, c = d.digitChar := by
  induction n using Nat.strong_induction_on with
  | _ n ih =>
    rw [Nat.toDigits_eq_if hb] at hc
    split at hc
    · rename_i hn
      exact ⟨n, hn, List.mem_singleton.1 hc⟩
    · rename_i hn
      rcases List.mem_append.1 hc with hc | hc
      · exact ih _ (Nat.div_lt_self (by omega) hb) hc
      · exact ⟨n % b, Nat.mod_lt _ (by omega), List.mem_singleton.1 hc⟩

/-- The digits of a number give the number back, whatever function reads a digit. -/
theorem foldl_toDigits {b : Nat} (hb : 1 < b) (value : Char → Nat)
    (hv : ∀ d < b, value d.digitChar = d) (n : Nat) :
    (Nat.toDigits b n).foldl (fun n c => n * b + value c) 0 = n := by
  induction n using Nat.strong_induction_on with
  | _ n ih =>
    rw [Nat.toDigits_eq_if hb]
    split
    · rename_i hn
      simp [hv n hn]
    · rw [List.foldl_append, ih _ (Nat.div_lt_self (by omega) hb)]
      simp only [List.foldl_cons, List.foldl_nil, hv _ (Nat.mod_lt n (by omega))]
      rw [Nat.mul_comm, Nat.div_add_mod]

/-- Only zero starts with the digit zero. -/
theorem eq_zero_of_head?_toDigits {b : Nat} (hb : 1 < b) (n : Nat)
    (h : (Nat.toDigits b n).head? = some '0') : n = 0 := by
  induction n using Nat.strong_induction_on with
  | _ n ih =>
    rw [Nat.toDigits_eq_if hb] at h
    split at h
    · simpa using h
    · rename_i hn
      rw [List.head?_append_of_ne_nil _ Nat.toDigits_ne_nil] at h
      have := ih _ (Nat.div_lt_self (by omega) hb) h
      rw [Nat.div_eq_zero_iff] at this
      omega

/-- What the digits of a number are for a scan that stops behind them. -/
theorem takeWhile_toDigits {b : Nat} (hb : 1 < b) {p : Char → Bool}
    (hp : ∀ d < b, p d.digitChar = true) (n : Nat) (rest : List Char)
    (hr : ∀ c ∈ rest.head?, p c = false) :
    (Nat.toDigits b n ++ rest).takeWhile p = Nat.toDigits b n ∧
      (Nat.toDigits b n ++ rest).dropWhile p = rest := by
  have hd : ∀ c ∈ Nat.toDigits b n, p c = true := by
    intro c hc
    obtain ⟨d, hd, rfl⟩ := exists_digitChar_of_mem_toDigits hb n hc
    exact hp d hd
  rw [List.takeWhile_append_of_pos hd, List.dropWhile_append_of_pos hd]
  cases rest with
  | nil => simp
  | cons c rest => simp [hr c rfl]

end TunnelRelay
