import DiagnosticRepair.Text.Utf8RoundTrip

namespace DiagnosticRepair.Utf8

variable {p : Partial} {b : UInt8} {rest : Bytes} {text : Text} {position : Nat}

theorem tail_of_decodeFrom_some (h : decodeFrom position (some p) (b :: rest) = .ok text) :
    p.low ≤ b ∧ b ≤ p.high := by
  unfold decodeFrom at h
  split at h
  · rename_i within
    simpa using within
  · cases h

theorem decodeFrom_some_last (h : decodeFrom position (some p) (b :: rest) = .ok text)
    (missing : p.missing = 1) :
    ∃ more, text = Char.ofNat (64 * p.value + (b.toNat - 128)) :: more ∧
      decodeFrom (position + 1) none rest = .ok more := by
  have within := tail_of_decodeFrom_some h
  unfold decodeFrom at h
  simp only [within, missing, decide_true, Bool.and_self, if_true, Nat.le_refl] at h
  cases decoded : decodeFrom (position + 1) none rest with
  | error e =>
      rw [decoded] at h
      cases h
  | ok more =>
      rw [decoded] at h
      exact ⟨more, (Except.ok.inj h).symm, rfl⟩

theorem decodeFrom_some_next (h : decodeFrom position (some p) (b :: rest) = .ok text)
    (missing : 1 < p.missing) :
    decodeFrom (position + 1)
      (some ⟨p.lead, p.seen + 1, 64 * p.value + (b.toNat - 128), p.missing - 1, 0x80, 0xBF⟩) rest
      = .ok text := by
  have within := tail_of_decodeFrom_some h
  unfold decodeFrom at h
  simpa [within, Nat.not_le.2 missing] using h

theorem exists_cons_of_decodeFrom_some {bytes : Bytes}
    (h : decodeFrom position (some p) bytes = .ok text) : ∃ b rest, bytes = b :: rest := by
  cases bytes with
  | nil => cases h
  | cons b rest => exact ⟨b, rest, rfl⟩

theorem toNat_ofNat_of_valid {v : Nat} (valid : v < 0xD800 ∨ 0xDFFF < v ∧ v < 0x110000) :
    (Char.ofNat v).val.toNat = v := by
  have : v.isValidChar := valid
  rw [Char.ofNat, dif_pos this]
  rfl

theorem eq_ofNat_of_toNat {n : Nat} (h : b.toNat = n) : UInt8.ofNat n = b := by
  subst h
  exact UInt8.ofNat_toNat

theorem encodeChar_one (h : b < 0x80) : String.utf8EncodeChar (Char.ofNat b.toNat) = [b] := by
  have small : b.toNat < 128 := h
  have value : (Char.ofNat b.toNat).val.toNat = b.toNat := toNat_ofNat_of_valid (by omega)
  unfold String.utf8EncodeChar
  simp only [value]
  rw [if_pos (by omega), eq_ofNat_of_toNat rfl]

theorem encodeChar_two {c : UInt8} (hb : 0xC2 ≤ b.toNat ∧ b.toNat ≤ 0xDF)
    (hc : 0x80 ≤ c.toNat ∧ c.toNat ≤ 0xBF) :
    String.utf8EncodeChar (Char.ofNat (64 * (b.toNat - 0xC0) + (c.toNat - 128))) = [b, c] := by
  have value := toNat_ofNat_of_valid (v := 64 * (b.toNat - 0xC0) + (c.toNat - 128)) (by omega)
  unfold String.utf8EncodeChar
  simp only [value]
  rw [if_neg (by omega), if_pos (by omega), eq_ofNat_of_toNat (b := b) (by omega),
    eq_ofNat_of_toNat (b := c) (by omega)]

theorem encodeChar_three {c d : UInt8} (hb : 0xE0 ≤ b.toNat ∧ b.toNat ≤ 0xEF)
    (hc : 0x80 ≤ c.toNat ∧ c.toNat ≤ 0xBF) (notShort : b.toNat = 0xE0 → 0xA0 ≤ c.toNat)
    (notSurrogate : b.toNat = 0xED → c.toNat ≤ 0x9F)
    (hd : 0x80 ≤ d.toNat ∧ d.toNat ≤ 0xBF) :
    String.utf8EncodeChar
      (Char.ofNat (64 * (64 * (b.toNat - 0xE0) + (c.toNat - 128)) + (d.toNat - 128)))
      = [b, c, d] := by
  have value := toNat_ofNat_of_valid
    (v := 64 * (64 * (b.toNat - 0xE0) + (c.toNat - 128)) + (d.toNat - 128)) (by omega)
  unfold String.utf8EncodeChar
  simp only [value]
  rw [if_neg (by omega), if_neg (by omega), if_pos (by omega),
    eq_ofNat_of_toNat (b := b) (by omega), eq_ofNat_of_toNat (b := c) (by omega),
    eq_ofNat_of_toNat (b := d) (by omega)]

theorem encodeChar_four {c d e : UInt8} (hb : 0xF0 ≤ b.toNat ∧ b.toNat ≤ 0xF4)
    (hc : 0x80 ≤ c.toNat ∧ c.toNat ≤ 0xBF) (notShort : b.toNat = 0xF0 → 0x90 ≤ c.toNat)
    (notBeyond : b.toNat = 0xF4 → c.toNat ≤ 0x8F)
    (hd : 0x80 ≤ d.toNat ∧ d.toNat ≤ 0xBF) (he : 0x80 ≤ e.toNat ∧ e.toNat ≤ 0xBF) :
    String.utf8EncodeChar
      (Char.ofNat (64 * (64 * (64 * (b.toNat - 0xF0) + (c.toNat - 128)) + (d.toNat - 128))
        + (e.toNat - 128)))
      = [b, c, d, e] := by
  have value := toNat_ofNat_of_valid
    (v := 64 * (64 * (64 * (b.toNat - 0xF0) + (c.toNat - 128)) + (d.toNat - 128))
      + (e.toNat - 128)) (by omega)
  unfold String.utf8EncodeChar
  simp only [value]
  rw [if_neg (by omega), if_neg (by omega), if_neg (by omega),
    eq_ofNat_of_toNat (b := b) (by omega), eq_ofNat_of_toNat (b := c) (by omega),
    eq_ofNat_of_toNat (b := d) (by omega), eq_ofNat_of_toNat (b := e) (by omega)]

theorem begin?_cases {p : Partial} (h : begin? b = some p) :
    (0xC2 ≤ b.toNat ∧ b.toNat ≤ 0xDF ∧ p = ⟨b, 1, b.toNat - 0xC0, 1, 0x80, 0xBF⟩) ∨
    (0xE0 ≤ b.toNat ∧ b.toNat ≤ 0xEF ∧ p = ⟨b, 1, b.toNat - 0xE0, 2,
      if b = 0xE0 then 0xA0 else 0x80, if b = 0xED then 0x9F else 0xBF⟩) ∨
    (0xF0 ≤ b.toNat ∧ b.toNat ≤ 0xF4 ∧ p = ⟨b, 1, b.toNat - 0xF0, 3,
      if b = 0xF0 then 0x90 else 0x80, if b = 0xF4 then 0x8F else 0xBF⟩) := by
  simp only [begin?, Bool.and_eq_true, decide_eq_true_eq, UInt8.le_iff_toNat_le,
    UInt8.toNat_ofNat] at h
  split at h
  · rename_i two
    exact .inl ⟨two.1, two.2, (Option.some.inj h).symm⟩
  · split at h
    · rename_i three
      exact .inr (.inl ⟨three.1, three.2, (Option.some.inj h).symm⟩)
    · split at h
      · rename_i four
        exact .inr (.inr ⟨four.1, four.2, (Option.some.inj h).symm⟩)
      · cases h

theorem bounds_of_within {c x y low high : UInt8} (hl : 128 ≤ low.toNat) (hh : high.toNat ≤ 191)
    (h : (if b = x then low else 0x80) ≤ c ∧ c ≤ if b = y then high else 0xBF) :
    (128 ≤ c.toNat ∧ c.toNat ≤ 191) ∧ (b.toNat = x.toNat → low.toNat ≤ c.toNat) ∧
      (b.toNat = y.toNat → c.toNat ≤ high.toNat) := by
  simp only [UInt8.le_iff_toNat_le, UInt8.toNat_inj] at h ⊢
  have above : 128 ≤ c.toNat := by
    refine Nat.le_trans ?_ h.1
    split
    · exact hl
    · exact Nat.le_refl 128
  have below : c.toNat ≤ 191 := by
    refine Nat.le_trans h.2 ?_
    split
    · exact hh
    · exact Nat.le_refl 191
  exact ⟨⟨above, below⟩, fun same => by simpa [same] using h.1, fun same => by simpa [same] using h.2⟩

theorem tail_bounds {c : UInt8} (h : (0x80 : UInt8) ≤ c ∧ c ≤ 0xBF) :
    128 ≤ c.toNat ∧ c.toNat ≤ 191 :=
  h

theorem decodeFrom_cons (h : decodeFrom position none (b :: rest) = .ok text) :
    ∃ c more next tail, b :: rest = String.utf8EncodeChar c ++ tail ∧ text = c :: more ∧
      decodeFrom next none tail = .ok more := by
  by_cases ascii : b < 0x80
  · simp only [decodeFrom, ascii, if_true] at h
    cases decoded : decodeFrom (position + 1) none rest with
    | error e =>
        rw [decoded] at h
        cases h
    | ok more =>
        rw [decoded] at h
        exact ⟨_, more, _, rest, by rw [encodeChar_one ascii]; rfl, (Except.ok.inj h).symm, decoded⟩
  · simp only [decodeFrom, ascii, if_false] at h
    cases begun : begin? b with
    | none =>
        rw [begun] at h
        cases h
    | some p =>
        rw [begun] at h
        simp only at h
        obtain ⟨c, rest, rfl⟩ := exists_cons_of_decodeFrom_some h
        have hc := tail_of_decodeFrom_some h
        rcases begin?_cases begun with ⟨low, high, rfl⟩ | ⟨low, high, rfl⟩ | ⟨low, high, rfl⟩
        · obtain ⟨more, rfl, decoded⟩ := decodeFrom_some_last h rfl
          have bytes := encodeChar_two ⟨low, high⟩ (tail_bounds hc)
          exact ⟨_, more, _, rest, by rw [bytes]; rfl, rfl, decoded⟩
        · have h := decodeFrom_some_next h (by simp)
          obtain ⟨d, rest, rfl⟩ := exists_cons_of_decodeFrom_some h
          have hd := tail_of_decodeFrom_some h
          obtain ⟨more, rfl, decoded⟩ := decodeFrom_some_last h rfl
          obtain ⟨bounds, short, surrogate⟩ := bounds_of_within (by decide) (by decide) hc
          have bytes := encodeChar_three ⟨low, high⟩ bounds short surrogate (tail_bounds hd)
          exact ⟨_, more, _, rest, by rw [bytes]; rfl, rfl, decoded⟩
        · have h := decodeFrom_some_next h (by simp)
          obtain ⟨d, rest, rfl⟩ := exists_cons_of_decodeFrom_some h
          have hd := tail_of_decodeFrom_some h
          have h := decodeFrom_some_next h (by simp)
          obtain ⟨e, rest, rfl⟩ := exists_cons_of_decodeFrom_some h
          have he := tail_of_decodeFrom_some h
          obtain ⟨more, rfl, decoded⟩ := decodeFrom_some_last h rfl
          obtain ⟨bounds, short, beyond⟩ := bounds_of_within (by decide) (by decide) hc
          have bytes :=
            encodeChar_four ⟨low, high⟩ bounds short beyond (tail_bounds hd) (tail_bounds he)
          exact ⟨_, more, _, rest, by rw [bytes]; rfl, rfl, decoded⟩

theorem encode_of_decodeFrom : ∀ (text : Text) (position : Nat) (bytes : Bytes),
    decodeFrom position none bytes = .ok text → encode text = bytes
  | text, _, [], h => by
      cases h
      rfl
  | [], _, b :: rest, h => by
      obtain ⟨c, more, _, _, _, impossible, _⟩ := decodeFrom_cons h
      cases impossible
  | c :: more, _, b :: rest, h => by
      obtain ⟨d, more', next, tail, split, same, decoded⟩ := decodeFrom_cons h
      obtain ⟨rfl, rfl⟩ := List.cons.inj same
      rw [split, ← encode_of_decodeFrom more next tail decoded]
      rfl

theorem encode_of_decode {bytes : Bytes} (h : decode bytes = .ok text) : encode text = bytes :=
  encode_of_decodeFrom text 0 bytes h

theorem decode_eq_ok_iff {bytes : Bytes} : decode bytes = .ok text ↔ bytes = encode text :=
  ⟨fun h => (encode_of_decode h).symm, fun h => h ▸ decode_encode text⟩

theorem decodeStream_eq_ok_iff {bytes : Bytes} :
    decodeStream bytes = .ok text ↔ bytes = encode text := by
  rw [← decode_eq_ok_iff, decodeStream]
  cases decode bytes with
  | ok found =>
      show Except.ok found = .ok text ↔ Except.ok found = .ok text
      rfl
  | error e => exact iff_of_false (fun ended => by cases ended) fun ended => by cases ended

end DiagnosticRepair.Utf8
