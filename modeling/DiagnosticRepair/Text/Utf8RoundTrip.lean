import DiagnosticRepair.Text.Utf8

namespace DiagnosticRepair.Utf8

theorem begin?_two : ∀ k < 32, 2 ≤ k →
    begin? (UInt8.ofNat (k + 192)) = some ⟨UInt8.ofNat (k + 192), 1, k, 1, 0x80, 0xBF⟩ := by
  decide +kernel

theorem begin?_three : ∀ k < 16,
    begin? (UInt8.ofNat (k + 224)) = some ⟨UInt8.ofNat (k + 224), 1, k, 2,
      if k = 0 then 0xA0 else 0x80, if k = 13 then 0x9F else 0xBF⟩ := by
  decide +kernel

theorem begin?_four : ∀ k < 5,
    begin? (UInt8.ofNat (k + 240)) = some ⟨UInt8.ofNat (k + 240), 1, k, 3,
      if k = 0 then 0x90 else 0x80, if k = 4 then 0x8F else 0xBF⟩ := by
  decide +kernel

theorem begin?_ascii : ∀ k < 128, begin? (UInt8.ofNat k) = none := by
  decide +kernel

theorem decodeFrom_begin {b : UInt8} {p : Partial} (position : Nat) (rest : Bytes)
    (h : begin? b = some p) :
    decodeFrom position none (b :: rest) = decodeFrom (position + 1) (some p) rest := by
  have above : ¬ b < 0x80 := by
    intro below
    have := begin?_ascii b.toNat below
    rw [UInt8.ofNat_toNat, h] at this
    cases this
  simp [decodeFrom, above, h]

theorem decodeFrom_last {p : Partial} {k : Nat} (position : Nat) (rest : Bytes) (h : k < 64)
    (missing : p.missing = 1) (low : p.low.toNat ≤ k + 128) (high : k + 128 ≤ p.high.toNat) :
    decodeFrom position (some p) (UInt8.ofNat (k + 128) :: rest) =
      (decodeFrom (position + 1) none rest).map (Char.ofNat (64 * p.value + k) :: ·) := by
  have : (k + 128) % 256 = k + 128 := by omega
  simp [decodeFrom, UInt8.le_iff_toNat_le, this, low, high, missing]

theorem decodeFrom_next {p : Partial} {k : Nat} (position : Nat) (rest : Bytes) (h : k < 64)
    (missing : 1 < p.missing) (low : p.low.toNat ≤ k + 128) (high : k + 128 ≤ p.high.toNat) :
    decodeFrom position (some p) (UInt8.ofNat (k + 128) :: rest) =
      decodeFrom (position + 1)
        (some ⟨p.lead, p.seen + 1, 64 * p.value + k, p.missing - 1, 0x80, 0xBF⟩) rest := by
  have : (k + 128) % 256 = k + 128 := by omega
  simp [decodeFrom, UInt8.le_iff_toNat_le, this, low, high, Nat.not_le.2 missing]

theorem decodeFrom_encodeChar (c : Char) (position : Nat) (rest : Bytes) :
    ∃ next, decodeFrom position none (String.utf8EncodeChar c ++ rest) =
      (decodeFrom next none rest).map (c :: ·) := by
  have valid : c.toNat < 0xD800 ∨ 0xDFFF < c.toNat ∧ c.toNat < 0x110000 := c.valid
  have same : Char.ofNat c.toNat = c := Char.ofNat_toNat c
  unfold String.utf8EncodeChar
  rw [show c.val.toNat = c.toNat from rfl]
  generalize c.toNat = v at valid same
  subst same
  simp only
  split
  · refine ⟨position + 1, ?_⟩
    have small : UInt8.ofNat v < 0x80 := by
      rw [UInt8.lt_iff_toNat_lt, UInt8.toNat_ofNat']
      show v % 256 < 128
      omega
    have : v % 256 = v := by omega
    simp [decodeFrom, small, this]
  split
  · refine ⟨position + 1 + 1, ?_⟩
    simp only [List.cons_append, List.nil_append]
    rw [decodeFrom_begin _ _ (begin?_two (v / 64 % 32) (by omega) (by omega)),
      decodeFrom_last _ _ (by omega) rfl (by show 128 ≤ _; omega) (by show _ ≤ 191; omega)]
    rw [show 64 * (v / 64 % 32) + v % 64 = v by omega]
  split
  · refine ⟨position + 1 + 1 + 1, ?_⟩
    simp only [List.cons_append, List.nil_append]
    rw [decodeFrom_begin _ _ (begin?_three (v / 4096 % 16) (by omega)),
      decodeFrom_next _ _ (by omega) (by show 1 < 2; omega)
        (by simp only; split <;> simp <;> omega) (by simp only; split <;> simp <;> omega),
      decodeFrom_last _ _ (by omega) rfl (by show 128 ≤ _; omega) (by show _ ≤ 191; omega)]
    rw [show 64 * (64 * (v / 4096 % 16) + v / 64 % 64) + v % 64 = v by omega]
  · refine ⟨position + 1 + 1 + 1 + 1, ?_⟩
    simp only [List.cons_append, List.nil_append]
    rw [decodeFrom_begin _ _ (begin?_four (v / 262144 % 8) (by omega)),
      decodeFrom_next _ _ (by omega) (by show 1 < 3; omega)
        (by simp only; split <;> simp <;> omega) (by simp only; split <;> simp <;> omega),
      decodeFrom_next _ _ (by omega) (by show 1 < 2; omega) (by show 128 ≤ _; omega)
        (by show _ ≤ 191; omega),
      decodeFrom_last _ _ (by omega) rfl (by show 128 ≤ _; omega) (by show _ ≤ 191; omega)]
    rw [show 64 * (64 * (64 * (v / 262144 % 8) + v / 4096 % 64) + v / 64 % 64) + v % 64 = v by
      omega]

theorem decodeFrom_encode (text : Text) : ∀ position,
    decodeFrom position none (encode text) = .ok text := by
  induction text with
  | nil => exact fun _ => rfl
  | cons c rest ih =>
      intro position
      obtain ⟨next, h⟩ := decodeFrom_encodeChar c position (encode rest)
      rw [encode, List.flatMap_cons, ← encode, h, ih next]
      rfl

theorem decode_encode (text : Text) : decode (encode text) = .ok text :=
  decodeFrom_encode text 0

theorem encode_inj {a b : Text} : encode a = encode b ↔ a = b := by
  constructor
  · intro same
    have : (.ok a : Except DecodeError Text) = .ok b := by
      rw [← decode_encode a, same, decode_encode b]
    exact Except.ok.inj this
  · rintro rfl
    rfl

end DiagnosticRepair.Utf8
