import KernelStats.Text.Utf8

/-!
# Encoded texts are read back

Both readers of UTF-8 give back a text from its encoding. The proof follows a character through the
states of the reader: the first byte says how many bytes are owed and bounds the second one, and the
bounds hold because no character is a surrogate or lies above the last code point.
-/

namespace KernelStats.Utf8

theorem first_two {b : Nat} (hl : 0xC2 ≤ b) (hh : b ≤ 0xDF) :
    first b = ([], some { code := b - 0xC0, owed := 1 }) := by
  have h1 : ¬ b ≤ 0x7F := by omega
  simp [first, h1, hl, hh]

theorem first_three {b : Nat} (hl : 0xE0 ≤ b) (hh : b ≤ 0xEF) :
    first b = ([], some { code := b - 0xE0, owed := 2, low := if b = 0xE0 then 0xA0 else 0x80,
                          high := if b = 0xED then 0x9F else 0xBF }) := by
  have h1 : ¬ b ≤ 0x7F := by omega
  have h2 : ¬ b ≤ 0xDF := by omega
  by_cases he : b = 0xE0
  · subst he; rfl
  · by_cases hd : b = 0xED
    · subst hd; rfl
    · have h3 : 0xE1 ≤ b := by omega
      simp [first, h1, h2, he, hd, h3, hh]

theorem first_four {b : Nat} (hl : 0xF0 ≤ b) (hh : b ≤ 0xF4) :
    first b = ([], some { code := b - 0xF0, owed := 3, low := if b = 0xF0 then 0x90 else 0x80,
                          high := if b = 0xF4 then 0x8F else 0xBF }) := by
  have hb : b = 0xF0 ∨ b = 0xF1 ∨ b = 0xF2 ∨ b = 0xF3 ∨ b = 0xF4 := by omega
  obtain rfl | rfl | rfl | rfl | rfl := hb <;> rfl

theorem toNat_ofNat_byte {n : Nat} (h : n < 256) : (UInt8.ofNat n).toNat = n := by
  simp [Nat.mod_eq_of_lt h]

theorem partsFrom_begin {n : Nat} {p : Begun} (rest : List UInt8) (hn : n < 256)
    (h : first n = ([], some p)) : partsFrom none (.ofNat n :: rest) = partsFrom (some p) rest := by
  rw [partsFrom, toNat_ofNat_byte hn, step, h, List.nil_append]

theorem partsFrom_owed {n : Nat} {p : Begun} (rest : List UInt8) (hn : n < 256) (hl : p.low ≤ n)
    (hh : n ≤ p.high) (ho : 1 < p.owed) :
    partsFrom (some p) (.ofNat n :: rest) =
      partsFrom (some { code := 64 * p.code + (n - 0x80), owed := p.owed - 1 }) rest := by
  have h : ¬ p.owed ≤ 1 := by omega
  rw [partsFrom, toNat_ofNat_byte hn]
  simp [step, hl, hh, h]

theorem partsFrom_last {n : Nat} {p : Begun} {c : Char} (rest : List UInt8) (hn : n < 256)
    (hl : p.low ≤ n) (hh : n ≤ p.high) (ho : p.owed = 1) (hc : 64 * p.code + (n - 0x80) = c.toNat) :
    partsFrom (some p) (.ofNat n :: rest) = some c :: partsFrom none rest := by
  rw [partsFrom, toNat_ofNat_byte hn]
  simp [step, hl, hh, ho, hc, Char.ofNat_toNat]

theorem toNat_bounds (c : Char) : (c.toNat < 0xD800 ∨ 0xDFFF < c.toNat) ∧ c.toNat < 0x110000 := by
  have h := c.valid
  simp only [UInt32.isValidChar, Nat.isValidChar] at h
  simp only [Char.toNat]
  omega

theorem partsFrom_two (c : Char) (rest : List UInt8) (hl : 0x7F < c.toNat) (hh : c.toNat ≤ 0x7FF) :
    partsFrom none (.ofNat (c.toNat / 64 % 0x20 + 0xC0) :: .ofNat (c.toNat % 0x40 + 0x80) :: rest) =
      some c :: partsFrom none rest := by
  rw [partsFrom_begin _ (by omega) (first_two (by omega) (by omega)),
    partsFrom_last (c := c) _ (by omega) (by dsimp; omega) (by dsimp; omega) rfl (by dsimp; omega)]

theorem partsFrom_three (c : Char) (rest : List UInt8) (hl : 0x7FF < c.toNat)
    (hh : c.toNat ≤ 0xFFFF) :
    partsFrom none (.ofNat (c.toNat / 4096 % 0x10 + 0xE0) :: .ofNat (c.toNat / 64 % 0x40 + 0x80) ::
      .ofNat (c.toNat % 0x40 + 0x80) :: rest) = some c :: partsFrom none rest := by
  have hs := (toNat_bounds c).1
  rw [partsFrom_begin _ (by omega) (first_three (by omega) (by omega)),
    partsFrom_owed _ (by omega) (by dsimp; split <;> omega) (by dsimp; split <;> omega) (by simp),
    partsFrom_last (c := c) _ (by omega) (by dsimp; omega) (by dsimp; omega) rfl (by dsimp; omega)]

theorem partsFrom_four (c : Char) (rest : List UInt8) (hl : 0xFFFF < c.toNat) :
    partsFrom none (.ofNat (c.toNat / 262144 % 0x08 + 0xF0) ::
      .ofNat (c.toNat / 4096 % 0x40 + 0x80) :: .ofNat (c.toNat / 64 % 0x40 + 0x80) ::
      .ofNat (c.toNat % 0x40 + 0x80) :: rest) =
      some c :: partsFrom none rest := by
  have hs := (toNat_bounds c).2
  rw [partsFrom_begin _ (by omega) (first_four (by omega) (by omega)),
    partsFrom_owed _ (by omega) (by dsimp; split <;> omega) (by dsimp; split <;> omega) (by simp),
    partsFrom_owed _ (by omega) (by dsimp; omega) (by dsimp; omega) (by simp),
    partsFrom_last (c := c) _ (by omega) (by dsimp; omega) (by dsimp; omega) rfl (by dsimp; omega)]

theorem partsFrom_encodeChar (c : Char) (rest : List UInt8) :
    partsFrom none (String.utf8EncodeChar c ++ rest) = some c :: partsFrom none rest := by
  have hv : c.val.toNat = c.toNat := rfl
  simp only [String.utf8EncodeChar, hv]
  by_cases h1 : c.toNat ≤ 0x7F
  · have hb : (UInt8.ofNat c.toNat).toNat = c.toNat := toNat_ofNat_byte (by omega)
    simp [partsFrom, hb, step, first, h1, Char.ofNat_toNat]
  · rw [if_neg h1]
    by_cases h2 : c.toNat ≤ 0x7FF
    · rw [if_pos h2]
      exact partsFrom_two c rest (by omega) h2
    · rw [if_neg h2]
      by_cases h3 : c.toNat ≤ 0xFFFF
      · rw [if_pos h3]
        exact partsFrom_three c rest (by omega) h3
      · rw [if_neg h3]
        exact partsFrom_four c rest (by omega)

theorem partsFrom_encodeChars (cs : List Char) (rest : List UInt8) :
    partsFrom none (cs.flatMap String.utf8EncodeChar ++ rest) =
      cs.map some ++ partsFrom none rest := by
  induction cs with
  | nil => rfl
  | cons c cs ih =>
    rw [List.flatMap_cons, List.append_assoc, partsFrom_encodeChar, ih]
    rfl

theorem parts_encode (text : String) : parts (encode text) = text.toList.map some := by
  have h := partsFrom_encodeChars text.toList []
  rwa [List.append_nil, partsFrom, List.append_nil] at h

@[simp] theorem decodeLossy_encode (text : String) : decodeLossy (encode text) = text := by
  rw [decodeLossy, parts_encode, List.map_map]
  have h : (fun p : Part => p.getD '\uFFFD') ∘ some = id := rfl
  rw [h, List.map_id, String.ofList_toList]

theorem decode?_encode (text : String) : decode? (encode text) = some text := by
  have hsome (cs : List Char) : (cs.map some).mapM id = some cs := by
    induction cs with
    | nil => rfl
    | cons c cs ih =>
      rw [List.map_cons, List.mapM_cons, ih]
      rfl
  rw [decode?, parts_encode, hsome, Option.map_some, String.ofList_toList]

theorem encode_injective {a b : String} (h : encode a = encode b) : a = b := by
  rw [← decodeLossy_encode a, h, decodeLossy_encode]

end KernelStats.Utf8
