import KernelStats.Number.Power

/-!
# Words in memory

A word of 64 bits is kept as eight bytes, the lowest first.
-/

namespace KernelStats.Number

def wordOfBytes (bytes : List UInt8) : UInt64 :=
  .ofNat (bytes.foldr (fun b n => b.toNat + 256 * n) 0)

def bytesOfNat : Nat → Nat → List UInt8
  | 0, _ => []
  | count + 1, n => .ofNat n :: bytesOfNat count (n / 256)

def bytesOfWord (w : UInt64) : List UInt8 := bytesOfNat 8 w.toNat

@[simp] theorem length_bytesOfNat (count n : Nat) : (bytesOfNat count n).length = count := by
  induction count generalizing n with
  | zero => rfl
  | succ count ih => simp [bytesOfNat, ih]

@[simp] theorem length_bytesOfWord (w : UInt64) : (bytesOfWord w).length = 8 :=
  length_bytesOfNat 8 _

theorem foldr_bytesOfNat (count n : Nat) :
    (bytesOfNat count n).foldr (fun b m => b.toNat + 256 * m) 0 = n % 256 ^ count := by
  induction count generalizing n with
  | zero => simp [bytesOfNat, Nat.mod_one]
  | succ count ih =>
    rw [bytesOfNat, List.foldr_cons, ih, Nat.pow_succ', Nat.mod_mul]
    simp

@[simp] theorem wordOfBytes_bytesOfWord (w : UInt64) : wordOfBytes (bytesOfWord w) = w := by
  rw [wordOfBytes, bytesOfWord, foldr_bytesOfNat, Nat.mod_eq_of_lt (by simpa using w.toNat_lt)]
  exact UInt64.ofNat_toNat

theorem take_bytesOfNat {count total : Nat} (h : count ≤ total) (n : Nat) :
    (bytesOfNat total n).take count = bytesOfNat count n := by
  induction count generalizing total n with
  | zero => rfl
  | succ count ih =>
    obtain ⟨total, rfl⟩ : ∃ t, total = t + 1 := ⟨total - 1, by omega⟩
    rw [bytesOfNat, bytesOfNat, List.take_succ_cons, ih (by omega)]

theorem foldr_bytes_lt (bytes : List UInt8) :
    bytes.foldr (fun b n => b.toNat + 256 * n) 0 < 256 ^ bytes.length := by
  induction bytes with
  | nil => simp
  | cons b bytes ih =>
    have hb : b.toNat < 256 := b.toNat_lt
    rw [List.foldr_cons, List.length_cons, Nat.pow_succ]
    omega

theorem toNat_wordOfBytes {bytes : List UInt8} (h : bytes.length ≤ 8) :
    (wordOfBytes bytes).toNat = bytes.foldr (fun b n => b.toNat + 256 * n) 0 := by
  have hlt := foldr_bytes_lt bytes
  have hle : 256 ^ bytes.length ≤ 256 ^ 8 := Nat.pow_le_pow_right (by decide) h
  exact UInt64.toNat_ofNat_of_lt' (Nat.lt_of_lt_of_le hlt hle)

theorem bytesOfNat_foldr (bytes : List UInt8) :
    bytesOfNat bytes.length (bytes.foldr (fun b n => b.toNat + 256 * n) 0) = bytes := by
  induction bytes with
  | nil => rfl
  | cons b bytes ih =>
    have hb : b.toNat < 256 := b.toNat_lt
    rw [List.length_cons, List.foldr_cons]
    generalize bytes.foldr (fun b n => b.toNat + 256 * n) 0 = n at ih ⊢
    have hlow : UInt8.ofNat (b.toNat + 256 * n) = b := by
      apply UInt8.toNat_inj.mp
      simp only [UInt8.toNat_ofNat']
      omega
    have hhigh : (b.toNat + 256 * n) / 256 = n := by omega
    rw [bytesOfNat, hlow, hhigh, ih]

theorem bytesOfWord_wordOfBytes {bytes : List UInt8} (h : bytes.length = 8) :
    bytesOfWord (wordOfBytes bytes) = bytes := by
  rw [bytesOfWord, toNat_wordOfBytes (by omega), ← h, bytesOfNat_foldr]

end KernelStats.Number
