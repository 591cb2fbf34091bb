import KernelStats.Pattern.Expr

/-!
# What expressions reach

The sets of positions of a match are numbers, and their members are read off bit by bit. A row of
single characters leads from a position to the one behind an occurrence of these characters there,
and the conditions on the ends of a text hold at one position each.
-/

namespace KernelStats.Pattern

namespace Positions

theorem testBit_cons_zero (b : Bool) (n : Nat) : ((if b then 1 else 0) + 2 * n).testBit 0 = b := by
  cases b <;> simp [Nat.testBit_zero, Nat.add_mod]

theorem testBit_cons_succ (b : Bool) (n i : Nat) :
    ((if b then 1 else 0) + 2 * n).testBit (i + 1) = n.testBit i := by
  have h : ((if b then 1 else 0) + 2 * n) / 2 = n := by
    cases b with
    | false =>
      rw [if_neg Bool.false_ne_true]
      omega
    | true =>
      rw [if_pos rfl]
      omega
  rw [Nat.testBit_succ, h]

theorem testBit_before (p : Char → Bool) (text : List Char) (i : Nat) :
    (before p text).testBit i = text[i]?.any p := by
  induction text generalizing i with
  | nil => simp [before]
  | cons c rest ih =>
    cases i with
    | zero => rw [before, testBit_cons_zero]; rfl
    | succ i => rw [before, testBit_cons_succ, ih, List.getElem?_cons_succ]

theorem testBit_between_zero (p : Option Char → Option Char → Bool) (previous : Option Char)
    (text : List Char) : (between p previous text).testBit 0 = p previous text.head? := by
  cases text with
  | nil => cases h : p previous none <;> simp [between, h]
  | cons c rest => rw [between, testBit_cons_zero, List.head?_cons]

theorem testBit_between_succ (p : Option Char → Option Char → Bool) (previous : Option Char)
    (text : List Char) (i : Nat) :
    (between p previous text).testBit (i + 1) =
      (decide (i < text.length) && p text[i]? text[i + 1]?) := by
  induction text generalizing previous i with
  | nil => cases h : p previous none <;> simp [between, h, Nat.testBit_succ]
  | cons c rest ih =>
    rw [between, testBit_cons_succ]
    cases i with
    | zero => rw [testBit_between_zero, List.head?_eq_getElem?]; simp
    | succ i => simp [ih]

end Positions

namespace Expr

theorem reach_seqAll_cons (text : List Char) (e : Expr) (es : List Expr) (starts : Positions) :
    (seqAll (e :: es)).reach text starts = (seqAll es).reach text (e.reach text starts) := by
  cases es <;> rfl

theorem testBit_reach_single (text : List Char) (c : Char) (starts : Positions) (j : Nat) :
    ((set (.single c)).reach text starts).testBit j = true ↔
      ∃ i, starts.testBit i = true ∧ text[i]? = some c ∧ j = i + 1 := by
  rw [reach, Nat.testBit_shiftLeft, Bool.and_eq_true, decide_eq_true_eq, Nat.testBit_and,
    Bool.and_eq_true, Positions.testBit_before, Option.any_eq_true]
  constructor
  · rintro ⟨hj, hs, d, hd, hc⟩
    rw [CharSet.contains_single] at hc
    exact ⟨j - 1, hs, hc ▸ hd, by omega⟩
  · rintro ⟨i, hs, hc, rfl⟩
    exact ⟨by omega, hs, c, hc, CharSet.contains_single.mpr rfl⟩

theorem testBit_reach_singles (text cs : List Char) (starts : Positions) (j : Nat) :
    ((seqAll (cs.map fun c => set (.single c))).reach text starts).testBit j = true ↔
      ∃ i, starts.testBit i = true ∧ cs <+: text.drop i ∧ j = i + cs.length := by
  induction cs generalizing starts with
  | nil => simp [seqAll, reach]
  | cons c cs ih =>
    rw [List.map_cons, reach_seqAll_cons, ih]
    constructor
    · rintro ⟨i, hi, hp, rfl⟩
      obtain ⟨k, hk, hc, rfl⟩ := (testBit_reach_single ..).mp hi
      obtain ⟨hlt, hget⟩ := List.getElem?_eq_some_iff.mp hc
      refine ⟨k, hk, ?_, by simp; omega⟩
      rw [List.drop_eq_getElem_cons hlt, hget, List.cons_prefix_cons]
      exact ⟨rfl, hp⟩
    · rintro ⟨i, hi, hp, rfl⟩
      have hlt : i < text.length := by
        have h := hp.length_le
        simp only [List.length_cons, List.length_drop] at h
        omega
      rw [List.drop_eq_getElem_cons hlt, List.cons_prefix_cons] at hp
      refine ⟨i + 1, (testBit_reach_single ..).mpr ⟨i, hi, ?_, rfl⟩, hp.2, by simp; omega⟩
      rw [List.getElem?_eq_getElem hlt, hp.1]

theorem testBit_anywhere (text : List Char) (i : Nat) :
    (anywhere text).testBit i = decide (i ≤ text.length) := by
  rw [anywhere, Nat.testBit_two_pow_sub_one]
  exact decide_eq_decide.mpr Nat.lt_succ_iff

theorem testBit_reach_textStart (text : List Char) (starts : Positions) (i : Nat) :
    ((look .textStart).reach text starts).testBit i = true ↔ starts.testBit i = true ∧ i = 0 := by
  rw [reach, Nat.testBit_and, Bool.and_eq_true]
  cases i with
  | zero => rw [Positions.testBit_between_zero]; simp only [Look.holds, Option.isNone_none]
  | succ i =>
    simp only [Positions.testBit_between_succ, Look.holds, Bool.and_eq_true, decide_eq_true_eq]
    constructor
    · rintro ⟨-, hlt, hn⟩
      simp [List.getElem?_eq_getElem hlt] at hn
    · rintro ⟨-, h⟩
      omega

theorem testBit_reach_textEnd (text : List Char) (starts : Positions) (i : Nat) :
    ((look .textEnd).reach text starts).testBit i = true ↔
      starts.testBit i = true ∧ i = text.length := by
  rw [reach, Nat.testBit_and, Bool.and_eq_true]
  cases i with
  | zero => rw [Positions.testBit_between_zero]; cases text <;> simp [Look.holds]
  | succ i =>
    simp only [Positions.testBit_between_succ, Look.holds, Bool.and_eq_true, decide_eq_true_eq,
      Option.isNone_iff_eq_none, List.getElem?_eq_none_iff]
    constructor
    · rintro ⟨hs, hlt, hle⟩
      exact ⟨hs, by omega⟩
    · rintro ⟨hs, h⟩
      exact ⟨hs, by omega, by omega⟩

theorem reach_textStart_anywhere (text : List Char) :
    (look .textStart).reach text (anywhere text) = 1 := by
  refine Nat.eq_of_testBit_eq fun i => Bool.eq_iff_iff.mpr ?_
  rw [testBit_reach_textStart, testBit_anywhere, Nat.testBit_one_eq_true_iff_self_eq_zero]
  constructor
  · exact And.right
  · rintro rfl
    exact ⟨by simp, rfl⟩

/-- Between the conditions on the ends of a text an expression matches where it matches all of it. -/
theorem search_between (e : Expr) (text : String) :
    (seq (look .textStart) (seq e (look .textEnd))).search text = e.matchesWhole text := by
  rw [Bool.eq_iff_iff, search, bne_iff_ne, matchesWhole, reach, reach_textStart_anywhere, reach,
    ← String.length_toList]
  constructor
  · intro h
    obtain ⟨j, hj⟩ := Nat.exists_testBit_of_ne_zero h
    obtain ⟨hj, rfl⟩ := (testBit_reach_textEnd ..).mp hj
    exact hj
  · intro h h0
    have hend := (testBit_reach_textEnd text.toList _ _).mpr ⟨h, rfl⟩
    rw [h0, Nat.zero_testBit] at hend
    exact Bool.false_ne_true hend

theorem search_singles (cs : List Char) (text : String) :
    (seq (look .textStart)
      (seq (seqAll (cs.map fun c => set (.single c))) (look .textEnd))).search text
      = true ↔ text.toList = cs := by
  rw [search_between, matchesWhole, testBit_reach_singles, ← String.length_toList]
  constructor
  · rintro ⟨i, hi, hp, hlen⟩
    rw [Nat.testBit_one_eq_true_iff_self_eq_zero] at hi
    subst hi
    rw [List.drop_zero] at hp
    exact (hp.eq_of_length (by omega)).symm
  · rintro rfl
    exact ⟨0, rfl, by simp, by simp⟩

end Expr

end KernelStats.Pattern
