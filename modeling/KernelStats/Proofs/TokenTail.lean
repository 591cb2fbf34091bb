import KernelStats.Proofs.BracketTail

/-!
# Signs in front of the closing anchor

Flags, counts, names of groups and at last every sign of the language are read in front of the anchor
as they are without.
-/

namespace KernelStats.Pattern

theorem Flags.length_skip_le (f : Flags) (text : List Char) : (f.skip text).length ≤ text.length := by
  have hfrom (comment : Bool) : (skipFrom comment text).length ≤ text.length := by
    induction text generalizing comment with
    | nil => exact Nat.le_refl _
    | cons c rest ih =>
      rw [skipFrom]
      split
      · exact Nat.le_succ_of_le (ih _)
      · split
        · exact Nat.le_succ_of_le (ih _)
        · split
          · exact Nat.le_succ_of_le (ih _)
          · exact Nat.le_refl _
  rw [skip]
  split
  · exact hfrom false
  · exact Nat.le_refl _

theorem Flags.read?_trailed (f : Flags) (seen : List Char) {g : Flags} {any : Bool}
    {r r' s : List Char} (hr : Trailed r r') (h : f.read? seen r = some (g, any, s)) :
    ∃ s', f.read? seen r' = some (g, any, s') ∧ Trailed s s' := by
  induction hr generalizing f seen with
  | anchor => cases h
  | taken => cases h
  | cons c hr ih =>
    rw [Flags.read?] at h ⊢
    by_cases hend : (c == ':' || c == ')') = true
    · rw [if_pos hend] at h ⊢
      by_cases hminus : (seen.head? == some '-') = true
      · rw [if_pos hminus] at h
        cases h
      · rw [if_neg hminus] at h ⊢
        cases h
        exact ⟨_, rfl, .cons c hr⟩
    · rw [if_neg hend] at h ⊢
      by_cases hseen : seen.contains c = true
      · rw [if_pos hseen] at h
        cases h
      · rw [if_neg hseen] at h ⊢
        by_cases hminus : (c == '-') = true
        · rw [if_pos hminus] at h ⊢
          exact ih f (c :: seen) h
        · rw [if_neg hminus] at h ⊢
          cases hset : f.set? c (!seen.contains '-') with
          | none =>
            rw [hset] at h
            cases h
          | some f =>
            rw [hset] at h
            exact ih f (c :: seen) h

namespace Token

theorem afterAppetite_trailed {r r' : List Char} (hr : Trailed r r') :
    Trailed (afterAppetite r) (afterAppetite r') := by
  cases hr with
  | anchor => exact .anchor
  | taken => exact .taken
  | cons c hr =>
    by_cases hc : c = '?'
    · subst hc
      exact hr
    · have hother {t : List Char} : afterAppetite (c :: t) = c :: t := by
        rw [afterAppetite]
        intro rest heq
        exact hc (List.cons.inj heq).1
      rw [hother, hother]
      exact .cons c hr

theorem countDigits_trailed (f : Flags) {n n' : Nat} {r r' : List Char} (hr : Trailed r r')
    (hn : r.length ≤ n) (hn' : r'.length ≤ n') :
    (countDigits f n' r').1 = (countDigits f n r).1 ∧
      Trailed (countDigits f n r).2 (countDigits f n' r').2 := by
  induction n generalizing n' r r' with
  | zero =>
    cases hr with
    | anchor =>
      cases n' with
      | zero => exact absurd hn' (Nat.not_succ_le_zero _)
      | succ n' => exact ⟨rfl, .anchor⟩
    | taken => cases n' <;> exact ⟨rfl, .taken⟩
    | cons c hr => exact absurd hn (Nat.not_succ_le_zero _)
  | succ n ih =>
    cases hr with
    | anchor =>
      cases n' with
      | zero => exact absurd hn' (Nat.not_succ_le_zero _)
      | succ n' => exact ⟨rfl, .anchor⟩
    | taken => cases n' <;> exact ⟨rfl, .taken⟩
    | cons c hr =>
      cases n' with
      | zero => exact absurd hn' (Nat.not_succ_le_zero _)
      | succ n' =>
        rw [countDigits, countDigits]
        by_cases hc : c.isDigit = true
        · rw [if_pos hc, if_pos hc]
          obtain ⟨hdigits, hrest⟩ := ih (hr.skip f)
            (Nat.le_trans (f.length_skip_le _) (Nat.le_of_succ_le_succ hn))
            (Nat.le_trans (f.length_skip_le _) (Nat.le_of_succ_le_succ hn'))
          exact ⟨congrArg (c :: ·) hdigits, hrest⟩
        · rw [if_neg hc, if_neg hc]
          exact ⟨rfl, .cons c hr⟩

theorem afterCount_trailed (f : Flags) {n n' : Nat} {r r' : List Char} (hr : Trailed r r')
    (hn : r.length ≤ n) (hn' : r'.length ≤ n') :
    Trailed (afterCount f n r) (afterCount f n' r') := by
  induction n generalizing n' r r' with
  | zero =>
    cases hr with
    | anchor =>
      cases n' with
      | zero => exact absurd hn' (Nat.not_succ_le_zero _)
      | succ n' => exact .anchor
    | taken => cases n' <;> exact .taken
    | cons c hr => exact absurd hn (Nat.not_succ_le_zero _)
  | succ n ih =>
    cases hr with
    | anchor =>
      cases n' with
      | zero => exact absurd hn' (Nat.not_succ_le_zero _)
      | succ n' => exact .anchor
    | taken => cases n' <;> exact .taken
    | cons c hr =>
      cases n' with
      | zero => exact absurd hn' (Nat.not_succ_le_zero _)
      | succ n' =>
        rw [afterCount, afterCount]
        by_cases hc : isBlank c = true
        · rw [if_pos hc, if_pos hc]
          exact ih (hr.skip f) (Nat.le_trans (f.length_skip_le _) (Nat.le_of_succ_le_succ hn))
            (Nat.le_trans (f.length_skip_le _) (Nat.le_of_succ_le_succ hn'))
        · rw [if_neg hc, if_neg hc]
          exact .cons c hr

theorem count?_local (f : Flags) : Local (count? f) := by
  refine ⟨fun {r r' a s} hr h => ?_⟩
  have hblank := hr.dropWhile (p := isBlank) fun h => absurd h (by decide)
  obtain ⟨hdigits, hrest⟩ := countDigits_trailed f hblank
    (List.dropWhile_sublist _).length_le (List.dropWhile_sublist _).length_le
  have hafter := afterCount_trailed f hrest (Nat.le_refl _) (Nat.le_refl _)
  rw [count?] at h ⊢
  dsimp only at h ⊢
  rw [hdigits]
  have hvalue (digits : List Char) : Local fun rest =>
      let value := digits.foldl (fun n c => 10 * n + (c.toNat - '0'.toNat)) 0
      if digits.isEmpty then some (none, rest)
      else if 2 ^ 32 ≤ value then none
      else some (some value, rest) :=
    .ite (digits.isEmpty = true) (.pure none) <|
      .ite (2 ^ 32 ≤ digits.foldl (fun n c => 10 * n + (c.toNat - '0'.toNat)) 0) .fail
        (.pure (some _))
  exact (hvalue _).trailed hafter h

theorem afterBrace_local (f : Flags) (low : Nat) (high : Option Nat) : Local fun rest =>
    if high.any (· < low) then none
    else some (Token.repetition low high, afterAppetite (f.skip rest)) :=
  .ite (high.any (· < low) = true) .fail
    (((Local.pure (Token.repetition low high)).via afterAppetite_trailed).skip f)

theorem counted?_local (f : Flags) (low : Nat) (high : Option Nat) : Local (counted? f low high) := by
  refine .branch id '}' (by decide) (afterBrace_local f low high) .fail ?_ ?_
  · rintro text rest rfl
    rfl
  · intro text h
    rw [counted?]
    exact h

theorem upper_local (f : Flags) (low : Nat) : Local fun rest =>
    match rest with
    | '}' :: rest => counted? f low none ('}' :: rest)
    | rest => (do
      let (high, rest) ← count? f rest
      let high ← high
      counted? f low (some high) rest) := by
  refine .branch id '}' (by decide) ((counted?_local f low none).back '}')
    ((count?_local f).bind fun high => .guard high fun high => counted?_local f low (some high)) ?_ ?_
  · rintro text rest rfl
    rfl
  · intro text h
    split
    · next rest => exact (h rest rfl).elim
    · rfl

theorem afterLow_local (f : Flags) (low : Nat) : Local fun rest =>
    match rest with
    | ',' :: rest =>
      match f.skip rest with
      | '}' :: rest => counted? f low none ('}' :: rest)
      | rest => do
        let (high, rest) ← count? f rest
        let high ← high
        counted? f low (some high) rest
    | rest => counted? f low (some low) rest := by
  refine .branch id ',' (by decide) ((upper_local f low).skip f)
    (counted?_local f low (some low)) ?_ ?_
  · rintro text rest rfl
    rfl
  · intro text h
    split
    · next rest => exact (h rest rfl).elim
    · rfl

theorem repetition?_local (f : Flags) : Local (repetition? f) :=
  ((count?_local f).bind fun low => .guard low fun low => afterLow_local f low).skip f

theorem named?_local (f : Flags) : Local (named? f) := by
  refine ⟨fun {r r' a s} hr h => ?_⟩
  have hd := hr.dropWhile (p := (· != '>')) fun _ => rfl
  have ht := hr.takeWhile (p := (· != '>'))
  rw [named?.eq_def] at h ⊢
  generalize r.dropWhile (· != '>') = d at h hd ht
  generalize r'.dropWhile (· != '>') = d' at hd ⊢
  cases hd with
  | anchor =>
    split at h
    · next heq => cases heq
    · cases h
  | taken =>
    split at h
    · next heq => cases heq
    · cases h
  | cons c hd =>
    rw [ht (List.cons_ne_nil _ _)]
    split at h
    · next first rest after htake heq =>
      obtain ⟨rfl, rfl⟩ := List.cons.inj heq
      rw [htake]
      exact (Local.ite ((isNameStart first && rest.all isNameRest) = true)
        (.pure (opening f true (some (.ofList (first :: rest))))) .fail).trailed hd h
    · cases h

theorem afterFlags_local (inner : Flags) (any : Bool) : Local fun rest =>
    match rest with
    | ':' :: rest => some (Token.opening inner false none, rest)
    | _ :: rest => if any then some (Token.flags inner, rest) else none
    | [] => none := by
  refine .branch id ':' (by decide) (.pure (Token.opening inner false none))
    (.next fun _ => .ite (any = true) (.pure (Token.flags inner)) .fail) ?_ ?_
  · rintro text rest rfl
    rfl
  · intro text h
    cases text with
    | nil => rfl
    | cons c rest =>
      dsimp only
      split
      · next after heq => exact (h after heq).elim
      · next heq =>
        cases heq
        rfl
      · next heq => cases heq

theorem flags_local (f : Flags) : Local fun rest => (do
    let (inner, any, rest) ← f.read? [] rest
    match rest with
    | ':' :: rest => some (opening inner false none, rest)
    | _ :: rest => if any then some (.flags inner, rest) else none
    | [] => none) := by
  refine ⟨fun {r r' a s} hr h => ?_⟩
  obtain ⟨⟨inner, any, t⟩, hread, h⟩ := Option.bind_eq_some_iff.mp h
  obtain ⟨t', hread', ht⟩ := f.read?_trailed [] hr hread
  rw [hread']
  exact (afterFlags_local inner any).trailed ht h

theorem group?_local (f : Flags) : Local (group? f) := by
  refine ⟨fun {r r' a s} hr h => ?_⟩
  have hk := hr.skip f
  rw [group?.eq_def] at h ⊢
  generalize f.skip r = t at h hk
  generalize f.skip r' = t' at hk ⊢
  split at h
  · cases h
  · cases h
  · cases h
  · cases h
  · obtain ⟨t₁, rfl, h₁⟩ := hk.cons_of
    obtain ⟨t₂, rfl, h₂⟩ := h₁.cons_of
    obtain ⟨t₃, rfl, h₃⟩ := h₂.cons_of
    exact (named?_local f).trailed h₃ h
  -- the signs that tell one kind of group from another are not of the anchor
  · next hequals hbang =>
    split
    · obtain ⟨-, hk⟩ := hk.cons_inj
      exact absurd hk.cons_inj.1 (by decide)
    · obtain ⟨-, hk⟩ := hk.cons_inj
      exact absurd hk.cons_inj.1 (by decide)
    · exact (hk.cons_inj.2.cons_inj.2.not_cons (by decide) hequals).elim
    · exact (hk.cons_inj.2.cons_inj.2.not_cons (by decide) hbang).elim
    · obtain ⟨-, hk⟩ := hk.cons_inj
      exact absurd hk.cons_inj.1 (by decide)
    · exact (named?_local f).trailed hk.cons_inj.2.cons_inj.2 h
    · next hno =>
      obtain ⟨u, rfl, -⟩ := hk.cons_inj.2.cons_of
      exact (hno u rfl).elim
    · next hno =>
      obtain ⟨u, rfl, -⟩ := hk.cons_of
      exact (hno u rfl).elim
  · next hequals hbang _ _ hnamed hangle =>
    split
    · exact (hk.cons_inj.2.not_cons (by decide) hequals).elim
    · exact (hk.cons_inj.2.not_cons (by decide) hbang).elim
    · exact (hk.cons_inj.2.not_cons (by decide) hangle).elim
    · exact (hk.cons_inj.2.not_cons (by decide) hangle).elim
    · obtain ⟨u, rfl, hu⟩ := hk.cons_inj.2.of_cons (by decide)
      exact (hu.not_cons (by decide) fun v hv => hnamed v (hv ▸ rfl)).elim
    · exact (hk.cons_inj.2.not_cons (by decide) hangle).elim
    · exact (flags_local f).trailed hk.cons_inj.2 h
    · next hno =>
      obtain ⟨u, rfl, -⟩ := hk.cons_of
      exact (hno u rfl).elim
  · next hno =>
    split
    case h_8 => exact (Local.pure (opening f true none)).trailed hk h
    all_goals exact (hk.not_cons (by decide) hno).elim

theorem read?_local (f : Flags) : Local (Token.read? f) := by
  refine ⟨fun {r r' a s} hr h => ?_⟩
  cases hr with
  | anchor => cases h
  | taken => cases h
  | cons c hr =>
    rw [Token.read?.eq_def] at h ⊢
    dsimp only at h ⊢
    split at h
    · exact (group?_local f).trailed hr h
    · exact (Local.pure closing).trailed hr h
    · exact (Local.pure bar).trailed hr h
    · exact ((Bracket.read?_local f).map fun nested => ofSet nested.set nested.depth).trailed hr h
    · exact ((Local.pure (repetition _ _)).via afterAppetite_trailed).trailed hr h
    · exact ((Local.pure (repetition _ _)).via afterAppetite_trailed).trailed hr h
    · exact ((Local.pure (repetition _ _)).via afterAppetite_trailed).trailed hr h
    · exact (repetition?_local f).trailed hr h
    · exact ((Escape.read?_local f).map (ofEscape f)).trailed hr h
    · exact (Local.value f.dot? fun s => ofSet s 0).trailed hr h
    · exact (Local.pure (ofLook f.start)).trailed hr h
    · exact (Local.pure (ofLook f.finish)).trailed hr h
    · exact (Local.pure (ofChar f _)).trailed hr h

end Token

end KernelStats.Pattern
