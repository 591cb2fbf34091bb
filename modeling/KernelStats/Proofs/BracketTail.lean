import KernelStats.Proofs.AnchorTail

/-!
# Sets in front of the closing anchor

Neither a named class, nor the look ahead of a range, nor the sign of an operation begins or ends with
the anchor, so a set is read in front of it as it is without.
-/

namespace KernelStats.Pattern

namespace Bracket

theorem openingHyphens?_mono (f : Flags) {n n' : Nat} (hn : n ≤ n') (b : Bracket) :
    Local (openingHyphens? f n b) (openingHyphens? f n' b) := by
  induction n generalizing n' b with
  | zero => exact .fail
  | succ n ih =>
    cases n' with
    | zero => exact absurd hn (Nat.not_succ_le_zero _)
    | succ n' =>
      refine ⟨fun {r r' b' s} hr h => ?_⟩
      rw [openingHyphens?.eq_def] at h ⊢
      cases hr with
      | anchor => cases h
      | taken => cases h
      | cons c hr =>
        dsimp only at h ⊢
        by_cases hc : (c == '-') = true
        · rw [if_pos hc] at h ⊢
          exact ((ih (Nat.le_of_succ_le_succ hn) _).skip f).trailed hr h
        · rw [if_neg hc] at h ⊢
          exact (Local.pure b).trailed (.cons c hr) h

theorem literalClosing_local (b : Bracket) : Local fun rest =>
    if rest.isEmpty then none else some (b.push ⟨.single ']', 0⟩, rest) := by
  refine ⟨fun {r r' b' s} hr h => ?_⟩
  cases hr with
  | anchor => cases h
  | taken => cases h
  | cons c hr => exact (Local.pure _).trailed (.cons c hr) h

theorem openingClosing_local (f : Flags) (b : Bracket) : Local fun text =>
    match text with
    | ']' :: rest =>
      if b.items.isEmpty then
        let rest := f.skip rest
        if rest.isEmpty then none else some (b.push ⟨.single ']', 0⟩, rest)
      else some (b, text)
    | text => some (b, text) := by
  refine .branch id ']' (by decide)
    (.ite (b.items.isEmpty = true) ((literalClosing_local b).skip f) ((Local.pure b).back ']'))
    (.pure b) ?_ ?_
  · rintro text rest rfl
    rfl
  · intro text h
    split
    · next rest => exact (h rest rfl).elim
    · rfl

theorem opening?_local (f : Flags) : Local (opening? f) := by
  have hhead (negated : Bool) := Local.bind
    ⟨fun hr h => (openingHyphens?_mono f (Nat.succ_le_succ hr.length_le) { negated }).trailed hr h⟩
    (openingClosing_local f)
  refine .branch (·.skip f) '^' (by decide) ((hhead true).skip f) (hhead false) ?_ ?_
  · intro text rest h
    rw [opening?, h]
    rfl
  · intro text h
    rw [opening?]
    split
    next negated rest heq =>
      split at heq
      · next rest hskip => exact (h rest hskip).elim
      · cases heq
        rfl

theorem className_trailed (negated : Bool) {r r' : List Char} (hr : Trailed r r') :
    let class? (text : List Char) : Option (CharSet × Bool × List Char) :=
      match text.dropWhile (· != ':') with
      | ':' :: ']' :: after =>
        (CharSet.ofAsciiName? (.ofList (text.takeWhile (· != ':')))).map fun s => (s, negated, after)
      | _ => none
    (class? r = none ∧ class? r' = none) ∨
      ∃ s negated t t', class? r = some (s, negated, t) ∧ class? r' = some (s, negated, t') ∧
        Trailed t t' := by
  intro class?
  have hd := hr.dropWhile (p := (· != ':')) fun _ => rfl
  have ht := hr.takeWhile (p := (· != ':'))
  dsimp only [class?]
  generalize r.dropWhile (· != ':') = d at hd ht ⊢
  generalize r'.dropWhile (· != ':') = d' at hd ⊢
  cases hd with
  | anchor => exact .inl ⟨rfl, rfl⟩
  | taken => exact .inl ⟨rfl, rfl⟩
  | cons c hd =>
    cases hd with
    | anchor => exact .inl ⟨by simp, by simp⟩
    | taken => exact .inl ⟨by simp, by simp⟩
    | cons c' hd =>
      by_cases hc : c = ':' ∧ c' = ']'
      · obtain ⟨rfl, rfl⟩ := hc
        rw [ht (List.cons_ne_nil _ _)]
        cases CharSet.ofAsciiName? (.ofList (r.takeWhile (· != ':'))) with
        | none => exact .inl ⟨rfl, rfl⟩
        | some s => exact .inr ⟨s, negated, _, _, rfl, rfl, hd⟩
      · refine .inl ⟨?_, ?_⟩
        all_goals
          split
          · next heq =>
            obtain ⟨hcolon, heq⟩ := List.cons.inj heq
            exact absurd ⟨hcolon, (List.cons.inj heq).1⟩ hc
          · rfl

theorem named?_trailed {r r' : List Char} (hr : Trailed r r') :
    (named? r = none ∧ named? r' = none) ∨
      ∃ s negated t t', named? r = some (s, negated, t) ∧ named? r' = some (s, negated, t') ∧
        Trailed t t' := by
  cases hr with
  | anchor => exact .inl ⟨rfl, rfl⟩
  | taken => exact .inl ⟨rfl, rfl⟩
  | cons c hr =>
    by_cases hc : c = ':'
    · subst hc
      cases hr with
      | anchor => exact .inl ⟨rfl, rfl⟩
      | taken => exact .inl ⟨rfl, rfl⟩
      | cons c hr =>
        by_cases hc : c = '^'
        · subst hc
          exact className_trailed true hr
        · rw [named?, named?]
          · exact className_trailed false (.cons c hr)
          all_goals
            intro rest heq
            exact hc (List.cons.inj heq).1
    · refine .inl ⟨?_, ?_⟩
      all_goals
        rw [named?]
        intro rest heq
        exact hc (List.cons.inj heq).1

theorem item?_local (f : Flags) : Local (item? f) := by
  refine .branch id '\\' (by decide) (Escape.read?_local f) (.next fun c => .pure (Escape.char c)) ?_ ?_
  · rintro text rest rfl
    rfl
  · intro text h
    cases text with
    | nil => rfl
    | cons c rest =>
      rw [item?]
      rintro rfl
      exact h rest rfl

theorem peek_trailed (f : Flags) {r r' : List Char} (hr : Trailed r r') {c : Char}
    (hc : c ≠ ')') : (peek f r' == some c) = (peek f r == some c) := by
  have hhead {t t' : List Char} (ht : Trailed t t') :
      (t'.head? == some c) = (t.head? == some c) := by
    cases ht with
    | anchor =>
      have hne : (')' == c) = false := beq_false_of_ne hc.symm
      exact hne
    | taken => rfl
    | cons c ht => rfl
  have hblank {t t' : List Char} (ht : Trailed t t') :
      Trailed (t.dropWhile isBlank) (t'.dropWhile isBlank) :=
    ht.dropWhile fun h => absurd h (by decide)
  rw [peek, peek]
  by_cases hf : f.ignoreBlanks = true
  · rw [if_pos hf, if_pos hf]
    have hk := hblank hr
    generalize r.dropWhile isBlank = t at hk ⊢
    generalize r'.dropWhile isBlank = t' at hk ⊢
    cases hk with
    | anchor => exact hhead .anchor
    | taken => rfl
    | cons d hk =>
      by_cases hd : d = '#'
      · subst hd
        exact hhead (hblank hk)
      · split
        · next heq => exact absurd (List.cons.inj heq).1 hd
        · split
          · next heq => exact absurd (List.cons.inj heq).1 hd
          · rfl
  · rw [if_neg hf, if_neg hf]
    exact hhead hr

theorem single_local (f : Flags) (first : Escape) : Local fun text =>
    match first with
    | .char c => (member? f c).map fun n => (CharSet.range n n, text)
    | .set s => some (s, text)
    | .look _ => none := by
  cases first with
  | char c => exact .value (member? f c) fun n => CharSet.range n n
  | set s => exact .pure s
  | look l => exact .fail

theorem ends_local (f : Flags) (first second : Escape) : Local fun rest =>
    match first, second with
    | .char c, .char d => do
      let low ← member? f c
      let high ← member? f d
      if low ≤ high then some (CharSet.range low high, rest) else none
    | _, _ => none := by
  cases first with
  | set s => exact .fail
  | look l => exact .fail
  | char c =>
    cases second with
    | set s => exact .fail
    | look l => exact .fail
    | char d =>
      exact .guard (member? f c) fun low => .guard (member? f d) fun high =>
        .ite (low ≤ high) (.pure (CharSet.range low high)) .fail

theorem afterHyphen_local (f : Flags) (first : Escape) : Local fun after =>
    if peek f after == some ']' || peek f after == some '-' then
      match first with
      | .char c => (member? f c).map fun n => (CharSet.range n n, '-' :: after)
      | .set s => some (s, '-' :: after)
      | .look _ => none
    else (do
      let (second, rest) ← item? f (f.skip after)
      match first, second with
      | .char c, .char d => do
        let low ← member? f c
        let high ← member? f d
        if low ≤ high then some (.range low high, rest) else none
      | _, _ => none) := by
  refine ⟨fun {r r' a s} hr h => ?_⟩
  have hpeek : (peek f r' == some ']' || peek f r' == some '-') =
      (peek f r == some ']' || peek f r == some '-') := by
    rw [peek_trailed f hr (by decide), peek_trailed f hr (by decide)]
  rw [hpeek]
  exact (Local.ite ((peek f r == some ']' || peek f r == some '-') = true)
    ((single_local f first).back '-')
    (((item?_local f).bind (ends_local f first)).skip f)).trailed hr h

theorem afterFirst_local (f : Flags) (first : Escape) : Local fun text =>
    let single : Option (CharSet × List Char) :=
      match first with
      | .char c => (member? f c).map fun n => (.range n n, text)
      | .set s => some (s, text)
      | .look _ => none
    match text with
    | [] => none
    | '-' :: after =>
      if peek f after == some ']' || peek f after == some '-' then single
      else do
        let (second, rest) ← item? f (f.skip after)
        match first, second with
        | .char c, .char d => do
          let low ← member? f c
          let high ← member? f d
          if low ≤ high then some (.range low high, rest) else none
        | _, _ => none
    | _ => single := by
  refine .branch id '-' (by decide) (afterHyphen_local f first)
    (.next fun c => (single_local f first).back c) ?_ ?_
  · rintro text rest rfl
    rfl
  · intro text h
    cases text with
    | nil => rfl
    | cons c rest =>
      dsimp only
      split
      · next heq => cases heq
      · next after heq => exact (h after heq).elim
      · rfl

theorem range?_local (f : Flags) : Local (range? f) :=
  (item?_local f).bind fun first => (afterFirst_local f first).skip f

theorem nested_local (f : Flags) (b : Bracket) {n n' : Nat}
    (hread : ∀ b, Local (readOn? f n b) (readOn? f n' b)) :
    let nested (n : Nat) (rest : List Char) : Option (Nested × List Char) :=
      match named? rest with
      | some (s, negated, rest) =>
        (f.finish? negated s).bind fun s => readOn? f n (b.push ⟨s, 0⟩) rest
      | none => do
        let (inner, rest) ← opening? f rest
        let (nested, rest) ← readOn? f n inner rest
        readOn? f n (b.push nested) rest
    Local (nested n) (nested n') := by
  intro nested
  refine ⟨fun {r r' a s} hr h => ?_⟩
  dsimp only [nested] at h ⊢
  obtain ⟨hown, hfront⟩ | ⟨set, negated, t, t', hown, hfront, ht⟩ := named?_trailed hr
  · rw [hown] at h
    rw [hfront]
    exact ((opening?_local f).bind fun inner =>
      (hread inner).bind fun nested => hread (b.push nested)).trailed hr h
  · rw [hown] at h
    rw [hfront]
    exact (Local.guard (f.finish? negated set) fun s => hread (b.push ⟨s, 0⟩)).trailed ht h

theorem readOn?_mono (f : Flags) {n n' : Nat} (hn : n ≤ n') (b : Bracket) :
    Local (readOn? f n b) (readOn? f n' b) := by
  induction n generalizing n' b with
  | zero => exact .fail
  | succ n ih =>
    cases n' with
    | zero => exact absurd hn (Nat.not_succ_le_zero _)
    | succ n' =>
      have ih (b : Bracket) := ih (Nat.le_of_succ_le_succ hn) b
      refine ⟨fun {r r' nested s} hr h => ?_⟩
      have hk := hr.skip f
      rw [readOn?.eq_def] at h ⊢
      dsimp only at h ⊢
      generalize f.skip r = t at h hk
      generalize f.skip r' = t' at hk ⊢
      split at h
      · cases h
      · cases hk with | cons _ hk => exact (nested_local f b ih).trailed hk h
      · cases hk with | cons _ hk => exact (Local.value (b.close? f) id).trailed hk h
      · cases hk with | cons _ hk => cases hk with | cons _ hk => exact (ih _).trailed hk h
      · cases hk with | cons _ hk => cases hk with | cons _ hk => exact (ih _).trailed hk h
      · cases hk with | cons _ hk => cases hk with | cons _ hk => exact (ih _).trailed hk h
      · next hnil hopen hclose hand hminus htilde =>
        have hrange := (range?_local f).bind fun s => ih (b.push ⟨s, 0⟩)
        -- nothing that stands for an operation starts with the anchor
        split
        · cases hk with
          | taken => exact absurd rfl hnil
        · exact (hk.not_cons (by decide) hopen).elim
        · exact (hk.not_cons (by decide) hclose).elim
        · obtain ⟨u, rfl, hu⟩ := hk.of_cons (by decide)
          exact (hu.not_cons (by decide) fun v hv => hand v (hv ▸ rfl)).elim
        · obtain ⟨u, rfl, hu⟩ := hk.of_cons (by decide)
          exact (hu.not_cons (by decide) fun v hv => hminus v (hv ▸ rfl)).elim
        · obtain ⟨u, rfl, hu⟩ := hk.of_cons (by decide)
          exact (hu.not_cons (by decide) fun v hv => htilde v (hv ▸ rfl)).elim
        · exact hrange.trailed hk h

theorem read?_local (f : Flags) : Local (Bracket.read? f) :=
  (opening?_local f).bind fun b =>
    ⟨fun hr h => (readOn?_mono f (Nat.succ_le_succ hr.length_le) b).trailed hr h⟩

end Bracket

end KernelStats.Pattern
