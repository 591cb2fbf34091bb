import KernelStats.GroupPattern

/-!
# Reading in front of the closing anchor

An id is read between anchors, so that `)$` stands behind it. What reads the id on its own reads the
same there, sign by sign, and leaves the same with the anchor behind it. The one exception is a comment
that runs to the end of the id, which takes the anchor with it.
-/

namespace KernelStats.Pattern

/-- What is left of an id, and what is left of it in front of the closing anchor. -/
inductive Trailed : List Char → List Char → Prop
  | anchor : Trailed [] [')', '$']
  | taken : Trailed [] []
  | cons (c : Char) {r r' : List Char} (h : Trailed r r') : Trailed (c :: r) (c :: r')

/-- What a reader gives for the rest of an id it gives in front of the anchor, where it may have more
fuel. -/
structure Local (read : List Char → Option (α × List Char))
    (read' : List Char → Option (α × List Char) := read) : Prop where
  trailed : ∀ {r r' : List Char} {a : α} {s : List Char}, Trailed r r' → read r = some (a, s) →
    ∃ s', read' r' = some (a, s') ∧ Trailed s s'

namespace Trailed

theorem ofId (r : List Char) : Trailed r (r ++ [')', '$']) := by
  induction r with
  | nil => exact .anchor
  | cons c r ih => exact .cons c ih

variable {r r' : List Char}

theorem of_cons {c : Char} (h : Trailed r (c :: r')) (hc : c ≠ ')') :
    ∃ s, r = c :: s ∧ Trailed s r' := by
  cases h with
  | anchor => exact absurd rfl hc
  | cons _ h => exact ⟨_, rfl, h⟩

theorem not_cons {c : Char} (h : Trailed r (c :: r')) (hc : c ≠ ')')
    (hr : ∀ s, r = c :: s → False) : False := by
  obtain ⟨s, hs, -⟩ := h.of_cons hc
  exact hr s hs

theorem cons_inj {c c' : Char} (h : Trailed (c :: r) (c' :: r')) : c = c' ∧ Trailed r r' := by
  cases h with
  | cons _ h => exact ⟨rfl, h⟩

theorem cons_of {c : Char} {s : List Char} (h : Trailed (c :: s) r') :
    ∃ s', r' = c :: s' ∧ Trailed s s' := by
  cases h with
  | cons _ h => exact ⟨_, rfl, h⟩

theorem length_le (h : Trailed r r') : r.length ≤ r'.length := by
  induction h with
  | anchor => exact Nat.zero_le _
  | taken => exact Nat.le_refl _
  | cons c _ ih => exact Nat.succ_le_succ ih

theorem skipFrom (h : Trailed r r') (comment : Bool) :
    Trailed (Flags.skipFrom comment r) (Flags.skipFrom comment r') := by
  induction h generalizing comment with
  | anchor =>
    cases comment with
    | true => exact .taken
    | false => exact .anchor
  | taken => exact .taken
  | cons c h ih =>
    rw [Flags.skipFrom, Flags.skipFrom]
    cases comment with
    | true => exact ih _
    | false =>
      by_cases hb : isBlank c = true
      · rw [if_pos hb, if_pos hb]
        exact ih false
      · rw [if_neg hb, if_neg hb]
        by_cases hc : (c == '#') = true
        · rw [if_pos hc, if_pos hc]
          exact ih true
        · rw [if_neg hc, if_neg hc]
          exact .cons c h

theorem skip (h : Trailed r r') (f : Flags) : Trailed (f.skip r) (f.skip r') := by
  rw [Flags.skip, Flags.skip]
  cases f.ignoreBlanks with
  | true => exact h.skipFrom false
  | false => exact h

theorem dropWhile (h : Trailed r r') {p : Char → Bool} (hp : p ')' = true → p '$' = true) :
    Trailed (r.dropWhile p) (r'.dropWhile p) := by
  induction h with
  | anchor =>
    rw [List.dropWhile_nil, List.dropWhile_cons]
    by_cases hc : p ')' = true
    · rw [if_pos hc, List.dropWhile_cons, if_pos (hp hc)]
      exact .taken
    · rw [if_neg hc]
      exact .anchor
  | taken => exact .taken
  | cons c h ih =>
    rw [List.dropWhile_cons, List.dropWhile_cons]
    by_cases hc : p c = true
    · rw [if_pos hc, if_pos hc]
      exact ih
    · rw [if_neg hc, if_neg hc]
      exact .cons c h

theorem takeWhile (h : Trailed r r') {p : Char → Bool} (hr : r.dropWhile p ≠ []) :
    r'.takeWhile p = r.takeWhile p := by
  induction h with
  | anchor => exact absurd rfl hr
  | taken => rfl
  | cons c h ih =>
    rw [List.dropWhile_cons] at hr
    rw [List.takeWhile_cons, List.takeWhile_cons]
    by_cases hc : p c = true
    · rw [if_pos hc] at hr
      rw [if_pos hc, if_pos hc, ih hr]
    · rw [if_neg hc, if_neg hc]

end Trailed

namespace Local

theorem pure (a : α) : Local fun r => some (a, r) where
  trailed := by
    intro r r' b s hr h
    cases h
    exact ⟨r', rfl, hr⟩

theorem fail {g : List Char → Option (α × List Char)} : Local (fun _ => none) g where
  trailed := by
    intro r r' a s hr h
    cases h

theorem bind {g g' : List Char → Option (α × List Char)}
    {k k' : α → List Char → Option (β × List Char)} (hg : Local g g')
    (hk : ∀ a, Local (k a) (k' a)) :
    Local (fun r => (g r).bind fun x => k x.1 x.2) fun r => (g' r).bind fun x => k' x.1 x.2 where
  trailed := by
    intro r r' b s hr h
    obtain ⟨⟨a, t⟩, ha, h⟩ := Option.bind_eq_some_iff.mp h
    obtain ⟨t', ha', ht⟩ := hg.trailed hr ha
    obtain ⟨s', hs', hs⟩ := (hk a).trailed ht h
    exact ⟨s', Option.bind_eq_some_iff.mpr ⟨(a, t'), ha', hs'⟩, hs⟩

theorem guard (o : Option γ) {k k' : γ → List Char → Option (α × List Char)}
    (hk : ∀ c, Local (k c) (k' c)) :
    Local (fun r => o.bind fun c => k c r) fun r => o.bind fun c => k' c r := by
  cases o with
  | none => exact fail
  | some c => exact hk c

theorem value (o : Option γ) (g : γ → α) : Local fun r => o.map fun c => (g c, r) := by
  cases o with
  | none => exact fail
  | some c => exact pure (g c)

theorem map {g : List Char → Option (α × List Char)} (hg : Local g) (k : α → β) :
    Local fun r => (g r).map fun x => (k x.1, x.2) where
  trailed := by
    intro r r' b s hr h
    obtain ⟨⟨a, t⟩, ha, heq⟩ := Option.map_eq_some_iff.mp h
    obtain ⟨t', ha', ht⟩ := hg.trailed hr ha
    cases heq
    exact ⟨t', Option.map_eq_some_iff.mpr ⟨(a, t'), ha', rfl⟩, ht⟩

theorem ite (p : Prop) [Decidable p] {g k : List Char → Option (α × List Char)} (hg : Local g)
    (hk : Local k) : Local fun r => if p then g r else k r where
  trailed := by
    intro r r' a s hr h
    by_cases hp : p
    · rw [if_pos hp] at h ⊢
      exact hg.trailed hr h
    · rw [if_neg hp] at h ⊢
      exact hk.trailed hr h

theorem via {g g' : List Char → Option (α × List Char)} (hg : Local g g')
    {v : List Char → List Char} (hv : ∀ {r r' : List Char}, Trailed r r' → Trailed (v r) (v r')) :
    Local (fun r => g (v r)) fun r => g' (v r) where
  trailed hr h := hg.trailed (hv hr) h

theorem skip {g g' : List Char → Option (α × List Char)} (hg : Local g g') (f : Flags) :
    Local (fun r => g (f.skip r)) fun r => g' (f.skip r) :=
  hg.via (·.skip f)

theorem back {g : List Char → Option (α × List Char)} (hg : Local g) (c : Char) :
    Local fun r => g (c :: r) where
  trailed hr h := hg.trailed (.cons c hr) h

theorem next {k k' : Char → List Char → Option (α × List Char)} (hk : ∀ c, Local (k c) (k' c)) :
    Local
      (fun text => match text with
        | [] => none
        | c :: rest => k c rest)
      fun text => match text with
        | [] => none
        | c :: rest => k' c rest where
  trailed := by
    intro r r' a s hr h
    cases hr with
    | anchor => cases h
    | taken => cases h
    | cons c hr => exact (hk c).trailed hr h

/-- A reader that goes one way behind a certain sign and another way elsewhere. The sign of the anchor
would lead it astray. -/
theorem branch {read g k : List Char → Option (α × List Char)} {via : List Char → List Char}
    (hvia : ∀ {r r' : List Char}, Trailed r r' → Trailed (via r) (via r')) (d : Char) (hd : d ≠ ')')
    (hg : Local g) (hk : Local k) (hat : ∀ text rest, via text = d :: rest → read text = g rest)
    (helse : ∀ text, (∀ rest, via text = d :: rest → False) → read text = k (via text)) :
    Local read where
  trailed := by
    intro r r' a s hr h
    have hv := hvia hr
    by_cases hfront : ∃ rest', via r' = d :: rest'
    · obtain ⟨rest', hr'⟩ := hfront
      rw [hr'] at hv
      obtain ⟨rest, hr, hrest⟩ := hv.of_cons hd
      rw [hat r rest hr] at h
      rw [hat r' rest' hr']
      exact hg.trailed hrest h
    · have hown (rest : List Char) (heq : via r = d :: rest) : False := by
        rw [heq] at hv
        obtain ⟨rest', hr', -⟩ := hv.cons_of
        exact hfront ⟨rest', hr'⟩
      rw [helse r hown] at h
      rw [helse r' fun rest' heq => hfront ⟨rest', heq⟩]
      exact hk.trailed hv h

end Local

namespace Escape

theorem digits?_local (f : Flags) (n code : Nat) : Local (digits? f n code) := by
  induction n generalizing code with
  | zero => exact .pure code
  | succ n ih =>
    exact .next fun c => .guard (hexadecimalDigit? c) fun d => (ih (16 * code + d)).skip f

theorem braced?_mono (f : Flags) {n n' : Nat} (hn : n ≤ n') (inside : List Char) :
    Local (braced? f n inside) (braced? f n' inside) := by
  induction n generalizing n' inside with
  | zero => exact .fail
  | succ n ih =>
    cases n' with
    | zero => exact absurd hn (Nat.not_succ_le_zero _)
    | succ n' =>
      refine ⟨fun {r r' a s} hr h => ?_⟩
      have hk := hr.skip f
      rw [braced?] at h ⊢
      generalize f.skip r = t at h hk
      generalize f.skip r' = t' at hk ⊢
      cases hk with
      | anchor => cases h
      | taken => cases h
      | cons c hk =>
        dsimp only at h ⊢
        by_cases hc : (c == '}') = true
        · rw [if_pos hc] at h ⊢
          exact (Local.pure _).trailed hk h
        · rw [if_neg hc] at h ⊢
          exact (ih (Nat.le_of_succ_le_succ hn) _).trailed hk h

theorem braced?_local (f : Flags) : Local fun r => braced? f r.length [] r where
  trailed hr h := (braced?_mono f hr.length_le []).trailed hr h

theorem plainCode_local (f : Flags) (width : Nat) : Local fun text => (do
    let (code, rest) ← digits? f width 0 text
    let c ← charOfCode? code
    if width == 2 && 0x7F < code && !f.unicode then none else some (Escape.char c, rest)) :=
  (digits?_local f width 0).bind fun code => .guard (charOfCode? code) fun c =>
    .ite ((width == 2 && 0x7F < code && !f.unicode) = true) .fail (.pure (Escape.char c))

theorem bracedCode_local (f : Flags) : Local fun rest => (do
    let (inside, rest) ← braced? f rest.length [] rest
    if inside.isEmpty then none
    else
      let digits ← inside.mapM hexadecimalDigit?
      let code := digits.foldl (fun code d => 16 * code + d) 0
      (charOfCode? code).map fun c => (Escape.char c, f.skip rest)) :=
  (braced?_local f).bind fun inside => .ite (inside.isEmpty = true) .fail <|
    .guard (inside.mapM hexadecimalDigit?) fun digits =>
      (Local.value (charOfCode? (digits.foldl (fun code d => 16 * code + d) 0)) Escape.char).skip f

theorem code?_local (f : Flags) (width : Nat) : Local (code? f width) := by
  refine .branch (·.skip f) '{' (by decide) (bracedCode_local f) (plainCode_local f width) ?_ ?_
  · intro text rest h
    rw [code?, h]
    rfl
  · intro text h
    rw [code?]
    split
    · next rest heq => exact (h rest heq).elim
    · rfl

theorem property?_local (f : Flags) (negated : Bool) : Local (property? f negated) := by
  have hset (name : List Char) : Local fun rest =>
      (CharSet.ofProperty? name).bind fun found =>
        if f.unicode then
          (f.finish? (negated != found.2) found.1).map fun s => (Escape.set s, rest)
        else none :=
    .guard (CharSet.ofProperty? name) fun found =>
      .ite (f.unicode = true) (.value (f.finish? (negated != found.2) found.1) Escape.set) .fail
  refine .branch (·.skip f) '{' (by decide) ((braced?_local f).bind hset)
    (.next fun c => .ite (c == '\\') .fail ((hset [c]).skip f)) ?_ ?_
  · intro text rest h
    rw [property?, h]
    rfl
  · intro text h
    rw [property?]
    split
    · next rest heq => exact (h rest heq).elim
    · next c rest _ heq =>
      rw [heq]
      by_cases hslash : (c == '\\') = true
      · rw [if_pos hslash]
        exact (if_pos hslash).symm
      · rw [if_neg hslash]
        exact (if_neg hslash).symm
    · next heq =>
      rw [heq]
      rfl

theorem namedBoundary_local (f : Flags) : Local fun rest =>
    (braced? f rest.length [] rest).bind fun (name, rest) =>
      (boundaryOfName? f.alphabet name).bind fun l => some (Escape.look l, rest) :=
  (braced?_local f).bind fun name => .guard (boundaryOfName? f.alphabet name) fun l =>
    .pure (Escape.look l)

theorem bracedBoundary_local (f : Flags) : Local fun rest =>
    match f.skip rest with
    | [] => none
    | c :: _ =>
      if isNameChar c then
        (braced? f rest.length [] rest).bind fun (name, rest) =>
          (boundaryOfName? f.alphabet name).bind fun l => some (Escape.look l, rest)
      else some (.look (.wordBoundary f.alphabet), '{' :: rest) := by
  refine ⟨fun {r r' a s} hr h => ?_⟩
  have hk := hr.skip f
  cases hskip : f.skip r with
  | nil =>
    rw [hskip] at h
    cases h
  | cons c t =>
    rw [hskip] at h hk
    obtain ⟨t', hskip', -⟩ := hk.cons_of
    rw [hskip']
    exact (Local.ite (isNameChar c = true) (namedBoundary_local f)
      ((Local.pure (Escape.look (.wordBoundary f.alphabet))).back '{')).trailed hr h

theorem boundary?_local (f : Flags) : Local (boundary? f) := by
  refine .branch id '{' (by decide) (bracedBoundary_local f)
    (.pure (Escape.look (.wordBoundary f.alphabet))) ?_ ?_
  · rintro text rest rfl
    rfl
  · intro text h
    rw [boundary?]
    exact h

theorem read?_local (f : Flags) : Local (Escape.read? f) := by
  refine ⟨fun {r r' a s} hr h => ?_⟩
  cases hr with
  | anchor => cases h
  | taken => cases h
  | cons c hr =>
    have hpunctuation := Local.ite (isMeta c || (c.toNat < 0x80 && !c.isAlphanum))
      (.pure (Escape.char c)) .fail
    rw [Escape.read?.eq_def] at h ⊢
    dsimp only at h ⊢
    split at h
    · exact (code?_local f 2).trailed hr h
    · exact (code?_local f 4).trailed hr h
    · exact (code?_local f 8).trailed hr h
    · exact (property?_local f false).trailed hr h
    · exact (property?_local f true).trailed hr h
    -- the other escapes are one sign long, but for the boundaries of words
    any_goals exact (Local.pure _).trailed hr h
    any_goals exact (Local.value _ Escape.set).trailed hr h
    · exact (boundary?_local f).trailed hr h
    · exact hpunctuation.trailed hr h

end Escape

end KernelStats.Pattern
