import KernelStats.Proofs.LiteralPattern
import KernelStats.Proofs.TokenTail

/-!
# Ids between the anchors

An id that is a regular expression on its own is read between the anchors as that expression, so it
matches where the expression matches the whole of a name.
-/

namespace KernelStats.Pattern

theorem Flags.skip_anchor (f : Flags) : f.skip [')', '$'] = [')', '$'] := by
  rw [skip]
  cases f.ignoreBlanks <;> rfl

namespace Draft

def within (d : Draft) : Draft := { d with outside := d.outside ++ anchored.outside }

theorem accept?_within {d d' : Draft} {token : Token} (h : d.accept? token = some d') :
    d.within.accept? token = some d'.within := by
  cases token with
  | atom expr depth size => cases h; rfl
  | bar => cases h; rfl
  | flags f => cases h; rfl
  | opening flags captures name =>
    rw [accept?] at h ⊢
    obtain ⟨hnew, hd⟩ := Option.ite_none_left_eq_some.mp h
    cases hd
    exact if_neg hnew
  | closing =>
    rw [accept?] at h ⊢
    cases ho : d.outside with
    | nil =>
      rw [ho] at h
      cases h
    | cons o outside =>
      rw [ho] at h
      cases h
      rw [within, ho]
      rfl
  | repetition low high =>
    rw [accept?] at h ⊢
    cases hp : d.row.pieces with
    | nil =>
      rw [hp] at h
      cases h
    | cons p pieces =>
      rw [hp] at h
      obtain ⟨hrepeat, hd⟩ := Option.ite_none_right_eq_some.mp h
      cases hd
      rw [within, hp]
      exact if_pos hrepeat

theorem readOn?_congr {d : Draft} {r t : List Char} (n : Nat) (h : d.flags.skip r = d.flags.skip t) :
    readOn? (n + 1) d r = readOn? (n + 1) d t := by
  rw [readOn?, readOn?, h]

theorem readOn?_of_skip {d : Draft} {r : List Char} (n : Nat) (h : d.flags.skip r = []) :
    readOn? (n + 1) d r = some d := by
  rw [readOn?, h]

theorem readOn?_of_read {d d' : Draft} {r t s : List Char} {token : Token} (n : Nat)
    (hskip : d.flags.skip r = t) (hread : Token.read? d.flags t = some (token, s))
    (haccept : d.accept? token = some d') : readOn? (n + 1) d r = readOn? n d' s := by
  cases t with
  | nil => cases hread
  | cons c t =>
    rw [readOn?, hskip]
    simp only [hread, haccept, Option.bind_eq_bind, Option.bind_some]

/-- What is read to the end of an id is read in front of the anchor too, unless a comment has taken
the anchor. -/
theorem readOn?_within {n n' : Nat} (hn : n + 2 ≤ n') {d d' : Draft} {r r' : List Char}
    (hr : Trailed r r') (h : readOn? n d r = some d') :
    readOn? n' d.within r' = some d'.within ∨
      ∃ m, readOn? n' d.within r' = readOn? (m + 3) d'.within [')', '$'] := by
  induction n generalizing n' d r r' with
  | zero => cases h
  | succ n ih =>
    obtain ⟨m, rfl⟩ := Nat.exists_eq_add_of_le' hn
    have hk := hr.skip d.flags
    generalize hskip : d.flags.skip r = t at hk
    generalize hskip' : d.flags.skip r' = t' at hk
    cases hk with
    | anchor =>
      rw [readOn?_of_skip n hskip] at h
      cases h
      refine .inr ⟨m + n, ?_⟩
      have hanchor : d'.flags.skip r' = d'.flags.skip [')', '$'] :=
        hskip'.trans (Flags.skip_anchor d'.flags).symm
      exact readOn?_congr (m + n + 2) hanchor
    | taken =>
      rw [readOn?_of_skip n hskip] at h
      cases h
      exact .inl (readOn?_of_skip _ hskip')
    | cons c hk =>
      rw [readOn?, hskip] at h
      obtain ⟨⟨token, s⟩, hread, h⟩ := Option.bind_eq_some_iff.mp h
      obtain ⟨next, haccept, h⟩ := Option.bind_eq_some_iff.mp h
      obtain ⟨s', hread', hs⟩ := (Token.read?_local d.flags).trailed (.cons c hk) hread
      have hstep (k : Nat) : readOn? (k + 1) d.within r' = readOn? k next.within s' :=
        readOn?_of_read k hskip' hread' (accept?_within haccept)
      change readOn? (m + n + 2 + 1) d.within r' = _ ∨
        ∃ k, readOn? (m + n + 2 + 1) d.within r' = _
      rw [hstep]
      exact ih (by omega) hs h

theorem readOn?_closing_within {d : Draft} (h : d.outside = []) (n : Nat) :
    ∃ closed p, readOn? (n + 3) d.within [')', '$'] = some closed ∧ closed.whole? = some p ∧
      p.expr = .seq (.look .textStart) (.seq d.row.whole.expr (.look .textEnd)) := by
  obtain ⟨flags, row, outside, names⟩ := d
  subst h
  -- behind the parenthesis the flags of the anchors hold again
  exact ⟨_, _, (readOn?_of_read (n + 2) (Flags.skip_anchor flags) rfl rfl).trans rfl, rfl, rfl⟩

theorem whole?_eq_some {d : Draft} {p : Piece} (h : d.whole? = some p) :
    d.outside = [] ∧ p = d.row.whole := by
  rw [whole?] at h
  split at h
  · next ho => exact ⟨ho, (Option.some.inj h).symm⟩
  · cases h

theorem whole?_within (d : Draft) : d.within.whole? = none := by
  rw [whole?, within]
  cases d.outside <;> rfl

end Draft

theorem Expr.eq_of_ofText? {text : String} {e : Expr} (h : Expr.ofText? text = some e) :
    ∃ d p, Draft.readOn? (text.toList.length + 1) {} text.toList = some d ∧
      d.whole? = some p ∧ p.expr = e := by
  obtain ⟨d, hd, h⟩ := Option.bind_eq_some_iff.mp h
  obtain ⟨p, hp, h⟩ := Option.bind_eq_some_iff.mp h
  obtain ⟨-, h⟩ := Option.ite_none_right_eq_some.mp h
  exact ⟨d, p, hd, hp, Option.some.inj h⟩

end KernelStats.Pattern

namespace KernelStats.GroupPattern

open Pattern

theorem source_of_ofText? {id : String} {p : GroupPattern} (h : ofText? id = some p) :
    p.source = id := by
  rw [ofText?] at h
  split at h
  · cases h
    rfl
  · cases h

theorem expr_anchored {id : String} {e e' : Expr} (he : Expr.ofText? id = some e)
    (he' : Expr.ofText? (anchored id) = some e') :
    e' = .seq (.look .textStart) (.seq e (.look .textEnd)) := by
  obtain ⟨d, p, hd, hp, rfl⟩ := Expr.eq_of_ofText? he
  obtain ⟨d', p', hd', hp', rfl⟩ := Expr.eq_of_ofText? he'
  have hfuel : (anchored id).toList.length + 1 = id.toList.length + 1 + 4 + 2 := by
    simp [toList_anchored]
  rw [hfuel, toList_anchored, Draft.readOn?_opening] at hd'
  have hn : id.toList.length + 1 + 2 ≤ id.toList.length + 1 + 4 := by omega
  obtain ⟨houtside, rfl⟩ := Draft.whole?_eq_some hp
  obtain hover | ⟨m, hclose⟩ := Draft.readOn?_within hn (Trailed.ofId id.toList) hd
  · -- the group of the anchors is left open
    cases Option.some.inj (hd'.symm.trans hover)
    rw [Draft.whole?_within] at hp'
    cases hp'
  · obtain ⟨closed, q, hread, hq, hexpr⟩ := Draft.readOn?_closing_within houtside m
    cases Option.some.inj (hd'.symm.trans (hclose.trans hread))
    cases Option.some.inj (hp'.symm.trans hq)
    exact hexpr

/-- An id that is an expression on its own matches, as a pattern, the names all of which this
expression matches. -/
theorem isMatch_eq_matchesWhole {id : String} {p : GroupPattern} (hp : ofText? id = some p)
    {e : Expr} (he : Expr.ofText? id = some e) (name : String) :
    p.isMatch name = e.matchesWhole name := by
  have hreads := p.reads
  rw [source_of_ofText? hp] at hreads
  rw [isMatch, expr_anchored he hreads, Expr.search_between]

theorem isMatch_eq_matchesWhole_alternatives :
    let p := (ofText? "sys|vm").get (by rfl)
    let e := (Expr.ofText? "sys|vm").get (by rfl)
    ofText? "sys|vm" = some p ∧ Expr.ofText? "sys|vm" = some e ∧
      (p.isMatch "vm" = e.matchesWhole "vm" ∧ e.matchesWhole "vm" = true) ∧
      p.isMatch "system" = e.matchesWhole "system" ∧ e.matchesWhole "system" = false := by
  intro p e
  have hp : ofText? "sys|vm" = some p := (Option.some_get _).symm
  have he : Expr.ofText? "sys|vm" = some e := (Option.some_get _).symm
  exact ⟨hp, he, ⟨isMatch_eq_matchesWhole hp he _, by decide⟩,
    isMatch_eq_matchesWhole hp he _, by decide⟩

/-- An id that closes the group of the anchors is accepted though it is no expression, and each of the
anchors then holds for one of its alternatives only. -/
theorem isMatch_of_closed_group :
    let p := (ofText? "a)|(b").get (by rfl)
    ofText? "a)|(b" = some p ∧ Expr.ofText? "a)|(b" = none ∧ p.isMatch "ax" = true := by
  intro p
  exact ⟨(Option.some_get _).symm, by decide, by decide⟩

end KernelStats.GroupPattern
