import KernelStats.GroupPattern
import KernelStats.Proofs.PatternReach

/-!
# Ids without signs of the pattern language

Such an id is read as the row of its characters between the anchors, whatever the characters are,
and it matches itself alone.
-/

namespace KernelStats.Pattern

theorem Token.read?_plain {c : Char} (hc : GroupPattern.isSyntax c = false) (rest : List Char) :
    Token.read? {} (c :: rest) = some (Token.ofChar {} c, rest) := by
  have hne : ∀ d, GroupPattern.isSyntax d = true → c = d → False := by
    rintro d hd rfl
    rw [hc] at hd
    exact Bool.false_ne_true hd
  rw [Token.read?]
  all_goals exact hne _ (by decide)

def Piece.ofChar (c : Char) : Piece :=
  { expr := .set (.single c), depth := 0, size := Token.stateSize * c.utf8Size }

def Piece.ofLook (l : Look) : Piece := { expr := .look l, depth := 0, size := Token.stateSize }

theorem Draft.readOn?_plain {c : Char} (hc : GroupPattern.isSyntax c = false) (fuel : Nat)
    (d : Draft) (hd : d.flags = {}) (rest : List Char) :
    Draft.readOn? (fuel + 1) d (c :: rest) =
      Draft.readOn? fuel { d with row := d.row.push (Piece.ofChar c) } rest := by
  rw [Draft.readOn?, hd]
  have hs : Flags.skip {} (c :: rest) = c :: rest := rfl
  rw [hs]
  simp [hd, Token.read?_plain hc, Token.ofChar, Draft.accept?, Flags.fold, Piece.ofChar]

theorem Draft.readOn?_plains {cs : List Char} (hcs : ∀ c ∈ cs, GroupPattern.isSyntax c = false)
    (fuel : Nat) (d : Draft) (hd : d.flags = {}) (rest : List Char) :
    Draft.readOn? (fuel + cs.length) d (cs ++ rest) =
      Draft.readOn? fuel
        { d with
          row := { d.row with pieces := (cs.map Piece.ofChar).reverse ++ d.row.pieces } } rest := by
  induction cs generalizing d with
  | nil => rfl
  | cons c cs ih =>
    rw [List.length_cons, ← Nat.add_assoc, List.cons_append,
      Draft.readOn?_plain (hcs c List.mem_cons_self) _ _ hd,
      ih (fun c hc => hcs c (List.mem_cons_of_mem _ hc))
        { d with row := d.row.push (Piece.ofChar c) } hd]
    simp [Row.push]

def Draft.anchored : Draft where
  outside := [⟨{ pieces := [Piece.ofLook .textStart] }, {}, false⟩]

theorem Draft.readOn?_opening (fuel : Nat) (rest : List Char) :
    Draft.readOn? (fuel + 2) {} ('^' :: '(' :: '?' :: ':' :: rest) =
      Draft.readOn? fuel Draft.anchored rest := by
  rfl

def Draft.closed (inner : Piece) : Draft where
  row := { pieces := [Piece.ofLook .textEnd, inner.group false, Piece.ofLook .textStart] }

theorem Draft.readOn?_closing (fuel : Nat) (pieces : List Piece) :
    Draft.readOn? (fuel + 3) { Draft.anchored with row := { pieces } } [')', '$'] =
      some (Draft.closed (Piece.row pieces.reverse)) := by
  rfl

theorem Draft.whole?_closed (inner : Piece) :
    ∃ p, (Draft.closed inner).whole? = some p ∧
      p.expr = .seq (.look .textStart) (.seq inner.expr (.look .textEnd)) :=
  ⟨_, rfl, rfl⟩

theorem Piece.expr_row (pieces : List Piece) :
    (Piece.row pieces).expr = .seqAll (pieces.map (·.expr)) := by
  match pieces with
  | [] => rfl
  | [_] => rfl
  | _ :: _ :: _ => rfl

end KernelStats.Pattern

namespace KernelStats.GroupPattern

open Pattern

theorem toList_anchored (id : String) :
    (anchored id).toList = '^' :: '(' :: '?' :: ':' :: (id.toList ++ [')', '$']) := by
  simp [anchored]

theorem ofText?_plain {id : String} (hid : ∀ c ∈ id.toList, isSyntax c = false) {e : Expr}
    (he : Expr.ofText? (anchored id) = some e) :
    e = .seq (.look .textStart)
      (.seq (.seqAll (id.toList.map fun c => .set (.single c))) (.look .textEnd)) := by
  have hlen : (anchored id).toList.length + 1 = 3 + 2 + id.toList.length + 2 := by
    simp [toList_anchored]; omega
  have hread : Draft.readOn? ((anchored id).toList.length + 1) {} (anchored id).toList =
      some (Draft.closed (Piece.row (id.toList.map Piece.ofChar))) := by
    rw [hlen, toList_anchored, Draft.readOn?_opening, Draft.readOn?_plains hid _ _ rfl]
    exact (Draft.readOn?_closing 2 _).trans (by simp [Draft.anchored])
  obtain ⟨p, hp, hexpr⟩ := Draft.whole?_closed (Piece.row (id.toList.map Piece.ofChar))
  simp only [Expr.ofText?, Expr.ofChars?, hread, hp, Option.bind_eq_bind, Option.bind_some] at he
  obtain ⟨-, he⟩ := Option.ite_none_right_eq_some.mp he
  rw [← Option.some.inj he, hexpr, Piece.expr_row, List.map_map]
  rfl

theorem toList_plain {p : GroupPattern} {name : String} (h : p.literal? = some name) :
    name = p.source ∧ ∀ c ∈ name.toList, isSyntax c = false := by
  rw [literal?] at h
  obtain ⟨hs, hn⟩ := Option.ite_none_left_eq_some.mp h
  have hn := Option.some.inj hn
  subst hn
  simpa using hs

theorem isMatch_eq_true_iff_of_literal {p : GroupPattern} {id : String} (h : p.literal? = some id)
    (name : String) : p.isMatch name = true ↔ name = id := by
  obtain ⟨rfl, hid⟩ := toList_plain h
  rw [isMatch, ofText?_plain hid p.reads, Expr.search_singles, String.toList_inj]

end KernelStats.GroupPattern
