import KernelStats.Pattern.Token

/-!
# Reading regular expressions

`Expr.ofText?` reads a text sign by sign. Open groups are kept on a stack: each holds the alternatives
and the row of pieces that stand before it, and the flags to which its end returns. A text is refused
where its signs do not fit together, where it is nested deeper than `depthLimit`, and where a program
that matches it would exceed `sizeLimit` bytes.
-/

namespace KernelStats.Pattern

def depthLimit : Nat := 250

def sizeLimit : Nat := 10 * 2 ^ 20

structure Piece where
  expr : Expr
  depth : Nat
  size : Nat
  repeatable : Bool := true

namespace Piece

def deepest (pieces : List Piece) : Nat := (pieces.map (·.depth)).foldl max 0

def totalSize (pieces : List Piece) : Nat := (pieces.map (·.size)).foldl (· + ·) 0

def row : List Piece → Piece
  | [] => { expr := .empty, depth := 0, size := Token.stateSize, repeatable := false }
  | [p] => p
  | pieces =>
    { expr := .seqAll (pieces.map (·.expr))
      depth := 1 + deepest pieces
      size := totalSize pieces }

def choice : List Piece → Piece
  | [] => row []
  | [p] => p
  | pieces =>
    { expr := .altAll (pieces.map (·.expr))
      depth := 1 + deepest pieces
      size := totalSize pieces + 2 * Token.stateSize + 4 * pieces.length }

/-- Rounds in which nothing is taken are alike, so more than one of them takes no space. -/
def iterate (p : Piece) (low : Nat) (high : Option Nat) : Piece :=
  let bound (n : Nat) := if p.expr.isWidthless then min n 1 else n
  let rounds := match high with
    | none => max 1 (bound low)
    | some high => bound high
  { expr := .iterate p.expr low high
    depth := p.depth + 1
    size := rounds * p.size + (rounds - bound low + 1) * Token.stateSize }

def group (p : Piece) (captures : Bool) : Piece :=
  { expr := p.expr
    depth := p.depth + 1
    size := p.size + if captures then 2 * Token.stateSize else 0 }

end Piece

structure Row where
  alternatives : List Piece := []
  pieces : List Piece := []

def Row.push (r : Row) (p : Piece) : Row := { r with pieces := p :: r.pieces }

def Row.whole (r : Row) : Piece :=
  Piece.choice (Piece.row r.pieces.reverse :: r.alternatives).reverse

structure Outside where
  row : Row
  flags : Flags
  captures : Bool

structure Draft where
  flags : Flags := {}
  row : Row := {}
  outside : List Outside := []
  names : List String := []

namespace Draft

def accept? (d : Draft) : Token → Option Draft
  | .atom expr depth size => some { d with row := d.row.push { expr, depth, size } }
  | .opening flags captures name =>
    if name.any d.names.contains then none
    else some {
      flags
      row := {}
      outside := ⟨d.row, d.flags, captures⟩ :: d.outside
      names := name.toList ++ d.names }
  | .closing =>
    match d.outside with
    | [] => none
    | o :: outside =>
      some {
        flags := o.flags
        row := o.row.push (d.row.whole.group o.captures)
        outside
        names := d.names }
  | .bar =>
    some { d with row := { alternatives := Piece.row d.row.pieces.reverse :: d.row.alternatives } }
  | .flags flags =>
    some { d with
      flags
      row := d.row.push { expr := .empty, depth := 0, size := Token.stateSize, repeatable := false } }
  | .repetition low high =>
    match d.row.pieces with
    | [] => none
    | p :: pieces =>
      if p.repeatable then
        some { d with row := { d.row with pieces := p.iterate low high :: pieces } }
      else none

def readOn? : Nat → Draft → List Char → Option Draft
  | 0, _, _ => none
  | fuel + 1, d, text =>
    match d.flags.skip text with
    | [] => some d
    | rest => do
      let (token, rest) ← Token.read? d.flags rest
      readOn? fuel (← d.accept? token) rest

def whole? (d : Draft) : Option Piece :=
  match d.outside with
  | [] => some d.row.whole
  | _ => none

end Draft

def Expr.ofChars? (text : List Char) : Option Expr := do
  let d ← Draft.readOn? (text.length + 1) {} text
  let p ← d.whole?
  if p.depth ≤ depthLimit && p.size ≤ sizeLimit then some p.expr else none

def Expr.ofText? (text : String) : Option Expr := Expr.ofChars? text.toList

end KernelStats.Pattern
