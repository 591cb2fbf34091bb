import KernelStats.Pattern.CharSet

/-!
# Regular expressions

An expression is matched by following a set of positions in the text: `Expr.reach` leads from the
positions where a match may begin to those where it may end. Which of several matches is preferred
makes no difference here, so repetitions are not told apart by their appetite.
-/

namespace KernelStats.Pattern

inductive Look where
  | textStart
  | textEnd
  | lineStart
  | lineEnd
  | lineStartCr
  | lineEndCr
  | wordBoundary (alphabet : Alphabet)
  | wordInside (alphabet : Alphabet)
  | wordStart (alphabet : Alphabet)
  | wordEnd (alphabet : Alphabet)
  | wordStartHalf (alphabet : Alphabet)
  | wordEndHalf (alphabet : Alphabet)
deriving Repr, DecidableEq

def isWordOf : Alphabet → Char → Bool
  | .ascii, c => c.isAlphanum || c == '_'
  | .unicode, c => Unicode.isWord c

def Look.holds : Look → Option Char → Option Char → Bool
  | .textStart, before, _ => before.isNone
  | .textEnd, _, after => after.isNone
  | .lineStart, before, _ => before.isNone || before == some '\n'
  | .lineEnd, _, after => after.isNone || after == some '\n'
  | .lineStartCr, before, after =>
    before.isNone || before == some '\n' || (before == some '\r' && after != some '\n')
  | .lineEndCr, before, after =>
    after.isNone || after == some '\r' || (after == some '\n' && before != some '\r')
  | .wordBoundary a, before, after => before.any (isWordOf a) != after.any (isWordOf a)
  | .wordInside a, before, after => before.any (isWordOf a) == after.any (isWordOf a)
  | .wordStart a, before, after => !before.any (isWordOf a) && after.any (isWordOf a)
  | .wordEnd a, before, after => before.any (isWordOf a) && !after.any (isWordOf a)
  | .wordStartHalf a, before, _ => !before.any (isWordOf a)
  | .wordEndHalf a, _, after => !after.any (isWordOf a)

inductive Expr where
  | empty
  | set (s : CharSet)
  | look (l : Look)
  | seq (a b : Expr)
  | alt (a b : Expr)
  | iterate (a : Expr) (low : Nat) (high : Option Nat)
deriving Repr

/-- A set of positions in a text: bit `i` stands for the position before character `i`. -/
abbrev Positions := Nat

namespace Positions

def before (p : Char → Bool) : List Char → Positions
  | [] => 0
  | c :: rest => (if p c then 1 else 0) + 2 * before p rest

def between (p : Option Char → Option Char → Bool) (previous : Option Char) : List Char → Positions
  | [] => if p previous none then 1 else 0
  | c :: rest => (if p previous (some c) then 1 else 0) + 2 * between p (some c) rest

def times (step : Positions → Positions) : Nat → Positions → Positions
  | 0, s => s
  | n + 1, s => if s = 0 then 0 else times step n (step s)

def upTo (step : Positions → Positions) : Nat → Positions → Positions
  | 0, s => s
  | n + 1, s => if s ||| step s = s then s else upTo step n (s ||| step s)

end Positions

namespace Expr

/-- The positions where a match that begins in `starts` may end. A path through the text that makes
more rounds than there are positions stays in place in some round, so more rounds reach nothing
else. -/
def reach (text : List Char) : Expr → Positions → Positions
  | empty, starts => starts
  | set s, starts => (starts &&& Positions.before s.contains text) <<< 1
  | look l, starts => starts &&& Positions.between l.holds none text
  | seq a b, starts => b.reach text (a.reach text starts)
  | alt a b, starts => a.reach text starts ||| b.reach text starts
  | iterate a low high, starts =>
    let rounds := text.length + 1
    let needed := Positions.times (a.reach text) (min low rounds) starts
    match high with
    | none => Positions.upTo (a.reach text) rounds needed
    | some high => Positions.upTo (a.reach text) (min (high - low) rounds) needed

def anywhere (text : List Char) : Positions := 2 ^ (text.length + 1) - 1

def search (e : Expr) (text : String) : Bool :=
  e.reach text.toList (anywhere text.toList) != 0

def matchesWhole (e : Expr) (text : String) : Bool :=
  (e.reach text.toList 1).testBit text.length

def isWidthless : Expr → Bool
  | empty => true
  | set _ => false
  | look _ => true
  | seq a b => a.isWidthless && b.isWidthless
  | alt a b => a.isWidthless && b.isWidthless
  | iterate a _ high => high == some 0 || a.isWidthless

def seqAll : List Expr → Expr
  | [] => empty
  | [e] => e
  | e :: rest => seq e (seqAll rest)

def altAll : List Expr → Expr
  | [] => empty
  | [e] => e
  | e :: rest => alt e (altAll rest)

end Expr

end KernelStats.Pattern
