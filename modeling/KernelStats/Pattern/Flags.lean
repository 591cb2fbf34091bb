import KernelStats.Pattern.Expr
import KernelStats.Text.Blank

/-!
# Flags of the pattern language

Flags are written in front of a group or inside it and hold up to its end. This module also holds what
depends on them alone: the sets and conditions that the one-character signs stand for, and the blanks
and comments that may be skipped.
-/

namespace KernelStats.Pattern

structure Flags where
  ignoreCase : Bool := false
  multiLine : Bool := false
  dotAll : Bool := false
  carriageReturn : Bool := false
  unicode : Bool := true
  ignoreBlanks : Bool := false
deriving Repr, DecidableEq

namespace Flags

def alphabet (f : Flags) : Alphabet := if f.unicode then .unicode else .ascii

def set? (f : Flags) (letter : Char) (value : Bool) : Option Flags :=
  match letter with
  | 'i' => some { f with ignoreCase := value }
  | 'm' => some { f with multiLine := value }
  | 's' => some { f with dotAll := value }
  | 'R' => some { f with carriageReturn := value }
  | 'u' => some { f with unicode := value }
  | 'x' => some { f with ignoreBlanks := value }
  | 'U' => some f
  | _ => none

/-- Reads flags up to a colon or a closing parenthesis; those behind a minus sign are cleared. No sign
may be repeated and the minus sign may not come last. Answers whether there were any, and the rest
from the colon or parenthesis on. -/
def read? (f : Flags) (seen : List Char) : List Char → Option (Flags × Bool × List Char)
  | [] => none
  | c :: rest =>
    if c == ':' || c == ')' then
      if seen.head? == some '-' then none else some (f, !seen.isEmpty, c :: rest)
    else if seen.contains c then none
    else if c == '-' then read? f (c :: seen) rest
    else (f.set? c (!seen.contains '-')).bind fun f => read? f (c :: seen) rest

def skipFrom (comment : Bool) : List Char → List Char
  | [] => []
  | c :: rest =>
    if comment then skipFrom (c != '\n') rest
    else if isBlank c then skipFrom false rest
    else if c == '#' then skipFrom true rest
    else c :: rest

def skip (f : Flags) (text : List Char) : List Char :=
  if f.ignoreBlanks then skipFrom false text else text

def fold (f : Flags) (s : CharSet) : CharSet := if f.ignoreCase then .folded f.alphabet s else s

/-- The complement of a set, which only Unicode can express: its characters have several bytes. -/
def complement? (f : Flags) (negated : Bool) (s : CharSet) : Option CharSet :=
  if negated then if f.unicode then some (.compl s) else none else some s

def finish? (f : Flags) (negated : Bool) (s : CharSet) : Option CharSet :=
  f.complement? negated (f.fold s)

def dot? (f : Flags) : Option CharSet :=
  if !f.unicode then none
  else if f.dotAll then some .all
  else if f.carriageReturn then some (.compl (.ofRanges [(0x0A, 0x0A), (0x0D, 0x0D)]))
  else some (.compl (.single '\n'))

def start (f : Flags) : Look :=
  if f.multiLine then if f.carriageReturn then .lineStartCr else .lineStart else .textStart

def finish (f : Flags) : Look :=
  if f.multiLine then if f.carriageReturn then .lineEndCr else .lineEnd else .textEnd

end Flags

end KernelStats.Pattern
