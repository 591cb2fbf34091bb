/-!
# A place in a YAML text

A cursor is the text still to be read with the number of characters before it and its line and column.
A carriage return and the line feed behind it end one line.
-/

namespace KernelStats.Yaml

def isBlank (c : Char) : Bool := c == ' ' || c == '\t'

def isBreak (c : Char) : Bool :=
  c == '\n' || c == '\r' || c == '\u0085' || c == '\u2028' || c == '\u2029'

def isGap : Option Char → Bool
  | none => true
  | some c => isBlank c || isBreak c

def isNameChar (c : Char) : Bool := c.isAlphanum || c == '_' || c == '-'

def isAllowed (c : Char) : Bool :=
  let n := c.toNat
  n == 0x09 || n == 0x0A || n == 0x0D || (0x20 ≤ n && n ≤ 0x7E) || n == 0x85
    || (0xA0 ≤ n && n ≤ 0xFFFD) || 0x10000 ≤ n

structure Cursor where
  rest : List Char
  index : Nat := 0
  line : Nat := 0
  column : Nat := 0
deriving Repr

namespace Cursor

def peek (c : Cursor) : Option Char := c.rest.head?

def second (c : Cursor) : Option Char := c.rest.tail.head?

def advance (c : Cursor) (n : Nat := 1) : Cursor :=
  { c with rest := c.rest.drop n, index := c.index + n, column := c.column + n }

def advanceWhile (p : Char → Bool) (c : Cursor) : Cursor := c.advance (c.rest.takeWhile p).length

def skipBlanks (c : Cursor) : Cursor := c.advanceWhile isBlank

def skipToLineEnd (c : Cursor) : Cursor := c.advanceWhile (!isBreak ·)

def nextLine (c : Cursor) (n : Nat) : Cursor :=
  { rest := c.rest.drop n, index := c.index + n, line := c.line + 1, column := 0 }

def takeBreak? (c : Cursor) : Option (Char × Cursor) :=
  match c.rest with
  | '\r' :: '\n' :: _ => some ('\n', c.nextLine 2)
  | b :: _ =>
    if b == '\u2028' || b == '\u2029' then some (b, c.nextLine 1)
    else if isBreak b then some ('\n', c.nextLine 1)
    else none
  | [] => none

def skipBreak (c : Cursor) : Cursor := (c.takeBreak?.map (·.2)).getD c

def atLineEnd (c : Cursor) : Bool := c.peek.all isBreak

def restOfLine? (c : Cursor) : Option Cursor :=
  let c := c.skipBlanks
  let c := if c.peek == some '#' then c.skipToLineEnd else c
  if c.atLineEnd then some c.skipBreak else none

def atMark (sign : Char) (c : Cursor) : Bool :=
  c.column == 0 &&
    match c.rest with
    | a :: b :: d :: after => a == sign && b == sign && d == sign && isGap after.head?
    | _ => false

def atDocumentMark (c : Cursor) : Bool := c.atMark '-' || c.atMark '.'

end Cursor

end KernelStats.Yaml
