import KernelStats.Pattern.Flags
import KernelStats.Pattern.Property

/-!
# Escapes of the pattern language

`Escape.read?` reads what follows a backslash: a character, a set or a condition.
-/

namespace KernelStats.Pattern

inductive Escape where
  | char (c : Char)
  | set (s : CharSet)
  | look (l : Look)

namespace Escape

def hexadecimalDigit? (c : Char) : Option Nat :=
  if c.isDigit then some (c.toNat - '0'.toNat)
  else if 'a' ≤ c && c ≤ 'f' then some (c.toNat - 'a'.toNat + 10)
  else if 'A' ≤ c && c ≤ 'F' then some (c.toNat - 'A'.toNat + 10)
  else none

def charOfCode? (n : Nat) : Option Char := if n.isValidChar then some (.ofNat n) else none

def digits? (f : Flags) : Nat → Nat → List Char → Option (Nat × List Char)
  | 0, code, text => some (code, text)
  | n + 1, code, text =>
    match text with
    | [] => none
    | c :: rest => (hexadecimalDigit? c).bind fun d => digits? f n (16 * code + d) (f.skip rest)

def braced? (f : Flags) : Nat → List Char → List Char → Option (List Char × List Char)
  | 0, _, _ => none
  | fuel + 1, inside, text =>
    match f.skip text with
    | [] => none
    | c :: rest =>
      if c == '}' then some (inside.reverse, rest) else braced? f fuel (c :: inside) rest

/-- A code in braces or with the number of digits that goes with the letter. Two digits stand for a
byte, which is a character by itself in ASCII only. -/
def code? (f : Flags) (width : Nat) (text : List Char) : Option (Escape × List Char) :=
  match f.skip text with
  | '{' :: rest => do
    let (inside, rest) ← braced? f rest.length [] rest
    if inside.isEmpty then none
    else
      let digits ← inside.mapM hexadecimalDigit?
      let code := digits.foldl (fun code d => 16 * code + d) 0
      (charOfCode? code).map fun c => (.char c, f.skip rest)
  | text => do
    let (code, rest) ← digits? f width 0 text
    let c ← charOfCode? code
    if width == 2 && 0x7F < code && !f.unicode then none else some (.char c, rest)

def property? (f : Flags) (negated : Bool) (text : List Char) : Option (Escape × List Char) := do
  let (name, rest) ← match f.skip text with
    | '{' :: rest => braced? f rest.length [] rest
    | c :: rest => if c == '\\' then none else some ([c], f.skip rest)
    | [] => none
  let (s, missed) ← CharSet.ofProperty? name
  if f.unicode then (f.finish? (negated != missed) s).map fun s => (.set s, rest) else none

def boundaryOfName? (a : Alphabet) (name : List Char) : Option Look :=
  match String.ofList name with
  | "start" => some (.wordStart a)
  | "end" => some (.wordEnd a)
  | "start-half" => some (.wordStartHalf a)
  | "end-half" => some (.wordEndHalf a)
  | _ => none

def isNameChar (c : Char) : Bool := c.isAlpha || c == '-'

/-- A brace behind a word boundary names a special boundary if a letter or a hyphen follows it, and
counts repetitions otherwise. -/
def boundary? (f : Flags) (text : List Char) : Option (Escape × List Char) :=
  match text with
  | '{' :: rest =>
    match f.skip rest with
    | [] => none
    | c :: _ =>
      if isNameChar c then do
        let (name, rest) ← braced? f rest.length [] rest
        let l ← boundaryOfName? f.alphabet name
        some (.look l, rest)
      else some (.look (.wordBoundary f.alphabet), text)
  | _ => some (.look (.wordBoundary f.alphabet), text)

def isMeta (c : Char) : Bool := "\\.+*?()|[]\x7b\x7d^$#&-~".toList.contains c

/-- What follows a backslash. Letters and digits without a meaning, the angle brackets apart from
theirs, and characters outside ASCII cannot be escaped. -/
def read? (f : Flags) : List Char → Option (Escape × List Char)
  | [] => none
  | c :: rest =>
    match c with
    | 'x' => code? f 2 rest
    | 'u' => code? f 4 rest
    | 'U' => code? f 8 rest
    | 'p' => property? f false rest
    | 'P' => property? f true rest
    | 'd' => some (.set (.decimalDigits f.alphabet), rest)
    | 's' => some (.set (.blanks f.alphabet), rest)
    | 'w' => some (.set (.wordCharacters f.alphabet), rest)
    | 'D' => (f.complement? true (.decimalDigits f.alphabet)).map fun s => (.set s, rest)
    | 'S' => (f.complement? true (.blanks f.alphabet)).map fun s => (.set s, rest)
    | 'W' => (f.complement? true (.wordCharacters f.alphabet)).map fun s => (.set s, rest)
    | 'a' => some (.char '\x07', rest)
    | 'f' => some (.char '\x0C', rest)
    | 't' => some (.char '\t', rest)
    | 'n' => some (.char '\n', rest)
    | 'r' => some (.char '\r', rest)
    | 'v' => some (.char '\x0B', rest)
    | 'A' => some (.look .textStart, rest)
    | 'z' => some (.look .textEnd, rest)
    | 'b' => boundary? f rest
    | 'B' => some (.look (.wordInside f.alphabet), rest)
    | '<' => some (.look (.wordStart f.alphabet), rest)
    | '>' => some (.look (.wordEnd f.alphabet), rest)
    | c =>
      if isMeta c || (c.toNat < 0x80 && !c.isAlphanum) then some (.char c, rest) else none

end Escape

end KernelStats.Pattern
