import KernelStats.Yaml.Cursor

/-!
# Scalars in a YAML text

The three ways to write a scalar: plain, in quotes, and as a block of lines. Line ends inside plain and
quoted scalars are folded: a single one becomes a space, and of several all but the first stay.
-/

namespace KernelStats.Yaml

inductive Style where
  | plain
  | singleQuoted
  | doubleQuoted
  | literal
  | folded
deriving Repr, DecidableEq

structure Gap where
  blanks : List Char := []
  broken : Bool := false
  first : Option Char := none
  more : List Char := []

namespace Gap

def isEmpty (g : Gap) : Bool := !g.broken && g.blanks.isEmpty

def blank (g : Gap) (c : Char) : Gap := if g.broken then g else { g with blanks := c :: g.blanks }

def lineEnd (g : Gap) (c : Char) : Gap :=
  if g.broken then { g with more := c :: g.more } else { broken := true, first := some c }

def folded (g : Gap) : List Char :=
  if !g.broken then g.blanks
  else if g.first == some '\n' then if g.more.isEmpty then [' '] else g.more
  else g.more ++ g.first.toList

end Gap

structure Lexeme where
  text : String
  brokeLine : Bool := false
  cursor : Cursor

/-- Reads on in a plain scalar. In a flow collection the signs of collections end it; a colon in front
of one of them is refused. Elsewhere a line that is indented less than `indent` ends it. -/
def plainOn? (flow : Bool) (indent : Int) : Nat → List Char → Gap → Cursor → Option Lexeme
  | 0, _, _, _ => none
  | fuel + 1, text, gap, cursor =>
    let done := some { text := .ofList text.reverse, brokeLine := gap.broken, cursor }
    match cursor.peek with
    | none => done
    | some c =>
      if isBlank c then
        if gap.broken && (cursor.column : Int) < indent && c == '\t' then none
        else plainOn? flow indent fuel text (gap.blank c) cursor.advance
      else match cursor.takeBreak? with
      | some (b, next) => plainOn? flow indent fuel text (gap.lineEnd b) next
      | none =>
        if cursor.atDocumentMark then done
        else if !gap.isEmpty && (c == '#' || (!flow && (cursor.column : Int) < indent)) then done
        else if flow && c == ':' && cursor.second.any (",?[]\x7b\x7d".toList.contains ·) then none
        else if c == ':' && isGap cursor.second then done
        else if flow && ",[]\x7b\x7d".toList.contains c then done
        else plainOn? flow indent fuel (c :: gap.folded ++ text) {} cursor.advance

def plain? (flow : Bool) (indent : Int) (cursor : Cursor) : Option Lexeme :=
  plainOn? flow indent (cursor.rest.length + 1) [] {} cursor

def hexadecimalDigit? (c : Char) : Option Nat :=
  if c.isDigit then some (c.toNat - '0'.toNat)
  else if 'a' ≤ c && c ≤ 'f' then some (c.toNat - 'a'.toNat + 10)
  else if 'A' ≤ c && c ≤ 'F' then some (c.toNat - 'A'.toNat + 10)
  else none

def codedChar? (width : Nat) (text : List Char) : Option Char :=
  if text.length < width then none
  else do
    let digits ← (text.take width).mapM hexadecimalDigit?
    let code := digits.foldl (fun code d => 16 * code + d) 0
    if code.isValidChar then some (.ofNat code) else none

def escaped? : List Char → Option (Char × Nat)
  | [] => none
  | c :: rest =>
    match c with
    | '0' => some ('\x00', 2)
    | 'a' => some ('\x07', 2)
    | 'b' => some ('\x08', 2)
    | 't' => some ('\t', 2)
    | '\t' => some ('\t', 2)
    | 'n' => some ('\n', 2)
    | 'v' => some ('\x0B', 2)
    | 'f' => some ('\x0C', 2)
    | 'r' => some ('\r', 2)
    | 'e' => some ('\x1B', 2)
    | ' ' => some (' ', 2)
    | '"' => some ('"', 2)
    | '/' => some ('/', 2)
    | '\\' => some ('\\', 2)
    | 'N' => some ('\u0085', 2)
    | '_' => some ('\u00A0', 2)
    | 'L' => some ('\u2028', 2)
    | 'P' => some ('\u2029', 2)
    | 'x' => (codedChar? 2 rest).map fun d => (d, 4)
    | 'u' => (codedChar? 4 rest).map fun d => (d, 6)
    | 'U' => (codedChar? 8 rest).map fun d => (d, 10)
    | _ => none

/-- Reads on in a quoted scalar, to behind its closing quote. In single quotes a quote is written
twice; in double quotes a backslash escapes, and at the end of a line it takes the line end away. -/
def quotedOn? (single : Bool) : Nat → List Char → Gap → Cursor → Option Lexeme
  | 0, _, _, _ => none
  | fuel + 1, text, gap, cursor =>
    match cursor.peek with
    | none => none
    | some c =>
      if isBlank c then quotedOn? single fuel text (gap.blank c) cursor.advance
      else match cursor.takeBreak? with
      | some (b, next) => quotedOn? single fuel text (gap.lineEnd b) next
      | none =>
        let text := gap.folded ++ text
        if cursor.atDocumentMark then none
        else if single && c == '\'' && cursor.second == some '\'' then
          quotedOn? single fuel ('\'' :: text) {} (cursor.advance 2)
        else if c == (if single then '\'' else '"') then
          some { text := .ofList text.reverse, cursor := cursor.advance }
        else if !single && c == '\\' then
          match cursor.advance.takeBreak? with
          | some (_, next) => quotedOn? single fuel text { broken := true } next
          | none =>
            match escaped? cursor.rest.tail with
            | some (d, n) => quotedOn? single fuel (d :: text) {} (cursor.advance n)
            | none => none
        else quotedOn? single fuel (c :: text) {} cursor.advance

def quoted? (single : Bool) (cursor : Cursor) : Option Lexeme :=
  quotedOn? single (cursor.rest.length + 1) [] {} cursor.advance

inductive Chomping where
  | strip
  | clip
  | keep
deriving DecidableEq

structure BlockHeader where
  chomping : Chomping := .clip
  increment : Nat := 0

def chompingOf? : Option Char → Option Chomping
  | some '+' => some .keep
  | some '-' => some .strip
  | _ => none

def incrementOf? (c : Option Char) : Option Nat :=
  match c with
  | some d => if d.isDigit then if d == '0' then none else some (d.toNat - '0'.toNat) else some 0
  | none => some 0

def blockHeader? (cursor : Cursor) : Option (BlockHeader × Cursor) :=
  match chompingOf? cursor.peek with
  | some chomping => do
    let cursor := cursor.advance
    let increment ← incrementOf? cursor.peek
    some ({ chomping, increment }, if increment == 0 then cursor else cursor.advance)
  | none => do
    let increment ← incrementOf? cursor.peek
    if increment == 0 then some ({}, cursor)
    else
      let cursor := cursor.advance
      match chompingOf? cursor.peek with
      | some chomping => some ({ chomping, increment }, cursor.advance)
      | none => some ({ increment }, cursor)

/-- The indentation and the empty lines before a line of a block. While the indentation is not known,
here zero, all spaces count to it; a tab in their place is refused. -/
def blockGap? (indent : Nat) :
    Nat → Nat → List Char → Cursor → Option (Nat × List Char × Cursor)
  | 0, _, _, _ => none
  | fuel + 1, widest, breaks, cursor =>
    let spaces := (cursor.rest.takeWhile (· == ' ')).length
    let cursor := cursor.advance (if indent == 0 then spaces else min spaces (indent - cursor.column))
    let widest := max widest cursor.column
    if (indent == 0 || cursor.column < indent) && cursor.peek == some '\t' then none
    else match cursor.takeBreak? with
    | some (b, next) => blockGap? indent fuel widest (b :: breaks) next
    | none => some (widest, breaks, cursor)

/-- What has been read of a block: the last line end, the empty lines behind it, both not yet part of
the text, and whether the last line began with a blank. -/
structure BlockState where
  text : List Char := []
  lineEnd : Option Char := none
  breaks : List Char := []
  blankLine : Bool := false

/-- The text of a block up to its next line. In a folded block a single line end between two lines
that begin without a blank becomes a space. -/
def BlockState.join (literal : Bool) (s : BlockState) (blankNext : Bool) : List Char :=
  if !literal && s.lineEnd == some '\n' && !s.blankLine && !blankNext then
    (if s.breaks.isEmpty then [' '] else s.breaks) ++ s.text
  else s.breaks ++ s.lineEnd.toList ++ s.text

def blockOn? (literal : Bool) (indent : Nat) : Nat → BlockState → Cursor → Option (BlockState × Cursor)
  | 0, _, _ => none
  | fuel + 1, s, cursor =>
    match cursor.peek with
    | none => some (s, cursor)
    | some c =>
      if cursor.column != indent then some (s, cursor)
      else
        let line := cursor.rest.takeWhile (!isBreak ·)
        let text := line.reverse ++ s.join literal (isBlank c)
        let (lineEnd, next) := match cursor.skipToLineEnd.takeBreak? with
          | some (b, next) => (some b, next)
          | none => (none, cursor.skipToLineEnd)
        match blockGap? indent (next.rest.length + 1) 0 [] next with
        | none => none
        | some (_, breaks, next) =>
          blockOn? literal indent fuel { text, lineEnd, breaks, blankLine := isBlank c } next

def block? (literal : Bool) (outer : Int) (cursor : Cursor) : Option Lexeme := do
  let (header, cursor) ← blockHeader? cursor.advance
  let cursor ← cursor.restOfLine?
  let indent : Nat :=
    if header.increment == 0 then 0
    else if outer < 0 then header.increment else outer.toNat + header.increment
  let (widest, breaks, cursor) ← blockGap? indent (cursor.rest.length + 1) 0 [] cursor
  let indent := if indent == 0 then max (max widest (outer + 1).toNat) 1 else indent
  let (s, cursor) ← blockOn? literal indent (cursor.rest.length + 1) { breaks } cursor
  let tail := match header.chomping with
    | .strip => []
    | .clip => s.lineEnd.toList
    | .keep => s.breaks ++ s.lineEnd.toList
  some { text := .ofList (tail ++ s.text).reverse, cursor }

end KernelStats.Yaml
