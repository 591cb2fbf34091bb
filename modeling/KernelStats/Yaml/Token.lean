import KernelStats.Yaml.Tag

/-!
# Tokens of a YAML text

A text is cut into tokens from the front. Indentation opens and closes block collections, and a colon
makes a mapping of what stands before it on its line: a place where such a key may begin is remembered,
and the tokens from there on wait until it is decided whether it is one. `Token.ofText` delivers the
tokens in order and says whether the text was cut to its end.
-/

namespace KernelStats.Yaml

inductive Token where
  | streamEnd
  | directive (d : Directive)
  | documentStart
  | documentEnd
  | blockSequenceStart
  | blockMappingStart
  | blockEnd
  | flowSequenceStart
  | flowSequenceEnd
  | flowMappingStart
  | flowMappingEnd
  | blockEntry
  | flowEntry
  | key
  | value
  | alias (name : String)
  | anchor (name : String)
  | tag (name : TagName)
  | scalar (text : String) (style : Style)

/-- A place where a key without a sign of its own may have begun. -/
structure KeyPlace where
  required : Bool
  number : Nat
  index : Nat
  line : Nat
  column : Nat

structure Lexer where
  cursor : Cursor
  waiting : List Token := []
  delivered : Nat := 0
  indent : Int := -1
  outerIndents : List Int := []
  place : Option KeyPlace := none
  outerPlaces : List (Option KeyPlace) := []
  keyAllowed : Bool := true
  ended : Bool := false

namespace Lexer

def flow (x : Lexer) : Bool := !x.outerPlaces.isEmpty

def enqueue (x : Lexer) (t : Token) : Lexer := { x with waiting := x.waiting ++ [t] }

def insertAt (x : Lexer) (number : Nat) (t : Token) : Lexer :=
  let n := number - x.delivered
  { x with waiting := x.waiting.take n ++ t :: x.waiting.drop n }

/-- Takes blanks, comments and line ends. Tabs count as blanks where no key may begin. In block
collections a new line allows a key. -/
def skipToToken : Nat → Lexer → Lexer
  | 0, x => x
  | fuel + 1, x =>
    let cursor := x.cursor
    let cursor := if cursor.column == 0 && cursor.peek == some '\uFEFF' then cursor.advance else cursor
    let tabs := x.flow || !x.keyAllowed
    let cursor := cursor.advanceWhile fun c => c == ' ' || (tabs && c == '\t')
    let cursor := if cursor.peek == some '#' then cursor.skipToLineEnd else cursor
    match cursor.takeBreak? with
    | some (_, next) =>
      skipToToken fuel { x with cursor := next, keyAllowed := x.keyAllowed || !x.flow }
    | none => { x with cursor }

/-- A key ends on its line, within 1024 characters. -/
def isStale (cursor : Cursor) (p : KeyPlace) : Bool :=
  p.line < cursor.line || p.index + 1024 < cursor.index

def refresh? (cursor : Cursor) : Option KeyPlace → Option (Option KeyPlace)
  | none => some none
  | some p =>
    if isStale cursor p then if p.required then none else some none else some (some p)

def refreshPlaces? (x : Lexer) : Option Lexer := do
  let outerPlaces ← x.outerPlaces.mapM (refresh? x.cursor)
  let place ← refresh? x.cursor x.place
  some { x with place, outerPlaces }

def dropPlace? (x : Lexer) : Option Lexer :=
  match x.place with
  | some p => if p.required then none else some { x with place := none }
  | none => some x

def savePlace? (x : Lexer) : Option Lexer :=
  if x.keyAllowed then do
    let x ← x.dropPlace?
    let c := x.cursor
    some { x with place := some {
      required := !x.flow && x.indent == c.column
      number := x.delivered + x.waiting.length
      index := c.index
      line := c.line
      column := c.column } }
  else some x

def indentTo (x : Lexer) (column : Nat) (put : Lexer → Lexer) : Lexer :=
  if !x.flow && x.indent < column then
    put { x with outerIndents := x.indent :: x.outerIndents, indent := column }
  else x

def closeTo (column : Int) : List Int → Lexer → Lexer
  | [], x => x
  | outer :: rest, x =>
    if column < x.indent then
      closeTo column rest { x.enqueue .blockEnd with indent := outer, outerIndents := rest }
    else x

def unindent (x : Lexer) (column : Int) : Lexer :=
  if x.flow then x else closeTo column x.outerIndents x

def sign (x : Lexer) (n : Nat) (t : Token) : Lexer :=
  { x.enqueue t with cursor := x.cursor.advance n }

def finish? (x : Lexer) : Option Lexer := do
  let x ← (x.unindent (-1)).dropPlace?
  let cursor := if x.cursor.column == 0 then x.cursor else x.cursor.nextLine 0
  some { x.enqueue .streamEnd with cursor, keyAllowed := false, ended := true }

def documentMark? (x : Lexer) (t : Token) : Option Lexer := do
  let x ← (x.unindent (-1)).dropPlace?
  some ({ x with keyAllowed := false }.sign 3 t)

def takeDirective? (x : Lexer) : Option Lexer := do
  let x ← (x.unindent (-1)).dropPlace?
  let (d, cursor) ← directive? x.cursor
  some { x.enqueue (.directive d) with cursor, keyAllowed := false }

def openFlow? (x : Lexer) (t : Token) : Option Lexer := do
  let x ← x.savePlace?
  some ({ x with outerPlaces := x.place :: x.outerPlaces, place := none, keyAllowed := true }.sign 1 t)

def closeFlow? (x : Lexer) (t : Token) : Option Lexer := do
  let x ← x.dropPlace?
  let x := match x.outerPlaces with
    | p :: rest => { x with place := p, outerPlaces := rest }
    | [] => x
  some ({ x with keyAllowed := false }.sign 1 t)

def flowEntry? (x : Lexer) : Option Lexer := do
  let x ← x.dropPlace?
  some ({ x with keyAllowed := true }.sign 1 .flowEntry)

def blockEntry? (x : Lexer) : Option Lexer :=
  if !x.flow && !x.keyAllowed then none
  else do
    let x ← (x.indentTo x.cursor.column (·.enqueue .blockSequenceStart)).dropPlace?
    some ({ x with keyAllowed := true }.sign 1 .blockEntry)

def explicitKey? (x : Lexer) : Option Lexer :=
  if !x.flow && !x.keyAllowed then none
  else do
    let x ← (x.indentTo x.cursor.column (·.enqueue .blockMappingStart)).dropPlace?
    some ({ x with keyAllowed := !x.flow }.sign 1 .key)

/-- A colon makes a key of what began at the place at hand. Without one it belongs to a key with a
sign of its own. -/
def colon? (x : Lexer) : Option Lexer :=
  match x.place with
  | some p =>
    let x := (x.insertAt p.number .key).indentTo p.column (·.insertAt p.number .blockMappingStart)
    some ({ x with place := none, keyAllowed := false }.sign 1 .value)
  | none =>
    if !x.flow && !x.keyAllowed then none
    else
      let x := x.indentTo x.cursor.column (·.enqueue .blockMappingStart)
      some ({ x with keyAllowed := !x.flow }.sign 1 .value)

def named? (x : Lexer) (t : String → Token) : Option Lexer := do
  let x ← x.savePlace?
  let (name, cursor) ← anchor? x.cursor
  some { x.enqueue (t name) with cursor, keyAllowed := false }

def takeTag? (x : Lexer) : Option Lexer := do
  let x ← x.savePlace?
  let (name, cursor) ← tag? x.flow x.cursor
  some { x.enqueue (.tag name) with cursor, keyAllowed := false }

def takeBlock? (x : Lexer) (style : Style) : Option Lexer := do
  let x ← x.dropPlace?
  let l ← block? (style == .literal) x.indent x.cursor
  some { x.enqueue (.scalar l.text style) with cursor := l.cursor, keyAllowed := true }

def takeQuoted? (x : Lexer) (style : Style) : Option Lexer := do
  let x ← x.savePlace?
  let l ← quoted? (style == .singleQuoted) x.cursor
  some { x.enqueue (.scalar l.text style) with cursor := l.cursor, keyAllowed := false }

def takePlain? (x : Lexer) : Option Lexer := do
  let x ← x.savePlace?
  let l ← plain? x.flow (x.indent + 1) x.cursor
  some { x.enqueue (.scalar l.text .plain) with cursor := l.cursor, keyAllowed := l.brokeLine }

/-- Whether a plain scalar begins here: not with a blank, and with a sign of the language only where
nothing can take it for that sign. -/
def beginsPlain (x : Lexer) (c : Char) : Bool :=
  !isBlank c && !("-?:,[]\x7b\x7d#&*!|>'\"%@\u0060".toList.contains c)
    || (c == '-' && !x.cursor.second.any isBlank)
    || (!x.flow && (c == '?' || c == ':') && !isGap x.cursor.second)

def fetch? (x : Lexer) : Option Lexer := do
  let x ← (skipToToken (x.cursor.rest.length + 1) x).refreshPlaces?
  let x := x.unindent x.cursor.column
  let gap := isGap x.cursor.second
  match x.cursor.peek with
  | none => x.finish?
  | some c =>
    if c == '%' && x.cursor.column == 0 then x.takeDirective?
    else if x.cursor.atMark '-' then x.documentMark? .documentStart
    else if x.cursor.atMark '.' then x.documentMark? .documentEnd
    else if c == '[' then x.openFlow? .flowSequenceStart
    else if c == '\x7b' then x.openFlow? .flowMappingStart
    else if c == ']' then x.closeFlow? .flowSequenceEnd
    else if c == '\x7d' then x.closeFlow? .flowMappingEnd
    else if c == ',' then x.flowEntry?
    else if c == '-' && gap then x.blockEntry?
    else if c == '?' && (x.flow || gap) then x.explicitKey?
    else if c == ':' && (x.flow || gap) then x.colon?
    else if c == '*' then x.named? .alias
    else if c == '&' then x.named? .anchor
    else if c == '!' then x.takeTag?
    else if c == '|' && !x.flow then x.takeBlock? .literal
    else if c == '>' && !x.flow then x.takeBlock? .folded
    else if c == '\'' then x.takeQuoted? .singleQuoted
    else if c == '"' then x.takeQuoted? .doubleQuoted
    else if x.beginsPlain c then x.takePlain?
    else none

def headPending (x : Lexer) : Bool :=
  (x.place :: x.outerPlaces).any fun p => p.any (·.number == x.delivered)

def settle? : Nat → Lexer → Option Lexer
  | 0, _ => none
  | fuel + 1, x =>
    match x.waiting with
    | [] => if x.ended then some x else x.fetch?.bind (settle? fuel)
    | _ => do
      let x ← x.refreshPlaces?
      if x.headPending then x.fetch?.bind (settle? fuel) else some x

def deliver : Nat → List Token → Lexer → List Token × Bool
  | 0, tokens, _ => (tokens.reverse, false)
  | fuel + 1, tokens, x =>
    match settle? (x.cursor.rest.length + 2) x with
    | none => (tokens.reverse, false)
    | some x =>
      match x.waiting with
      | [] => (tokens.reverse, true)
      | t :: waiting => deliver fuel (t :: tokens) { x with waiting, delivered := x.delivered + 1 }

end Lexer

/-- The tokens of a text and whether it could be read to its end. A text with a character that YAML
does not allow cannot be read at all. -/
def Token.ofText (text : String) : List Token × Bool :=
  let chars := text.toList
  if chars.all isAllowed then
    let chars := if chars.head? == some '\uFEFF' then chars.tail else chars
    Lexer.deliver (4 * chars.length + 4) [] { cursor := { rest := chars } }
  else ([], false)

end KernelStats.Yaml
