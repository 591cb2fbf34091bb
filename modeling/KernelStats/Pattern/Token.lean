import KernelStats.Pattern.Bracket

/-!
# Signs of the pattern language

`Token.read?` takes the next sign off a text: a character, set or condition, a repetition, a bar, or the
opening or closing of a group. Sizes estimate the bytes of a program that matches the sign; depths count
how far a set is nested.
-/

namespace KernelStats.Pattern

inductive Token where
  | atom (expr : Expr) (depth size : Nat)
  | opening (flags : Flags) (captures : Bool) (name : Option String)
  | closing
  | bar
  | flags (f : Flags)
  | repetition (low : Nat) (high : Option Nat)

namespace Token

def stateSize : Nat := 32

def ofSet (s : CharSet) (depth : Nat) : Token := .atom (.set s) depth (stateSize + s.weight)

def ofChar (f : Flags) (c : Char) : Token := .atom (.set (f.fold (.single c))) 0 (stateSize * c.utf8Size)

def ofLook (l : Look) : Token := .atom (.look l) 0 stateSize

def ofEscape (f : Flags) : Escape → Token
  | .char c => ofChar f c
  | .set s => ofSet s 0
  | .look l => ofLook l

/-- A question mark right behind a repetition says only which match is preferred. -/
def afterAppetite : List Char → List Char
  | '?' :: rest => rest
  | rest => rest

def countDigits (f : Flags) : Nat → List Char → List Char × List Char
  | 0, text => ([], text)
  | fuel + 1, text =>
    match text with
    | [] => ([], [])
    | c :: rest =>
      if c.isDigit then
        let (digits, rest) := countDigits f fuel (f.skip rest)
        (c :: digits, rest)
      else ([], text)

def afterCount (f : Flags) : Nat → List Char → List Char
  | 0, text => text
  | fuel + 1, text =>
    match text with
    | [] => []
    | c :: rest => if isBlank c then afterCount f fuel (f.skip rest) else text

def count? (f : Flags) (text : List Char) : Option (Option Nat × List Char) :=
  let (digits, rest) := countDigits f text.length (text.dropWhile isBlank)
  let rest := afterCount f rest.length rest
  let value := digits.foldl (fun n c => 10 * n + (c.toNat - '0'.toNat)) 0
  if digits.isEmpty then some (none, rest)
  else if 2 ^ 32 ≤ value then none
  else some (some value, rest)

def counted? (f : Flags) (low : Nat) (high : Option Nat) :
    List Char → Option (Token × List Char)
  | '}' :: rest =>
    if high.any (· < low) then none else some (.repetition low high, afterAppetite (f.skip rest))
  | _ => none

def repetition? (f : Flags) (text : List Char) : Option (Token × List Char) := do
  let (low, rest) ← count? f (f.skip text)
  let low ← low
  match rest with
  | ',' :: rest =>
    match f.skip rest with
    | '}' :: rest => counted? f low none ('}' :: rest)
    | rest => do
      let (high, rest) ← count? f rest
      let high ← high
      counted? f low (some high) rest
  | rest => counted? f low (some low) rest

def isNameStart (c : Char) : Bool :=
  c == '_' || (Unicode.Property.find? Unicode.binaryProperties "alphabetic").any (·.contains c)

def isNameRest (c : Char) : Bool :=
  isNameStart c || c == '.' || c == '[' || c == ']'
    || ((Unicode.category? "n").getD []).any (·.contains c)

def named? (f : Flags) (text : List Char) : Option (Token × List Char) :=
  match text.takeWhile (· != '>'), text.dropWhile (· != '>') with
  | c :: rest, '>' :: after =>
    if isNameStart c && rest.all isNameRest then
      some (.opening f true (some (.ofList (c :: rest))), after)
    else none
  | _, _ => none

/-- A group or a setting of flags, from behind the opening parenthesis. Conditions on the text around a
match have no place in the language. -/
def group? (f : Flags) (text : List Char) : Option (Token × List Char) :=
  match f.skip text with
  | '?' :: '=' :: _ => none
  | '?' :: '!' :: _ => none
  | '?' :: '<' :: '=' :: _ => none
  | '?' :: '<' :: '!' :: _ => none
  | '?' :: 'P' :: '<' :: rest => named? f rest
  | '?' :: '<' :: rest => named? f rest
  | '?' :: rest => do
    let (inner, any, rest) ← f.read? [] rest
    match rest with
    | ':' :: rest => some (.opening inner false none, rest)
    | _ :: rest => if any then some (.flags inner, rest) else none
    | [] => none
  | rest => some (.opening f true none, rest)

def read? (f : Flags) : List Char → Option (Token × List Char)
  | [] => none
  | c :: rest =>
    match c with
    | '(' => group? f rest
    | ')' => some (.closing, rest)
    | '|' => some (.bar, rest)
    | '[' => (Bracket.read? f rest).map fun (nested, rest) => (ofSet nested.set nested.depth, rest)
    | '?' => some (.repetition 0 (some 1), afterAppetite rest)
    | '*' => some (.repetition 0 none, afterAppetite rest)
    | '+' => some (.repetition 1 none, afterAppetite rest)
    | '{' => repetition? f rest
    | '\\' => (Escape.read? f rest).map fun (escape, rest) => (ofEscape f escape, rest)
    | '.' => f.dot?.map fun s => (ofSet s 0, rest)
    | '^' => some (ofLook f.start, rest)
    | '$' => some (ofLook f.finish, rest)
    | c => some (ofChar f c, rest)

end Token

end KernelStats.Pattern
