import KernelStats.Pattern.Escape

/-!
# Sets in brackets

`Bracket.read?` reads a set from behind its opening bracket: characters, ranges, escapes, named classes
and further brackets side by side, joined by the operations `&&`, `--` and `~~` from left to right.
The depth of a set counts its brackets, operations and rows of several items.
-/

namespace KernelStats.Pattern

structure Nested where
  set : CharSet
  depth : Nat

inductive SetOperation where
  | inter
  | diff
  | symmDiff

def SetOperation.apply : SetOperation → CharSet → CharSet → CharSet
  | .inter => .inter
  | .diff => .diff
  | .symmDiff => .symmDiff

/-- A set whose bracket is open: the items since the last operation, latest first, and what stands
before that operation. -/
structure Bracket where
  negated : Bool
  items : List Nested := []
  pending : Option (Nested × SetOperation) := none

namespace Bracket

def push (b : Bracket) (item : Nested) : Bracket := { b with items := item :: b.items }

def row : List Nested → Nested
  | [] => ⟨.empty, 0⟩
  | [item] => item
  | items =>
    ⟨CharSet.unionAll (items.map (·.set)), 1 + (items.map (·.depth)).foldl max 0⟩

def settled (f : Flags) (b : Bracket) : Nested :=
  match b.pending with
  | none => row b.items
  | some (left, op) =>
    let right := row b.items
    ⟨op.apply (f.fold left.set) (f.fold right.set), 1 + max left.depth right.depth⟩

def operate (f : Flags) (b : Bracket) (op : SetOperation) : Bracket :=
  { negated := b.negated, items := [], pending := some (b.settled f, op) }

def close? (f : Flags) (b : Bracket) : Option Nested :=
  let inside := b.settled f
  (f.finish? b.negated inside.set).map fun s => ⟨s, inside.depth + 1⟩

def openingHyphens? (f : Flags) : Nat → Bracket → List Char → Option (Bracket × List Char)
  | 0, _, _ => none
  | fuel + 1, b, text =>
    match text with
    | [] => none
    | c :: rest =>
      if c == '-' then openingHyphens? f fuel (b.push ⟨.single '-', 0⟩) (f.skip rest)
      else some (b, text)

def opening? (f : Flags) (text : List Char) : Option (Bracket × List Char) := do
  let text := f.skip text
  let (negated, text) := match text with
    | '^' :: rest => (true, f.skip rest)
    | text => (false, text)
  let (b, text) ← openingHyphens? f (text.length + 1) { negated } text
  match text with
  | ']' :: rest =>
    if b.items.isEmpty then
      let rest := f.skip rest
      if rest.isEmpty then none else some (b.push ⟨.single ']', 0⟩, rest)
    else some (b, text)
  | text => some (b, text)

/-- A named class such as `[:alpha:]`, from behind its opening bracket. The answer is `none` where the
text is no named class and the bracket opens a set of its own. -/
def named? (text : List Char) : Option (CharSet × Bool × List Char) :=
  match text with
  | ':' :: rest =>
    let (negated, rest) := match rest with
      | '^' :: rest => (true, rest)
      | rest => (false, rest)
    match rest.dropWhile (· != ':') with
    | ':' :: ']' :: after =>
      (CharSet.ofAsciiName? (.ofList (rest.takeWhile (· != ':')))).map fun s => (s, negated, after)
    | _ => none
  | _ => none

def item? (f : Flags) : List Char → Option (Escape × List Char)
  | [] => none
  | '\\' :: rest => Escape.read? f rest
  | c :: rest => some (.char c, rest)

def member? (f : Flags) (c : Char) : Option Nat :=
  if !f.unicode && 0x7F < c.toNat then none else some c.toNat

def peek (f : Flags) (text : List Char) : Option Char :=
  if f.ignoreBlanks then
    match text.dropWhile isBlank with
    | '#' :: rest => (rest.dropWhile isBlank).head?
    | rest => rest.head?
  else text.head?

/-- An item or, if a hyphen follows that is neither the last sign nor half of an operation, a range. -/
def range? (f : Flags) (text : List Char) : Option (CharSet × List Char) := do
  let (first, rest) ← item? f text
  let single : Option (CharSet × List Char) :=
    match first with
    | .char c => (member? f c).map fun n => (.range n n, f.skip rest)
    | .set s => some (s, f.skip rest)
    | .look _ => none
  match f.skip rest with
  | [] => none
  | '-' :: after =>
    if peek f after == some ']' || peek f after == some '-' then single
    else do
      let (second, rest) ← item? f (f.skip after)
      match first, second with
      | .char c, .char d => do
        let low ← member? f c
        let high ← member? f d
        if low ≤ high then some (.range low high, rest) else none
      | _, _ => none
  | _ => single

def readOn? (f : Flags) : Nat → Bracket → List Char → Option (Nested × List Char)
  | 0, _, _ => none
  | fuel + 1, b, text =>
    match f.skip text with
    | [] => none
    | '[' :: rest =>
      match named? rest with
      | some (s, negated, rest) =>
        (f.finish? negated s).bind fun s => readOn? f fuel (b.push ⟨s, 0⟩) rest
      | none => do
        let (inner, rest) ← opening? f rest
        let (nested, rest) ← readOn? f fuel inner rest
        readOn? f fuel (b.push nested) rest
    | ']' :: rest => (b.close? f).map fun nested => (nested, rest)
    | '&' :: '&' :: rest => readOn? f fuel (b.operate f .inter) rest
    | '-' :: '-' :: rest => readOn? f fuel (b.operate f .diff) rest
    | '~' :: '~' :: rest => readOn? f fuel (b.operate f .symmDiff) rest
    | text => do
      let (s, rest) ← range? f text
      readOn? f fuel (b.push ⟨s, 0⟩) rest

def read? (f : Flags) (text : List Char) : Option (Nested × List Char) := do
  let (b, rest) ← opening? f text
  readOn? f (rest.length + 1) b rest

end Bracket

end KernelStats.Pattern
