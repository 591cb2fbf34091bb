import KernelStats.Yaml.Lexeme

/-!
# Tags, anchors and directives in a YAML text

Tags are kept as the octets of their address, one character an octet; an octet that is escaped by its
code may be any. A tag part ends at an octet of zero.
-/

namespace KernelStats.Yaml

structure TagName where
  handle : List Char
  suffix : List Char
deriving Repr, DecidableEq

def isTagChar (address : Bool) (c : Char) : Bool :=
  isNameChar c || ";/?:@&=+$.%!~*'()".toList.contains c || (address && ",[]".toList.contains c)

def octet? : List Char → Option Nat
  | '%' :: a :: b :: _ => do some (16 * (← hexadecimalDigit? a) + (← hexadecimalDigit? b))
  | _ => none

def octetCount? (first : Nat) : Option Nat :=
  if first < 0x80 then some 1
  else if first < 0xC0 then none
  else if first < 0xE0 then some 2
  else if first < 0xF0 then some 3
  else if first < 0xF8 then some 4
  else none

def trailing? : Nat → List Char → Cursor → Option (List Char × Cursor)
  | 0, octets, cursor => some (octets, cursor)
  | n + 1, octets, cursor => do
    let o ← octet? cursor.rest
    if 0x80 ≤ o && o < 0xC0 then trailing? n (.ofNat o :: octets) (cursor.advance 3) else none

def tagOn? (address : Bool) : Nat → List Char → Cursor → Option (List Char × Cursor)
  | 0, _, _ => none
  | fuel + 1, octets, cursor =>
    match cursor.peek with
    | none => some (octets, cursor)
    | some c =>
      if !isTagChar address c then some (octets, cursor)
      else if c == '%' then do
        let o ← octet? cursor.rest
        let n ← octetCount? o
        let (octets, cursor) ← trailing? (n - 1) (.ofNat o :: octets) (cursor.advance 3)
        tagOn? address fuel octets cursor
      else tagOn? address fuel (c :: octets) cursor.advance

def tagRest? (address mayBeEmpty : Bool) (cursor : Cursor) : Option (List Char × Cursor) := do
  let (octets, next) ← tagOn? address (cursor.rest.length + 1) [] cursor
  if octets.isEmpty && !mayBeEmpty then none
  else some (octets.reverse.takeWhile (· != '\x00'), next)

def handle? (cursor : Cursor) : Option (List Char × Bool × Cursor) :=
  if cursor.peek == some '!' then
    let name := cursor.advance.rest.takeWhile isNameChar
    let next := cursor.advance (1 + name.length)
    if next.peek == some '!' then some ('!' :: name ++ ['!'], true, next.advance)
    else some ('!' :: name, false, next)
  else none

/-- A tag: an address in angle brackets, a handle with a suffix, or a suffix behind one exclamation
mark. The mark by itself is a tag of that name. -/
def tag? (flow : Bool) (cursor : Cursor) : Option (TagName × Cursor) := do
  let (name, next) ←
    if cursor.second == some '<' then do
      let (suffix, next) ← tagRest? true false (cursor.advance 2)
      if next.peek == some '>' then some (TagName.mk [] suffix, next.advance) else none
    else do
      let (handle, closed, next) ← handle? cursor
      if closed then do
        let (suffix, next) ← tagRest? false false next
        some (⟨handle, suffix⟩, next)
      else do
        let (rest, next) ← tagRest? false true next
        let suffix := handle.drop 1 ++ rest
        some (if suffix.isEmpty then ⟨[], ['!']⟩ else ⟨['!'], suffix⟩, next)
  if isGap next.peek || (flow && next.peek == some ',') then some (name, next) else none

def anchor? (cursor : Cursor) : Option (String × Cursor) :=
  let name := cursor.advance.rest.takeWhile isNameChar
  let next := cursor.advance (1 + name.length)
  if name.isEmpty then none
  else if isGap next.peek || next.peek.any ("?:,]\x7d%@\u0060".toList.contains ·) then
    some (.ofList name, next)
  else none

inductive Directive where
  | version (major minor : Nat)
  | tag (handle : List Char) (address : List Char)

def versionNumber? (cursor : Cursor) : Option (Nat × Cursor) :=
  let digits := cursor.rest.takeWhile Char.isDigit
  if digits.isEmpty || 9 < digits.length then none
  else
    let value := digits.foldl (fun n d => 10 * n + (d.toNat - '0'.toNat)) 0
    some (value, cursor.advance digits.length)

def versionDirective? (cursor : Cursor) : Option (Directive × Cursor) := do
  let (major, cursor) ← versionNumber? cursor.skipBlanks
  if cursor.peek != some '.' then none
  else
    let (minor, cursor) ← versionNumber? cursor.advance
    some (.version major minor, cursor)

def tagDirective? (cursor : Cursor) : Option (Directive × Cursor) := do
  let (handle, closed, cursor) ← handle? cursor.skipBlanks
  if (!closed && handle != ['!']) || !cursor.peek.any isBlank then none
  else
    let (address, cursor) ← tagRest? true false cursor.skipBlanks
    if isGap cursor.peek then some (.tag handle address, cursor) else none

def directive? (cursor : Cursor) : Option (Directive × Cursor) := do
  let name := cursor.advance.rest.takeWhile isNameChar
  let next := cursor.advance (1 + name.length)
  if name.isEmpty || !isGap next.peek then none
  else
    let (directive, next) ←
      match String.ofList name with
      | "YAML" => versionDirective? next
      | "TAG" => tagDirective? next
      | _ => none
    let next ← next.restOfLine?
    some (directive, next)

end KernelStats.Yaml
