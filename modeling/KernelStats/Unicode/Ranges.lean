/-!
# Sets of code points

A character property is carried as lines of text: ascending ranges of code points in hexadecimal,
separated by blanks, such as `41-5A 5F 61-7A`. `Ranges.ofLines` reads that form and `Ranges.contains`
looks a character up. Properties follow version 15 of the Unicode character database.
-/

namespace KernelStats.Unicode

structure Range where
  first : Nat
  last : Nat
deriving Repr, DecidableEq

abbrev Ranges := List Range

def partsAux (separator : Char) (part : List Char) : List Char → List (List Char)
  | [] => [part.reverse]
  | c :: rest =>
    if c == separator then part.reverse :: partsAux separator [] rest
    else partsAux separator (c :: part) rest

def parts (separator : Char) (text : List Char) : List (List Char) := partsAux separator [] text

def wordsOf (lines : List String) : List (List Char) := lines.flatMap fun l => parts ' ' l.toList

def hexadecimalDigit (c : Char) : Nat :=
  if c.isDigit then c.toNat - '0'.toNat else c.toNat - 'A'.toNat + 10

def hexadecimal (digits : List Char) : Nat :=
  digits.foldl (fun value c => 16 * value + hexadecimalDigit c) 0

namespace Ranges

def rangeOfText (text : List Char) : Range :=
  match parts '-' text with
  | [first, last] => ⟨hexadecimal first, hexadecimal last⟩
  | _ => ⟨hexadecimal text, hexadecimal text⟩

def ofLines (lines : List String) : Ranges := (wordsOf lines).map rangeOfText

/-- Ranges are ascending, so the search ends at the first range that does not lie below. -/
def containsCode : Ranges → Nat → Bool
  | [], _ => false
  | r :: rest, n => if n < r.first then false else if n ≤ r.last then true else containsCode rest n

def contains (r : Ranges) (c : Char) : Bool := containsCode r c.toNat

example : ofLines ["41-5A", "5F"] = [⟨0x41, 0x5A⟩, ⟨0x5F, 0x5F⟩] := by decide

end Ranges

structure Property where
  names : List String
  lines : List String

def Property.find? (table : List Property) (name : String) : Option Ranges :=
  (table.find? (·.names.contains name)).map (Ranges.ofLines ·.lines)

end KernelStats.Unicode
