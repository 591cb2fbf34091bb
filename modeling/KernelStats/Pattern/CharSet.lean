import KernelStats.Number.Power
import KernelStats.Unicode.Binary
import KernelStats.Unicode.Category
import KernelStats.Unicode.Fold
import KernelStats.Unicode.Word

/-!
# Sets of characters

A set is kept as it is written: ranges and tables under the operations of the pattern language.
`contains` is its meaning.
-/

namespace KernelStats.Pattern

inductive Alphabet where
  | ascii
  | unicode
deriving Repr, DecidableEq

inductive CharSet where
  | empty
  | range (first last : Nat)
  | listed (ranges : Unicode.Ranges)
  | union (a b : CharSet)
  | inter (a b : CharSet)
  | diff (a b : CharSet)
  | symmDiff (a b : CharSet)
  | compl (a : CharSet)
  | folded (alphabet : Alphabet) (a : CharSet)
deriving Repr

def Alphabet.variants : Alphabet → Char → List Char
  | .ascii, c => [c, c.toLower, c.toUpper]
  | .unicode, c => Unicode.caseVariants c

namespace CharSet

def contains : CharSet → Char → Bool
  | empty, _ => false
  | range first last, c => first ≤ c.toNat && c.toNat ≤ last
  | listed ranges, c => ranges.contains c
  | union a b, c => a.contains c || b.contains c
  | inter a b, c => a.contains c && b.contains c
  | diff a b, c => a.contains c && !b.contains c
  | symmDiff a b, c => a.contains c != b.contains c
  | compl a, c => !a.contains c
  | folded alphabet a, c => (alphabet.variants c).any fun v => a.contains v

def single (c : Char) : CharSet := range c.toNat c.toNat

theorem contains_single {c d : Char} : (single c).contains d = true ↔ d = c := by
  simp only [single, contains, Bool.and_eq_true, decide_eq_true_eq]
  exact ⟨fun ⟨h, k⟩ => Char.toNat_inj.mp (Nat.le_antisymm k h), fun h => by simp [h]⟩

def ofRanges (ranges : List (Nat × Nat)) : CharSet :=
  listed (ranges.map fun (first, last) => ⟨first, last⟩)

def all : CharSet := range 0 0x10FFFF

def decimalDigits : Alphabet → CharSet
  | .ascii => range 0x30 0x39
  | .unicode => listed Unicode.decimalDigits

def blanks : Alphabet → CharSet
  | .ascii => ofRanges [(0x09, 0x0D), (0x20, 0x20)]
  | .unicode => listed ((Unicode.Property.find? Unicode.binaryProperties "whitespace").getD [])

def wordCharacters : Alphabet → CharSet
  | .ascii => ofRanges [(0x30, 0x39), (0x41, 0x5A), (0x5F, 0x5F), (0x61, 0x7A)]
  | .unicode => listed Unicode.wordRanges

def ofAsciiName? (name : String) : Option CharSet :=
  match name with
  | "alnum" => some (ofRanges [(0x30, 0x39), (0x41, 0x5A), (0x61, 0x7A)])
  | "alpha" => some (ofRanges [(0x41, 0x5A), (0x61, 0x7A)])
  | "ascii" => some (range 0 0x7F)
  | "blank" => some (ofRanges [(0x09, 0x09), (0x20, 0x20)])
  | "cntrl" => some (ofRanges [(0x00, 0x1F), (0x7F, 0x7F)])
  | "digit" => some (range 0x30 0x39)
  | "graph" => some (range 0x21 0x7E)
  | "lower" => some (range 0x61 0x7A)
  | "print" => some (range 0x20 0x7E)
  | "punct" => some (ofRanges [(0x21, 0x2F), (0x3A, 0x40), (0x5B, 0x60), (0x7B, 0x7E)])
  | "space" => some (ofRanges [(0x09, 0x0D), (0x20, 0x20)])
  | "upper" => some (range 0x41 0x5A)
  | "word" => some (wordCharacters .ascii)
  | "xdigit" => some (ofRanges [(0x30, 0x39), (0x41, 0x46), (0x61, 0x66)])
  | _ => none

/-- An estimate of the bytes that a matching program spends on the set beside one state: little for a
range of ASCII, more for a range whose characters have several bytes. -/
def weight : CharSet → Nat
  | empty => 0
  | range _ last => if last < 0x80 then 8 else 64
  | listed ranges => ranges.foldl (fun w r => w + if r.last < 0x80 then 8 else 64) 0
  | union a b => a.weight + b.weight
  | inter a b => a.weight + b.weight
  | diff a b => a.weight + b.weight
  | symmDiff a b => a.weight + b.weight
  | compl a => a.weight + 512
  | folded _ a => 2 * a.weight

end CharSet

end KernelStats.Pattern
