/-!
# UTF-8

Bytes are read one at a time. A character that has begun is kept as the code read so far, the number
of bytes still owed, and the bounds of the next one; the bounds exclude overlong forms, surrogates and
codes above the last code point. Each maximal part that is not UTF-8 is reported once: `decode?`
refuses it and `decodeLossy` puts the replacement character in its place.
-/

namespace KernelStats.Utf8

structure Begun where
  code : Nat
  owed : Nat
  low : Nat := 0x80
  high : Nat := 0xBF

abbrev Part := Option Char

def first (b : Nat) : List Part × Option Begun :=
  if b ≤ 0x7F then ([some (.ofNat b)], none)
  else if 0xC2 ≤ b && b ≤ 0xDF then ([], some { code := b - 0xC0, owed := 1 })
  else if b == 0xE0 then ([], some { code := 0, owed := 2, low := 0xA0 })
  else if b == 0xED then ([], some { code := 0xD, owed := 2, high := 0x9F })
  else if 0xE1 ≤ b && b ≤ 0xEF then ([], some { code := b - 0xE0, owed := 2 })
  else if b == 0xF0 then ([], some { code := 0, owed := 3, low := 0x90 })
  else if 0xF1 ≤ b && b ≤ 0xF3 then ([], some { code := b - 0xF0, owed := 3 })
  else if b == 0xF4 then ([], some { code := 4, owed := 3, high := 0x8F })
  else ([none], none)

/-- The parts that a byte completes and the character it leaves begun. A byte outside the bounds ends
the part at hand and is read again as a first byte. -/
def step : Option Begun → Nat → List Part × Option Begun
  | none, b => first b
  | some p, b =>
    if p.low ≤ b && b ≤ p.high then
      let code := 64 * p.code + (b - 0x80)
      if p.owed ≤ 1 then ([some (.ofNat code)], none)
      else ([], some { code, owed := p.owed - 1 })
    else (none :: (first b).1, (first b).2)

def partsFrom : Option Begun → List UInt8 → List Part
  | none, [] => []
  | some _, [] => [none]
  | state, b :: rest => (step state b.toNat).1 ++ partsFrom (step state b.toNat).2 rest

def parts (bytes : List UInt8) : List Part := partsFrom none bytes

def decode? (bytes : List UInt8) : Option String := ((parts bytes).mapM id).map .ofList

def decodeLossy (bytes : List UInt8) : String :=
  .ofList ((parts bytes).map (·.getD '\uFFFD'))

def encode (text : String) : List UInt8 := text.toList.flatMap String.utf8EncodeChar

example : parts [0x61, 0xE0, 0x80, 0xF0, 0x9F, 0x98] = [some 'a', none, none, none] := by decide
example : decode? (encode "aé€😀") = some "aé€😀" := by decide +kernel

end KernelStats.Utf8
