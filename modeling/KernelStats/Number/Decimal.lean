import KernelStats.Number.Shortest

/-!
# Numbers in decimal notation

Numbers are written in positional notation only. `decimal` writes the fewest digits that read back
and `withTenths` one digit after the point. `readDecimal?` reads signs, digits, a point and an
exponent, and rounds the number correctly.
-/

namespace KernelStats.Number

def signed (negative : Bool) (text : String) : String := if negative then "-" ++ text else text

def Decimal.positional (d : Decimal) : String :=
  let digits := Nat.toDigits 10 d.digits
  match d.exponent with
  | .ofNat n => .ofList (digits ++ .replicate n '0')
  | .negSucc n =>
    let places := n + 1
    let padded := List.replicate (places + 1 - digits.length) '0' ++ digits
    let whole := padded.length - places
    .ofList (padded.take whole ++ '.' :: padded.drop whole)

def Decimal.trimmed (d : Decimal) : Decimal :=
  let zeros := ((Nat.toDigits 10 d.digits).reverse.takeWhile (· == '0')).length
  if d.digits = 0 then d else ⟨d.digits / 10 ^ zeros, d.exponent + zeros⟩

def decimal (x : Float) : String :=
  match Reading.ofFloat x with
  | .nan => "NaN"
  | .infinite negative => signed negative "inf"
  | .finite negative significand shift =>
    signed negative (shortest significand shift).trimmed.positional

def withTenths (x : Float) : String :=
  match Reading.ofFloat x with
  | .nan => "NaN"
  | .infinite negative => signed negative "inf"
  | .finite negative significand shift =>
    let tenths := roundEven (10 * significand * 2 ^ shift) (2 ^ 1074)
    signed negative (toString (tenths / 10) ++ "." ++ toString (tenths % 10))

def digitsValue (digits : List Char) : Nat :=
  digits.foldl (fun value c => 10 * value + (c.toNat - '0'.toNat)) 0

/-- The number nearest to `± digits · 10 ^ exponent`. Beyond four hundred places every number is zero
or too large, so that no power of ten grows out of bounds. -/
def scientific (negative : Bool) (digits : List Char) (exponent : Int) : Float :=
  let significant := digits.dropWhile (· == '0')
  let magnitude := exponent + significant.length
  if significant.isEmpty || magnitude < -400 then nearest negative 0 1
  else if 400 < magnitude then nearest negative (10 ^ 400) 1
  else
    let (num, den) := Rounded.tenPow exponent
    nearest negative (digitsValue significant * num) den

def readSign : List Char → Bool × List Char
  | '-' :: rest => (true, rest)
  | '+' :: rest => (false, rest)
  | rest => (false, rest)

def readExponent? : List Char → Option Int
  | [] => some 0
  | mark :: rest =>
    if mark == 'e' || mark == 'E' then
      let (negative, digits) := readSign rest
      if digits.isEmpty || !digits.all Char.isDigit then none
      else some (if negative then -digitsValue digits else digitsValue digits)
    else none

/-- An unsigned decimal number: digits with at most one point among or around them, at least one
digit, and an optional exponent. -/
def readUnsigned? (negative : Bool) (text : List Char) : Option Float :=
  let whole := text.takeWhile Char.isDigit
  let rest := text.dropWhile Char.isDigit
  let (fraction, tail) := match rest with
    | '.' :: r => (r.takeWhile Char.isDigit, r.dropWhile Char.isDigit)
    | r => ([], r)
  if whole.isEmpty && fraction.isEmpty then none
  else (readExponent? tail).map fun e => scientific negative (whole ++ fraction) (e - fraction.length)

def readDecimal? (text : List Char) : Option Float :=
  let (negative, rest) := readSign text
  readUnsigned? negative rest

end KernelStats.Number
