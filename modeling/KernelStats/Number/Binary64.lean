import KernelStats.Number.Power

/-!
# Numbers in binary64

A finite number is read as `± significand · 2 ^ shift / 2 ^ 1074`, so that every comparison of two
finite numbers is one of natural numbers. `nearest` rounds a quotient of natural numbers to that
format, a tie going to the even significand, and `truncate` drops the fraction of a number.
-/

namespace KernelStats.Number

/-- What the bits of a number stand for. The value of a finite one is
`± significand · 2 ^ shift / 2 ^ 1074`. -/
inductive Reading where
  | nan
  | infinite (negative : Bool)
  | finite (negative : Bool) (significand shift : Nat)
deriving Repr, DecidableEq

def exponentField (bits : Nat) : Nat := bits / 2 ^ 52 % 2 ^ 11

def fractionField (bits : Nat) : Nat := bits % 2 ^ 52

def signField (bits : Nat) : Bool := bits / 2 ^ 63 % 2 == 1

def Reading.ofBits (bits : Nat) : Reading :=
  if exponentField bits = 2047 then
    if fractionField bits = 0 then .infinite (signField bits) else .nan
  else if exponentField bits = 0 then .finite (signField bits) (fractionField bits) 0
  else .finite (signField bits) (2 ^ 52 + fractionField bits) (exponentField bits - 1)

def Reading.ofFloat (x : Float) : Reading := .ofBits x.toBits.toNat

def isFinite (x : Float) : Bool :=
  match Reading.ofFloat x with
  | .finite .. => true
  | _ => false

def isZero (x : Float) : Bool :=
  match Reading.ofFloat x with
  | .finite _ significand _ => significand == 0
  | _ => false

def roundEven (a d : Nat) : Nat :=
  if 2 * (a % d) < d then a / d
  else if d < 2 * (a % d) then a / d + 1
  else a / d + a / d % 2

def infinityBits : Nat := 2047 * 2 ^ 52

/-- The bits of the number nearest to `num / den`; an infinity stands for what is too large. A
significand rounded up to `2 ^ 53` carries into the exponent by the addition. -/
def nearestBits (num den : Nat) : Nat :=
  let scaled := num * 2 ^ 1074
  let shift := (scaled / den).log2 - 52
  min infinityBits (shift * 2 ^ 52 + roundEven scaled (den * 2 ^ shift))

def nearest (negative : Bool) (num den : Nat) : Float :=
  .ofBits (.ofNat ((if negative then 2 ^ 63 else 0) + nearestBits num den))

def ofInt (n : Int) : Float :=
  if n < 0 then -(UInt64.ofNat n.natAbs).toFloat else (UInt64.ofNat n.natAbs).toFloat

/-- The whole part of a number, rounded toward zero with its sign kept; infinities and NaN stay as
they are. An exponent field of 1075 and more leaves no bit below the unit. -/
def truncate (x : Float) : Float :=
  let bits := x.toBits.toNat
  let e := exponentField bits
  if e < 1023 then .ofBits (.ofNat (if signField bits then 2 ^ 63 else 0))
  else if 1075 ≤ e then x
  else .ofBits (.ofNat (bits - bits % 2 ^ (1075 - e)))

example : nearestBits 1 1 = 0x3FF0000000000000 := by decide +kernel
example : nearestBits 1 3 = 0x3FD5555555555555 := by decide +kernel

end KernelStats.Number
