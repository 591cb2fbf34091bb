import KernelStats.Number.Binary64

/-!
# The fewest digits that read back

A positive finite number is written with the fewest decimal digits that identify it. For one digit,
two digits and so on, the number lies between two neighbouring points of the decimal grid of that
many digits; the first grid with a point that reads back wins. Of two such points the nearer is
taken, and the upper one if both are equally near. All comparisons are exact.
-/

namespace KernelStats.Number

structure Decimal where
  digits : Nat
  exponent : Int
deriving Repr, DecidableEq

/-- A positive number between the two bounds of the interval that is rounded to it, all three in
units of `2 ^ -1076`. Both bounds belong to the interval if the significand is even. -/
structure Rounded where
  value : Nat
  lower : Nat
  upper : Nat
  closed : Bool

def Rounded.ofFinite (significand shift : Nat) : Rounded :=
  let value := 4 * significand * 2 ^ shift
  { value
    lower := value - (if significand = 2 ^ 52 then 1 else 2) * 2 ^ shift
    upper := value + 2 * 2 ^ shift
    closed := significand % 2 == 0 }

namespace Rounded

def reads (r : Rounded) (num den : Nat) : Bool :=
  if r.closed then r.lower * den ≤ num && num ≤ r.upper * den
  else r.lower * den < num && num < r.upper * den

def tenPow : Int → Nat × Nat
  | .ofNat n => (10 ^ n, 1)
  | .negSucc n => (1, 10 ^ (n + 1))

/-- The least `e` with the number below `10 ^ e`: the count of digits before the decimal point, less
than one for a number below one tenth. No number lies below `10 ^ -350`. -/
def magnitude (r : Rounded) : Int :=
  ((Nat.toDigits 10 (r.value * 10 ^ 350 / 2 ^ 1076)).length : Int) - 350

/-- The point of the grid with step `10 ^ exponent` that is nearest to the number among the two
neighbours that read back. -/
def onGrid? (r : Rounded) (exponent : Int) : Option Decimal :=
  let (num, den) := tenPow exponent
  let unit := num * 2 ^ 1076
  let below := r.value * den / unit
  let rest := r.value * den % unit
  let readsBelow := below != 0 && r.reads (below * unit) den
  let readsAbove := r.reads ((below + 1) * unit) den
  if readsAbove && (!readsBelow || unit ≤ 2 * rest) then some ⟨below + 1, exponent⟩
  else if readsBelow then some ⟨below, exponent⟩
  else none

def firstGrid (r : Rounded) : Nat → Int → Decimal
  | 0, exponent =>
    let (num, den) := tenPow exponent
    ⟨r.value * den / (num * 2 ^ 1076), exponent⟩
  | tries + 1, exponent =>
    match r.onGrid? exponent with
    | some d => d
    | none => firstGrid r tries (exponent - 1)

def shortest (r : Rounded) : Decimal := r.firstGrid 17 (r.magnitude - 1)

end Rounded

def shortest (significand shift : Nat) : Decimal :=
  if significand = 0 then ⟨0, 0⟩ else (Rounded.ofFinite significand shift).shortest

end KernelStats.Number
