import KernelStats.Number.Decimal

/-!
# Durations

A length of time in nanoseconds, and the three ways in which it is reported: as a number of seconds, in
milliseconds with tenths, and exactly in the largest unit of which it holds at least one.
-/

namespace KernelStats

structure Duration where
  nanos : Nat
deriving DecidableEq

namespace Duration

def perSecond : Nat := 10 ^ 9

def seconds (d : Duration) : Float :=
  Number.ofInt (d.nanos / perSecond) + Number.ofInt (d.nanos % perSecond) / Number.ofInt perSecond

def milliseconds (d : Duration) : String := Number.withTenths (d.seconds * Number.ofInt 1000)

def inUnit (places nanos : Nat) (unit : String) : String :=
  (Number.Decimal.trimmed ⟨nanos, -places⟩).positional ++ unit

def text (d : Duration) : String :=
  if 10 ^ 9 ≤ d.nanos then inUnit 9 d.nanos "s"
  else if 10 ^ 6 ≤ d.nanos then inUnit 6 d.nanos "ms"
  else if 10 ^ 3 ≤ d.nanos then inUnit 3 d.nanos "µs"
  else inUnit 0 d.nanos "ns"

end Duration

end KernelStats
