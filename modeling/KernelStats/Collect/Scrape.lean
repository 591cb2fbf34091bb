import KernelStats.Log
import KernelStats.Metric.Sample
import KernelStats.Source.Error

/-!
# What a scrape produces

A `Scrape` gathers, in the order in which they happen, the samples of a scrape, its failures, how many
instances each group has, and notices for the log. The samples go into a sink, which may hold older ones.
-/

namespace KernelStats

/-- The address of a counter of an instance. The counter is empty where a whole instance is meant. -/
structure StatPath where
  module : String
  inst : UInt32
  group : String
  counter : String
deriving DecidableEq

def StatPath.text (p : StatPath) : String :=
  SourceError.place p.module p.inst p.group ++ ":" ++ p.counter

instance : ToString StatPath := ⟨StatPath.text⟩

structure StatFailure where
  path : StatPath
  cause : SourceError
deriving DecidableEq

structure GroupSummary where
  module : String
  group : String
  instances : Nat
deriving DecidableEq

def maxInstances : Nat := 65536

theorem toNat_instance {i : Nat} (h : i ≤ maxInstances) : (UInt32.ofNat i).toNat = i :=
  UInt32.toNat_ofNat_of_lt' (Nat.lt_of_le_of_lt h (by decide))

theorem next_instance (i : Nat) : UInt32.ofNat i + 1 = UInt32.ofNat (i + 1) :=
  (UInt32.ofNat_add i 1).symm

inductive Notice where
  | lookingUp (module : String) (inst : UInt32) (group : String)
  | failed (f : StatFailure)
  | runaway (module group : String)
deriving DecidableEq

namespace Notice

def level : Notice → Level
  | lookingUp .. => .debug
  | failed _ => .error
  | runaway .. => .warn

def text : Notice → String
  | lookingUp module inst group => "looking up kstat " ++ SourceError.place module inst group
  | failed f => f.path.text ++ ": " ++ f.cause.message
  | runaway module group =>
    module ++ "::" ++ group ++ " still has instances after " ++ toString maxInstances
      ++ ", stopping enumeration"

def line (n : Notice) : LogLine := ⟨n.level, n.text⟩

end Notice

structure Scrape where
  sink : Array Sample := #[]
  emitted : Nat := 0
  failures : Array StatFailure := #[]
  groups : Array GroupSummary := #[]
  notices : Array Notice := #[]

namespace Scrape

def emit (s : Scrape) (desc : Descriptor) (labelValue : String) (value : Float) : Scrape :=
  { s with sink := s.sink.push { desc, labelValue, value }, emitted := s.emitted + 1 }

def note (s : Scrape) (n : Notice) : Scrape := { s with notices := s.notices.push n }

def fail (s : Scrape) (path : StatPath) (cause : SourceError) : Scrape :=
  { s with failures := s.failures.push { path, cause } }.note (.failed { path, cause })

def summarize (s : Scrape) (g : GroupSummary) : Scrape := { s with groups := s.groups.push g }

end Scrape

end KernelStats
