import KernelStats.Registry

/-!
# Reports of a gather

How the daemon describes what it has gathered in its log, and how it prints the samples.
-/

namespace KernelStats

def CollectorOutcome.describe (o : CollectorOutcome) : String :=
  match o.error with
  | none => o.name ++ " ok in " ++ o.duration.milliseconds ++ "ms"
  | some e => o.name ++ " failed (" ++ e ++ ")"

namespace Gathered

def describe (g : Gathered) : String :=
  ", ".intercalate (g.outcomes.toList.map CollectorOutcome.describe)

def printed (g : Gathered) : String :=
  String.join (g.samples.toList.map fun s => s.line ++ "\n")

def succeeded (g : Gathered) : Bool := g.outcomes.all CollectorOutcome.succeeded

end Gathered

end KernelStats
