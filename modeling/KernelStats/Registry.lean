import KernelStats.Collect.Collector
import KernelStats.Duration

/-!
# Registries

A registry holds the collectors that are scraped together, in the order in which they were registered and
no two under one name. `Registry.gather` runs all of them; after the samples of each come two about its
health, how long it took and whether it succeeded. A collector that fails does not touch the others.
-/

namespace KernelStats

structure Update where
  samples : Array Sample := #[]
  failure : Option CollectError := none
  log : Duration → Array LogLine := fun _ => #[]

structure MetricCollector where
  State : Type
  name : String
  update : State → Update × State
  state : State

namespace MetricCollector

def kernelName : String := "kstat"

def closing (s : Scrape) (elapsed : Duration) : LogLine where
  level := .debug
  text := "kstat scrape: " ++ toString s.emitted ++ " samples, " ++ toString s.failures.size
    ++ " failures in " ++ elapsed.text

def updateOf : Except CollectError Scrape → Update
  | .error e => { failure := some e }
  | .ok s => {
      samples := s.sink
      log := fun elapsed => (s.notices.map Notice.line).push (closing s elapsed) }

def ofCollector (src : Source ω σ) (c : Collector) (source : ω) : MetricCollector where
  State := Collector × ω
  name := kernelName
  state := (c, source)
  update := fun (c, source) =>
    let o := c.scrape src source
    (updateOf o.result, o.collector, o.source)

end MetricCollector

structure DuplicateName where
  name : String
deriving DecidableEq

def DuplicateName.message (e : DuplicateName) : String :=
  "collector " ++ e.name ++ " is already registered"

structure CollectorOutcome where
  name : String
  duration : Duration
  error : Option String
deriving DecidableEq

def CollectorOutcome.succeeded (o : CollectorOutcome) : Bool := o.error.isNone

structure Gathered where
  samples : Array Sample := #[]
  outcomes : Array CollectorOutcome := #[]
  log : Array LogLine := #[]

structure Registry where
  ns : String
  collectors : List MetricCollector := []

namespace Registry

def collectorLabel : String := "collector"

def durationDescriptor (ns : String) : Descriptor where
  name := metricName ns "scrape" "collector_duration_seconds"
  help := "Duration of a collector scrape."
  label := collectorLabel

def successDescriptor (ns : String) : Descriptor where
  name := metricName ns "scrape" "collector_success"
  help := "Whether a collector succeeded."
  label := collectorLabel

def register (r : Registry) (c : MetricCollector) : Except DuplicateName Registry :=
  if r.collectors.any (·.name == c.name) then .error ⟨c.name⟩
  else .ok { r with collectors := r.collectors ++ [c] }

def health (ns : String) (o : CollectorOutcome) : Array Sample := #[
  { desc := durationDescriptor ns, labelValue := o.name, value := o.duration.seconds },
  { desc := successDescriptor ns, labelValue := o.name, value := if o.succeeded then 1.0 else 0.0 }]

def failureLog (name : String) (elapsed : Duration) : Option CollectError → Array LogLine
  | none => #[]
  | some e => #[⟨.error,
      "collector " ++ name ++ " failed after " ++ elapsed.text ++ ": " ++ e.message⟩]

def addUpdate (ns : String) (elapsed : String → Duration) (g : Gathered) (update : String × Update) :
    Gathered :=
  let (name, u) := update
  let outcome : CollectorOutcome :=
    { name, duration := elapsed name, error := u.failure.map CollectError.message }
  { samples := g.samples ++ u.samples ++ health ns outcome
    outcomes := g.outcomes.push outcome
    log := g.log ++ u.log (elapsed name) ++ failureLog name (elapsed name) u.failure }

def updateAll : List MetricCollector → List (String × Update) × List MetricCollector
  | [] => ([], [])
  | c :: cs =>
    let (u, state) := c.update c.state
    let (updates, cs) := updateAll cs
    ((c.name, u) :: updates, { c with state } :: cs)

def update (r : Registry) : List (String × Update) × Registry :=
  let (updates, collectors) := updateAll r.collectors
  (updates, { r with collectors })

def gathered (r : Registry) (elapsed : String → Duration) (updates : List (String × Update)) : Gathered :=
  updates.foldl (addUpdate r.ns elapsed) {}

def gather (r : Registry) (elapsed : String → Duration) : Gathered × Registry :=
  let (updates, r') := r.update
  (r.gathered elapsed updates, r')

end Registry

end KernelStats
