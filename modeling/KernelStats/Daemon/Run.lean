import KernelStats.Daemon.Arguments
import KernelStats.Daemon.Report
import KernelStats.Memory.Scenario
import KernelStats.Memory.Session
import KernelStats.Schema.File

/-!
# Runs of the daemon

A run loads the schema, registers a collector for it and gathers, once or over and over. What a run prints
and logs is a function of its arguments, of the schema file, of the source, and of how long things take.
`Daemon.once` is a whole run with one scrape, `Daemon.interrupted` one that is stopped after its first
scrape.
-/

namespace KernelStats.Daemon

def version : String := "0.1.0"

def programName : String := "kstatd"

structure Outcome where
  stdout : String := ""
  log : Array LogLine := #[]
  exitCode : UInt32 := 0

def Outcome.after (o : Outcome) (log : Array LogLine) : Outcome := { o with log := log ++ o.log }

def greeting (a : Arguments) : Array LogLine := #[
  ⟨.info, programName ++ " " ++ version ++ " starting"⟩,
  ⟨.info, "Config: schema=" ++ a.config ++ ", interval=" ++ toString a.interval.toNat
    ++ "s, namespace=" ++ a.ns⟩]

def schemaLine (s : Schema) : LogLine :=
  ⟨.info, "Schema: " ++ toString s.modules.length ++ " modules, " ++ toString s.counterCount
    ++ " counters"⟩

def noKernelLine : LogLine :=
  ⟨.warn, "kstat is not available on this platform, using the built-in mock system"⟩

def malformed : String := "malformed kstat schema"

def build (a : Arguments) (c : MetricCollector) : Registry × Array LogLine :=
  let r : Registry := { ns := a.ns }
  match r.register c with
  | .ok r => (r, #[⟨.debug, "registered collector " ++ c.name⟩])
  | .error e => (r, #[⟨.warn, e.message⟩])

/-- Loads the schema and builds the registry for it. Answers with what is logged, and with no registry if
the schema cannot be loaded or nothing is registered. -/
def prepare (a : Arguments) (file : File) (collector : Collector → MetricCollector)
    (note : Array LogLine) : Array LogLine × Option Registry :=
  match Schema.load file with
  | .error e =>
    (greeting a ++ #[⟨.error, a.config ++ ": " ++ e.message?.getD malformed⟩], none)
  | .ok s =>
    let (r, log) := build a (collector (.ofSchema s a.ns))
    let log := greeting a ++ #[schemaLine s] ++ note ++ log
    if r.collectors.isEmpty then (log.push ⟨.error, "No collectors registered"⟩, none)
    else
      (log.push ⟨.info, toString r.collectors.length ++ " collector(s) registered"⟩, some r)

def start (a : Arguments) (file : File) (collector : Collector → MetricCollector)
    (note : Array LogLine) (run : Registry → Outcome) : Outcome :=
  match prepare a file collector note with
  | (log, none) => { log, exitCode := 1 }
  | (log, some r) => (run r).after log

def print (g : Gathered) (writeError : Option Nat) : Outcome :=
  match writeError with
  | some code => {
      log := #[⟨.error, "Failed to write samples: " ++ osError code⟩]
      exitCode := 1 }
  | none => { stdout := g.printed, exitCode := if g.succeeded then 0 else 1 }

def printOnce (elapsed : String → Duration) (writeError : Option Nat) (r : Registry) : Outcome :=
  let (g, _) := r.gather elapsed
  (print g writeError).after (g.log.push ⟨.info, g.describe⟩)

def scrapeLog (number : Nat) (now : String) (g : Gathered) : Array LogLine :=
  g.log.push ⟨.info, "Scrape #" ++ toString number ++ " at " ++ now ++ ": "
    ++ toString g.samples.size ++ " samples, " ++ g.describe⟩
    ++ g.samples.map fun s => ⟨.debug, s.line⟩

def loopStart : LogLine := ⟨.info, "Starting collection loop"⟩

def scrapeAndStop (elapsed : String → Duration) (now : String) (r : Registry) : Outcome :=
  let (g, _) := r.gather elapsed
  { log := #[loopStart] ++ scrapeLog 1 now g ++ #[
      ⟨.info, "Received shutdown signal"⟩,
      ⟨.info, "Shutdown complete"⟩] }

def once (src : Source ω σ) (source : ω) (a : Arguments) (file : File) (note : Array LogLine)
    (elapsed : String → Duration) (writeError : Option Nat) : Outcome :=
  start a file (.ofCollector src · source) note (printOnce elapsed writeError)

def interrupted (src : Source ω σ) (source : ω) (a : Arguments) (file : File) (note : Array LogLine)
    (elapsed : String → Duration) (now : String) : Outcome :=
  start a file (.ofCollector src · source) note (scrapeAndStop elapsed now)

def builtIn : Memory := { data := .typicalSystem }

def run (a : Arguments) (file : File) (elapsed : String → Duration) (now : String)
    (writeError : Option Nat) : Outcome :=
  if a.once then once Memory.source builtIn a file #[noKernelLine] elapsed writeError
  else interrupted Memory.source builtIn a file #[noKernelLine] elapsed now

def shown (level : Level) (log : Array LogLine) : Array LogLine :=
  log.filter (·.level.isShown level)

end KernelStats.Daemon
