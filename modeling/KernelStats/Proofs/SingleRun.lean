import KernelStats.Daemon.Run
import KernelStats.Proofs.Gathering

/-!
# A run with one scrape

What a run of the daemon prints and how it ends, if it scrapes once. Of all that can go wrong only a
schema that cannot be loaded, a session that cannot be opened and a line that cannot be written tell
in the exit code. A statistic that cannot be read does not.
-/

namespace KernelStats

namespace Number

theorem decimal_one : decimal 1.0 = "1" := by
  have hreading : Reading.ofFloat 1.0 = .finite false (2 ^ 52) 1022 := by decide +kernel
  rw [decimal, hreading]
  decide +kernel

theorem decimal_zero : decimal 0.0 = "0" := by
  have hreading : Reading.ofFloat 0.0 = .finite false 0 0 := by decide +kernel
  rw [decimal, hreading]
  decide +kernel

end Number

def Collector.Outcome.samples (o : Collector.Outcome ω) : List Sample :=
  match o.result with
  | .ok scrape => scrape.sink.toList
  | .error _ => []

theorem Collector.isOk_scrape (c : Collector) (src : Source ω σ) (source : ω) :
    (c.scrape src source).result.isOk = (src.acquire source).1.isOk := by
  rw [scrape, collect]
  rcases src.acquire source with ⟨answer, opened⟩
  cases answer with
  | error cause => rfl
  | ok session => rfl

namespace MetricCollector

theorem updateOf_result (o : Collector.Outcome ω) :
    (updateOf o.result).samples.toList = o.samples ∧
      (updateOf o.result).failure.isNone = o.result.isOk := by
  rw [Collector.Outcome.samples]
  cases o.result with
  | error e => exact ⟨rfl, rfl⟩
  | ok scrape => exact ⟨rfl, rfl⟩

end MetricCollector

namespace Registry

theorem series_kernel {d : Descriptor} (h : d.label = collectorLabel) (value : Float) :
    Sample.series ⟨d, MetricCollector.kernelName, value⟩ =
      d.name ++ "\x7bcollector=\"kstat\"\x7d " := by
  have hlabel : "\x7bcollector=\"kstat\"\x7d " =
      "\x7b" ++ collectorLabel ++ "=\"" ++ MetricCollector.kernelName ++ "\"\x7d " := by decide
  rw [Sample.series, h, hlabel]
  simp only [String.append_assoc]

def healthLines (ns : String) (elapsed : Duration) (succeeded : Bool) : String :=
  metricName ns "scrape" "collector_duration_seconds" ++ "\x7bcollector=\"kstat\"\x7d " ++
      Number.decimal elapsed.seconds ++ "\n" ++
    (metricName ns "scrape" "collector_success" ++ "\x7bcollector=\"kstat\"\x7d " ++
      (if succeeded then "1" else "0") ++ "\n")

theorem lines_health (ns : String) {o : CollectorOutcome} (h : o.name = MetricCollector.kernelName) :
    String.join ((health ns o).toList.map fun x => x.line ++ "\n") =
      healthLines ns o.duration o.succeeded := by
  have hsuccess : Number.decimal (if o.succeeded then 1.0 else 0.0) =
      if o.succeeded then "1" else "0" := by
    cases o.succeeded with
    | true => exact Number.decimal_one
    | false => exact Number.decimal_zero
  rw [health, h]
  simp only [List.map_cons, List.map_nil, String.join_cons, String.join_nil, String.append_empty,
    Sample.line, series_kernel (d := durationDescriptor ns) rfl,
    series_kernel (d := successDescriptor ns) rfl, hsuccess]
  rfl

end Registry

namespace Daemon

theorem build_fst (a : Arguments) (c : MetricCollector) : (build a c).1 = ⟨a.ns, [c]⟩ := rfl

theorem once_of_load (src : Source ω σ) (source : ω) (a : Arguments) {file : File} {schema : Schema}
    (h : Schema.load file = .ok schema) (note : Array LogLine) (elapsed : String → Duration)
    (writeError : Option Nat) :
    let out := once src source a file note elapsed writeError
    let c := MetricCollector.ofCollector src (.ofSchema schema a.ns) source
    let printed := print ((⟨a.ns, [c]⟩ : Registry).gather elapsed).1 writeError
    out.stdout = printed.stdout ∧ out.exitCode = printed.exitCode := by
  dsimp only
  rw [once, start, prepare, h]
  dsimp only
  rw [build_fst, List.isEmpty_cons, if_neg Bool.false_ne_true]
  exact ⟨rfl, rfl⟩

theorem gather_single (ns : String) (elapsed : String → Duration) (c : MetricCollector) :
    let g := ((⟨ns, [c]⟩ : Registry).gather elapsed).1
    g.printed =
        String.join (c.updated.samples.toList.map fun x => x.line ++ "\n") ++
          String.join ((Registry.health ns (c.outcome elapsed)).toList.map fun x => x.line ++ "\n") ∧
      g.succeeded = c.updated.failure.isNone := by
  rw [Registry.gather_eq]
  refine ⟨?_, ?_⟩
  · rw [← String.join_append, ← List.map_append]
    simp [Gathered.printed, MetricCollector.block]
  · simp [Gathered.succeeded, c.outcome_succeeded elapsed]

/-- A run with one scrape prints nothing if the schema cannot be loaded. Otherwise it prints the samples
of the scrape, of which there are none if no session can be opened, and two lines about its health. It
ends well if all of it is written and the session could be opened, whatever else went wrong. -/
theorem once_prints (src : Source ω σ) (source : ω) (a : Arguments) (file : File)
    (note : Array LogLine) (elapsed : String → Duration) (writeError : Option Nat) :
    let out := once src source a file note elapsed writeError
    match Schema.load file, writeError with
    | .error _, _ => out.stdout = "" ∧ out.exitCode = 1
    | .ok _, some _ => out.exitCode = 1
    | .ok schema, none =>
      let scrape := (Collector.ofSchema schema a.ns).scrape src source
      let opened := (src.acquire source).1.isOk
      scrape.result.isOk = opened ∧
        out.stdout = String.join (scrape.samples.map fun x => x.line ++ "\n") ++
          Registry.healthLines a.ns (elapsed "kstat") opened ∧
        out.exitCode = if opened then 0 else 1 := by
  intro out
  cases hload : Schema.load file with
  | error e =>
    have hout : out = start a file (.ofCollector src · source) note _ := rfl
    rw [start, prepare, hload] at hout
    rw [hout]
    exact ⟨rfl, rfl⟩
  | ok schema =>
    obtain ⟨hstdout, hexit⟩ := once_of_load src source a hload note elapsed writeError
    cases writeError with
    | some code => exact hexit
    | none =>
      let c := Collector.ofSchema schema a.ns
      let m := MetricCollector.ofCollector src c source
      obtain ⟨hsamples, hfailure⟩ := MetricCollector.updateOf_result (c.scrape src source)
      obtain ⟨hprinted, hsucceeded⟩ := gather_single a.ns elapsed m
      have hupdated : m.updated.samples.toList = (c.scrape src source).samples := hsamples
      have hopened := c.isOk_scrape src source
      have hok : m.updated.failure.isNone = (src.acquire source).1.isOk := hfailure.trans hopened
      have hhealth := Registry.lines_health a.ns (o := m.outcome elapsed) rfl
      rw [m.outcome_succeeded elapsed, hok] at hhealth
      refine ⟨hopened, ?_, ?_⟩
      · calc out.stdout = ((⟨a.ns, [m]⟩ : Registry).gather elapsed).1.printed := hstdout
          _ = _ := hprinted
          _ = _ := by
            rw [hhealth, hupdated]
            rfl
      · rw [hexit, ← hok, ← hsucceeded]
        rfl

end Daemon

end KernelStats
