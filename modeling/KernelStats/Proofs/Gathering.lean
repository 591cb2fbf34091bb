import KernelStats.Registry

/-!
# What a registry gathers

All collectors of a registry write into one array of samples. What is gathered is nevertheless the
blocks of the collectors, one after the other in the order of their registration, and the block of a
collector depends on that collector alone. So a collector that does something else, or fails, changes
its own block and its own outcome.
-/

namespace KernelStats

namespace MetricCollector

variable (ns : String) (elapsed : String → Duration) (c : MetricCollector)

def updated : Update := (c.update c.state).1

def next : MetricCollector := { c with state := (c.update c.state).2 }

def outcome : CollectorOutcome where
  name := c.name
  duration := elapsed c.name
  error := c.updated.failure.map CollectError.message

def block : List Sample :=
  c.updated.samples.toList ++ (Registry.health ns (c.outcome elapsed)).toList

def lines : List LogLine :=
  (c.updated.log (elapsed c.name)).toList ++
    (Registry.failureLog c.name (elapsed c.name) c.updated.failure).toList

theorem outcome_succeeded :
    (c.outcome elapsed).succeeded = c.updated.failure.isNone := by
  rw [outcome, CollectorOutcome.succeeded, Option.isNone_map]

theorem block_eq :
    c.block ns elapsed = c.updated.samples.toList ++
      [⟨Registry.durationDescriptor ns, c.name, (elapsed c.name).seconds⟩,
        ⟨Registry.successDescriptor ns, c.name,
          if c.updated.failure.isNone then 1.0 else 0.0⟩] := by
  rw [block, Registry.health, c.outcome_succeeded elapsed]
  rfl

theorem success_value_iff :
    let value : Float := if c.updated.failure.isNone then 1.0 else 0.0
    (value = 1.0 ↔ c.updated.failure = none) ∧ (value = 0.0 ↔ c.updated.failure ≠ none) := by
  have hne : (0.0 : Float) ≠ 1.0 := fun h => absurd (congrArg Float.toBits h) (by decide)
  cases c.updated.failure with
  | none => exact ⟨iff_of_true rfl rfl, iff_of_false hne.symm (not_not_intro rfl)⟩
  | some e => exact ⟨iff_of_false hne (Option.some_ne_none e), iff_of_true rfl (Option.some_ne_none e)⟩

end MetricCollector

namespace Registry

theorem updateAll_eq (cs : List MetricCollector) :
    updateAll cs = (cs.map fun c => (c.name, c.updated), cs.map .next) := by
  induction cs with
  | nil => rfl
  | cons c cs ih =>
    rw [updateAll, ih]
    rfl

theorem addUpdate_eq (ns : String) (elapsed : String → Duration) (g : Gathered)
    (c : MetricCollector) :
    addUpdate ns elapsed g (c.name, c.updated) =
      { samples := g.samples ++ (c.block ns elapsed).toArray
        outcomes := g.outcomes ++ #[c.outcome elapsed]
        log := g.log ++ (c.lines elapsed).toArray } := by
  have hblock : (c.block ns elapsed).toArray =
      c.updated.samples ++ health ns (c.outcome elapsed) := by
    rw [MetricCollector.block, ← Array.toList_append]
  have hlines : (c.lines elapsed).toArray =
      c.updated.log (elapsed c.name) ++
        failureLog c.name (elapsed c.name) c.updated.failure := by
    rw [MetricCollector.lines, ← Array.toList_append]
  rw [hblock, hlines, ← Array.append_assoc, ← Array.append_assoc]
  rfl

theorem foldl_addUpdate (ns : String) (elapsed : String → Duration) (cs : List MetricCollector)
    (g : Gathered) :
    (cs.map fun c => (c.name, c.updated)).foldl (addUpdate ns elapsed) g =
      { samples := g.samples ++ (cs.map (·.block ns elapsed)).flatten.toArray
        outcomes := g.outcomes ++ (cs.map (·.outcome elapsed)).toArray
        log := g.log ++ (cs.map (·.lines elapsed)).flatten.toArray } := by
  induction cs generalizing g with
  | nil => simp
  | cons c cs ih =>
    rw [List.map_cons, List.foldl_cons, addUpdate_eq, ih]
    simp

theorem gather_eq (r : Registry) (elapsed : String → Duration) :
    r.gather elapsed =
      ({ samples := (r.collectors.map (·.block r.ns elapsed)).flatten.toArray
         outcomes := (r.collectors.map (·.outcome elapsed)).toArray
         log := (r.collectors.map (·.lines elapsed)).flatten.toArray },
        { r with collectors := r.collectors.map .next }) := by
  rw [gather, update, updateAll_eq]
  dsimp only
  rw [gathered, foldl_addUpdate]
  simp

theorem map_set_eq (cs : List MetricCollector) (i : Nat) (c : MetricCollector)
    {f g : MetricCollector → α}
    (h : ∀ j, (hj : j < cs.length) → j ≠ i → g cs[j] = f cs[j]) :
    (cs.set i c).map g = (cs.map f).set i (g c) := by
  refine List.ext_getElem (by simp) fun j hj _ => ?_
  have hj' : j < cs.length := by simpa using hj
  rw [List.getElem_map, List.getElem_set, List.getElem_set, List.getElem_map]
  by_cases hij : i = j
  · rw [if_pos hij, if_pos hij]
  · rw [if_neg hij, if_neg hij, h j hj' (Ne.symm hij)]

/-- What is gathered is, for each collector in the order of registration, the samples of its update
and one each for its duration and its success, and its outcome. A collector that is replaced by one of
the same name changes its own block, outcome and log lines and no others. -/
theorem gather_isolates (r : Registry) (elapsed : String → Duration) :
    let (g, after) := r.gather elapsed
    (g.samples.toList = (r.collectors.map (·.block r.ns elapsed)).flatten ∧
      g.outcomes.toList = r.collectors.map (·.outcome elapsed) ∧
      after = { r with collectors := r.collectors.map .next }) ∧
    (∀ c ∈ r.collectors, ∃ duration success : Sample,
      c.block r.ns elapsed = c.updated.samples.toList ++ [duration, success] ∧
        duration.desc = durationDescriptor r.ns ∧ duration.labelValue = c.name ∧
        duration.value = (elapsed c.name).seconds ∧
        success.desc = successDescriptor r.ns ∧ success.labelValue = c.name ∧
        (success.value = 1.0 ↔ c.updated.failure = none) ∧
        (success.value = 0.0 ↔ c.updated.failure ≠ none) ∧
        (c.outcome elapsed).name = c.name ∧
        ((c.outcome elapsed).error.isSome = true ↔ c.updated.failure ≠ none)) ∧
    ∀ i c' elapsed', (∀ j, (hj : j < r.collectors.length) → j ≠ i →
        elapsed' r.collectors[j].name = elapsed r.collectors[j].name) →
      let (g', after') := gather { r with collectors := r.collectors.set i c' } elapsed'
      g'.samples.toList =
          ((r.collectors.map (·.block r.ns elapsed)).set i (c'.block r.ns elapsed')).flatten ∧
        g'.outcomes.toList = g.outcomes.toList.set i (c'.outcome elapsed') ∧
        g'.log.toList =
          ((r.collectors.map (·.lines elapsed)).set i (c'.lines elapsed')).flatten ∧
        after'.collectors = after.collectors.set i c'.next := by
  rw [gather_eq]
  refine ⟨⟨rfl, rfl, rfl⟩, fun c _ => ?_, fun i c' elapsed' h => ?_⟩
  · obtain ⟨hone, hzero⟩ := c.success_value_iff
    have herror : (c.outcome elapsed).error.isSome = true ↔ c.updated.failure ≠ none := by
      rw [MetricCollector.outcome, Option.isSome_map, Option.isSome_iff_ne_none]
    exact ⟨_, _, c.block_eq r.ns elapsed, rfl, rfl, rfl, rfl, rfl, hone, hzero, rfl, herror⟩
  · rw [gather_eq]
    have hblocks : (r.collectors.set i c').map (·.block r.ns elapsed') =
        (r.collectors.map (·.block r.ns elapsed)).set i (c'.block r.ns elapsed') :=
      map_set_eq _ i c' fun j hj hji => by
        rw [MetricCollector.block, MetricCollector.block, MetricCollector.outcome,
          MetricCollector.outcome, h j hj hji]
    have houtcomes : (r.collectors.set i c').map (·.outcome elapsed') =
        (r.collectors.map (·.outcome elapsed)).set i (c'.outcome elapsed') :=
      map_set_eq _ i c' fun j hj hji => by
        rw [MetricCollector.outcome, MetricCollector.outcome, h j hj hji]
    have hlines : (r.collectors.set i c').map (·.lines elapsed') =
        (r.collectors.map (·.lines elapsed)).set i (c'.lines elapsed') :=
      map_set_eq _ i c' fun j hj hji => by
        rw [MetricCollector.lines, MetricCollector.lines, h j hj hji]
    exact ⟨congrArg List.flatten hblocks, houtcomes, congrArg List.flatten hlines, List.map_set⟩

end Registry

/-- A collector that emits one sample for each label, and then may fail. -/
def MetricCollector.emitting (name : String) (labels : List String)
    (failure : Option CollectError) : MetricCollector where
  State := Unit
  name := name
  update state := ({
    samples := (labels.map fun label => ⟨⟨"node_" ++ name, "", name⟩, label, 1.0⟩).toArray
    failure }, state)
  state := ()

theorem Registry.gather_isolates_failing :
    let r : Registry := ⟨"node", [
      .emitting "cpu" ["0", "1"] none,
      .emitting "disk" ["sd0", "sd1"] none,
      .emitting "net" ["lo0"] none]⟩
    let failing := .emitting "disk" ["sd0"] (some (.unopened (.unavailable "no such device")))
    let elapsed : String → Duration := fun _ => ⟨5⟩
    let elapsed' : String → Duration := fun name => if name = "disk" then ⟨1⟩ else ⟨5⟩
    let (g, after) := Registry.gather { r with collectors := r.collectors.set 1 failing } elapsed'
    (∀ j, (hj : j < r.collectors.length) → j ≠ 1 →
      elapsed' r.collectors[j].name = elapsed r.collectors[j].name) ∧
      g.samples.toList.map (fun s => (s.desc.name, s.labelValue)) = [
        ("node_cpu", "0"),
        ("node_cpu", "1"),
        ("node_scrape_collector_duration_seconds", "cpu"),
        ("node_scrape_collector_success", "cpu"),
        ("node_disk", "sd0"),
        ("node_scrape_collector_duration_seconds", "disk"),
        ("node_scrape_collector_success", "disk"),
        ("node_net", "lo0"),
        ("node_scrape_collector_duration_seconds", "net"),
        ("node_scrape_collector_success", "net")] ∧
      (g.samples.toList.filter (·.desc = Registry.successDescriptor "node")).map (·.value) =
        [1.0, 0.0, 1.0] ∧
      g.outcomes.toList = [⟨"cpu", ⟨5⟩, none⟩,
        ⟨"disk", ⟨1⟩, some "cannot open kstat session: kstat unavailable: no such device"⟩,
        ⟨"net", ⟨5⟩, none⟩] ∧
      after.collectors.map (·.name) = ["cpu", "disk", "net"] := by
  intro r failing elapsed elapsed'
  have helapsed : ∀ j, (hj : j < r.collectors.length) → j ≠ 1 →
      elapsed' r.collectors[j].name = elapsed r.collectors[j].name := by decide
  obtain ⟨⟨-, houtcomes, hafter⟩, -, hreplaced⟩ := Registry.gather_isolates r elapsed
  obtain ⟨hsamples', houtcomes', -, hafter'⟩ := hreplaced 1 failing elapsed' helapsed
  refine ⟨helapsed, ?_, ?_, ?_, ?_⟩
  · refine (congrArg (List.map fun s => (s.desc.name, s.labelValue)) hsamples').trans ?_
    decide +kernel
  · refine (congrArg (List.map Sample.value ∘ List.filter _) hsamples').trans ?_
    rfl
  · refine houtcomes'.trans ((congrArg (List.set · 1 _) houtcomes).trans ?_)
    decide
  · exact (congrArg (List.map (·.name)) hafter').trans
      (congrArg (fun x => (x.collectors.set 1 failing.next).map (·.name)) hafter)

end KernelStats
