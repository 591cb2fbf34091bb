import KernelStats.Proofs.Gathering
import KernelStats.Proofs.Independence
import KernelStats.Proofs.SessionLifetime
import KernelStats.Proofs.Translation

/-!
# The namespace as a prefix

A namespace goes into the names of descriptors, wherever they are built, and nowhere else. So a scrape
under a namespace is the scrape without one, with the namespace before each name, and the same holds of
the samples about the health of collectors.
-/

namespace KernelStats

def Descriptor.under (ns : String) (d : Descriptor) : Descriptor :=
  { d with name := ns ++ "_" ++ d.name }

theorem metricName_eq {ns subsystem : String} (hns : ns ≠ "") (hsubsystem : subsystem ≠ "")
    (name : String) :
    metricName ns subsystem name = ns ++ "_" ++ metricName "" subsystem name := by
  simp [metricName, joinParts, hns, hsubsystem, String.intercalate_cons_cons]

section
variable {ns : String} (hns : ns ≠ "")
include hns

theorem Descriptor.forCounter_under (module group : String) (c : Schema.Counter) (label : String) :
    forCounter ns module group c label = (forCounter "" module group c label).under ns := by
  rw [forCounter, metricName_eq hns (subsystem_ne_empty module group)]
  rfl

theorem Descriptor.forSnaptime_under (module group : String) :
    forSnaptime ns module group = (forSnaptime "" module group).under ns := by
  rw [forSnaptime, metricName_eq hns (subsystem_ne_empty module group)]
  rfl

theorem DescriptorSet.build_under (module name : String) (g : Schema.Group) :
    build ns module name g = (build "" module name g).rename (.under ns) := by
  rw [build, build, rename, List.map_map, Descriptor.forSnaptime_under hns]
  congr 1
  exact List.map_congr_left fun c _ => Descriptor.forCounter_under hns module name c g.label

theorem Renames.under : Renames "" ns (.under ns) :=
  fun module name g => DescriptorSet.build_under hns module name g

theorem Registry.durationDescriptor_under :
    durationDescriptor ns = (durationDescriptor "").under ns := by
  rw [durationDescriptor, metricName_eq hns (by decide)]
  rfl

theorem Registry.successDescriptor_under :
    successDescriptor ns = (successDescriptor "").under ns := by
  rw [successDescriptor, metricName_eq hns (by decide)]
  rfl

end

theorem Session.Faithful.logged {s : Session σ} (h : s.Faithful) : s.logged.Faithful where
  lookup hes e he := h.lookup hes e he
  read st e := h.read st.1 e

namespace Collector

structure Prefixes (ns : String) (c plain : Collector) (src : Source ω σ) : Prop where
  result : ∀ source sink, (c.collect src source sink).result =
    (plain.scrape src source).result.map (.rename sink (.under ns))
  source : ∀ source sink, (c.collect src source sink).source = (plain.scrape src source).source
  contacts : ∀ source contacts sink,
    (c.collect src.watched (source, contacts) sink).source.2 =
      (plain.scrape src.watched (source, contacts)).source.2

theorem collect_ofSchema_under (schema : Schema) {ns : String} (hns : ns ≠ "") (src : Source ω σ)
    (source : ω) (sink : Array Sample) :
    let out := (ofSchema schema "").scrape src source
    (ofSchema schema ns).collect src source sink =
      ⟨out.result.map (.rename sink (.under ns)),
        ⟨ns, out.collector.modules.map (.rename (.under ns))⟩, out.source⟩ := by
  rw [(Renames.under hns).ofSchema schema]
  exact (ofSchema schema "").collect_rename src source sink (.under hns)

theorem prefixes_ofSchema (schema : Schema) {ns : String} (hns : ns ≠ "") (src : Source ω σ) :
    Prefixes ns (ofSchema schema ns) (ofSchema schema "") src where
  result source sink := by rw [collect_ofSchema_under schema hns]
  source source sink := by rw [collect_ofSchema_under schema hns]
  contacts source contacts sink := by rw [collect_ofSchema_under schema hns]

theorem Prefixes.reached {schema : Schema} {ns : String} {c plain : Collector} {src : Source ω σ}
    (h : Prefixes ns (ofSchema schema ns) (ofSchema schema "") src)
    (hc : Reached schema ns c) (hplain : Reached schema "" plain) (hsrc : src.Faithful) :
    Prefixes ns c plain src where
  result source sink := by
    have hout := Prod.mk.inj (hc.collect_eq_fresh hsrc source sink)
    have hbare := Prod.mk.inj (hplain.collect_eq_fresh hsrc source #[])
    rw [hout.1, scrape, hbare.1]
    exact h.result source sink
  source source sink := by
    have hout := Prod.mk.inj (hc.collect_eq_fresh hsrc source sink)
    have hbare := Prod.mk.inj (hplain.collect_eq_fresh hsrc source #[])
    rw [hout.2, scrape, hbare.2]
    exact h.source source sink
  contacts source contacts sink := by
    have hwatched : src.watched.Faithful := Session.Faithful.logged hsrc
    have hout := Prod.mk.inj (hc.collect_eq_fresh hwatched (source, contacts) sink)
    have hbare := Prod.mk.inj (hplain.collect_eq_fresh hwatched (source, contacts) #[])
    rw [hout.2, scrape, hbare.2]
    exact h.contacts source contacts sink

/-- A namespace is a prefix of the names and nothing else: of the samples of new collectors over any
source, of those of used ones over the sources that there are, and of the samples about health. -/
theorem namespace_prefixes (schema : Schema) {ns : String} (hns : ns ≠ "") (src : Source ω σ) :
    Prefixes ns (ofSchema schema ns) (ofSchema schema "") src ∧
      (src.Provided → ∀ c plain, Reached schema ns c → Reached schema "" plain →
        Prefixes ns c plain src) ∧
      ∀ (cs : List MetricCollector) (elapsed elapsed' : String → Duration),
        let g := ((⟨ns, cs⟩ : Registry).gather elapsed).1
        let plain := ((⟨"", cs⟩ : Registry).gather elapsed').1
        let duration := fun c : MetricCollector =>
          Sample.mk (Registry.durationDescriptor "") c.name (elapsed' c.name).seconds
        let success := fun c : MetricCollector =>
          Sample.mk (Registry.successDescriptor "") c.name
            (if c.updated.failure.isNone then 1.0 else 0.0)
        plain.samples.toList =
            (cs.map fun c => c.updated.samples.toList ++ [duration c, success c]).flatten ∧
          g.samples.toList =
            (cs.map fun c => c.updated.samples.toList ++
              [{ (duration c).rename (.under ns) with value := (elapsed c.name).seconds },
                (success c).rename (.under ns)]).flatten := by
  have hnew := prefixes_ofSchema schema hns src
  refine ⟨hnew, fun hsrc c plain hc hplain => hnew.reached hc hplain hsrc.faithful, ?_⟩
  intro cs elapsed elapsed'
  refine ⟨?_, ?_⟩
  · simp only [Registry.gather_eq, MetricCollector.block_eq]
  · simp only [Registry.gather_eq, MetricCollector.block_eq,
      Registry.durationDescriptor_under hns, Registry.successDescriptor_under hns]
    rfl

theorem namespace_prefixes_used :
    let source : Memory := { data := .typicalSystem }
    let c := ((ofSchema .brief "node").collect Memory.source source #[]).collector
    let plain := ofSchema .brief ""
    let out := (c.collect Memory.source source #[]).result.toOption
    (("node" : String) ≠ "" ∧ Memory.source.Provided ∧
      Reached .brief "node" c ∧ Reached .brief "" plain) ∧
      out.map (·.emitted) = some 14 ∧
      (out.bind (·.sink.toList.head?)).map (·.desc.name) =
        some "node_kstat_cpu_sys_syscall_total" := by
  intro source c plain out
  have hnode : ("node" : String) ≠ "" := by decide
  have hc : Reached .brief "node" c := Reached.new.collect _ _ _
  obtain ⟨-, hused, -⟩ := namespace_prefixes .brief hnode Memory.source
  have hprefixes := hused .memory c plain hc .new
  obtain ⟨hscrape, -⟩ := collect_memory_eq .brief "" (m := source) rfl #[]
  have hresult := hprefixes.result source #[]
  have hplain : (plain.scrape Memory.source source).result = _ := hscrape
  rw [hplain] at hresult
  refine ⟨⟨hnode, .memory, hc, .new⟩, ?_, ?_⟩
  · dsimp only [out]
    rw [hresult]
    decide +kernel
  · dsimp only [out]
    rw [hresult]
    decide +kernel

end Collector

end KernelStats
