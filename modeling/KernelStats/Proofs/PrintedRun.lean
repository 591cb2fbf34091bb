import KernelStats.Proofs.DistinctSeries
import KernelStats.Proofs.PrintedLines
import KernelStats.Proofs.Utf8RoundTrip

/-!
# What a run prints, line by line

The loader of schemas asks of a label and of a suffix only that they are not empty, and both go into the
lines of samples as they are. An end of a line in one of them cuts a sample in two. Nothing else does:
modules, groups and counters are found under their own names, and there is no end of a line in a name
of the built-in system. So a run prints one line for each sample as long as its schema has no end of a
line in a label or a suffix, and it prints more than that as soon as such a text is in a sample.
-/

namespace KernelStats

theorem lineBreaks_joinParts (parts : List String) :
    lineBreaks (joinParts parts) = (parts.map lineBreaks).sum := by
  have hjoin (parts : List String) :
      lineBreaks ("_".intercalate parts) = (parts.map lineBreaks).sum := by
    have hline : lineBreaks "_" = 0 := by decide
    induction parts with
    | nil => rfl
    | cons p parts ih =>
      cases parts with
      | nil => simp
      | cons q parts =>
        rw [String.intercalate_cons_cons, lineBreaks_append, lineBreaks_append, ih, hline, Nat.add_zero,
          ← List.sum_cons, ← List.map_cons]
  rw [joinParts, hjoin]
  induction parts with
  | nil => rfl
  | cons p parts ih =>
    cases hp : p.isEmpty with
    | true =>
      obtain rfl := String.isEmpty_iff.mp hp
      have hempty : lineBreaks "" = 0 := rfl
      simpa [hempty] using ih
    | false => simp [hp, ih]

theorem lineBreaks_underscored (s : String) : lineBreaks (underscored s) = lineBreaks s := by
  rw [lineBreaks, lineBreaks, underscored, String.toList_map]
  induction s.toList with
  | nil => rfl
  | cons c cs ih =>
    rw [List.map_cons, List.count_cons, List.count_cons, ih]
    by_cases hc : c = '-'
    · subst hc
      rfl
    · rw [if_neg hc]

theorem lineBreaks_toString (n : Nat) : lineBreaks (toString n) = 0 := by
  rw [lineBreaks_eq_zero, Nat.toString_eq_ofList_toDigits, String.toList_ofList]
  exact Number.newline_notMem_toDigits n

namespace Descriptor

theorem lineBreaks_subsystem (module group : String) :
    lineBreaks (subsystem module group) = lineBreaks module + lineBreaks group := by
  have h : lineBreaks "kstat_" = 0 ∧ lineBreaks "_" = 0 := by decide
  simp only [subsystem, lineBreaks_append, lineBreaks_underscored, h]
  omega

theorem lineBreaks_forCounter (ns module group : String) (c : Schema.Counter) (label : String) :
    lineBreaks (forCounter ns module group c label).name =
      lineBreaks ns + lineBreaks module + lineBreaks group + lineBreaks c.id + lineBreaks c.suffix := by
  have h : lineBreaks "_" = 0 := by decide
  simp only [forCounter, metricName, lineBreaks_joinParts, List.map_cons, List.map_nil, List.sum_cons,
    List.sum_nil, lineBreaks_subsystem, statName, lineBreaks_append, lineBreaks_underscored, h]
  omega

theorem lineBreaks_forSnaptime (ns module group : String) :
    lineBreaks (forSnaptime ns module group).name =
      lineBreaks ns + lineBreaks module + lineBreaks group := by
  have h : lineBreaks snaptimeName = 0 := by decide
  simp only [forSnaptime, metricName, lineBreaks_joinParts, List.map_cons, List.map_nil, List.sum_cons,
    List.sum_nil, lineBreaks_subsystem, h]
  omega

end Descriptor

/-- If there are ends of lines in a sample, they are those of the group's label and of a suffix. -/
def Schema.Group.Breaks (g : Group) (s : Sample) : Prop :=
  lineBreaks s.line = 0 ∨
    ∃ c ∈ g.counters, s.desc.label = g.label ∧
      lineBreaks s.line = lineBreaks g.label + lineBreaks c.suffix

namespace Schema.Group

variable {ns module name labelValue : String} {g : Group}
  (hwhere : lineBreaks ns = 0 ∧ lineBreaks module = 0 ∧ lineBreaks name = 0)
  (hlabel : lineBreaks labelValue = 0)
include hwhere hlabel

theorem breaks_forCounter {c : Counter} (hc : c ∈ g.counters) (hid : lineBreaks c.id = 0)
    (value : Float) : g.Breaks ⟨.forCounter ns module name c g.label, labelValue, value⟩ := by
  have hname := Descriptor.lineBreaks_forCounter ns module name c g.label
  obtain ⟨hns, hmodule, hname'⟩ := hwhere
  refine .inr ⟨c, hc, rfl, ?_⟩
  rw [Sample.lineBreaks_line, Sample.lineBreaks_series, hname, hns, hmodule, hname', hid, hlabel]
  simp only [Descriptor.forCounter]
  omega

theorem breaks_forSnaptime (value : Float) :
    g.Breaks ⟨.forSnaptime ns module name, labelValue, value⟩ := by
  have hinst : lineBreaks (Descriptor.forSnaptime ns module name).label = 0 :=
    (by decide : lineBreaks Descriptor.snaptimeLabel = 0)
  obtain ⟨hns, hmodule, hname⟩ := hwhere
  left
  rw [Sample.lineBreaks_line, Sample.lineBreaks_series, Descriptor.lineBreaks_forSnaptime, hns,
    hmodule, hname, hlabel, hinst]

end Schema.Group

theorem Vminfo.lineBreaks_of_mem_words {v : Vminfo} {word : String × UInt64} (h : word ∈ v.words) :
    lineBreaks word.1 = 0 := by
  have hnames : ∀ id ∈ v.words.map Prod.fst, lineBreaks id = 0 :=
    (by decide : ∀ id ∈ ["freemem", "swap_resv", "swap_alloc", "swap_avail", "swap_free", "updates"],
      lineBreaks id = 0)
  exact hnames _ (List.mem_map_of_mem h)

namespace Memory

theorem Kstat.mem_of_value {k : Kstat} {content : Content} (h : k.content = .ok content)
    {id : String} {raw : UInt64} (hraw : content.value id = .ok raw) : ∃ v, (id, v) ∈ k.stats := by
  rw [Kstat.content] at h
  split at h
  · cases h
  · cases h
    have hraw : k.answer id = .ok raw := hraw
    rw [Kstat.answer] at hraw
    cases hv : k.stats.lookup id with
    | none =>
      rw [hv] at hraw
      cases hraw
    | some v => exact ⟨v, mem_of_lookup hv⟩

namespace Data

def OneLineNames (d : Data) : Prop :=
  ∀ k ∈ d.chain, lineBreaks k.module = 0 ∧ lineBreaks k.name = 0 ∧
    ∀ stat ∈ k.stats, lineBreaks stat.1 = 0

instance (d : Data) : Decidable d.OneLineNames := inferInstanceAs (Decidable (∀ _ ∈ _, _))

theorem oneLineNames_typicalSystem : typicalSystem.OneLineNames := by decide +kernel

variable {d : Data} (hd : d.OneLineNames) {ns : String} (hns : lineBreaks ns = 0)
include hd hns

theorem breaks_visit {v : Visit} (hv : v.reading ∈ d.snapshot.find v.module v.inst v.group.pattern)
    {s : Sample} (hs : .sample s ∈ (Step.visit v).events ns) : v.group.Breaks s := by
  obtain ⟨module, g, inst, r⟩ := v
  obtain ⟨⟨k, slot⟩, hk, rfl⟩ := List.mem_map.mp (find_snapshot d module inst g.pattern ▸ hv)
  obtain ⟨hchain, rfl, -, -⟩ := mem_found.mp hk
  obtain ⟨hmodule, hname, hstats⟩ := hd k (List.mem_of_getElem? hchain)
  have hwhere : lineBreaks ns = 0 ∧ lineBreaks k.module = 0 ∧ lineBreaks k.name = 0 :=
    ⟨hns, hmodule, hname⟩
  have hlabel := lineBreaks_toString inst.toNat
  rw [Step.events, Step.occurrences, Visit.occurrences] at hs
  cases hcontent : k.content with
  | error cause => simp [Kstat.reading, hcontent] at hs
  | ok content =>
    simp only [Kstat.reading, hcontent, List.map_append, List.map_map, List.mem_append, List.mem_map,
      List.map_cons, List.map_nil, List.mem_singleton, Function.comp_apply] at hs
    rcases hs with ⟨c, hc, hs⟩ | hs
    · rw [Visit.counterEvent] at hs
      cases hraw : content.value c.id with
      | error cause => simp [hraw] at hs
      | ok raw =>
        rw [hraw] at hs
        obtain ⟨value, hvalue⟩ := Kstat.mem_of_value hcontent hraw
        cases hs
        exact Schema.Group.breaks_forCounter hwhere hlabel hc (hstats _ hvalue) _
    · cases hs
      exact Schema.Group.breaks_forSnaptime hwhere hlabel _

omit hd in
theorem breaks_structured {module : String} (hmodule : lineBreaks module = 0) {g : Schema.Group}
    {kind : StructuredKind} {answer : Except SourceError StructuredStats} {s : Sample}
    (hs : .sample s ∈ (Step.structured module g kind answer).events ns) : g.Breaks s := by
  have hwhere : lineBreaks ns = 0 ∧ lineBreaks module = 0 ∧ lineBreaks kind.name = 0 := by
    refine ⟨hns, hmodule, ?_⟩
    cases kind with
    | vminfo => decide
  have hlabel : lineBreaks Progress.structuredLabel = 0 := by decide
  cases answer with
  | error cause => simp [Step.events, Step.occurrences] at hs
  | ok stats =>
    obtain ⟨fields, time⟩ := stats
    simp only [Step.events, Step.occurrences, List.map_append, List.map_map, List.mem_append,
      List.mem_map, List.map_cons, List.map_nil, List.mem_singleton, Function.comp_apply] at hs
    rcases hs with ⟨c, hc, hs⟩ | hs
    · rw [fieldEvent, StructuredStats.words] at hs
      cases hraw : fields.words.lookup c.id with
      | none => simp [hraw] at hs
      | some raw =>
        rw [hraw] at hs
        have hid := Vminfo.lineBreaks_of_mem_words (mem_of_lookup hraw)
        cases hs
        exact Schema.Group.breaks_forCounter hwhere hlabel hc hid _
    · cases hs
      exact Schema.Group.breaks_forSnaptime hwhere hlabel _

theorem breaks_events {schema : Schema} {s : Sample} (hs : .sample s ∈ d.snapshot.events ns schema) :
    ∃ x ∈ schema.declared, x.2.Breaks s := by
  rw [Snapshot.events_eq, Snapshot.steps_eq_declared, List.flatMap_assoc] at hs
  obtain ⟨x, hx, hs⟩ := List.mem_flatMap.mp hs
  obtain ⟨step, hstep, hs⟩ := List.mem_flatMap.mp hs
  refine ⟨x, hx, ?_⟩
  cases hr : StructuredKind.route? x.1 x.2.pattern with
  | some kind =>
    have hmodule : lineBreaks x.1 = 0 := by
      rw [(Schema.isRecord_of_route? hr).1]
      decide
    rw [Snapshot.groupSteps_of_some hr, Snapshot.structuredSteps] at hstep
    rcases List.mem_pair.mp hstep with rfl | rfl
    · exact breaks_structured hns hmodule hs
    · simp [Step.events, Step.occurrences] at hs
  | none =>
    rw [Snapshot.groupSteps_of_none hr] at hstep
    rcases Snapshot.mem_namedSteps hstep with ⟨i, rfl⟩ | ⟨i, r, hfound, rfl⟩ | rfl | rfl
    · simp [Step.events, Step.occurrences] at hs
    · exact breaks_visit hd hns hfound hs
    · simp [Step.events, Step.occurrences] at hs
    · simp [Step.events, Step.occurrences] at hs

end Data

end Memory

theorem Schema.load_encode (text : String) :
    load (.content (Utf8.encode text)) = ofText text := by
  rw [load, File.text, Utf8.decode?_encode]

def Schema.OneLineTexts (schema : Schema) : Prop :=
  ∀ x ∈ schema.declared, lineBreaks x.2.label = 0 ∧ ∀ c ∈ x.2.counters, lineBreaks c.suffix = 0

theorem Schema.Group.Breaks.eq_zero {schema : Schema} (h : schema.OneLineTexts)
    {x : String × Schema.Group} (hx : x ∈ schema.declared) {s : Sample} (hs : x.2.Breaks s) :
    lineBreaks s.line = 0 := by
  obtain ⟨hlabel, hsuffix⟩ := h x hx
  rcases hs with hs | ⟨c, hc, -, hs⟩
  · exact hs
  · rw [hs, hlabel, hsuffix c hc]

theorem Registry.lineBreaks_health {ns : String} (hns : lineBreaks ns = 0) {o : CollectorOutcome}
    (ho : lineBreaks o.name = 0) {s : Sample} (hs : s ∈ health ns o) : lineBreaks s.line = 0 := by
  have hname (last : String) (h : lineBreaks last = 0) :
      lineBreaks (metricName ns "scrape" last) = 0 := by
    have hscrape : lineBreaks "scrape" = 0 := by decide
    simp [metricName, lineBreaks_joinParts, hns, hscrape, h]
  have hlabel : lineBreaks collectorLabel = 0 := by decide
  have hduration := hname "collector_duration_seconds" (by decide)
  have hsuccess := hname "collector_success" (by decide)
  rw [s.lineBreaks_line, s.lineBreaks_series]
  simp only [health, List.mem_toArray, List.mem_pair] at hs
  rcases hs with rfl | rfl
  · simp [durationDescriptor, hduration, hlabel, ho]
  · simp [successDescriptor, hsuccess, hlabel, ho]

namespace Daemon

def gathered (schema : Schema) (ns : String) (elapsed : String → Duration) : Gathered :=
  ((⟨ns, [.ofCollector Memory.source (.ofSchema schema ns) builtIn]⟩ : Registry).gather elapsed).1

theorem breaks_gathered (schema : Schema) {ns : String} (hns : lineBreaks ns = 0)
    (elapsed : String → Duration) {s : Sample} (hs : s ∈ (gathered schema ns elapsed).samples) :
    lineBreaks s.line = 0 ∨ ∃ x ∈ schema.declared, x.2.Breaks s := by
  let m := MetricCollector.ofCollector Memory.source (.ofSchema schema ns) builtIn
  have hblock : s ∈ m.block ns elapsed := by
    simpa [gathered, Registry.gather_eq] using hs
  rcases List.mem_append.mp hblock with hsample | hhealth
  · right
    obtain ⟨hscrape, -⟩ := Collector.collect_memory_eq schema ns (m := builtIn) rfl #[]
    have hupdated : m.updated.samples =
        (({} : Scrape).recordAll (builtIn.data.snapshot.events ns schema)).sink :=
      congrArg (fun r => (MetricCollector.updateOf r).samples) hscrape
    rw [hupdated, Scrape.recordAll_eq] at hsample
    simp only [Array.toList_appendList, List.nil_append] at hsample
    obtain ⟨e, he, hes⟩ := List.mem_filterMap.mp hsample
    cases e with
    | sample s' =>
      cases hes
      exact Memory.Data.breaks_events Memory.Data.oneLineNames_typicalSystem hns he
    | _ => cases hes
  · left
    have hname : lineBreaks MetricCollector.kernelName = 0 := by decide
    exact Registry.lineBreaks_health hns (o := m.outcome elapsed) hname (Array.mem_toList_iff.mp hhealth)

theorem stdout_eq_printed {a : Arguments} (ha : a.once = true) {file : File} {schema : Schema}
    (h : Schema.load file = .ok schema) (elapsed : String → Duration) (now : String) :
    (run a file elapsed now none).stdout = (gathered schema a.ns elapsed).printed := by
  have hrun : run a file elapsed now none =
      once Memory.source builtIn a file #[noKernelLine] elapsed none := if_pos ha
  rw [hrun]
  exact (once_of_load Memory.source builtIn a h #[noKernelLine] elapsed none).1

def hitsText (label : String) : String :=
  "kstat_modules:\n- id: zfs\n  kstat_names:\n  - id: arcstats\n    label_string: \"" ++ label ++
    "\"\n    kstat_stats:\n    - id: hits\n"

def hits (label : String) : Schema where
  modules := [
    { id := "zfs"
      groups := [{
        pattern := (GroupPattern.ofText? "arcstats").get (by rfl)
        label
        counters := [⟨"hits", "zfs::arcstats:hits", "total", 1.0⟩] }] }]

def quietOnce : Arguments where
  config := "k.yml"
  interval := 15
  ns := defaultNamespace
  once := true
  verbose := 0
  quiet := true

set_option maxRecDepth 4000 in
theorem load_plainLabel :
    Schema.load (.content (Utf8.encode (hitsText "pool name"))) = .ok (hits "pool name") := by
  rw [Schema.load_encode]
  rfl

set_option maxRecDepth 4000 in
theorem load_brokenLabel :
    Schema.load (.content (Utf8.encode (hitsText "a\\nb"))) = .ok (hits "a\nb") := by
  rw [Schema.load_encode]
  rfl

/-- A run with one scrape prints one line for each sample if no label and no suffix of its schema ends a
line. If one does, the samples that it is in are cut, and nothing else is. -/
theorem run_prints_lines {a : Arguments} (ha : a.once = true) (hns : lineBreaks a.ns = 0)
    {file : File} {schema : Schema} (h : Schema.load file = .ok schema)
    (elapsed : String → Duration) (now : String) :
    let g := gathered schema a.ns elapsed
    let out := run a file elapsed now none
    (schema.OneLineTexts → linesOf out.stdout = g.samples.toList.map Sample.line ++ [""]) ∧
      (linesOf out.stdout = g.samples.toList.map Sample.line ++ [""] ↔
        ∀ s ∈ g.samples, lineBreaks s.line = 0) ∧
      lineBreaks out.stdout =
        g.samples.size + (g.samples.toList.map fun s => lineBreaks s.line).sum ∧
      ∀ s ∈ g.samples, lineBreaks s.line = 0 ∨ ∃ x ∈ schema.declared, ∃ c ∈ x.2.counters,
        s.desc.label = x.2.label ∧
          lineBreaks s.line = lineBreaks x.2.label + lineBreaks c.suffix := by
  intro g out
  have hbreaks : ∀ s ∈ g.samples, lineBreaks s.line = 0 ∨ ∃ x ∈ schema.declared, x.2.Breaks s :=
    fun s hs => breaks_gathered schema hns elapsed hs
  have hstdout : out.stdout = g.printed := stdout_eq_printed ha h elapsed now
  rw [hstdout]
  refine ⟨?_, g.linesOf_printed_iff, g.lineBreaks_printed, ?_⟩
  · intro htexts
    rw [g.linesOf_printed_iff]
    intro s hs
    rcases hbreaks s hs with hs | ⟨x, hx, hs⟩
    · exact hs
    · exact hs.eq_zero htexts hx
  · intro s hs
    rcases hbreaks s hs with hs | ⟨x, hx, hs | hs⟩
    · exact .inl hs
    · exact .inl hs
    · exact .inr ⟨x, hx, hs⟩

theorem run_prints_lines_plainLabel :
    let file := File.content (Utf8.encode (hitsText "pool name"))
    let schema := hits "pool name"
    let g := gathered schema quietOnce.ns fun _ => ⟨0⟩
    let out := run quietOnce file (fun _ => ⟨0⟩) "" none
    (quietOnce.once = true ∧ lineBreaks quietOnce.ns = 0 ∧ Schema.load file = .ok schema ∧
        schema.OneLineTexts) ∧
      g.samples.size = 4 ∧ linesOf out.stdout = g.samples.toList.map Sample.line ++ [""] := by
  have hns : lineBreaks quietOnce.ns = 0 := by decide
  have htexts : (hits "pool name").OneLineTexts := by
    intro x hx
    obtain rfl := List.mem_singleton.mp hx
    refine ⟨by decide, fun c hc => ?_⟩
    obtain rfl := List.mem_singleton.mp hc
    decide
  obtain ⟨hlines, -⟩ :=
    run_prints_lines (a := quietOnce) rfl hns load_plainLabel (fun _ => ⟨0⟩) ""
  exact ⟨⟨rfl, hns, load_plainLabel, htexts⟩, by decide +kernel, hlines htexts⟩

theorem run_cuts_brokenLabel :
    let file := File.content (Utf8.encode (hitsText "a\\nb"))
    let schema := hits "a\nb"
    let g := gathered schema quietOnce.ns fun _ => ⟨0⟩
    let out := run quietOnce file (fun _ => ⟨0⟩) "" none
    quietOnce.once = true ∧ lineBreaks quietOnce.ns = 0 ∧ Schema.load file = .ok schema ∧
      g.samples.size = 4 ∧ lineBreaks out.stdout = 5 ∧
      linesOf out.stdout ≠ g.samples.toList.map Sample.line ++ [""] := by
  have hseries : (gathered (hits "a\nb") quietOnce.ns fun _ => ⟨0⟩).samples.toList.map Sample.series =
      [ "node_kstat_zfs_arcstats_hits_total\x7ba\nb=\"0\"\x7d ",
        "node_kstat_zfs_arcstats_snaptime\x7binst=\"0\"\x7d ",
        "node_scrape_collector_duration_seconds\x7bcollector=\"kstat\"\x7d ",
        "node_scrape_collector_success\x7bcollector=\"kstat\"\x7d "] := by
    decide +kernel
  have hstdout := stdout_eq_printed (a := quietOnce) rfl load_brokenLabel (fun _ => ⟨0⟩) ""
  refine ⟨rfl, by decide, load_brokenLabel, ?_⟩
  rw [hstdout]
  generalize gathered (hits "a\nb") quietOnce.ns (fun _ => ⟨0⟩) = g at hseries ⊢
  have hsize : g.samples.size = 4 := by
    rw [← Array.length_toList, ← List.length_map Sample.series, hseries]
    rfl
  have hbreaks : (g.samples.toList.map fun s => lineBreaks s.line) =
      (g.samples.toList.map Sample.series).map lineBreaks := by
    rw [List.map_map]
    exact List.map_congr_left fun s _ => s.lineBreaks_line
  have hcount : lineBreaks g.printed = 5 := by
    rw [g.lineBreaks_printed, hsize, hbreaks, hseries]
    decide
  refine ⟨hsize, hcount, ?_⟩
  -- five lines and what follows them are more than four samples make
  intro hlines
  have hlength := congrArg List.length hlines
  rw [length_linesOf, hcount, List.length_append, List.length_map, Array.length_toList, hsize] at hlength
  exact absurd hlength (by decide)

end Daemon

end KernelStats
