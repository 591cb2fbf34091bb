import Mathlib.Data.List.Flatten
import Mathlib.Data.List.Nodup
import KernelStats.Proofs.RecordGroups

/-!
# One sample for each series

A series is told by the name of its metric and the value of its label. A group with one name gives each
of its names once for an instance, if no two statistics have the same key, and instances have labels of
their own. So the series of a scrape are distinct as soon as the names of the plan are.
-/

namespace KernelStats

def Sample.key (s : Sample) : String × String := (s.desc.name, s.labelValue)

def Event.key? (e : Event) : Option (String × String) := e.sample?.map Sample.key

def DescriptorSet.names (set : DescriptorSet) : List String :=
  set.counters.map (·.name) ++ [set.snaptime.name]

def GroupPlan.names (p : GroupPlan) : List String :=
  match p.route with
  | .literal set | .structured _ set => set.names
  | .pattern _ => []

def Collector.names (c : Collector) : List String :=
  c.modules.flatMap fun m => m.groups.flatMap GroupPlan.names

def Schema.IsFixed (x : String × Group) : Prop :=
  x.2.pattern.literal?.isSome = true ∨ IsRecord x

theorem Schema.IsFixed.literal {x : String × Group} (hx : IsFixed x)
    (hr : StructuredKind.route? x.1 x.2.pattern = none) : x.2.pattern.literal?.isSome = true := by
  refine hx.resolve_right fun hrecord => ?_
  rw [route?_of_isRecord hrecord] at hr
  cases hr

instance (x : String × Schema.Group) : Decidable (Schema.IsFixed x) :=
  inferInstanceAs (Decidable (_ ∨ _))

namespace Memory

def Kstat.key (k : Kstat) : String × UInt32 × String := (k.module, k.inst, k.name)

end Memory

theorem eq_of_toString_eq {m n : Nat} (h : toString m = toString n) : m = n := by
  rw [Nat.toString_eq_ofList_toDigits, Nat.toString_eq_ofList_toDigits] at h
  have hdigits := congrArg (Nat.ofDigitChars 10 · 0) (String.ofList_injective h)
  simpa [Nat.ofDigitChars_ten_toDigits] using hdigits

def keysBelow (count : Nat) (names : List String) : List (String × String) :=
  (List.range count).flatMap fun i => names.map (·, toString (UInt32.ofNat i).toNat)

theorem nodup_keysBelow {count : Nat} (hc : count ≤ maxInstances) {names : List String}
    (h : names.Nodup) : (keysBelow count names).Nodup := by
  rw [keysBelow, List.nodup_flatMap]
  constructor
  · intro i _
    exact h.map fun a b hab => congrArg Prod.fst hab
  · -- instances with the same label are the same, as there are fewer than there are words
    refine List.nodup_range.imp_of_mem ?_
    intro i j hi hj hne key hkey hkey'
    obtain ⟨a, -, rfl⟩ := List.mem_map.mp hkey
    obtain ⟨b, -, hb⟩ := List.mem_map.mp hkey'
    have hi := List.mem_range.mp hi
    have hj := List.mem_range.mp hj
    have hlabel := eq_of_toString_eq (congrArg Prod.snd hb)
    rw [toNat_instance (by omega), toNat_instance (by omega)] at hlabel
    exact hne hlabel.symm

theorem fst_mem_of_mem_keysBelow {count : Nat} {names : List String} {key : String × String}
    (h : key ∈ keysBelow count names) : key.1 ∈ names := by
  obtain ⟨i, -, hi⟩ := List.mem_flatMap.mp h
  obtain ⟨a, ha, rfl⟩ := List.mem_map.mp hi
  exact ha

theorem nodup_flatMap_keysBelow {groups : List α} {names : α → List String} {count : α → Nat}
    (hc : ∀ x ∈ groups, count x ≤ maxInstances) (h : (groups.flatMap names).Nodup) :
    (groups.flatMap fun x => keysBelow (count x) (names x)).Nodup := by
  rw [List.nodup_flatMap] at h ⊢
  obtain ⟨hnames, hapart⟩ := h
  constructor
  · intro x hx
    exact nodup_keysBelow (hc x hx) (hnames x hx)
  · refine hapart.imp ?_
    intro x y hxy key hx hy
    exact hxy (fst_mem_of_mem_keysBelow hx) (fst_mem_of_mem_keysBelow hy)

theorem filterMap_sublist_map {f : α → Option β} {g : α → β} (h : ∀ x, ∀ y ∈ f x, y = g x)
    (l : List α) : (l.filterMap f).Sublist (l.map g) := by
  induction l with
  | nil => exact .slnil
  | cons x l ih =>
    rw [List.filterMap_cons, List.map_cons]
    cases hx : f x with
    | none => exact ih.cons _
    | some y =>
      obtain rfl := h x y hx
      exact ih.cons_cons _

theorem keys_sublist_names {ns module name label : String} {g : Schema.Group}
    {f : Schema.Counter → Event} {time : Event}
    (hf : ∀ c, ∀ key ∈ (f c).key?,
      key = ((Descriptor.forCounter ns module name c g.label).name, label))
    (htime : time.key? = some ((Descriptor.forSnaptime ns module name).name, label)) :
    ((g.counters.map f ++ [time]).filterMap Event.key?).Sublist
      ((DescriptorSet.build ns module name g).names.map (·, label)) := by
  have hcounters := filterMap_sublist_map hf g.counters
  have hlast : [time].filterMap Event.key? =
      [((Descriptor.forSnaptime ns module name).name, label)] := by
    rw [List.filterMap_cons, htime]
    rfl
  rw [DescriptorSet.names, DescriptorSet.build, List.map_append, List.map_map, List.map_map,
    List.filterMap_append, List.filterMap_map, hlast]
  exact hcounters.append (List.Sublist.refl _)

theorem key?_counterEvent (ns : String) (v : Visit) (content : Content) (c : Schema.Counter) :
    ∀ key ∈ (v.counterEvent ns content c).key?,
      key = ((Descriptor.forCounter ns v.module v.reading.name c v.group.label).name, v.label) := by
  intro key hkey
  rw [Visit.counterEvent] at hkey
  cases hc : content.value c.id with
  | ok raw =>
    rw [hc] at hkey
    exact (Option.some.inj hkey).symm
  | error cause =>
    rw [hc] at hkey
    exact absurd hkey (Option.not_mem_none key)

theorem key?_fieldEvent (ns module : String) (g : Schema.Group) (kind : StructuredKind)
    (stats : StructuredStats) (c : Schema.Counter) :
    ∀ key ∈ (fieldEvent ns module g kind stats c).key?,
      key = ((Descriptor.forCounter ns module kind.name c g.label).name,
        Progress.structuredLabel) := by
  intro key hkey
  rw [fieldEvent] at hkey
  cases hc : stats.words.lookup c.id with
  | some raw =>
    rw [hc] at hkey
    exact (Option.some.inj hkey).symm
  | none =>
    rw [hc] at hkey
    exact absurd hkey (Option.not_mem_none key)

theorem Visit.keys_sublist (ns : String) (v : Visit) :
    (((Step.visit v).events ns).filterMap Event.key?).Sublist
      ((DescriptorSet.build ns v.module v.reading.name v.group).names.map (·, v.label)) := by
  rw [Step.events, Step.occurrences, occurrences]
  cases v.reading.content with
  | error cause => exact List.nil_sublist _
  | ok content =>
    rw [List.map_append, List.map_map]
    exact keys_sublist_names (key?_counterEvent ns v content) rfl

theorem Step.keys_structured (ns module : String) (g : Schema.Group) (kind : StructuredKind)
    (answer : Except SourceError StructuredStats) :
    (((Step.structured module g kind answer).events ns).filterMap Event.key?).Sublist
      ((DescriptorSet.build ns module kind.name g).names.map (·, Progress.structuredLabel)) := by
  cases answer with
  | error cause => exact List.nil_sublist _
  | ok stats =>
    rw [Step.events, Step.occurrences, List.map_append, List.map_map]
    exact keys_sublist_names (key?_fieldEvent ns module g kind stats) rfl

namespace Memory.Data

variable {d : Data} (hd : (d.chain.map Kstat.key).Nodup) {pattern : GroupPattern} {id : String}
include hd

theorem length_found_le (hl : pattern.literal? = some id) (module : String) (inst : UInt32) :
    (d.found module inst pattern).length ≤ 1 := by
  have hsub : (((d.found module inst pattern).map Prod.fst).map Kstat.key).Sublist
      (d.chain.map Kstat.key) := by
    rw [d.map_fst_found]
    exact List.filter_sublist.map _
  -- whatever is found has one and the same key
  have hsame : ((d.found module inst pattern).map Prod.fst).map Kstat.key =
      List.replicate (d.found module inst pattern).length (module, inst, id) := by
    rw [List.eq_replicate_iff]
    refine ⟨by simp, ?_⟩
    intro key hkey
    rw [List.map_map] at hkey
    obtain ⟨⟨k, slot⟩, hk, rfl⟩ := List.mem_map.mp hkey
    obtain ⟨-, hmodule, hinst, hmatch⟩ := mem_found.mp hk
    have hname := (GroupPattern.isMatch_eq_true_iff_of_literal hl k.name).mp hmatch
    simp [Kstat.key, hmodule, hinst, hname]
  have hnodup := hd.sublist hsub
  rwa [hsame, List.nodup_replicate] at hnodup

theorem keys_instanceSteps (ns module : String) {g : Schema.Group}
    (hl : g.pattern.literal? = some id) (i : Nat) :
    (((d.snapshot.instanceSteps module g i).flatMap (Step.events ns)).filterMap
        Event.key?).Sublist
      ((DescriptorSet.build ns module id g).names.map (·, toString (UInt32.ofNat i).toNat)) := by
  have hlength := length_found_le hd hl module (.ofNat i)
  have hlookup : ((Step.lookup module (.ofNat i) g.id).events ns).filterMap Event.key? = [] := rfl
  rw [Snapshot.instanceSteps, List.flatMap_cons, List.filterMap_append, hlookup, List.nil_append,
    Snapshot.visits, find_snapshot]
  cases hfound : d.found module (.ofNat i) g.pattern with
  | nil => exact List.nil_sublist _
  | cons x rest =>
    obtain rfl : rest = [] := by
      rw [hfound] at hlength
      simpa using hlength
    obtain ⟨k, slot⟩ := x
    have hmem : (k, slot) ∈ d.found module (.ofNat i) g.pattern := by simp [hfound]
    obtain ⟨-, -, -, hmatch⟩ := mem_found.mp hmem
    have hname : (k.reading slot).name = id :=
      (GroupPattern.isMatch_eq_true_iff_of_literal hl k.name).mp hmatch
    have hkeys := Visit.keys_sublist ns ⟨module, g, .ofNat i, k.reading slot⟩
    dsimp only at hkeys
    rw [hname] at hkeys
    rw [List.map_singleton, List.map_singleton, List.flatMap_singleton]
    exact hkeys

theorem keys_namedSteps (ns module : String) {g : Schema.Group}
    (hl : g.pattern.literal? = some id) :
    (((d.snapshot.namedSteps module g).flatMap (Step.events ns)).filterMap Event.key?).Sublist
      (keysBelow (d.snapshot.extent module g.pattern)
        (DescriptorSet.build ns module id g).names) := by
  have hlast : ((Snapshot.lastStep module g
      (0 + d.snapshot.extent module g.pattern)).events ns).filterMap Event.key? = [] := by
    rw [Snapshot.lastStep]
    split <;> rfl
  have hsummary : ((Step.summary
      ⟨module, g.id, d.snapshot.extent module g.pattern⟩).events ns).filterMap Event.key? = [] := rfl
  rw [Snapshot.namedSteps, Snapshot.enumeration, List.flatMap_append, List.flatMap_append,
    List.flatMap_singleton, List.flatMap_singleton, List.filterMap_append, List.filterMap_append,
    hlast, hsummary, List.append_nil, List.append_nil, ← List.range_eq_range', List.flatMap_assoc,
    List.filterMap_flatMap, keysBelow]
  exact List.Sublist.flatMap_right _ fun i _ => keys_instanceSteps hd ns module hl i

end Memory.Data

def Snapshot.instances (v : Snapshot) (x : String × Schema.Group) : Nat :=
  match StructuredKind.route? x.1 x.2.pattern with
  | some _ => 1
  | none => v.extent x.1 x.2.pattern

theorem Snapshot.instances_le (v : Snapshot) (x : String × Schema.Group) :
    v.instances x ≤ maxInstances := by
  rw [instances]
  split
  · decide
  · exact v.extent_le x.1 x.2.pattern

theorem Memory.Data.keys_groupSteps {d : Data} (hd : (d.chain.map Kstat.key).Nodup) (ns : String)
    {x : String × Schema.Group} (hx : Schema.IsFixed x) :
    (((d.snapshot.groupSteps x.1 x.2).flatMap (Step.events ns)).filterMap Event.key?).Sublist
      (keysBelow (d.snapshot.instances x) (GroupPlan.ofGroup ns x.1 x.2).names) := by
  cases hr : StructuredKind.route? x.1 x.2.pattern with
  | some kind =>
    have hone (names : List String) :
        keysBelow 1 names = names.map (·, Progress.structuredLabel) := by
      rw [← Progress.toString_instance_zero]
      exact List.flatMap_singleton _ _
    have hnames : (GroupPlan.ofGroup ns x.1 x.2).names =
        (DescriptorSet.build ns x.1 kind.name x.2).names := by
      simp [GroupPlan.names, GroupPlan.ofGroup, hr]
    have hsummary (n : Nat) :
        ((Step.summary ⟨x.1, x.2.id, n⟩).events ns).filterMap Event.key? = [] := rfl
    rw [Snapshot.groupSteps_of_some hr, Snapshot.structuredSteps, List.flatMap_cons,
      List.flatMap_singleton, List.filterMap_append, hsummary, List.append_nil, Snapshot.instances,
      hr, hone, hnames]
    exact Step.keys_structured ns x.1 x.2 kind _
  | none =>
    obtain ⟨id, hid⟩ := Option.isSome_iff_exists.mp (hx.literal hr)
    have hnames : (GroupPlan.ofGroup ns x.1 x.2).names =
        (DescriptorSet.build ns x.1 id x.2).names := by
      simp [GroupPlan.names, GroupPlan.ofGroup, hr, hid]
    rw [Snapshot.groupSteps_of_none hr, Snapshot.instances, hr, hnames]
    exact keys_namedSteps hd ns x.1 hid

theorem Snapshot.steps_eq_declared (v : Snapshot) (schema : Schema) :
    v.steps schema = schema.declared.flatMap fun x => v.groupSteps x.1 x.2 := by
  rw [Schema.declared, List.flatMap_assoc, steps]
  simp only [List.flatMap_map]
  rfl

theorem GroupPlan.Sound.names_eq {p : GroupPlan} {ns module : String} (h : p.Sound ns module)
    (hx : Schema.IsFixed (module, p.group)) :
    p.names = (GroupPlan.ofGroup ns module p.group).names := by
  rw [GroupPlan.Sound] at h
  rw [GroupPlan.names, GroupPlan.names, GroupPlan.ofGroup]
  cases hroute : p.route with
  | structured kind set =>
    rw [hroute] at h
    obtain ⟨hr, rfl⟩ := h
    simp [hr]
  | literal set =>
    rw [hroute] at h
    obtain ⟨hr, id, hid, rfl⟩ := h
    simp [hr, hid]
  | pattern known =>
    rw [hroute] at h
    obtain ⟨hr, hl, -⟩ := h
    have hsome := hx.literal hr
    rw [hl] at hsome
    exact absurd hsome Bool.false_ne_true

namespace Collector

theorem Reached.names_eq {schema : Schema} {ns : String} {c : Collector} (hc : Reached schema ns c)
    (hfixed : ∀ x ∈ schema.declared, Schema.IsFixed x) :
    c.names = schema.declared.flatMap fun x => (GroupPlan.ofGroup ns x.1 x.2).names := by
  obtain ⟨hsound, rfl, rfl⟩ := hc.sound
  rw [declared_schema, List.flatMap_assoc, names]
  refine List.flatMap_congr fun m hm => ?_
  rw [List.flatMap_map]
  refine List.flatMap_congr fun p hp => ?_
  refine (hsound m hm p hp).names_eq (hfixed _ ?_)
  rw [declared_schema]
  exact List.mem_flatMap.mpr ⟨m, hm, List.mem_map_of_mem hp⟩

theorem keys_recordAll (events : List Event) :
    (({} : Scrape).recordAll events).sink.toList.map Sample.key = events.filterMap Event.key? := by
  rw [Scrape.recordAll_eq]
  simp only [Array.toList_appendList, List.nil_append, List.map_filterMap]
  rfl

theorem nodup_keys_events {schema : Schema} {d : Memory.Data} {ns : String}
    (hfixed : ∀ x ∈ schema.declared, Schema.IsFixed x)
    (hnames : (schema.declared.flatMap fun x => (GroupPlan.ofGroup ns x.1 x.2).names).Nodup)
    (hchain : (d.chain.map Memory.Kstat.key).Nodup) :
    ((d.snapshot.events ns schema).filterMap Event.key?).Nodup := by
  rw [Snapshot.events_eq, Snapshot.steps_eq_declared, List.flatMap_assoc, List.filterMap_flatMap]
  refine (nodup_flatMap_keysBelow (fun x _ => d.snapshot.instances_le x) hnames).sublist ?_
  exact List.Sublist.flatMap_right _ fun x hx => Memory.Data.keys_groupSteps hchain ns (hfixed x hx)

/-- A scrape of statistics in memory has no two samples of the same series, if no two descriptors of
the plan have the same name, no two statistics have the same key and each group has one name or means
the record. -/
theorem scrape_keys_nodup {schema : Schema} {ns : String} {c : Collector} (hc : Reached schema ns c)
    (hfixed : ∀ x ∈ schema.declared, Schema.IsFixed x) (hnames : c.names.Nodup) {m : Memory}
    (hchain : (m.data.chain.map Memory.Kstat.key).Nodup) :
    match (c.scrape Memory.source m).result with
    | .error _ => m.data.unavailable = true
    | .ok scrape => (scrape.sink.toList.map Sample.key).Nodup := by
  rw [hc.names_eq hfixed] at hnames
  obtain ⟨hsound, rfl, rfl⟩ := hc.sound
  cases hm : m.data.unavailable with
  | true => simp [scrape, collect, Memory.source, hm]
  | false =>
    have hopen := Memory.acquire_available hm
    have hs : (Memory.presentation m.data { m.calls with opens := m.calls.opens + 1 }).Holds 0 0
        { m with calls := { m.calls with opens := m.calls.opens + 1 } } := rfl
    obtain ⟨hresult, -⟩ := Presentation.collect_eq _ hsound hopen hs #[]
    rw [scrape, hresult]
    dsimp only
    rw [keys_recordAll]
    exact nodup_keys_events hfixed hnames hchain

theorem scrape_keys_nodup_typicalSystem :
    let schema : Schema := {
      modules := [
        { id := "cpu"
          groups := [{
            pattern := (GroupPattern.ofText? "sys").get (by rfl)
            label := "cpu"
            counters := [
              ⟨"syscall", "System calls.", "total", 1.0⟩,
              ⟨"absent", "No counter.", "total", 1.0⟩] }] },
        { id := "unix"
          groups := [{
            pattern := (GroupPattern.ofText? "vm.*").get (by rfl)
            label := "instance"
            counters := [⟨"freemem", "Free pages.", "total", 1.0⟩] }] }] }
    let c := ofSchema schema defaultNamespace
    let m : Memory := { data := .typicalSystem }
    (Reached schema defaultNamespace c ∧ (∀ x ∈ schema.declared, Schema.IsFixed x) ∧
        c.names.Nodup ∧ (m.data.chain.map Memory.Kstat.key).Nodup) ∧
      ∃ scrape, (c.scrape Memory.source m).result = .ok scrape ∧ scrape.emitted = 10 ∧
        (scrape.sink.toList.map Sample.key).Nodup := by
  intro schema c m
  have hc : Reached schema defaultNamespace c := .new
  have hfixed : ∀ x ∈ schema.declared, Schema.IsFixed x := by decide +kernel
  have hnames : c.names.Nodup := by decide +kernel
  have hchain : (m.data.chain.map Memory.Kstat.key).Nodup := by decide +kernel
  have hkeys := scrape_keys_nodup hc hfixed hnames hchain
  obtain ⟨hscrape, -⟩ := collect_memory_eq schema defaultNamespace (m := m) rfl #[]
  have hresult : (c.scrape Memory.source m).result =
      .ok (({} : Scrape).recordAll (m.data.snapshot.events defaultNamespace schema)) := hscrape
  rw [hresult] at hkeys
  have hemitted :
      (({} : Scrape).recordAll (m.data.snapshot.events defaultNamespace schema)).emitted = 10 := by
    decide +kernel
  exact ⟨⟨hc, hfixed, hnames, hchain⟩, _, hresult, hemitted, hkeys⟩

end Collector

end KernelStats
