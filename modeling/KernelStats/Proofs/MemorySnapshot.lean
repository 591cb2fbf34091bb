import KernelStats.Memory.Scenario
import KernelStats.Memory.Session
import KernelStats.Proofs.Presentation

/-!
# Scrapes of statistics in memory

The sessions over statistics in memory present a snapshot, so that a scrape of them has a closed
form: what each group adds is read off the chain, whatever the calls so far and the descriptors kept
from earlier scrapes.
-/

namespace KernelStats

theorem map_fst_filter_zipIdx (p : α → Bool) (l : List α) :
    (l.zipIdx.filter fun x => p x.1).map Prod.fst = l.filter p := by
  have h := List.filter_map (f := Prod.fst) (p := p) (l := l.zipIdx)
  rw [List.zipIdx_map_fst] at h
  exact h.symm

namespace Memory

def Value.answer (stat : String) : Value → Except SourceError UInt64
  | .unsigned n => .ok n
  | .signed n => if n < 0 then .error (.outOfRange stat n) else .ok n.toUInt64
  | .text _ => .error (.unsupportedType stat 9)
  | .broken => .error (.read (stat ++ " vanished during read"))

def unreadableCause (module : String) (inst : UInt32) (name : String) : SourceError :=
  .read (SourceError.place module inst name ++ " is unreadable")

namespace Kstat

def answer (k : Kstat) (stat : String) : Except SourceError UInt64 :=
  match k.stats.lookup stat with
  | some v => v.answer stat
  | none => .error (.missingStat stat)

def content (k : Kstat) : Except SourceError Content :=
  if k.unreadable then .error (unreadableCause k.module k.inst k.name)
  else .ok { snaptime := k.snaptime, value := k.answer }

def reading (k : Kstat) (slot : Nat) : Reading := { slot, name := k.name, content := k.content }

def belongs (k : Kstat) (module : String) (inst : UInt32) (pattern : GroupPattern) : Bool :=
  k.module = module ∧ k.inst = inst ∧ pattern.isMatch k.name

end Kstat

namespace Data

theorem mem_found {d : Data} {module : String} {inst : UInt32} {pattern : GroupPattern} {k : Kstat}
    {slot : Nat} : (k, slot) ∈ d.found module inst pattern ↔
      d.chain[slot]? = some k ∧ k.module = module ∧ k.inst = inst ∧
        pattern.isMatch k.name = true := by
  simp [found, List.mem_zipIdx_iff_getElem?]

theorem map_fst_found (d : Data) (module : String) (inst : UInt32) (pattern : GroupPattern) :
    (d.found module inst pattern).map Prod.fst = d.chain.filter (·.belongs module inst pattern) :=
  map_fst_filter_zipIdx (fun k : Kstat => k.belongs module inst pattern) d.chain

/-- What there is in memory, read off the chain and the record. -/
def snapshot (d : Data) : Snapshot where
  find module inst pattern :=
    (d.chain.zipIdx.filter (·.1.belongs module inst pattern)).map fun (k, slot) => k.reading slot
  structured
    | .vminfo =>
      match d.vminfo with
      | some (fields, time) => .ok (.vminfo fields time)
      | none => .error (.read "unix:0:vminfo not present")
  isMatch_of_mem := by
    intro module inst pattern r hr
    obtain ⟨⟨k, slot⟩, hk, rfl⟩ := List.mem_map.mp hr
    obtain ⟨-, -, hmatch⟩ := of_decide_eq_true (List.mem_filter.mp hk).2
    exact hmatch

theorem find_snapshot (d : Data) (module : String) (inst : UInt32) (pattern : GroupPattern) :
    d.snapshot.find module inst pattern =
      (d.found module inst pattern).map fun x => x.1.reading x.2 := rfl

theorem structured_eq (d : Data) (kind : StructuredKind) :
    d.structured kind = d.snapshot.structured kind := by
  cases kind
  rfl

theorem value_eq {d : Data} {e : Entry} {k : Kstat} (hk : d.chain[e.slot]? = some k)
    (stat : String) : d.value e stat = k.answer stat := by
  rw [value, hk, Option.bind_some, Kstat.answer]
  cases k.stats.lookup stat with
  | none => rfl
  | some v => cases v <;> rfl

def entryOf (x : Kstat × Nat) : Entry where
  module := x.1.module
  inst := x.1.inst
  name := x.1.name
  snaptime := 0
  slot := x.2

def Locates (d : Data) (inst : UInt32) (e : Entry) (x : Reading) : Prop :=
  e.inst = inst ∧ ∃ k, d.chain[e.slot]? = some k ∧ e.name = k.name ∧ x = k.reading e.slot

theorem locates_entryOf {d : Data} {module : String} {inst : UInt32} {pattern : GroupPattern}
    {x : Kstat × Nat} (hx : x ∈ d.found module inst pattern) :
    d.Locates inst (entryOf x) (x.1.reading x.2) := by
  obtain ⟨hk, -, hi, -⟩ := mem_found.mp hx
  exact ⟨hi, x.1, hk, rfl, rfl⟩

theorem answered_lookup (d : Data) (module : String) (inst : UInt32) (pattern : GroupPattern) :
    Answered (d.Locates inst) (d.lookup module inst pattern)
      (d.snapshot.find module inst pattern) := by
  have hlocates := fun x => @locates_entryOf d module inst pattern x
  rw [lookup, find_snapshot]
  cases hf : d.found module inst pattern with
  | nil => exact ⟨_, rfl, rfl⟩
  | cons x xs =>
    refine ⟨(x :: xs).map entryOf, rfl, ?_⟩
    rw [hf] at hlocates
    rw [List.forall₂_map_left_iff, List.forall₂_map_right_iff, List.forall₂_same]
    exact hlocates

theorem refreshed_read {d : Data} {inst : UInt32} {e : Entry} {x : Reading}
    (h : d.Locates inst e x) :
    Refreshed (fun content => ∃ k, d.chain[e.slot]? = some k ∧ (d.read e).2.snaptime = k.snaptime ∧
        content = { snaptime := k.snaptime, value := k.answer })
      (d.read e).1 x.content ∧
    (d.read e).2.inst = inst ∧ (d.read e).2.name = x.name ∧ (d.read e).2.slot = e.slot := by
  obtain ⟨hi, k, hk, hn, rfl⟩ := h
  rw [Kstat.reading, Kstat.content]
  by_cases hu : k.unreadable = true
  · have hread : d.read e = (.error (unreadableCause k.module k.inst k.name), e) := by
      simp only [read, hk, hu, if_true]
      rfl
    rw [hread, if_pos hu]
    exact ⟨rfl, hi, hn, rfl⟩
  · have hread : d.read e = (.ok (), { e with snaptime := k.snaptime }) := by
      simp only [read, hk, hu]; rfl
    rw [hread, if_neg hu]
    exact ⟨⟨rfl, k, hk, rfl, rfl⟩, hi, hn, rfl⟩

end Data

def Calls.after (c : Calls) (lookups structured : Nat) : Calls :=
  { c with lookups := c.lookups + lookups, structured := c.structured + structured }

def presentation (d : Data) (c : Calls) : Presentation source.toSession d.snapshot where
  Holds l r m := m = { data := d, calls := c.after l r }
  Located _ := d.Locates
  Opened m e content :=
    m.data = d ∧ ∃ k, d.chain[e.slot]? = some k ∧ e.snaptime = k.snaptime ∧
      content = { snaptime := k.snaptime, value := k.answer }
  lookup := by
    rintro l r _ module inst pattern rfl -
    exact ⟨rfl, d.answered_lookup module inst pattern⟩
  read := by
    rintro l r _ inst e x rfl h
    obtain ⟨hr, hi, hn, hslot⟩ := Data.refreshed_read h
    refine ⟨rfl, ?_, hi, hn, fun e' x' h' => h'⟩
    simp only [source, hslot, true_and]
    cases hx : x.content with
    | error cause => rw [hx] at hr; exact hr
    | ok content => rw [hx] at hr; exact hr
  value := by
    rintro m e content stat ⟨rfl, k, hk, -, rfl⟩
    exact Prod.ext (Data.value_eq hk stat) rfl
  time := by
    rintro m e content ⟨-, k, -, ht, rfl⟩
    exact ht
  structured := by
    rintro l r _ kind rfl
    exact ⟨rfl, d.structured_eq kind⟩

theorem acquire_available {m : Memory} (hm : m.data.unavailable = false) :
    source.acquire m = (.ok { m with calls := { m.calls with opens := m.calls.opens + 1 } },
      { m with calls := { m.calls with opens := m.calls.opens + 1 } }) := by
  simp only [source, hm]
  rfl

def Data.Holds (d : Data) (module : String) (i : Nat) (pattern : GroupPattern) : Prop :=
  ∃ k ∈ d.chain, k.module = module ∧ k.inst.toNat = i ∧ pattern.isMatch k.name = true

theorem Data.isEmpty_find_eq_false {d : Data} {module : String} {i : Nat} {pattern : GroupPattern}
    (hi : i ≤ maxInstances) :
    (d.snapshot.find module (.ofNat i) pattern).isEmpty = false ↔ d.Holds module i pattern := by
  have hinst : ∀ k : Kstat, k.inst = .ofNat i ↔ k.inst.toNat = i := by
    intro k
    rw [← UInt32.toNat_inj, toNat_instance hi]
  rw [find_snapshot, List.isEmpty_eq_false_iff_exists_mem]
  constructor
  · rintro ⟨r, hr⟩
    obtain ⟨⟨k, slot⟩, hk, -⟩ := List.mem_map.mp hr
    obtain ⟨hslot, hm, hki, hmatch⟩ := mem_found.mp hk
    exact ⟨k, List.mem_of_getElem? hslot, hm, (hinst k).mp hki, hmatch⟩
  · rintro ⟨k, hk, hm, hki, hmatch⟩
    obtain ⟨slot, hslot⟩ := List.mem_iff_getElem?.mp hk
    exact ⟨_, List.mem_map_of_mem (mem_found.mpr ⟨hslot, hm, (hinst k).mpr hki, hmatch⟩)⟩

theorem Data.extent_spec (d : Data) (module : String) (pattern : GroupPattern) :
    d.snapshot.extent module pattern ≤ maxInstances ∧
      (∀ i < d.snapshot.extent module pattern, d.Holds module i pattern) ∧
      (d.snapshot.extent module pattern < maxInstances →
        ¬ d.Holds module (d.snapshot.extent module pattern) pattern) := by
  have hle := d.snapshot.extent_le module pattern
  refine ⟨hle, ?_, ?_⟩
  · intro i hi
    exact (isEmpty_find_eq_false (by omega)).mp (Snapshot.isEmpty_find_of_lt hi)
  · intro hlt hholds
    have hempty := Snapshot.isEmpty_find_extent hlt
    rw [(isEmpty_find_eq_false hle).mpr hholds] at hempty
    exact Bool.false_ne_true hempty

end Memory

namespace Collector

theorem collect_memory_eq (schema : Schema) (ns : String) {m : Memory}
    (hm : m.data.unavailable = false) (sink : Array Sample) :
    let steps := m.data.snapshot.steps schema
    let out := (ofSchema schema ns).collect Memory.source m sink
    out.result = .ok (({ sink } : Scrape).recordAll (m.data.snapshot.events ns schema)) ∧
      out.source = {
        data := m.data
        calls := {
          opens := m.calls.opens + 1
          closes := m.calls.closes + 1
          lookups := m.calls.lookups + steps.countP Step.isLookup
          structured := m.calls.structured + steps.countP Step.isStructured } } := by
  have hopen := Memory.acquire_available hm
  have hs : (Memory.presentation m.data { m.calls with opens := m.calls.opens + 1 }).Holds 0 0
      { m with calls := { m.calls with opens := m.calls.opens + 1 } } := rfl
  obtain ⟨hresult, -, -, -, last, hlast, hsource⟩ :=
    Presentation.collect_eq _ (sound_ofSchema schema ns) hopen hs sink
  have hlast : last = { data := m.data, calls := Memory.Calls.after _ _ _ } := hlast
  rw [schema_ofSchema, Nat.zero_add, Nat.zero_add] at hlast
  rw [schema_ofSchema] at hresult
  refine ⟨hresult, ?_⟩
  rw [hsource, hlast]
  rfl

/-- A scrape of statistics in memory: everything that it emits, records and counts, as a list over
the groups, their instances, the statistics of each and the counters of each of these. -/
theorem collect_memory (schema : Schema) (ns : String) (m : Memory)
    (hm : m.data.unavailable = false) (sink : Array Sample) :
    let steps := m.data.snapshot.steps schema
    let events := steps.flatMap (Step.events ns)
    let out := (ofSchema schema ns).collect Memory.source m sink
    out.result = .ok {
        sink := sink ++ events.filterMap Event.sample?
        emitted := (events.filterMap Event.sample?).length
        failures := (events.filterMap Event.failure?).toArray
        groups := (events.filterMap Event.summary?).toArray
        notices := (events.filterMap Event.notice?).toArray } ∧
      out.source = {
        data := m.data
        calls := {
          opens := m.calls.opens + 1
          closes := m.calls.closes + 1
          lookups := m.calls.lookups + steps.countP Step.isLookup
          structured := m.calls.structured + steps.countP Step.isStructured } } ∧
      ∀ module pattern, m.data.snapshot.extent module pattern ≤ 65536 ∧
        (∀ i < m.data.snapshot.extent module pattern, m.data.Holds module i pattern) ∧
        (m.data.snapshot.extent module pattern < 65536 →
          ¬ m.data.Holds module (m.data.snapshot.extent module pattern) pattern) := by
  obtain ⟨hresult, hsource⟩ := collect_memory_eq schema ns hm sink
  rw [Snapshot.events_eq, Scrape.recordAll_eq] at hresult
  refine ⟨?_, hsource, m.data.extent_spec⟩
  rw [hresult]
  simp

end Collector

/-- A schema with a group of each kind: one name, a record, and a pattern. -/
def Schema.brief : Schema where
  modules := [
    { id := "cpu"
      groups := [{
        pattern := (GroupPattern.ofText? "sys").get (by rfl)
        label := "cpu"
        counters := [
          ⟨"syscall", "System calls.", "total", 1.0⟩,
          ⟨"absent", "No counter.", "total", 1.0⟩] }] },
    { id := "unix"
      groups := [{
        pattern := (GroupPattern.ofText? "vminfo").get (by rfl)
        label := "instance"
        counters := [⟨"freemem", "Free pages.", "total", 1.0⟩] }] },
    { id := "zones"
      groups := [{
        pattern := (GroupPattern.ofText? "zone_misc_.*").get (by rfl)
        label := "zone"
        counters := [⟨"nprocs", "Processes.", "total", 1.0⟩] }] }]

namespace Collector

theorem collect_memory_typicalSystem :
    Memory.Data.typicalSystem.unavailable = false ∧
      let out :=
        (ofSchema .brief defaultNamespace).collect Memory.source { data := .typicalSystem } #[]
      out.result.toOption.map (·.emitted) = some 14 ∧ out.source.calls.lookups = 7 := by
  have h := collect_memory .brief defaultNamespace { data := .typicalSystem } rfl #[]
  refine ⟨rfl, ?_, ?_⟩
  · rw [h.1]
    decide +kernel
  · rw [h.2.1]
    decide +kernel

end Collector

end KernelStats
