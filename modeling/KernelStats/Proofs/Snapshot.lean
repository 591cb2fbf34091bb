import KernelStats.Collect.Walk
import KernelStats.Proofs.Events

/-!
# What a scrape of unchanging statistics does

A snapshot says once and for all which statistics are there and what reading each of them gives. The
steps of a scrape over a snapshot are listed group by group, without a session: the instances from 0
up to the first that is missing, the statistics of each, and the counters of each of these. Each
event is kept together with the statistic and the counter that it comes from.
-/

namespace KernelStats

def Vminfo.words (v : Vminfo) : List (String × UInt64) := [
  ("freemem", v.freemem),
  ("swap_resv", v.swapResv),
  ("swap_alloc", v.swapAlloc),
  ("swap_avail", v.swapAvail),
  ("swap_free", v.swapFree),
  ("updates", v.updates)]

theorem Vminfo.get?_eq_lookup (v : Vminfo) (id : String) : v.get? id = v.words.lookup id := by
  unfold get?
  split
  case h_7 => simp_all [words, eq_comm (a := none), List.lookup_eq_none_iff]
  all_goals rfl

def StructuredStats.words : StructuredStats → List (String × UInt64)
  | .vminfo fields _ => fields.words

theorem StructuredStats.get?_eq_lookup (stats : StructuredStats) (id : String) :
    stats.get? id = stats.words.lookup id := by
  cases stats with
  | vminfo fields time => exact fields.get?_eq_lookup id

def Schema.IsRecord (x : String × Group) : Prop := x.1 = "unix" ∧ x.2.pattern.isMatch "vminfo" = true

instance (x : String × Schema.Group) : Decidable (Schema.IsRecord x) :=
  inferInstanceAs (Decidable (_ ∧ _))

theorem Schema.route?_of_isRecord {x : String × Group} (h : IsRecord x) :
    StructuredKind.route? x.1 x.2.pattern = some .vminfo := if_pos h

theorem Schema.isRecord_of_route? {x : String × Group} {kind : StructuredKind}
    (h : StructuredKind.route? x.1 x.2.pattern = some kind) : IsRecord x :=
  (Option.ite_none_right_eq_some.mp h).1

structure Content where
  snaptime : Int64
  value : String → Except SourceError UInt64

/-- A statistic that can be found, by its place in the source and its name. -/
structure Reading where
  slot : Nat
  name : String
  content : Except SourceError Content

structure Snapshot where
  find : String → UInt32 → GroupPattern → List Reading
  structured : StructuredKind → Except SourceError StructuredStats
  isMatch_of_mem : ∀ {module : String} {inst : UInt32} {pattern : GroupPattern} {r : Reading},
    r ∈ find module inst pattern → pattern.isMatch r.name = true

/-- An event and, as far as it has one, its origin: the place of the statistic and the counter. -/
structure Occurrence where
  event : Event
  slot : Option Nat := none
  counter : Option String := none

structure Visit where
  module : String
  group : Schema.Group
  inst : UInt32
  reading : Reading

namespace Visit

def label (v : Visit) : String := toString v.inst.toNat

def path (v : Visit) (counter : String) : StatPath := ⟨v.module, v.inst, v.reading.name, counter⟩

def counterEvent (ns : String) (v : Visit) (content : Content) (c : Schema.Counter) : Event :=
  match content.value c.id with
  | .ok raw => .sample {
      desc := .forCounter ns v.module v.reading.name c v.group.label
      labelValue := v.label
      value := Number.truncate (raw.toFloat * c.scale) }
  | .error cause => .failure ⟨v.path c.id, cause⟩

def timeEvent (ns : String) (v : Visit) (content : Content) : Event := .sample {
  desc := .forSnaptime ns v.module v.reading.name
  labelValue := v.label
  value := Number.ofInt content.snaptime.toInt }

def occurrences (ns : String) (v : Visit) : List Occurrence :=
  match v.reading.content with
  | .error cause => [{ event := .failure ⟨v.path "", cause⟩, slot := v.reading.slot }]
  | .ok content =>
    (v.group.counters.map fun c =>
      { event := v.counterEvent ns content c, slot := v.reading.slot, counter := c.id }) ++
    [{ event := v.timeEvent ns content, slot := v.reading.slot }]

end Visit

def fieldEvent (ns module : String) (g : Schema.Group) (kind : StructuredKind)
    (stats : StructuredStats) (c : Schema.Counter) : Event :=
  match stats.words.lookup c.id with
  | some raw => .sample {
      desc := .forCounter ns module kind.name c g.label
      labelValue := "0"
      value := Number.truncate (raw.toFloat * c.scale) }
  | none => .failure ⟨⟨module, 0, kind.name, c.id⟩, .missingStat c.id⟩

def recordTimeEvent (ns module : String) (kind : StructuredKind) : StructuredStats → Event
  | .vminfo _ time => .sample {
      desc := .forSnaptime ns module kind.name
      labelValue := "0"
      value := Number.ofInt time.toInt }

inductive Step where
  | lookup (module : String) (inst : UInt32) (group : String)
  | visit (v : Visit)
  | structured (module : String) (group : Schema.Group) (kind : StructuredKind)
    (answer : Except SourceError StructuredStats)
  | runaway (module group : String)
  | summary (g : GroupSummary)

namespace Step

def occurrences (ns : String) : Step → List Occurrence
  | lookup module inst group => [{ event := .lookup module inst group }]
  | visit v => v.occurrences ns
  | structured module _ kind (.error cause) =>
    [{ event := .failure ⟨⟨module, 0, kind.name, ""⟩, cause⟩ }]
  | structured module g kind (.ok stats) =>
    (g.counters.map fun c => { event := fieldEvent ns module g kind stats c, counter := c.id }) ++
    [{ event := recordTimeEvent ns module kind stats }]
  | runaway module group => [{ event := .runaway module group }]
  | summary g => [{ event := .summary g }]

def events (ns : String) (s : Step) : List Event := (s.occurrences ns).map (·.event)

def slot? : Step → Option Nat
  | visit v => some v.reading.slot
  | _ => none

def summary? : Step → Option GroupSummary
  | summary g => some g
  | _ => none

def isLookup : Step → Bool
  | lookup .. => true
  | _ => false

def isStructured : Step → Bool
  | structured .. => true
  | _ => false

theorem slot_of_mem {ns : String} {s : Step} {o : Occurrence} (h : o ∈ s.occurrences ns) :
    o.slot = s.slot? := by
  cases s with
  | lookup module inst group => exact congrArg _ (List.mem_singleton.mp h)
  | runaway module group => exact congrArg _ (List.mem_singleton.mp h)
  | summary g => exact congrArg _ (List.mem_singleton.mp h)
  | structured module g kind answer =>
    cases answer with
    | error cause => exact congrArg _ (List.mem_singleton.mp h)
    | ok stats =>
      rcases List.mem_append.mp h with h | h
      · obtain ⟨c, -, rfl⟩ := List.mem_map.mp h
        rfl
      · exact congrArg _ (List.mem_singleton.mp h)
  | visit v =>
    rw [occurrences, Visit.occurrences] at h
    cases hc : v.reading.content with
    | error cause =>
      rw [hc] at h
      exact congrArg _ (List.mem_singleton.mp h)
    | ok content =>
      rw [hc] at h
      rcases List.mem_append.mp h with h | h
      · obtain ⟨c, -, rfl⟩ := List.mem_map.mp h
        rfl
      · exact congrArg _ (List.mem_singleton.mp h)

theorem filterMap_summary? (ns : String) (s : Step) :
    (s.events ns).filterMap Event.summary? = s.summary?.toList := by
  have hnone {α : Type} (l : List α) (f : α → Event) (hf : ∀ a, (f a).summary? = none) :
      (l.map f).filterMap Event.summary? = [] := by
    rw [List.filterMap_map, List.filterMap_eq_nil_iff]
    exact fun a _ => hf a
  cases s with
  | lookup module inst group => rfl
  | runaway module group => rfl
  | summary g => rfl
  | structured module g kind answer =>
    cases answer with
    | error cause => rfl
    | ok stats =>
      have hfields := hnone g.counters (fieldEvent ns module g kind stats) fun c => by
        rw [fieldEvent]
        cases stats.words.lookup c.id <;> rfl
      have htime : (recordTimeEvent ns module kind stats).summary? = none := by
        cases stats
        rfl
      rw [events, occurrences, List.map_append, List.filterMap_append, List.map_map]
      exact (congrArg (· ++ _) hfields).trans (by simp [htime, summary?])
  | visit v =>
    rw [events, occurrences, Visit.occurrences]
    cases hc : v.reading.content with
    | error cause => rfl
    | ok content =>
      have hcounters := hnone v.group.counters (v.counterEvent ns content) fun c => by
        rw [Visit.counterEvent]
        cases content.value c.id <;> rfl
      dsimp only
      rw [List.map_append, List.filterMap_append, List.map_map]
      exact (congrArg (· ++ _) hcounters).trans rfl

end Step

namespace Snapshot

/-- How many instances a group has from `start` on: up to the first one without a statistic, and no
more than `left` of them. -/
def extentFrom (v : Snapshot) (module : String) (pattern : GroupPattern) (start left : Nat) : Nat :=
  (List.range' start left).findIdx fun i => (v.find module (.ofNat i) pattern).isEmpty

def extent (v : Snapshot) (module : String) (pattern : GroupPattern) : Nat :=
  v.extentFrom module pattern 0 maxInstances

def visits (v : Snapshot) (module : String) (g : Schema.Group) (inst : UInt32) : List Step :=
  (v.find module inst g.pattern).map fun r => .visit ⟨module, g, inst, r⟩

def instanceSteps (v : Snapshot) (module : String) (g : Schema.Group) (i : Nat) : List Step :=
  .lookup module (.ofNat i) g.id :: v.visits module g (.ofNat i)

/-- The step with which an enumeration ends: a lookup that finds nothing, or the limit. -/
def lastStep (module : String) (g : Schema.Group) (extent : Nat) : Step :=
  if extent < maxInstances then .lookup module (.ofNat extent) g.id else .runaway module g.id

def enumeration (v : Snapshot) (module : String) (g : Schema.Group) (start count : Nat) :
    List Step :=
  (List.range' start count).flatMap (v.instanceSteps module g) ++
    [lastStep module g (start + count)]

def namedSteps (v : Snapshot) (module : String) (g : Schema.Group) : List Step :=
  v.enumeration module g 0 (v.extent module g.pattern) ++
    [.summary ⟨module, g.id, v.extent module g.pattern⟩]

def structuredSteps (v : Snapshot) (module : String) (g : Schema.Group) (kind : StructuredKind) :
    List Step :=
  [.structured module g kind (v.structured kind),
    .summary ⟨module, g.id, if (v.structured kind).isOk then 1 else 0⟩]

def groupSteps (v : Snapshot) (module : String) (g : Schema.Group) : List Step :=
  if Schema.IsRecord (module, g) then v.structuredSteps module g .vminfo else v.namedSteps module g

def moduleSteps (v : Snapshot) (m : Schema.Module) : List Step :=
  m.groups.flatMap (v.groupSteps m.id)

def steps (v : Snapshot) (schema : Schema) : List Step := schema.modules.flatMap v.moduleSteps

def occurrences (v : Snapshot) (ns : String) (schema : Schema) : List Occurrence :=
  (v.steps schema).flatMap (Step.occurrences ns)

def events (v : Snapshot) (ns : String) (schema : Schema) : List Event :=
  (v.occurrences ns schema).map (·.event)

theorem extentFrom_zero (v : Snapshot) (module : String) (pattern : GroupPattern) (start : Nat) :
    v.extentFrom module pattern start 0 = 0 := rfl

theorem extentFrom_succ (v : Snapshot) (module : String) (pattern : GroupPattern)
    (start left : Nat) :
    v.extentFrom module pattern start (left + 1) =
      if (v.find module (.ofNat start) pattern).isEmpty then 0
      else v.extentFrom module pattern (start + 1) left + 1 := by
  rw [extentFrom, List.range'_succ, List.findIdx_cons, cond_eq_ite]
  rfl

theorem extent_le (v : Snapshot) (module : String) (pattern : GroupPattern) :
    v.extent module pattern ≤ maxInstances := by
  have h : v.extent module pattern ≤ (List.range' 0 maxInstances).length := List.findIdx_le_length
  rwa [List.length_range'] at h

theorem isEmpty_find_of_lt {v : Snapshot} {module : String} {pattern : GroupPattern} {i : Nat}
    (h : i < v.extent module pattern) : (v.find module (.ofNat i) pattern).isEmpty = false := by
  have hn := List.not_of_lt_findIdx h
  simpa using hn

theorem isEmpty_find_extent {v : Snapshot} {module : String} {pattern : GroupPattern}
    (h : v.extent module pattern < maxInstances) :
    (v.find module (.ofNat (v.extent module pattern)) pattern).isEmpty = true := by
  have hlt : v.extent module pattern < (List.range' 0 maxInstances).length := by
    rwa [List.length_range']
  have hget :
      (List.range' 0 maxInstances).get ⟨v.extent module pattern, hlt⟩ =
        v.extent module pattern := by
    simp
  have hn :
      (v.find module (.ofNat ((List.range' 0 maxInstances).get ⟨v.extent module pattern, hlt⟩))
      pattern).isEmpty = true := List.findIdx_getElem (w := hlt)
  rwa [hget] at hn

theorem enumeration_zero (v : Snapshot) (module : String) (g : Schema.Group) (start : Nat) :
    v.enumeration module g start 0 = [lastStep module g start] := rfl

theorem enumeration_succ (v : Snapshot) (module : String) (g : Schema.Group) (start count : Nat) :
    v.enumeration module g start (count + 1) =
      v.instanceSteps module g start ++ v.enumeration module g (start + 1) count := by
  rw [enumeration, List.range'_succ, List.flatMap_cons, List.append_assoc, Nat.add_comm count,
    ← Nat.add_assoc]
  rfl

theorem countP_isLookup_instanceSteps (v : Snapshot) (module : String) (g : Schema.Group)
    (i : Nat) : (v.instanceSteps module g i).countP Step.isLookup = 1 := by
  have h : (v.visits module g (.ofNat i)).countP Step.isLookup = 0 := by
    rw [List.countP_eq_zero]
    intro step hstep
    obtain ⟨r, -, rfl⟩ := List.mem_map.mp hstep
    simp [Step.isLookup]
  rw [instanceSteps, List.countP_cons_of_pos rfl, h]

theorem countP_isLookup_namedSteps (v : Snapshot) (module : String) (g : Schema.Group) :
    (v.namedSteps module g).countP Step.isLookup =
      (v.enumeration module g 0 (v.extent module g.pattern)).countP Step.isLookup := by
  simp [namedSteps, List.countP_append, Step.isLookup]

theorem mem_namedSteps {v : Snapshot} {module : String} {g : Schema.Group} {step : Step}
    (h : step ∈ v.namedSteps module g) :
    (∃ i, step = .lookup module (.ofNat i) g.id) ∨
      (∃ i, ∃ r ∈ v.find module (.ofNat i) g.pattern, step = .visit ⟨module, g, .ofNat i, r⟩) ∨
      step = .runaway module g.id ∨ step = .summary ⟨module, g.id, v.extent module g.pattern⟩ := by
  rcases List.mem_append.mp h with hstep | hsummary
  · rcases List.mem_append.mp hstep with hinstance | hlast
    · obtain ⟨i, -, hi⟩ := List.mem_flatMap.mp hinstance
      rcases List.mem_cons.mp hi with hlookup | hvisit
      · exact .inl ⟨i, hlookup⟩
      · obtain ⟨r, hr, rfl⟩ := List.mem_map.mp hvisit
        exact .inr (.inl ⟨i, r, hr, rfl⟩)
    · have heq := List.mem_singleton.mp hlast
      rw [lastStep] at heq
      split at heq
      · exact .inl ⟨_, heq⟩
      · exact .inr (.inr (.inl heq))
  · exact .inr (.inr (.inr (List.mem_singleton.mp hsummary)))

theorem countP_isStructured_namedSteps (v : Snapshot) (module : String) (g : Schema.Group) :
    (v.namedSteps module g).countP Step.isStructured = 0 := by
  rw [List.countP_eq_zero]
  intro step hstep
  rcases mem_namedSteps hstep with ⟨i, rfl⟩ | ⟨i, r, -, rfl⟩ | rfl | rfl
  · exact Bool.false_ne_true
  · exact Bool.false_ne_true
  · exact Bool.false_ne_true
  · exact Bool.false_ne_true

theorem groupSteps_of_none {v : Snapshot} {module : String} {g : Schema.Group}
    (h : StructuredKind.route? module g.pattern = none) :
    v.groupSteps module g = v.namedSteps module g := by
  refine if_neg fun hx => ?_
  rw [Schema.route?_of_isRecord hx] at h
  cases h

theorem groupSteps_of_some {v : Snapshot} {module : String} {g : Schema.Group}
    {kind : StructuredKind} (h : StructuredKind.route? module g.pattern = some kind) :
    v.groupSteps module g = v.structuredSteps module g kind := by
  cases kind
  exact if_pos (Schema.isRecord_of_route? (x := (module, g)) h)

theorem mem_find_of_visit {v : Snapshot} {schema : Schema} {x : Visit}
    (h : .visit x ∈ v.steps schema) :
    x.reading ∈ v.find x.module x.inst x.group.pattern := by
  obtain ⟨m, -, hm⟩ := List.mem_flatMap.mp h
  obtain ⟨g, -, hg⟩ := List.mem_flatMap.mp hm
  cases hr : StructuredKind.route? m.id g.pattern with
  | some kind =>
    rw [groupSteps_of_some hr] at hg
    simp [structuredSteps] at hg
  | none =>
    rw [groupSteps_of_none hr] at hg
    rcases mem_namedSteps hg with ⟨i, hlookup⟩ | ⟨i, r, hfound, hvisit⟩ | hlast | hsummary
    · nomatch hlookup
    · cases hvisit
      exact hfound
    · nomatch hlast
    · nomatch hsummary

theorem events_eq (v : Snapshot) (ns : String) (schema : Schema) :
    v.events ns schema = (v.steps schema).flatMap (Step.events ns) := by
  rw [events, occurrences, List.map_flatMap]
  rfl

end Snapshot

end KernelStats
