import Mathlib.Data.List.Basic
import KernelStats.Proofs.Snapshot

/-!
# Revised snapshots

A revision changes what the statistics of a snapshot give, not which of them are there. A scrape of
the revised snapshot takes the same steps, each of them revised.
-/

namespace KernelStats

/-- A change of readings and records that keeps the names of the readings, and whether a record is
there. -/
structure Revision where
  reading : Reading → Reading
  record : Except SourceError StructuredStats → Except SourceError StructuredStats
  name_reading : ∀ r, (reading r).name = r.name
  isOk_record : ∀ answer, (record answer).isOk = answer.isOk

namespace Step

def revise (f : Revision) : Step → Step
  | visit v => visit { v with reading := f.reading v.reading }
  | structured module g kind answer => structured module g kind (f.record answer)
  | s => s

theorem isLookup_revise (f : Revision) (s : Step) : (s.revise f).isLookup = s.isLookup := by
  cases s <;> rfl

theorem isStructured_revise (f : Revision) (s : Step) :
    (s.revise f).isStructured = s.isStructured := by
  cases s <;> rfl

theorem summary?_revise (f : Revision) (s : Step) : (s.revise f).summary? = s.summary? := by
  cases s <;> rfl

theorem countP_isLookup_revise (f : Revision) (steps : List Step) :
    (steps.map (revise f)).countP isLookup = steps.countP isLookup := by
  have h : isLookup ∘ revise f = isLookup := funext (isLookup_revise f)
  rw [List.countP_map, h]

theorem countP_isStructured_revise (f : Revision) (steps : List Step) :
    (steps.map (revise f)).countP isStructured = steps.countP isStructured := by
  have h : isStructured ∘ revise f = isStructured := funext (isStructured_revise f)
  rw [List.countP_map, h]

theorem summaries_revise (ns : String) (f : Revision) (steps : List Step) :
    ((steps.map (revise f)).flatMap (events ns)).filterMap Event.summary? =
      (steps.flatMap (events ns)).filterMap Event.summary? := by
  have h : (fun s : Step => ((s.revise f).events ns).filterMap Event.summary?) =
      fun s => (s.events ns).filterMap Event.summary? := by
    funext s
    rw [filterMap_summary?, filterMap_summary?, summary?_revise]
  rw [List.filterMap_flatMap, List.filterMap_flatMap, List.flatMap_map, h]

end Step

namespace Snapshot

def revise (v : Snapshot) (f : Revision) : Snapshot where
  find module inst pattern := (v.find module inst pattern).map f.reading
  structured kind := f.record (v.structured kind)
  isMatch_of_mem := by
    intro module inst pattern r hr
    obtain ⟨x, hx, rfl⟩ := List.mem_map.mp hr
    rw [f.name_reading]
    exact v.isMatch_of_mem hx

variable (v : Snapshot) (f : Revision)

theorem extent_revise (module : String) (pattern : GroupPattern) :
    (v.revise f).extent module pattern = v.extent module pattern := by
  have hempty : (fun i => ((v.revise f).find module (.ofNat i) pattern).isEmpty) =
      fun i => (v.find module (.ofNat i) pattern).isEmpty := by
    funext i
    exact List.isEmpty_map
  rw [extent, extent, extentFrom, extentFrom, hempty]

theorem groupSteps_revise (module : String) (g : Schema.Group) :
    (v.revise f).groupSteps module g = (v.groupSteps module g).map (Step.revise f) := by
  have hinstance : (v.revise f).instanceSteps module g =
      fun i => (v.instanceSteps module g i).map (Step.revise f) := by
    funext i
    simp only [instanceSteps, visits, revise, List.map_cons, List.map_map]
    rfl
  have hlast (n : Nat) : (lastStep module g n).revise f = lastStep module g n := by
    rw [lastStep]
    split <;> rfl
  cases hr : StructuredKind.route? module g.pattern with
  | some kind =>
    have hanswer : (v.revise f).structured kind = f.record (v.structured kind) := rfl
    rw [groupSteps_of_some hr, groupSteps_of_some hr, structuredSteps, structuredSteps, hanswer,
      f.isOk_record]
    rfl
  | none =>
    rw [groupSteps_of_none hr, groupSteps_of_none hr, namedSteps, namedSteps, extent_revise,
      enumeration, enumeration, hinstance, List.map_append, List.map_append, List.map_singleton,
      List.map_singleton, hlast, List.map_flatMap]
    rfl

theorem steps_revise (schema : Schema) :
    (v.revise f).steps schema = (v.steps schema).map (Step.revise f) := by
  have hgroups (module : String) :
      (v.revise f).groupSteps module = fun g => (v.groupSteps module g).map (Step.revise f) :=
    funext (v.groupSteps_revise f module)
  have hmodules : (v.revise f).moduleSteps = fun m => (v.moduleSteps m).map (Step.revise f) := by
    funext m
    rw [moduleSteps, hgroups, moduleSteps, List.map_flatMap]
  rw [steps, hmodules, steps, List.map_flatMap]

variable {v}

theorem groupSteps_congr {w : Snapshot} {module : String} {g : Schema.Group}
    (hfind : StructuredKind.route? module g.pattern = none →
      ∀ inst, v.find module inst g.pattern = w.find module inst g.pattern)
    (hstructured : ∀ kind, v.structured kind = w.structured kind) :
    v.groupSteps module g = w.groupSteps module g := by
  cases hr : StructuredKind.route? module g.pattern with
  | some kind =>
    rw [groupSteps_of_some hr, groupSteps_of_some hr, structuredSteps, structuredSteps,
      hstructured]
  | none =>
    have hfound := hfind hr
    have hextent : v.extent module g.pattern = w.extent module g.pattern := by
      simp only [extent, extentFrom, hfound]
    have hinstances : v.instanceSteps module g = w.instanceSteps module g := by
      funext i
      simp only [instanceSteps, visits, hfound]
    rw [groupSteps_of_none hr, groupSteps_of_none hr, namedSteps, namedSteps, hextent,
      enumeration, enumeration, hinstances]

theorem steps_congr_of_mem {w : Snapshot} {schema : Schema}
    (hfind : ∀ m ∈ schema.modules, ∀ g ∈ m.groups, StructuredKind.route? m.id g.pattern = none →
      ∀ inst, v.find m.id inst g.pattern = w.find m.id inst g.pattern)
    (hstructured : ∀ kind, v.structured kind = w.structured kind) :
    v.steps schema = w.steps schema :=
  List.flatMap_congr fun m hm =>
    List.flatMap_congr fun g hg => groupSteps_congr (hfind m hm g hg) hstructured

theorem steps_congr {w : Snapshot}
    (hfind : ∀ module inst pattern, StructuredKind.route? module pattern = none →
      v.find module inst pattern = w.find module inst pattern)
    (hstructured : ∀ kind, v.structured kind = w.structured kind) (schema : Schema) :
    v.steps schema = w.steps schema :=
  steps_congr_of_mem (fun m _ g _ hr inst => hfind m.id inst g.pattern hr) hstructured

end Snapshot

end KernelStats
