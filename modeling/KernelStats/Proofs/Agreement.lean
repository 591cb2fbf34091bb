import KernelStats.Proofs.Revision

/-!
# Scrapes that agree but for the causes of failures

What a statistic says does not depend on why some of its counters cannot be read, nor on its place.
Two snapshots that are the same without these lead to the same scrapes, except that a failure may
give another cause.
-/

namespace KernelStats

def forgetCause : Except SourceError α → Except SourceError α
  | .ok a => .ok a
  | .error _ => .error (.read "")

def Event.forgetCause : Event → Event
  | .failure f => .failure { f with cause := .read "" }
  | e => e

def Content.forgetCauses (c : Content) : Content :=
  { c with value := fun stat => forgetCause (c.value stat) }

def Reading.forgetCauses (r : Reading) : Reading :=
  { slot := 0, name := r.name, content := forgetCause (r.content.map Content.forgetCauses) }

def Revision.causeless : Revision where
  reading := Reading.forgetCauses
  record := forgetCause
  name_reading _ := rfl
  isOk_record answer := by cases answer <;> rfl

structure Scrape.Agrees (a b : Scrape) : Prop where
  sink : a.sink = b.sink
  emitted : a.emitted = b.emitted
  groups : a.groups = b.groups
  paths : a.failures.map (·.path) = b.failures.map (·.path)

structure Snapshot.Agrees (v w : Snapshot) : Prop where
  find : ∀ module inst pattern, StructuredKind.route? module pattern = none →
    (v.find module inst pattern).map Reading.forgetCauses =
      (w.find module inst pattern).map Reading.forgetCauses
  structured : ∀ kind, forgetCause (v.structured kind) = forgetCause (w.structured kind)

theorem sample?_forgetCause (e : Event) : e.forgetCause.sample? = e.sample? := by
  cases e <;> rfl

theorem summary?_forgetCause (e : Event) : e.forgetCause.summary? = e.summary? := by
  cases e <;> rfl

theorem path_forgetCause (e : Event) :
    e.forgetCause.failure?.map (·.path) = e.failure?.map (·.path) := by
  cases e <;> rfl

theorem Scrape.recordAll_agrees (s : Scrape) {es fs : List Event}
    (h : es.map Event.forgetCause = fs.map Event.forgetCause) :
    (s.recordAll es).Agrees (s.recordAll fs) := by
  have hkept {β : Type} (f : Event → Option β) (hf : ∀ e, f e.forgetCause = f e) :
      es.filterMap f = fs.filterMap f := by
    have hcomp : f ∘ Event.forgetCause = f := funext hf
    rw [← hcomp, ← List.filterMap_map, h, List.filterMap_map]
  have hsamples := hkept Event.sample? sample?_forgetCause
  have hsummaries := hkept Event.summary? summary?_forgetCause
  have hpaths := hkept (fun e => e.failure?.map (·.path)) path_forgetCause
  rw [recordAll_eq, recordAll_eq]
  refine ⟨?_, ?_, ?_, ?_⟩
  · dsimp only
    rw [hsamples]
  · dsimp only
    rw [hsamples]
  · dsimp only
    rw [hsummaries]
  · have hmap (es : List Event) : (es.filterMap Event.failure?).map (·.path) =
        es.filterMap fun e => e.failure?.map (·.path) := List.map_filterMap
    refine Array.toList_inj.mp ?_
    simp only [Array.toList_map, Array.toList_appendList, List.map_append, hmap, hpaths]

theorem Visit.forgetCause_counterEvent (ns : String) (v : Visit) (content : Content)
    (c : Schema.Counter) :
    (Visit.counterEvent ns { v with reading := v.reading.forgetCauses }
        content.forgetCauses c).forgetCause =
      (v.counterEvent ns content c).forgetCause := by
  have hvalue : content.forgetCauses.value c.id = KernelStats.forgetCause (content.value c.id) :=
    rfl
  rw [counterEvent, counterEvent, hvalue]
  cases content.value c.id with
  | ok raw => rfl
  | error cause => rfl

namespace Step

theorem forgetCause_events (ns : String) (s : Step) :
    ((s.revise .causeless).events ns).map Event.forgetCause =
      (s.events ns).map Event.forgetCause := by
  cases s with
  | lookup module inst group => rfl
  | runaway module group => rfl
  | summary g => rfl
  | structured module g kind answer =>
    cases answer with
    | ok stats => rfl
    | error cause => rfl
  | visit v =>
    cases hc : v.reading.content with
    | error cause =>
      have hc' : v.reading.forgetCauses.content = .error (.read "") := by
        rw [Reading.forgetCauses, hc]
        rfl
      simp only [revise, Revision.causeless, events, occurrences, Visit.occurrences, hc, hc',
        List.map_cons, List.map_nil]
      rfl
    | ok content =>
      have hc' : v.reading.forgetCauses.content = .ok content.forgetCauses := by
        rw [Reading.forgetCauses, hc]; rfl
      simp only [revise, Revision.causeless, events, occurrences, Visit.occurrences, hc, hc',
        List.map_append, List.map_map, List.map_cons, List.map_nil]
      refine congr (congrArg _ ?_) rfl
      exact List.map_congr_left fun c _ => v.forgetCause_counterEvent ns content c

end Step

namespace Snapshot

theorem events_causeless (v : Snapshot) (ns : String) (schema : Schema) :
    ((v.revise .causeless).events ns schema).map Event.forgetCause =
      (v.events ns schema).map Event.forgetCause := by
  have hevents : (fun s : Step => ((s.revise .causeless).events ns).map Event.forgetCause) =
      fun s => (s.events ns).map Event.forgetCause := funext (Step.forgetCause_events ns)
  rw [events_eq, events_eq, steps_revise, List.map_flatMap, List.map_flatMap, List.flatMap_map,
    hevents]

theorem Agrees.events {v w : Snapshot} (h : v.Agrees w) (ns : String) (schema : Schema) :
    (v.events ns schema).map Event.forgetCause = (w.events ns schema).map Event.forgetCause := by
  have hsteps : (v.revise .causeless).steps schema = (w.revise .causeless).steps schema :=
    steps_congr h.find h.structured schema
  rw [← events_causeless v, ← events_causeless w, events_eq, events_eq, hsteps]

end Snapshot

end KernelStats
