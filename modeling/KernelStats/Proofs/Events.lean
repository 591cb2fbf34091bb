import KernelStats.Collect.Scrape

/-!
# The events of a scrape

A scrape is the record of a list of events. Its samples, failures, summaries and notices are the
events of each kind in their order.
-/

namespace KernelStats

inductive Event where
  | lookup (module : String) (inst : UInt32) (group : String)
  | sample (s : Sample)
  | failure (f : StatFailure)
  | runaway (module group : String)
  | summary (g : GroupSummary)

namespace Event

def sample? : Event → Option Sample
  | sample s => some s
  | _ => none

def failure? : Event → Option StatFailure
  | failure f => some f
  | _ => none

def summary? : Event → Option GroupSummary
  | summary g => some g
  | _ => none

def notice? : Event → Option Notice
  | lookup module inst group => some (.lookingUp module inst group)
  | failure f => some (.failed f)
  | runaway module group => some (.runaway module group)
  | _ => none

def lookup? : Event → Option Notice
  | lookup module inst group => some (.lookingUp module inst group)
  | _ => none

theorem filter_level_error (es : List Event) :
    (es.filterMap notice?).filter (·.level = .error) =
      (es.filterMap failure?).map .failed := by
  rw [List.filter_filterMap, List.map_filterMap]
  refine congrArg (es.filterMap ·) (funext fun e => ?_)
  cases e <;> rfl

theorem filter_level_debug (es : List Event) :
    (es.filterMap notice?).filter (·.level = .debug) = es.filterMap lookup? := by
  rw [List.filter_filterMap]
  refine congrArg (es.filterMap ·) (funext fun e => ?_)
  cases e <;> rfl

end Event

namespace Scrape

def record (s : Scrape) : Event → Scrape
  | .lookup module inst group => s.note (.lookingUp module inst group)
  | .sample x => s.emit x.desc x.labelValue x.value
  | .failure f => s.fail f.path f.cause
  | .runaway module group => s.note (.runaway module group)
  | .summary g => s.summarize g

def recordAll (s : Scrape) (es : List Event) : Scrape := es.foldl record s

@[simp] theorem recordAll_nil (s : Scrape) : s.recordAll [] = s := rfl

theorem recordAll_cons (s : Scrape) (e : Event) (es : List Event) :
    s.recordAll (e :: es) = (s.record e).recordAll es := rfl

theorem recordAll_append (s : Scrape) (es fs : List Event) :
    s.recordAll (es ++ fs) = (s.recordAll es).recordAll fs :=
  List.foldl_append

theorem recordAll_eq (s : Scrape) (es : List Event) :
    s.recordAll es = {
      sink := s.sink ++ es.filterMap Event.sample?
      emitted := s.emitted + (es.filterMap Event.sample?).length
      failures := s.failures ++ es.filterMap Event.failure?
      groups := s.groups ++ es.filterMap Event.summary?
      notices := s.notices ++ es.filterMap Event.notice? } := by
  induction es generalizing s with
  | nil => simp
  | cons e es ih =>
    rw [recordAll_cons, ih]
    cases e <;>
      simp [record, note, emit, fail, summarize, Event.sample?, Event.failure?, Event.summary?,
        Event.notice?, List.filterMap_cons, Nat.add_assoc, Nat.add_comm 1]

end Scrape

end KernelStats
