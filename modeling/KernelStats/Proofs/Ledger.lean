import Mathlib.Algebra.GroupWithZero.Nat
import KernelStats.Proofs.CallLog

/-!
# The ledger of a scrape

What is done for a group is a list of deeds, each with what the session has answered. A deed says which
calls were made for it and which events it leaves: a statistic that is read gives its time and, for each
of its counters, a sample or a failure. The samples, failures and summaries of an account are read off
the events, kind by kind.
-/

namespace KernelStats

structure Subject where
  module : String
  inst : UInt32
  name : String
  shown : String
  label : String
  labelValue : String

structure Answer where
  counter : Schema.Counter
  value : Except SourceError UInt64

structure Harvest where
  subject : Subject
  answers : List Answer
  time : Int64

namespace Subject

def counterSample (ns : String) (x : Subject) (c : Schema.Counter) (raw : UInt64) : Sample where
  desc := .forCounter ns x.module x.shown c x.label
  labelValue := x.labelValue
  value := scaleValue raw c.scale

def counterFailure (x : Subject) (c : Schema.Counter) (cause : SourceError) : StatFailure :=
  ⟨⟨x.module, x.inst, x.name, c.id⟩, cause⟩

def sample? (ns : String) (x : Subject) : Answer → Option Sample
  | ⟨c, .ok raw⟩ => some (x.counterSample ns c raw)
  | ⟨_, .error _⟩ => none

def failure? (x : Subject) : Answer → Option StatFailure
  | ⟨_, .ok _⟩ => none
  | ⟨c, .error cause⟩ => some (x.counterFailure c cause)

def event (ns : String) (x : Subject) : Answer → Event
  | ⟨c, .ok raw⟩ => .sample (x.counterSample ns c raw)
  | ⟨c, .error cause⟩ => .failure (x.counterFailure c cause)

def timeSample (ns : String) (x : Subject) (time : Int64) : Sample where
  desc := .forSnaptime ns x.module x.shown
  labelValue := x.labelValue
  value := Number.ofInt time.toInt

end Subject

def StructuredStats.answer (stats : StructuredStats) (id : String) : Except SourceError UInt64 :=
  match stats.get? id with
  | some raw => .ok raw
  | none => .error (.missingStat id)

namespace Harvest

def ofRecord (module : String) (g : Schema.Group) (kind : StructuredKind) (stats : StructuredStats) :
    Harvest where
  subject := ⟨module, 0, kind.name, kind.name, g.label, Progress.structuredLabel⟩
  answers := g.counters.map fun c => ⟨c, stats.answer c.id⟩
  time := stats.snaptime

def samples (ns : String) (h : Harvest) : List Sample :=
  h.answers.filterMap (h.subject.sample? ns) ++ [h.subject.timeSample ns h.time]

def failures (h : Harvest) : List StatFailure := h.answers.filterMap h.subject.failure?

def events (ns : String) (h : Harvest) : List Event :=
  h.answers.map (h.subject.event ns) ++ [.sample (h.subject.timeSample ns h.time)]

end Harvest

inductive Deed where
  | lookup (q : Probe)
  | unread (e : Entry) (cause : SourceError)
  | read (e : Entry) (shown labelValue : String) (answers : List Answer) (time : Int64)
  | structured (kind : StructuredKind) (answer : Except SourceError StructuredStats)

namespace Deed

def calls : Deed → List Call
  | lookup q => [.lookup q]
  | unread e cause => [.read (.error cause) e]
  | read e _ _ answers _ =>
    .read (.ok ()) e :: answers.map fun a => .value e a.counter.id a.value
  | structured kind answer => [.structured kind answer]

def probe? : Deed → Option Probe
  | lookup q => some q
  | _ => none

def refusal? (module : String) : Deed → Option StatFailure
  | lookup q => q.failure?
  | unread e cause => some ⟨⟨module, e.inst, e.name, ""⟩, cause⟩
  | structured kind (.error cause) => some ⟨⟨module, 0, kind.name, ""⟩, cause⟩
  | _ => none

def harvest? (module : String) (g : Schema.Group) : Deed → Option Harvest
  | read e shown labelValue answers time =>
    some ⟨⟨module, e.inst, e.name, shown, g.label, labelValue⟩, answers, time⟩
  | structured kind (.ok stats) => some (.ofRecord module g kind stats)
  | _ => none

def present : Deed → Bool
  | lookup q => q.found
  | structured _ answer => answer.isOk
  | _ => false

def Fits (module : String) (g : Schema.Group) : Deed → Prop
  | lookup q => q.module = module ∧ q.pattern = g.pattern
  | read _ _ _ answers _ => answers.map Answer.counter = g.counters
  | _ => True

def samples (ns module : String) (g : Schema.Group) (d : Deed) : List Sample :=
  (d.harvest? module g).elim [] (Harvest.samples ns)

def failures (module : String) (g : Schema.Group) (d : Deed) : List StatFailure :=
  (d.refusal? module).toList ++ (d.harvest? module g).elim [] Harvest.failures

/-- How many samples a deed is good for: for a statistic that is read one for its time and one for each
counter of the group that has not failed. -/
def yield (module : String) (g : Schema.Group) (d : Deed) : Nat :=
  (d.harvest? module g).elim 0 fun h => 1 + (g.counters.length - h.failures.length)

def events (ns module : String) (g : Schema.Group) (d : Deed) : List Event :=
  (d.probe?.map fun q => .lookup q.module q.inst q.pattern.source).toList ++
    ((d.refusal? module).map .failure).toList ++ (d.harvest? module g).elim [] (Harvest.events ns)

end Deed

structure Account where
  module : String
  group : Schema.Group
  deeds : List Deed
  runaway : Bool

namespace Account

def calls (a : Account) : List Call := a.deeds.flatMap Deed.calls

def samples (ns : String) (a : Account) : List Sample :=
  a.deeds.flatMap (Deed.samples ns a.module a.group)

def failures (a : Account) : List StatFailure := a.deeds.flatMap (Deed.failures a.module a.group)

def yield (a : Account) : Nat := (a.deeds.map (Deed.yield a.module a.group)).sum

def summary (a : Account) : GroupSummary := ⟨a.module, a.group.id, a.deeds.countP Deed.present⟩

def events (ns : String) (a : Account) : List Event :=
  a.deeds.flatMap (Deed.events ns a.module a.group) ++
    (if a.runaway then [.runaway a.module a.group.id] else []) ++ [.summary a.summary]

def Fits (a : Account) : Prop := ∀ d ∈ a.deeds, d.Fits a.module a.group

end Account

namespace Harvest

theorem filterMap_events {f : Event → Option α} {g : Answer → Option α} (ns : String) (h : Harvest)
    (hf : f ∘ h.subject.event ns = g) :
    (h.events ns).filterMap f =
      h.answers.filterMap g ++ (f (.sample (h.subject.timeSample ns h.time))).toList := by
  rw [events, List.filterMap_append, List.filterMap_map, hf]
  cases hlast : f (.sample (h.subject.timeSample ns h.time)) with
  | none => rw [List.filterMap_cons_none hlast]; rfl
  | some x => rw [List.filterMap_cons_some hlast]; rfl

theorem sample?_events (ns : String) (h : Harvest) :
    (h.events ns).filterMap Event.sample? = h.samples ns :=
  h.filterMap_events ns (funext fun ⟨_, value⟩ => by cases value <;> rfl)

theorem failure?_events (ns : String) (h : Harvest) :
    (h.events ns).filterMap Event.failure? = h.failures := by
  have hanswers : Event.failure? ∘ h.subject.event ns = h.subject.failure? :=
    funext fun ⟨_, value⟩ => by cases value <;> rfl
  rw [h.filterMap_events ns hanswers]
  exact List.append_nil _

theorem summary?_events (ns : String) (h : Harvest) :
    (h.events ns).filterMap Event.summary? = [] := by
  have hanswers : Event.summary? ∘ h.subject.event ns = fun _ => none :=
    funext fun ⟨_, value⟩ => by cases value <;> rfl
  rw [h.filterMap_events ns hanswers]
  simp [Event.summary?]

theorem lookup?_events (ns : String) (h : Harvest) :
    (h.events ns).filterMap Event.lookup? = [] := by
  have hanswers : Event.lookup? ∘ h.subject.event ns = fun _ => none :=
    funext fun ⟨_, value⟩ => by cases value <;> rfl
  rw [h.filterMap_events ns hanswers]
  simp [Event.lookup?]

theorem length_samples (ns : String) (h : Harvest) :
    (h.samples ns).length = 1 + (h.answers.length - h.failures.length) := by
  have heach (as : List Answer) :
      (as.filterMap (h.subject.sample? ns)).length + (as.filterMap h.subject.failure?).length =
        as.length := by
    induction as with
    | nil => rfl
    | cons a as ih =>
      obtain ⟨c, value⟩ := a
      cases value with
      | ok raw =>
        simp only [List.filterMap_cons, Subject.sample?, Subject.failure?, List.length_cons, ← ih]
        omega
      | error cause =>
        simp only [List.filterMap_cons, Subject.sample?, Subject.failure?, List.length_cons, ← ih]
        omega
  have hall := heach h.answers
  rw [samples, List.length_append, List.length_singleton, failures]
  omega

end Harvest

namespace Deed

theorem filterMap_events (f : Event → Option α) (ns module : String) (g : Schema.Group) (d : Deed) :
    (d.events ns module g).filterMap f =
      (d.probe?.bind fun q => f (.lookup q.module q.inst q.pattern.source)).toList ++
        ((d.refusal? module).bind fun x => f (.failure x)).toList ++
          (d.harvest? module g).elim [] fun h => (h.events ns).filterMap f := by
  have hoption {β : Type} (o : Option β) (k : β → Event) :
      (o.map k).toList.filterMap f = (o.bind fun x => f (k x)).toList := by
    cases o with
    | none => rfl
    | some x =>
      rw [Option.map_some, Option.bind_some, Option.toList_some]
      cases h : f (k x) with
      | none => rw [List.filterMap_cons_none h]; rfl
      | some y => rw [List.filterMap_cons_some h]; rfl
  rw [events, List.filterMap_append, List.filterMap_append, hoption, hoption]
  cases d.harvest? module g with
  | none => rfl
  | some h => rfl

variable (ns module : String) (g : Schema.Group) (d : Deed)

theorem sample?_events :
    (d.events ns module g).filterMap Event.sample? = d.samples ns module g := by
  rw [filterMap_events, funext (Harvest.sample?_events ns)]
  simp [Event.sample?, samples]

theorem failure?_events :
    (d.events ns module g).filterMap Event.failure? = d.failures module g := by
  rw [filterMap_events, funext (Harvest.failure?_events ns)]
  simp [Event.failure?, failures]

theorem summary?_events : (d.events ns module g).filterMap Event.summary? = [] := by
  rw [filterMap_events, funext (Harvest.summary?_events ns)]
  cases d.harvest? module g <;> simp [Event.summary?]

theorem lookup?_events :
    (d.events ns module g).filterMap Event.lookup? =
      (d.calls.filterMap Call.probe?).map
        fun q => .lookingUp q.module q.inst q.pattern.source := by
  rw [filterMap_events, funext (Harvest.lookup?_events ns)]
  have hvalues (e : Entry) (as : List Answer) :
      (as.map fun a => Call.value e a.counter.id a.value).filterMap Call.probe? = [] := by
    rw [List.filterMap_map, List.filterMap_eq_nil_iff]
    exact fun _ _ => rfl
  cases d with
  | lookup q => simp [probe?, refusal?, harvest?, calls, Event.lookup?, Call.probe?]
  | unread e cause => rfl
  | read e shown labelValue answers time =>
    rw [calls, List.filterMap_cons_none rfl, hvalues]
    rfl
  | structured kind answer => cases answer <;> rfl

theorem Fits.length_answers {module : String} {g : Schema.Group} {d : Deed} {h : Harvest}
    (hd : d.Fits module g) (hh : d.harvest? module g = some h) :
    h.answers.length = g.counters.length := by
  cases d with
  | lookup q => nomatch hh
  | unread e cause => nomatch hh
  | read e shown labelValue answers time =>
    have hcounters : answers.map Answer.counter = g.counters := hd
    cases hh
    rw [← hcounters, List.length_map]
  | structured kind answer =>
    cases answer with
    | error cause => nomatch hh
    | ok stats =>
      cases hh
      exact List.length_map _

theorem Fits.length_samples {module : String} {g : Schema.Group} {d : Deed} (ns : String)
    (hd : d.Fits module g) : (d.samples ns module g).length = d.yield module g := by
  rw [samples, yield]
  cases hh : d.harvest? module g with
  | none => rfl
  | some h =>
    rw [Option.elim_some, Option.elim_some, h.length_samples, hd.length_answers hh]

end Deed

namespace Account

theorem filterMap_events {f : Event → Option α} (ns : String) (a : Account)
    (hf : f (.runaway a.module a.group.id) = none) :
    (a.events ns).filterMap f =
      (a.deeds.flatMap fun d => (d.events ns a.module a.group).filterMap f) ++
        (f (.summary a.summary)).toList := by
  have hrunaway :
      (if a.runaway then [Event.runaway a.module a.group.id] else []).filterMap f = [] := by
    cases a.runaway with
    | false => rfl
    | true => exact List.filterMap_cons_none hf
  rw [events, List.filterMap_append, List.filterMap_append, hrunaway, List.append_nil,
    List.filterMap_flatMap]
  cases hs : f (.summary a.summary) with
  | none => rw [List.filterMap_cons_none hs]; rfl
  | some x => rw [List.filterMap_cons_some hs]; rfl

variable (ns : String) (a : Account)

theorem sample?_events : (a.events ns).filterMap Event.sample? = a.samples ns := by
  rw [a.filterMap_events ns rfl, funext (Deed.sample?_events ns a.module a.group)]
  exact List.append_nil _

theorem failure?_events : (a.events ns).filterMap Event.failure? = a.failures := by
  rw [a.filterMap_events ns rfl, funext (Deed.failure?_events ns a.module a.group)]
  exact List.append_nil _

theorem summary?_events : (a.events ns).filterMap Event.summary? = [a.summary] := by
  rw [a.filterMap_events ns rfl, funext (Deed.summary?_events ns a.module a.group)]
  simp [Event.summary?]

theorem lookup?_events :
    (a.events ns).filterMap Event.lookup? =
      (a.calls.filterMap Call.probe?).map
        fun q => .lookingUp q.module q.inst q.pattern.source := by
  rw [a.filterMap_events ns rfl, funext (Deed.lookup?_events ns a.module a.group), calls,
    List.filterMap_flatMap, List.map_flatMap]
  exact List.append_nil _

theorem Fits.length_samples {a : Account} (h : a.Fits) (ns : String) :
    (a.samples ns).length = a.yield := by
  rw [samples, List.length_flatMap, yield]
  exact congrArg List.sum (List.map_congr_left fun d hd => (h d hd).length_samples ns)

end Account

end KernelStats
