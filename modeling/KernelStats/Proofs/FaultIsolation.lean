import KernelStats.Proofs.MemorySnapshot
import KernelStats.Proofs.Revision

/-!
# Faults stay where they are

A counter that can no longer be emitted takes away its own samples, and a statistic that can no
longer be read takes away the samples of its own counters and time. Whatever else a scrape puts out
stays as it was and where it was, and so do the summaries of the groups and the calls that are
counted.
-/

namespace KernelStats

def Content.silence (stat : String) (cause : SourceError) (c : Content) : Content :=
  { c with value := fun id => if id = stat then .error cause else c.value id }

def Revision.at (slot : Nat) (change : Except SourceError Content → Except SourceError Content) :
    Revision where
  reading r := if r.slot = slot then { r with content := change r.content } else r
  record answer := answer
  name_reading r := by split <;> rfl
  isOk_record _ := rfl

namespace Occurrence

def hits (slot : Nat) (stat : String) (o : Occurrence) : Bool :=
  o.slot == some slot && o.counter == some stat

def silence (slot : Nat) (f : StatFailure) (o : Occurrence) : Occurrence :=
  if o.hits slot f.path.counter then { o with event := .failure f } else o

end Occurrence

theorem Visit.counterEvent_silence (ns : String) (v : Visit) {r : Reading}
    (hr : r.name = v.reading.name) (content : Content) (stat : String) (cause : SourceError)
    (c : Schema.Counter) :
    Visit.counterEvent ns { v with reading := r } (content.silence stat cause) c =
      if c.id = stat then .failure ⟨v.path stat, cause⟩ else v.counterEvent ns content c := by
  have hvalue : (content.silence stat cause).value c.id =
      if c.id = stat then .error cause else content.value c.id := rfl
  rw [counterEvent, hvalue]
  by_cases hc : c.id = stat
  · rw [if_pos hc, if_pos hc, hc]
    simp only [path, hr]
  · rw [if_neg hc, if_neg hc]
    simp only [counterEvent, path, label, hr]

namespace Step

variable {ns : String} {slot : Nat}

theorem exists_visit {s : Step} (h : s.slot? = some slot) :
    ∃ v, s = .visit v ∧ v.reading.slot = slot := by
  cases s with
  | visit v => exact ⟨v, rfl, Option.some.inj h⟩
  | lookup module inst group => nomatch h
  | structured module g kind answer => nomatch h
  | runaway module group => nomatch h
  | summary g => nomatch h

theorem revise_of_slot_ne {change : Except SourceError Content → Except SourceError Content}
    {s : Step} (h : s.slot? ≠ some slot) : s.revise (.at slot change) = s := by
  cases s with
  | visit v =>
    have hne : v.reading.slot ≠ slot := fun heq => h (congrArg some heq)
    simp only [revise, Revision.at, if_neg hne]
  | lookup module inst group => rfl
  | structured module g kind answer => rfl
  | runaway module group => rfl
  | summary g => rfl

theorem silence_of_slot_ne {s : Step} (h : s.slot? ≠ some slot) (f : StatFailure) :
    (s.occurrences ns).map (Occurrence.silence slot f) = s.occurrences ns := by
  have hsame : ∀ o ∈ s.occurrences ns, o.silence slot f = o := by
    intro o ho
    have hmiss : o.hits slot f.path.counter = false := by
      rw [Occurrence.hits, slot_of_mem ho, Bool.and_eq_false_iff]
      exact Or.inl (by simpa using h)
    rw [Occurrence.silence, hmiss]
    rfl
  rw [List.map_congr_left hsame, List.map_id']

/-- Silencing a counter of a statistic turns what it leaves into failures, and nothing else. -/
theorem occurrences_silence {s : Step} (path : StatPath) (cause : SourceError)
    (hs : ∀ v, s = .visit v → v.reading.slot = slot → path = v.path path.counter) :
    (s.revise (.at slot (Except.map (Content.silence path.counter cause)))).occurrences ns =
      (s.occurrences ns).map (Occurrence.silence slot ⟨path, cause⟩) := by
  by_cases h : s.slot? = some slot
  · obtain ⟨v, rfl, hslot⟩ := exists_visit h
    have hpath := hs v rfl hslot
    cases hc : v.reading.content with
    | error cause =>
      -- a failed read has no counters to silence
      simp [revise, Revision.at, hslot, occurrences, Visit.occurrences, hc, Except.map,
        Occurrence.silence, Occurrence.hits, Visit.path]
    | ok content =>
      have htime (e : Event) :
          Occurrence.silence slot ⟨path, cause⟩ { event := e, slot := slot } =
            { event := e, slot := slot } := by
        simp [Occurrence.silence, Occurrence.hits]
      simp only [revise, Revision.at, hslot, if_true, occurrences, Visit.occurrences, hc,
        Except.map, List.map_append, List.map_map, List.map_cons, List.map_nil, htime]
      refine congr (congrArg _ (List.map_congr_left fun c _ => ?_)) rfl
      rw [v.counterEvent_silence ns (r := ⟨slot, v.reading.name, _⟩) rfl, ← hpath]
      by_cases hid : c.id = path.counter
      · simp [hid, Occurrence.silence, Occurrence.hits]
      · simp [hid, Occurrence.silence, Occurrence.hits]
  · rw [revise_of_slot_ne h, silence_of_slot_ne h]

theorem occurrences_unread {s : Step} (path : StatPath) (cause : SourceError)
    (hs : ∀ v, s = .visit v → v.reading.slot = slot → path = v.path "") :
    (s.revise (.at slot fun _ => .error cause)).occurrences ns =
      if s.slot? = some slot then [{ event := .failure ⟨path, cause⟩, slot := slot }]
      else s.occurrences ns := by
  by_cases h : s.slot? = some slot
  · obtain ⟨v, rfl, hslot⟩ := exists_visit h
    rw [if_pos h, hs v rfl hslot]
    simp only [revise, Revision.at, occurrences, Visit.occurrences, hslot]
    rfl
  · rw [if_neg h, revise_of_slot_ne h]

theorem path_of_failure {v : Visit} {o : Occurrence} (ho : o ∈ (visit v).occurrences ns)
    {stat : String} (hc : o.counter = some stat) {f : StatFailure}
    (hf : o.event.failure? = some f) : f.path = v.path stat := by
  rw [occurrences, Visit.occurrences] at ho
  cases hcontent : v.reading.content with
  | error cause =>
    rw [hcontent] at ho
    rw [List.mem_singleton.mp ho] at hc
    cases hc
  | ok content =>
    rw [hcontent] at ho
    rcases List.mem_append.mp ho with ho | ho
    · obtain ⟨c, -, rfl⟩ := List.mem_map.mp ho
      obtain rfl : c.id = stat := Option.some.inj hc
      dsimp only at hf
      rw [Visit.counterEvent] at hf
      cases hvalue : content.value c.id with
      | ok raw =>
        rw [hvalue] at hf
        cases hf
      | error cause =>
        rw [hvalue] at hf
        rw [← Option.some.inj hf]
    · rw [List.mem_singleton.mp ho] at hc
      cases hc

end Step

theorem samples_silence (slot : Nat) (f : StatFailure) (os : List Occurrence) :
    (os.map (Occurrence.silence slot f)).filterMap (·.event.sample?) =
      (os.filter fun o => !o.hits slot f.path.counter).filterMap (·.event.sample?) := by
  rw [List.filterMap_map, List.filterMap_filter]
  refine congrArg (List.filterMap · os) (funext fun o => ?_)
  rw [Function.comp_apply, Occurrence.silence]
  cases o.hits slot f.path.counter <;> rfl

theorem failures_silence (slot : Nat) (f : StatFailure) (os : List Occurrence) :
    (os.map (Occurrence.silence slot f)).filterMap (·.event.failure?) =
      os.filterMap fun o => if o.hits slot f.path.counter then some f else o.event.failure? := by
  rw [List.filterMap_map]
  refine congrArg (List.filterMap · os) (funext fun o => ?_)
  rw [Function.comp_apply, Occurrence.silence]
  cases o.hits slot f.path.counter <;> rfl

theorem samples_unread (ns : String) (slot : Nat) (f : StatFailure) (steps : List Step) :
    (steps.flatMap fun s =>
        if s.slot? = some slot then [{ event := .failure f, slot := slot }]
        else s.occurrences ns).filterMap (fun o : Occurrence => o.event.sample?) =
      ((steps.flatMap (Step.occurrences ns)).filter fun o => o.slot != some slot).filterMap
        (·.event.sample?) := by
  rw [List.filter_flatMap, List.filterMap_flatMap, List.filterMap_flatMap]
  refine List.flatMap_congr fun s _ => ?_
  by_cases h : s.slot? = some slot
  · have hnone : ((s.occurrences ns).filter fun o => o.slot != some slot) = [] := by
      rw [List.filter_eq_nil_iff]
      intro o ho
      rw [Step.slot_of_mem ho, h]
      simp
    rw [if_pos h, hnone]
    rfl
  · have hall : ((s.occurrences ns).filter fun o => o.slot != some slot) = s.occurrences ns := by
      rw [List.filter_eq_self]
      intro o ho
      rw [Step.slot_of_mem ho]
      simpa using h
    rw [if_neg h, hall]

theorem failures_unread (ns : String) (slot : Nat) (f : StatFailure) (steps : List Step) :
    (steps.flatMap fun s =>
        if s.slot? = some slot then [{ event := .failure f, slot := slot }]
        else s.occurrences ns).filterMap (fun o : Occurrence => o.event.failure?) =
      steps.flatMap fun s =>
        if s.slot? = some slot then [f] else (s.occurrences ns).filterMap (·.event.failure?) := by
  rw [List.filterMap_flatMap]
  refine List.flatMap_congr fun s _ => ?_
  by_cases h : s.slot? = some slot
  · rw [if_pos h, if_pos h]
    rfl
  · rw [if_neg h, if_neg h]

theorem zipIdx_modify (f : α → α) (l : List α) (n : Nat) :
    (l.modify n f).zipIdx = l.zipIdx.map fun x => (if x.2 = n then f x.1 else x.1, x.2) := by
  refine List.ext_getElem? fun i => ?_
  rw [List.getElem?_map, List.getElem?_zipIdx, List.getElem?_zipIdx, List.getElem?_modify]
  cases l[i]? with
  | none => rfl
  | some a => simp [eq_comm]

namespace Memory

def Value.faulty : Value → Bool
  | .unsigned _ => false
  | .signed n => n < 0
  | .text _ => true
  | .broken => true

theorem Value.answer_of_faulty {v : Value} (h : v.faulty = true) (stat : String) :
    ∃ cause, v.answer stat = .error cause := by
  cases v with
  | unsigned n => nomatch h
  | signed n => exact ⟨_, if_pos (of_decide_eq_true h)⟩
  | text s => exact ⟨_, rfl⟩
  | broken => exact ⟨_, rfl⟩

theorem lookup_setStat (stat : String) (v : Value) (stats : List (String × Value)) (id : String) :
    (setStat stat v stats).lookup id = if id = stat then some v else stats.lookup id := by
  have hbeq {name : String} (h : id ≠ name) : (id == name) = false := by simpa using h
  induction stats with
  | nil =>
    rw [setStat, List.lookup_cons]
    by_cases h : id = stat
    · rw [if_pos h, h, beq_self_eq_true]
    · rw [if_neg h, hbeq h]
  | cons entry stats ih =>
    obtain ⟨name, old⟩ := entry
    rw [setStat]
    by_cases hn : name = stat
    · subst hn
      rw [if_pos rfl, List.lookup_cons, List.lookup_cons]
      by_cases h : id = name
      · rw [if_pos h, h, beq_self_eq_true]
      · rw [if_neg h, hbeq h]
    · rw [if_neg hn, List.lookup_cons, List.lookup_cons, ih]
      by_cases h : id = name
      · subst h
        simp [hn]
      · rw [hbeq h]

theorem Kstat.answer_setStat (k : Kstat) (stat : String) (v : Value) (id : String) :
    Kstat.answer { k with stats := setStat stat v k.stats } id =
      if id = stat then v.answer stat else k.answer id := by
  rw [answer, answer, lookup_setStat]
  by_cases h : id = stat
  · subst h
    simp
  · simp [h]

namespace Data

def place (d : Data) (module : String) (inst : UInt32) (name : String) : Nat :=
  d.chain.findIdx (·.isAt module inst name)

theorem found_updateAt {f : Kstat → Kstat}
    (hf : ∀ k, (f k).module = k.module ∧ (f k).inst = k.inst ∧ (f k).name = k.name) (d : Data)
    (module : String) (inst : UInt32) (name module' : String) (inst' : UInt32)
    (pattern : GroupPattern) :
    (d.updateAt module inst name f).found module' inst' pattern =
      (d.found module' inst' pattern).map fun x =>
        (if x.2 = d.place module inst name then f x.1 else x.1, x.2) := by
  have hupdate :
      d.updateAt module inst name f =
        { d with chain := d.chain.modify (d.place module inst name) f } := rfl
  rw [found, found, hupdate, zipIdx_modify, List.filter_map]
  refine congrArg _ (List.filter_congr fun x _ => ?_)
  obtain ⟨hmodule, hinst, hname⟩ := hf x.1
  by_cases hx : x.2 = d.place module inst name
  · simp only [Function.comp_apply, if_pos hx, hmodule, hinst, hname]
  · simp only [Function.comp_apply, if_neg hx]

variable {d : Data} {module : String} {inst : UInt32} {name : String}

theorem key_of_place {k : Kstat} (h : d.chain[d.place module inst name]? = some k) :
    k.module = module ∧ k.inst = inst ∧ k.name = name := by
  obtain ⟨hlt, hget⟩ := List.getElem?_eq_some_iff.mp h
  have hk : (d.chain[d.place module inst name]).isAt module inst name = true :=
    List.findIdx_getElem (w := hlt)
  rw [hget] at hk
  exact of_decide_eq_true hk

theorem steps_updateAt (f : Kstat → Kstat)
    (change : Except SourceError Content → Except SourceError Content)
    (hf : ∀ k, (f k).module = k.module ∧ (f k).inst = k.inst ∧ (f k).name = k.name)
    (hchange : ∀ k, k.module = module → k.inst = inst → k.name = name →
      (f k).content = change k.content)
    (schema : Schema) :
    (d.updateAt module inst name f).snapshot.steps schema =
      (d.snapshot.steps schema).map (Step.revise (.at (d.place module inst name) change)) := by
  rw [← Snapshot.steps_revise]
  refine Snapshot.steps_congr ?_ ?_ schema
  · -- only the statistic at the place has the key, and there the change of content is known
    intro module' inst' pattern _
    have hrevise :
        (d.snapshot.revise (.at (d.place module inst name) change)).find module' inst' pattern =
        (d.snapshot.find module' inst' pattern).map
          (Revision.at (d.place module inst name) change).reading := rfl
    rw [hrevise, find_snapshot, find_snapshot, found_updateAt hf, List.map_map, List.map_map]
    refine List.map_congr_left fun x hx => ?_
    obtain ⟨hslot, -, -, -⟩ := mem_found.mp hx
    by_cases hplace : x.2 = d.place module inst name
    · rw [hplace] at hslot
      obtain ⟨hmodule, hinst, hname⟩ := key_of_place hslot
      have hcontent := hchange x.1 hmodule hinst hname
      simp only [Function.comp_apply, hplace, if_true, Kstat.reading, Revision.at, hcontent,
        (hf x.1).2.2]
    · simp only [Function.comp_apply, hplace, if_false, Kstat.reading, Revision.at]
  · intro kind
    cases kind
    rfl

theorem path_of_visit {schema : Schema} {v : Visit} (h : .visit v ∈ d.snapshot.steps schema)
    (hslot : v.reading.slot = d.place module inst name) (counter : String) :
    (⟨module, inst, name, counter⟩ : StatPath) = v.path counter := by
  have hfind := Snapshot.mem_find_of_visit h
  rw [find_snapshot] at hfind
  obtain ⟨⟨k, slot⟩, hk, hreading⟩ := List.mem_map.mp hfind
  obtain ⟨hget, hmodule, hinst, -⟩ := mem_found.mp hk
  have hname : v.reading.name = k.name := by rw [← hreading]; rfl
  have hplace : slot = d.place module inst name := by rw [← hslot, ← hreading]; rfl
  rw [hplace] at hget
  obtain ⟨hm, hi, hn⟩ := key_of_place hget
  rw [Visit.path, hname, ← hmodule, ← hinst, hm, hi, hn]

theorem steps_setValue {stat : String} {v : Value} {cause : SourceError}
    (hv : v.answer stat = .error cause) (schema : Schema) :
    (d.setValue module inst name stat v).snapshot.steps schema = (d.snapshot.steps schema).map
      (Step.revise (.at (d.place module inst name) (Except.map (Content.silence stat cause)))) := by
  refine steps_updateAt (fun k => { k with stats := setStat stat v k.stats })
    (Except.map (Content.silence stat cause)) (fun _ => ⟨rfl, rfl, rfl⟩) (fun k _ _ _ => ?_) schema
  have hanswer : Kstat.answer { k with stats := setStat stat v k.stats } =
      fun id => if id = stat then .error cause else k.answer id := by
    funext id
    rw [Kstat.answer_setStat, hv]
  rw [Kstat.content, Kstat.content]
  dsimp only
  by_cases hu : k.unreadable = true
  · rw [if_pos hu, if_pos hu]
    rfl
  · rw [if_neg hu, if_neg hu, hanswer]
    rfl

theorem occurrences_setValue {stat : String} {v : Value} {cause : SourceError}
    (hv : v.answer stat = .error cause) (ns : String) (schema : Schema) :
    (d.setValue module inst name stat v).snapshot.occurrences ns schema =
      (d.snapshot.occurrences ns schema).map
        (Occurrence.silence (d.place module inst name) ⟨⟨module, inst, name, stat⟩, cause⟩) := by
  rw [Snapshot.occurrences, steps_setValue hv, List.flatMap_map, Snapshot.occurrences,
    List.map_flatMap]
  refine List.flatMap_congr fun s hs => ?_
  refine Step.occurrences_silence ⟨module, inst, name, stat⟩ cause ?_
  rintro v rfl hslot
  exact path_of_visit hs hslot stat

theorem steps_setUnreadable (schema : Schema) :
    (d.setUnreadable module inst name).snapshot.steps schema = (d.snapshot.steps schema).map
      (Step.revise
        (.at (d.place module inst name) fun _ => .error (unreadableCause module inst name))) := by
  refine steps_updateAt (fun k => { k with unreadable := true })
    (fun _ => .error (unreadableCause module inst name)) (fun _ => ⟨rfl, rfl, rfl⟩) ?_ schema
  rintro k rfl rfl rfl
  rfl

theorem occurrences_setUnreadable (ns : String) (schema : Schema) :
    (d.setUnreadable module inst name).snapshot.occurrences ns schema =
      (d.snapshot.steps schema).flatMap fun s =>
        if s.slot? = some (d.place module inst name) then
          [{ event := .failure ⟨⟨module, inst, name, ""⟩, unreadableCause module inst name⟩
             slot := d.place module inst name }]
        else s.occurrences ns := by
  rw [Snapshot.occurrences, steps_setUnreadable, List.flatMap_map]
  refine List.flatMap_congr fun s hs => ?_
  refine Step.occurrences_unread ⟨module, inst, name, ""⟩ _ ?_
  rintro v rfl hslot
  exact path_of_visit hs hslot ""

theorem path_of_hit {ns : String} {schema : Schema} {o : Occurrence}
    (ho : o ∈ d.snapshot.occurrences ns schema) {stat : String}
    (hit : o.hits (d.place module inst name) stat = true) {f : StatFailure}
    (hf : o.event.failure? = some f) :
    f.path = ⟨module, inst, name, stat⟩ := by
  obtain ⟨s, hs, hmem⟩ := List.mem_flatMap.mp ho
  rw [Occurrence.hits, Bool.and_eq_true, beq_iff_eq, beq_iff_eq] at hit
  rw [Step.slot_of_mem hmem] at hit
  obtain ⟨v, rfl, hslot⟩ := Step.exists_visit hit.1
  rw [Step.path_of_failure hmem hit.2 hf, path_of_visit hs hslot]

end Data

end Memory

namespace Collector

theorem collect_occurrences (schema : Schema) (ns : String) {m : Memory}
    (hm : m.data.unavailable = false) (sink : Array Sample) :
    let os := m.data.snapshot.occurrences ns schema
    ∃ a, ((ofSchema schema ns).collect Memory.source m sink).result = .ok a ∧
      a.sink = sink ++ os.filterMap (·.event.sample?) ∧
      a.failures = (os.filterMap (·.event.failure?)).toArray ∧
      a.groups =
        (((m.data.snapshot.steps schema).flatMap (Step.events ns)).filterMap
          Event.summary?).toArray := by
  obtain ⟨hresult, -⟩ := collect_memory_eq schema ns hm sink
  refine ⟨_, hresult, ?_⟩
  rw [Scrape.recordAll_eq, ← Snapshot.events_eq, Snapshot.events, List.filterMap_map,
    List.filterMap_map]
  refine ⟨rfl, ?_, ?_⟩
  · simp
  · simp [List.filterMap_map]

/-- Faults in memory stay where they are. A counter of a statistic that is given a value that cannot
be emitted takes away the samples of that counter, and fails wherever it is read. A statistic that
becomes unreadable takes away its samples, and fails once at each visit. Everything else is put out
as before and in the same order. -/
theorem collect_isolates_faults (schema : Schema) (ns : String) (m : Memory)
    (hm : m.data.unavailable = false) (module : String) (inst : UInt32) (name : String)
    (sink : Array Sample) :
    let d := m.data
    let slot := d.place module inst name
    let steps := d.snapshot.steps schema
    let os := steps.flatMap (Step.occurrences ns)
    let run (data : Memory.Data) := (ofSchema schema ns).collect Memory.source { m with data } sink
    ∃ a, (run d).result = .ok a ∧
      a.sink = sink ++ os.filterMap (·.event.sample?) ∧
      a.failures = (os.filterMap (·.event.failure?)).toArray ∧
      (∀ stat v, v.faulty = true →
        ∃ b cause, (run (d.setValue module inst name stat v)).result = .ok b ∧
          v.answer stat = .error cause ∧
          b.sink = sink ++ (os.filter fun o => !o.hits slot stat).filterMap (·.event.sample?) ∧
          b.failures = (os.filterMap fun o =>
            if o.hits slot stat then some ⟨⟨module, inst, name, stat⟩, cause⟩
            else o.event.failure?).toArray ∧
          (∀ o ∈ os, o.hits slot stat = true → ∀ f, o.event.failure? = some f →
            f.path = ⟨module, inst, name, stat⟩) ∧
          b.groups = a.groups ∧
          (run (d.setValue module inst name stat v)).source.calls = (run d).source.calls) ∧
      ∃ b cause, (run (d.setUnreadable module inst name)).result = .ok b ∧
        b.sink = sink ++ (os.filter fun o => o.slot != some slot).filterMap (·.event.sample?) ∧
        b.failures = (steps.flatMap fun s =>
          if s.slot? = some slot then [⟨⟨module, inst, name, ""⟩, cause⟩]
          else (s.occurrences ns).filterMap (·.event.failure?)).toArray ∧
        b.groups = a.groups ∧
        (run (d.setUnreadable module inst name)).source.calls = (run d).source.calls := by
  intro d slot steps os run
  -- revised steps are as many, of each kind, as those before
  have hcalls {data : Memory.Data} (hd : data.unavailable = false) {f : Revision}
      (hsteps : data.snapshot.steps schema = steps.map (Step.revise f)) :
      (run data).source.calls = (run d).source.calls := by
    have hafter := (collect_memory_eq schema ns (m := { m with data }) hd sink).2
    have hbefore := (collect_memory_eq schema ns (m := { m with data := d }) hm sink).2
    dsimp only at hafter hbefore
    dsimp only [run]
    rw [hafter, hbefore, hsteps, Step.countP_isLookup_revise, Step.countP_isStructured_revise]
  obtain ⟨a, ha, hasink, hafailures, hagroups⟩ :=
    collect_occurrences schema ns (m := { m with data := d }) hm sink
  refine ⟨a, ha, hasink, hafailures, ?_, ?_⟩
  · intro stat v hv
    obtain ⟨cause, hcause⟩ := Memory.Value.answer_of_faulty hv stat
    have hsteps : (d.setValue module inst name stat v).snapshot.steps schema = _ :=
      Memory.Data.steps_setValue hcause schema
    obtain ⟨b, hb, hbsink, hbfailures, hbgroups⟩ :=
      collect_occurrences schema ns (m := { m with data := d.setValue module inst name stat v })
        hm sink
    dsimp only at hbsink hbfailures hbgroups
    rw [Memory.Data.occurrences_setValue hcause] at hbsink hbfailures
    rw [hsteps, Step.summaries_revise] at hbgroups
    rw [samples_silence] at hbsink
    rw [failures_silence] at hbfailures
    refine ⟨b, cause, hb, hcause, hbsink, hbfailures, ?_, hbgroups.trans hagroups.symm,
      hcalls hm hsteps⟩
    intro o ho hit f hf
    exact Memory.Data.path_of_hit ho hit hf
  · have hsteps : (d.setUnreadable module inst name).snapshot.steps schema = _ :=
      Memory.Data.steps_setUnreadable schema
    obtain ⟨b, hb, hbsink, hbfailures, hbgroups⟩ :=
      collect_occurrences schema ns (m := { m with data := d.setUnreadable module inst name })
        hm sink
    dsimp only at hbsink hbfailures hbgroups
    rw [Memory.Data.occurrences_setUnreadable] at hbsink hbfailures
    rw [hsteps, Step.summaries_revise] at hbgroups
    rw [samples_unread] at hbsink
    rw [failures_unread] at hbfailures
    exact ⟨b, _, hb, hbsink, hbfailures, hbgroups.trans hagroups.symm, hcalls hm hsteps⟩

theorem collect_isolates_faults_typicalSystem :
    Memory.Data.typicalSystem.unavailable = false ∧ Memory.Value.broken.faulty = true ∧
      (∃ b, ((ofSchema .brief defaultNamespace).collect Memory.source
          { data := Memory.Data.typicalSystem.setValue "cpu" 0 "sys" "syscall" .broken }
            #[]).result = .ok b ∧
        b.sink.size = 13) ∧
      ∃ b, ((ofSchema .brief defaultNamespace).collect Memory.source
          { data := Memory.Data.typicalSystem.setUnreadable "cpu" 0 "sys" } #[]).result = .ok b ∧
        b.sink.size = 12 := by
  obtain ⟨a, -, -, -, hfaulty, hunread⟩ :=
    collect_isolates_faults .brief defaultNamespace { data := .typicalSystem } rfl "cpu" 0 "sys" #[]
  obtain ⟨b, cause, hb, -, hsink, -⟩ := hfaulty "syscall" .broken rfl
  obtain ⟨b', cause', hb', hsink', -⟩ := hunread
  refine ⟨rfl, rfl, ⟨b, hb, ?_⟩, b', hb', ?_⟩
  · rw [hsink]
    decide +kernel
  · rw [hsink']
    decide +kernel

end Collector

end KernelStats
