import KernelStats.Proofs.Accounting
import KernelStats.Proofs.Enumeration
import KernelStats.Proofs.RecordLayout

/-!
# Groups that mean the record

A group of the module `unix` whose pattern matches the record's name is not looked up: the record is read
instead, once and with all its fields. Every other group is looked up and reads no record. What the
record leaves in a scrape is what a statistic with the same fields would leave.
-/

namespace KernelStats

namespace Call

def isStructured : Call → Bool
  | structured .. => true
  | _ => false

end Call

namespace Progress

def records (p : Progress (σ × List Call)) : List Call := p.session.2.filter Call.isStructured

variable (s : Session σ) (ns module : String)

theorem records_foldl {f : Progress (σ × List Call) → α → Progress (σ × List Call)}
    (h : ∀ p x, (f p x).records = p.records) (xs : List α) (p : Progress (σ × List Call)) :
    (xs.foldl f p).records = p.records := by
  induction xs generalizing p with
  | nil => rfl
  | cons x xs ih => exact (ih (f p x)).trans (h p x)

theorem records_emitCounter (label : String) (e : Entry) (p : Progress (σ × List Call))
    (c : Schema.Counter × Descriptor) :
    (emitCounter s.logged module label e p c).records = p.records := by
  rw [emitCounter, Session.logged_value]
  generalize s.value p.session.1 e c.1.id = a
  obtain ⟨answer, next⟩ := a
  cases answer with
  | ok raw => simp [records, Call.isStructured]
  | error cause => simp [records, Call.isStructured]

theorem records_emitEntry (label : String) (p : Progress (σ × List Call)) (e : Entry) :
    (emitEntry s.logged ns module label p e).records = p.records := by
  rw [emitEntry, Session.logged_read]
  generalize s.read p.session.1 e = a
  obtain ⟨answer, e, next⟩ := a
  cases answer with
  | error cause => simp [records, Call.isStructured]
  | ok u =>
    dsimp only
    generalize p.plan.descriptors ns module e.name = d
    obtain ⟨set, plan⟩ := d
    have hcounters := records_foldl (records_emitCounter s module label e)
      (plan.group.counters.zip set.counters)
      { session := (next, p.session.2 ++ [.read (.ok u) e]), plan, scrape := p.scrape }
    refine hcounters.trans ?_
    simp [records, Call.isStructured]

theorem records_walk (left : Nat) (inst : UInt32) (found : Nat) (p : Progress (σ × List Call)) :
    (walk s.logged ns module left inst found p).2.records = p.records := by
  -- on what is left of the limit; an instance adds a lookup and what its entries add
  induction left generalizing inst found p with
  | zero => rfl
  | succ left ih =>
    rw [walk, Session.logged_lookup]
    generalize s.lookup p.session.1 module inst p.plan.group.pattern = a
    obtain ⟨answer, next⟩ := a
    cases answer with
    | ok entries =>
      dsimp only
      rw [ih, records_foldl (records_emitEntry s ns module _)]
      simp [records, Call.isStructured]
    | error cause =>
      dsimp only
      by_cases hc : cause.isNotFound = true
      · rw [if_pos hc]
        simp [records, Call.isStructured]
      · rw [if_neg hc, ih]
        simp [records, Call.isStructured]

theorem collectStructured_log (kind : StructuredKind) (set : DescriptorSet)
    (p : Progress (σ × List Call)) :
    (p.collectStructured s.logged module kind set).session.2 =
      p.session.2 ++ [.structured kind (s.structured p.session.1 kind).1] := by
  have hlogged : s.logged.structured p.session kind =
      ((s.structured p.session.1 kind).1, (s.structured p.session.1 kind).2,
        p.session.2 ++ [.structured kind (s.structured p.session.1 kind).1]) := rfl
  rw [collectStructured, hlogged]
  cases (s.structured p.session.1 kind).1 with
  | error cause => rfl
  | ok stats => rfl

theorem collectNamed_calls (p : Progress (σ × List Call)) :
    ∃ calls, (p.collectNamed s.logged ns module).session.2 = p.session.2 ++ calls ∧
      (∀ c ∈ calls, c.isStructured = false) ∧
      Enumerates module p.plan.group.pattern 0 maxInstances (calls.filterMap Call.probe?) := by
  have hzero : UInt32.ofNat 0 = 0 := rfl
  obtain ⟨calls, q, henum, hadds, hwalk⟩ := walk_enumerated s ns module maxInstances 0 0 p
  have hrecords := records_walk s ns module maxInstances 0 0 p
  rw [hzero] at hwalk
  have hlog : (p.collectNamed s.logged ns module).session.2 = p.session.2 ++ calls := by
    rw [collectNamed, hwalk, ← hadds.log]
    dsimp only
    split_ifs <;> rfl
  have hcalls : (p.session.2 ++ calls).filter Call.isStructured =
      p.session.2.filter Call.isStructured := by
    rw [← hlog]
    exact hrecords
  refine ⟨calls, hlog, ?_, henum⟩
  simpa using hcalls

end Progress

namespace Schema

/-- The calls that are made for a group: a single one if it means the record, else lookups and what
follows from them. -/
structure Asks (x : String × Group) (calls : List Call) : Prop where
  structured : (∃ c ∈ calls, c.isStructured = true) ↔ IsRecord x
  record : IsRecord x → ∃ answer, calls = [.structured .vminfo answer]
  named : ¬ IsRecord x → Enumerates x.1 x.2.pattern 0 maxInstances (calls.filterMap Call.probe?)

theorem Asks.of_record {x : String × Group} (h : IsRecord x)
    (answer : Except SourceError StructuredStats) : Asks x [.structured .vminfo answer] where
  structured := by simp [h, Call.isStructured]
  record _ := ⟨answer, rfl⟩
  named hx := absurd h hx

theorem Asks.of_named {x : String × Group} {calls : List Call} (h : ¬ IsRecord x)
    (hcalls : ∀ c ∈ calls, c.isStructured = false)
    (henum : Enumerates x.1 x.2.pattern 0 maxInstances (calls.filterMap Call.probe?)) :
    Asks x calls where
  structured := by
    constructor
    · rintro ⟨c, hc, hstructured⟩
      rw [hcalls c hc] at hstructured
      cases hstructured
    · intro hx
      exact absurd hx h
  record hx := absurd hx h
  named _ := henum

end Schema

theorem GroupPlan.Sound.route_of_record {p : GroupPlan} {ns module : String} (h : p.Sound ns module)
    (hx : Schema.IsRecord (module, p.group)) :
    p.route = .structured .vminfo (.build ns module StructuredKind.vminfo.name p.group) := by
  have hr := Schema.route?_of_isRecord hx
  rw [GroupPlan.Sound] at h
  cases hroute : p.route with
  | structured kind set =>
    rw [hroute] at h
    cases kind
    rw [h.2]
  | literal set =>
    rw [hroute] at h
    rw [h.1] at hr
    cases hr
  | pattern known =>
    rw [hroute] at h
    rw [h.1] at hr
    cases hr

def AsksFor (groups : List (String × Schema.Group)) (log log' : List Call) : Prop :=
  ∃ parts, log' = log ++ parts.flatten ∧ List.Forall₂ Schema.Asks groups parts

theorem AsksFor.nil (log : List Call) : AsksFor [] log log := ⟨[], by simp, .nil⟩

theorem AsksFor.append {groups groups' : List (String × Schema.Group)} {log log' log'' : List Call}
    (h : AsksFor groups log log') (h' : AsksFor groups' log' log'') :
    AsksFor (groups ++ groups') log log'' := by
  obtain ⟨parts, rfl, hparts⟩ := h
  obtain ⟨parts', rfl, hparts'⟩ := h'
  refine ⟨parts ++ parts', ?_, List.rel_append hparts hparts'⟩
  rw [List.flatten_append, List.append_assoc]

namespace Collector

variable (s : Session σ) (ns : String)

theorem collect_asks {module : String} {p : Progress (σ × List Call)}
    (hp : p.plan.Sound ns module) :
    AsksFor [(module, p.plan.group)] p.session.2 (p.collect s.logged ns module).session.2 := by
  have hnamed (hr : StructuredKind.route? module p.plan.group.pattern = none) :
      AsksFor [(module, p.plan.group)] p.session.2
        (p.collectNamed s.logged ns module).session.2 := by
    obtain ⟨calls, hlog, hcalls, henum⟩ := Progress.collectNamed_calls s ns module p
    have hx : ¬ Schema.IsRecord (module, p.plan.group) := by
      intro hx
      rw [Schema.route?_of_isRecord hx] at hr
      cases hr
    refine ⟨[calls], ?_, .cons (.of_named hx hcalls henum) .nil⟩
    rw [hlog, List.flatten_singleton]
  rw [Progress.collect]
  rw [GroupPlan.Sound] at hp
  cases hroute : p.plan.route with
  | structured kind set =>
    rw [hroute] at hp
    have hx := Schema.isRecord_of_route? (x := (module, p.plan.group)) hp.1
    cases kind
    refine ⟨[[.structured .vminfo (s.structured p.session.1 .vminfo).1]], ?_,
      .cons (.of_record hx _) .nil⟩
    rw [List.flatten_singleton]
    exact Progress.collectStructured_log s module .vminfo set p
  | literal set =>
    rw [hroute] at hp
    exact hnamed hp.1
  | pattern known =>
    rw [hroute] at hp
    exact hnamed hp.1

theorem collectGroups_asks {module : String} {plans : List GroupPlan}
    (hp : ∀ p ∈ plans, p.Sound ns module) (session : σ × List Call) (scrape : Scrape) :
    AsksFor (plans.map fun p => (module, p.group)) session.2
      (collectGroups s.logged ns module plans session scrape).2.1.2 := by
  induction plans generalizing session scrape with
  | nil => exact .nil session.2
  | cons p plans ih =>
    obtain ⟨hfirst, hrest⟩ := List.forall_mem_cons.mp hp
    exact (collect_asks s ns (p := { session, plan := p, scrape }) hfirst).append (ih hrest _ _)

theorem collectModules_asks {modules : List ModulePlan} (hm : ∀ m ∈ modules, m.Sound ns)
    (session : σ × List Call) (scrape : Scrape) :
    AsksFor (modules.flatMap fun m => m.groups.map fun p => (m.id, p.group)) session.2
      (collectModules s.logged ns modules session scrape).2.1.2 := by
  induction modules generalizing session scrape with
  | nil => exact .nil session.2
  | cons m modules ih =>
    obtain ⟨hfirst, hrest⟩ := List.forall_mem_cons.mp hm
    exact (collectGroups_asks s ns hfirst session scrape).append (ih hrest _ _)

theorem declared_schema (c : Collector) :
    c.schema.declared = c.modules.flatMap fun m => m.groups.map fun p => (m.id, p.group) := by
  simp [Schema.declared, Collector.schema, ModulePlan.module, List.flatMap_map, Function.comp_def]

theorem Reached.asks {schema : Schema} {ns : String} {c : Collector} (hc : Reached schema ns c)
    (src : Source ω σ) {source opened : ω} {session : σ}
    (ho : src.acquire source = (.ok session, opened)) (sink : Array Sample) :
    AsksFor schema.declared [] (c.collect src.logged (source, []) sink).source.2 := by
  obtain ⟨hsound, -, hschema⟩ := hc.sound
  have hacquire : src.logged.acquire (source, []) = (.ok (session, []), opened, []) := by
    show ((src.acquire source).1.map (·, []), (src.acquire source).2, []) = _
    rw [ho]
    rfl
  rw [Collector.collect, hacquire, ← hschema, declared_schema]
  exact collectModules_asks src.toSession c.ns hsound (session, []) { sink }

end Collector

/-- A statistic in memory that holds the record of virtual memory, each field under its name. -/
structure Memory.Kstat.HoldsVminfo (k : Memory.Kstat) (fields : Vminfo) (time : Int64) : Prop where
  module : k.module = "unix"
  inst : k.inst = 0
  name : k.name = "vminfo"
  readable : k.unreadable = false
  snaptime : k.snaptime = time
  stats : k.stats.Perm (fields.words.map fun x => (x.1, .unsigned x.2))

theorem lookup_of_mem {l : List (String × α)} (hl : (l.map (·.1)).Nodup) {key : String} {v : α}
    (h : (key, v) ∈ l) : l.lookup key = some v := by
  obtain ⟨before, after, rfl⟩ := List.append_of_mem h
  rw [List.lookup_eq_some_iff]
  refine ⟨before, after, rfl, ?_⟩
  intro x hx
  rw [List.map_append, List.nodup_append] at hl
  have hne := hl.2.2 x.1 (List.mem_map_of_mem hx) key (by simp)
  simpa using hne.symm

namespace Memory.Kstat.HoldsVminfo

variable {k : Memory.Kstat} {fields : Vminfo} {time : Int64}

theorem nodup_keys (h : k.HoldsVminfo fields time) : (k.stats.map (·.1)).Nodup := by
  have hkeys := h.stats.map Prod.fst
  rw [hkeys.nodup_iff, List.map_map]
  exact (by decide : ["freemem", "swap_resv", "swap_alloc", "swap_avail", "swap_free", "updates"].Nodup)

theorem answer_eq (h : k.HoldsVminfo fields time) (id : String) :
    k.answer id = StructuredStats.answer (.vminfo fields time) id := by
  have hget : StructuredStats.get? id (.vminfo fields time) = fields.words.lookup id :=
    fields.get?_eq_lookup id
  rw [Memory.Kstat.answer, StructuredStats.answer, hget]
  -- a key occurs once, so the order of the counters does not matter
  cases hword : fields.words.lookup id with
  | some w =>
    obtain ⟨before, after, hwords, -⟩ := List.lookup_eq_some_iff.mp hword
    have hmem : (id, Memory.Value.unsigned w) ∈ k.stats := by
      rw [h.stats.mem_iff, hwords]
      simp
    rw [lookup_of_mem h.nodup_keys hmem]
    rfl
  | none =>
    have hnone : k.stats.lookup id = none := by
      rw [List.lookup_eq_none_iff] at hword ⊢
      intro x hx
      obtain ⟨y, hy, rfl⟩ := List.mem_map.mp (h.stats.mem_iff.mp hx)
      exact hword y hy
    rw [hnone]

theorem content_eq (h : k.HoldsVminfo fields time) (slot : Nat) :
    (k.reading slot).content = .ok { snaptime := k.snaptime, value := k.answer } := by
  rw [Memory.Kstat.reading, Memory.Kstat.content, h.readable]
  rfl

end Memory.Kstat.HoldsVminfo

def GroupPlan.Knows (p : GroupPlan) (ns module : String) : Prop :=
  match p.route with
  | .structured kind set => set = .build ns module kind.name p.group
  | .literal set => ∃ id, p.group.pattern.literal? = some id ∧ set = .build ns module id p.group
  | .pattern known => ∀ entry ∈ known, entry.2 = .build ns module entry.1 p.group

theorem GroupPlan.Sound.knows {p : GroupPlan} {ns module : String} (h : p.Sound ns module) :
    p.Knows ns module := by
  rw [GroupPlan.Sound] at h
  rw [GroupPlan.Knows]
  cases hr : p.route with
  | structured kind set =>
    rw [hr] at h
    exact h.2
  | literal set =>
    rw [hr] at h
    exact h.2
  | pattern known =>
    rw [hr] at h
    exact h.2.2

theorem GroupPlan.Knows.descriptors {p : GroupPlan} {ns module : String} (h : p.Knows ns module)
    (hm : p.group.pattern.isMatch "vminfo" = true) :
    (p.descriptors ns module "vminfo").1 = .build ns module "vminfo" p.group := by
  obtain ⟨g, route⟩ := p
  cases route with
  | structured kind set =>
    cases kind
    exact h
  | literal set =>
    obtain ⟨id, hid, hset⟩ := h
    have hname := (GroupPattern.isMatch_eq_true_iff_of_literal hid "vminfo").mp hm
    rw [hname]
    exact hset
  | pattern known =>
    simp only [GroupPlan.descriptors]
    cases hlookup : known.lookup "vminfo" with
    | some set => exact h _ (mem_of_lookup hlookup)
    | none => rfl

theorem Progress.toString_instance_zero : toString (0 : UInt32).toNat = structuredLabel := by
  decide +kernel

theorem Memory.Kstat.HoldsVminfo.events_eq {k : Memory.Kstat} {fields : Vminfo} {time : Int64}
    (h : k.HoldsVminfo fields time) (ns module : String) (g : Schema.Group) (slot : Nat) :
    (Step.visit ⟨module, g, 0, k.reading slot⟩).events ns =
      (Step.structured module g .vminfo (.ok (.vminfo fields time))).events ns := by
  have hcontent := h.content_eq slot
  rw [h.snaptime] at hcontent
  have hname : (k.reading slot).name = "vminfo" := h.name
  generalize k.reading slot = x at hcontent hname
  have hlabel : Visit.label ⟨module, g, 0, x⟩ = Progress.structuredLabel :=
    Progress.toString_instance_zero
  have hcounter (c : Schema.Counter) :
      Visit.counterEvent ns ⟨module, g, 0, x⟩ { snaptime := time, value := k.answer } c =
        fieldEvent ns module g .vminfo (.vminfo fields time) c := by
    simp only [Visit.counterEvent, fieldEvent, h.answer_eq, StructuredStats.answer,
      StructuredStats.get?_eq_lookup]
    cases (StructuredStats.vminfo fields time).words.lookup c.id with
    | some raw =>
      dsimp only
      rw [hname, hlabel]
      rfl
    | none =>
      dsimp only
      rw [Visit.path, hname]
      rfl
  have htime : Visit.timeEvent ns ⟨module, g, 0, x⟩ { snaptime := time, value := k.answer } =
      recordTimeEvent ns module .vminfo (.vminfo fields time) := by
    rw [Visit.timeEvent, hname, hlabel]
    rfl
  simp [Step.events, Step.occurrences, Visit.occurrences, hcontent, hcounter, htime,
    Function.comp_def]

theorem Progress.emitEntry_vminfo {m : Memory} {k : Memory.Kstat} {fields : Vminfo} {time : Int64}
    (h : k.HoldsVminfo fields time) {e : Entry} (hk : m.data.chain[e.slot]? = some k)
    (hi : e.inst = 0) (hn : e.name = "vminfo") {plan : GroupPlan} {ns module : String}
    (hplan : plan.Knows ns module) (hm : plan.group.pattern.isMatch "vminfo" = true)
    (scrape : Scrape) :
    (emitEntry Memory.source.toSession ns module structuredLabel ⟨m, plan, scrape⟩ e).scrape =
      scrape.recordAll
        ((Step.structured module plan.group .vminfo (.ok (.vminfo fields time))).events ns) := by
  have hread : Memory.source.read m e = (.ok (), { e with snaptime := k.snaptime }, m) := by
    simp [Memory.source, Memory.Data.read, hk, h.readable]
  have hname : (k.reading e.slot).name = e.name := h.name.trans hn.symm
  have hcontent := h.content_eq e.slot
  -- the entry has the record's name, for which the plan has what it would build
  have hset := hplan.descriptors hm
  rw [← hn] at hset
  have hgroup := plan.group_descriptors ns module e.name
  rw [← h.events_eq ns module plan.group e.slot, ← toString_instance_zero, emitEntry, hread]
  dsimp only
  generalize plan.descriptors ns module e.name = d at *
  obtain ⟨set, after⟩ := d
  dsimp only at hset hgroup ⊢
  rw [hgroup, hset, (Memory.presentation m.data m.calls).emitSet_eq (x := k.reading e.slot)
    (e := { e with snaptime := k.snaptime }) (p := ⟨m, after, scrape⟩) ⟨rfl, k, hk, rfl, rfl⟩ hi
    hname.symm]
  simp [Step.events, Step.occurrences, Visit.occurrences, hcontent, Scrape.recordAll_append,
    Scrape.recordAll_cons, Scrape.record, Visit.timeEvent, Visit.label, DescriptorSet.build, hname,
    Function.comp_def, Memory.source]

theorem Progress.collect_record {s : Session σ} {p : Progress σ} {next : σ} {ns module : String}
    {stats : StructuredStats} (hp : p.plan.Sound ns module)
    (hx : Schema.IsRecord (module, p.plan.group))
    (h : s.structured p.session .vminfo = (.ok stats, next)) :
    (p.collect s ns module).scrape =
      (p.scrape.recordAll
        ((Step.structured module p.plan.group .vminfo (.ok stats)).events ns)).summarize
          ⟨module, p.plan.group.id, 1⟩ := by
  have hcollect : p.collect s ns module = p.collectStructured s module .vminfo
      (.build ns module StructuredKind.vminfo.name p.plan.group) := by
    simp only [Progress.collect, hp.route_of_record hx]
  rw [hcollect, Progress.collectStructured, h]
  dsimp only
  rw [Presentation.emitStructured_eq]

namespace Collector

/-- In a scrape a group is read as a record if and only if it is one of the module of the record and its
pattern matches the record's name. Then one call is made for it and nothing is looked up. It leaves the
very samples and failures that reading a statistic with the same fields leaves, whatever its counters. -/
theorem collect_reads_records {schema : Schema} {ns : String} {c : Collector}
    (hc : Reached schema ns c) (src : Source ω σ) {source opened : ω} {session : σ}
    (ho : src.acquire source = (.ok session, opened)) (sink : Array Sample) :
    let run := c.collect src.logged (source, []) sink
    c.collect src source sink = ⟨run.result, run.collector, run.source.1⟩ ∧
      (∃ parts, run.source.2 = parts.flatten ∧ List.Forall₂ Schema.Asks schema.declared parts) ∧
      ∀ m ∈ c.modules, ∀ plan ∈ m.groups, Schema.IsRecord (m.id, plan.group) →
        plan.Knows ns m.id ∧ ∀ (st next : σ) (fields : Vminfo) (time : Int64),
          src.structured st .vminfo = (.ok (.vminfo fields time), next) →
          ∀ (memory : Memory) (k : Memory.Kstat) (e : Entry), k.HoldsVminfo fields time →
            memory.data.chain[e.slot]? = some k → e.inst = 0 → e.name = "vminfo" →
            ∀ named : GroupPlan, named.group = plan.group → named.Knows ns m.id → ∀ scrape,
              (Progress.collect src.toSession ns m.id ⟨st, plan, scrape⟩).scrape =
                (Progress.emitEntry Memory.source.toSession ns m.id "0"
                  ⟨memory, named, scrape⟩ e).scrape.summarize ⟨m.id, plan.group.id, 1⟩ := by
  intro run
  refine ⟨c.collect_logged src source [] sink, ?_, ?_⟩
  · obtain ⟨parts, hlog, hparts⟩ := hc.asks src ho sink
    exact ⟨parts, hlog.trans (List.nil_append _), hparts⟩
  · intro m hm plan hplan hrecord
    obtain ⟨hsound, rfl, -⟩ := hc.sound
    refine ⟨(hsound m hm plan hplan).knows, ?_⟩
    intro st next fields time hanswer memory k e hk he hi hn named hgroup hnamed scrape
    have hmatch : named.group.pattern.isMatch "vminfo" = true := by
      rw [hgroup]
      exact hrecord.2
    have hread := Progress.collect_record (p := ⟨st, plan, scrape⟩) (hsound m hm plan hplan) hrecord
      hanswer
    have hentry := Progress.emitEntry_vminfo hk he hi hn hnamed hmatch scrape
    rw [hgroup] at hentry
    rw [hread, ← hentry]
    rfl

theorem collect_reads_records_typicalSystem :
    let vm : Schema.Group := {
      pattern := (GroupPattern.ofText? "vm.*").get (by rfl)
      label := "instance"
      counters := [⟨"freemem", "Free pages.", "total", 1.0⟩,
        ⟨"freemem", "Free memory.", "bytes", 4096.0⟩, ⟨"absent", "No counter.", "total", 1.0⟩] }
    let schema : Schema := { modules := [{ id := "unix", groups := [vm] }] }
    let c := ofSchema schema defaultNamespace
    let source : Memory := { data := .typicalSystem }
    let opened : Memory := { data := .typicalSystem, calls := { opens := 1 } }
    let fields : Vminfo := ⟨1000000000, 2000000, 1500000, 3000000, 3500000, 1200⟩
    let k := Memory.Kstat.ofCounts "unix" 0 "vminfo" 1234567890123 fields.words
    let e : Entry := ⟨"unix", 0, "vminfo", 0, 0⟩
    let read := Progress.collect Memory.source.toSession defaultNamespace "unix"
      ⟨opened, .ofGroup defaultNamespace "unix" vm, {}⟩
    let visit := Progress.emitEntry Memory.source.toSession defaultNamespace "unix" "0"
      ⟨{ data := { chain := [k] } }, ⟨vm, .pattern []⟩, {}⟩ e
    (Reached schema defaultNamespace c ∧ Memory.source.acquire source = (.ok opened, opened)) ∧
      Schema.IsRecord ("unix", vm) ∧ k.HoldsVminfo fields 1234567890123 ∧
      (∃ answer, (c.collect Memory.source.logged (source, []) #[]).source.2 =
        [.structured .vminfo answer]) ∧
      read.scrape = visit.scrape.summarize ⟨"unix", "vm.*", 1⟩ ∧
      visit.scrape.emitted = 3 ∧ visit.scrape.failures.size = 1 := by
  intro vm schema c source opened fields k e read visit
  have hnew : Reached schema defaultNamespace c := .new
  have hopens : Memory.source.acquire source = (.ok opened, opened) := rfl
  have hrecord : Schema.IsRecord ("unix", vm) := ⟨rfl, by decide +kernel⟩
  have hk : k.HoldsVminfo fields 1234567890123 := ⟨rfl, rfl, rfl, rfl, rfl, .refl _⟩
  have hknows : GroupPlan.Knows ⟨vm, .pattern []⟩ defaultNamespace "unix" := by
    intro entry hentry
    cases hentry
  obtain ⟨-, ⟨parts, hlog, hparts⟩, halike⟩ :=
    collect_reads_records hnew Memory.source hopens #[]
  have hcall : ∃ answer, (c.collect Memory.source.logged (source, []) #[]).source.2 =
      [.structured .vminfo answer] := by
    obtain ⟨calls, rest, hcalls, hrest, rfl⟩ := List.forall₂_cons_left_iff.mp hparts
    obtain rfl := List.forall₂_nil_left_iff.mp hrest
    obtain ⟨answer, rfl⟩ := hcalls.record hrecord
    exact ⟨answer, hlog⟩
  have hread : read.scrape = visit.scrape.summarize ⟨"unix", "vm.*", 1⟩ :=
    (halike _ List.mem_cons_self _ List.mem_cons_self hrecord).2 opened _ fields _ rfl
      { data := { chain := [k] } } k e hk rfl rfl rfl ⟨vm, .pattern []⟩ rfl hknows {}
  refine ⟨⟨hnew, hopens⟩, hrecord, hk, hcall, hread, ?_, ?_⟩
  · decide +kernel
  · decide +kernel

end Collector

end KernelStats
