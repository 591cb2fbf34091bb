import KernelStats.Proofs.Ledger
import KernelStats.Proofs.MemorySnapshot
import KernelStats.Proofs.ScrapeLog
import KernelStats.Proofs.SharedPlans

/-!
# The books of a scrape

Whatever a session answers, a scrape accounts for every answer. Each group has an account of what was
done for it, call by call, and the accounts explain what is added to the sink, the failures and the log.
-/

namespace KernelStats

structure Tallies (ns module : String) (deeds : List Deed) (p q : Progress (σ × List Call)) :
    Prop where
  log : q.session.2 = p.session.2 ++ deeds.flatMap Deed.calls
  scrape : q.scrape = p.scrape.recordAll (deeds.flatMap (Deed.events ns module p.plan.group))
  group : q.plan.group = p.plan.group
  sound : p.plan.Sound ns module → q.plan.Sound ns module
  fits : ∀ d ∈ deeds, d.Fits module p.plan.group

namespace Tallies

variable {ns module : String}

theorem refl (p : Progress (σ × List Call)) : Tallies ns module [] p p where
  log := (List.append_nil _).symm
  scrape := rfl
  group := rfl
  sound := id
  fits := by simp

theorem trans {deeds deeds' : List Deed} {p q r : Progress (σ × List Call)}
    (h : Tallies ns module deeds p q) (h' : Tallies ns module deeds' q r) :
    Tallies ns module (deeds ++ deeds') p r where
  log := by rw [h'.log, h.log, List.flatMap_append, List.append_assoc]
  scrape := by rw [h'.scrape, h.scrape, h.group, List.flatMap_append, Scrape.recordAll_append]
  group := h'.group.trans h.group
  sound := h'.sound ∘ h.sound
  fits d hd := by
    rcases List.mem_append.mp hd with hd | hd
    · exact h.fits d hd
    · exact h.group ▸ h'.fits d hd

theorem lookup (ns : String) (q : Probe) (p : Progress (σ × List Call)) (session : σ)
    (hm : q.module = module) (hq : q.pattern = p.plan.group.pattern) {scrape : Scrape}
    (hs : scrape = (p.scrape.note (.lookingUp module q.inst p.plan.group.id)).recordAll
      (q.failure?.map Event.failure).toList) :
    Tallies ns module [.lookup q] p
      { session := (session, p.session.2 ++ [.lookup q]), plan := p.plan, scrape } where
  log := rfl
  scrape := by
    rw [hs, Schema.Group.id, ← hm, ← hq, List.flatMap_singleton, Deed.events]
    simp [Deed.probe?, Deed.refusal?, Deed.harvest?, Scrape.recordAll_cons, Scrape.record]
  group := rfl
  sound := id
  fits := by simp [Deed.Fits, hm, hq]

end Tallies

namespace Progress

variable (s : Session σ) (ns module : String)

theorem emitCounters_answered (shown label labelValue : String) (e : Entry)
    (cs : List Schema.Counter) (p : Progress (σ × List Call)) :
    ∃ answers : List Answer,
      let x : Subject := ⟨module, e.inst, e.name, shown, label, labelValue⟩
      let q := (cs.zip (cs.map fun c => .forCounter ns module shown c label)).foldl
        (emitCounter s.logged module labelValue e) p
      answers.map Answer.counter = cs ∧
        q.session.2 = p.session.2 ++ answers.map (fun a => .value e a.counter.id a.value) ∧
        q.scrape = p.scrape.recordAll (answers.map (x.event ns)) ∧ q.plan = p.plan := by
  induction cs generalizing p with
  | nil => exact ⟨[], rfl, (List.append_nil _).symm, rfl, rfl⟩
  | cons c cs ih =>
    let x : Subject := ⟨module, e.inst, e.name, shown, label, labelValue⟩
    have hfirst : ∃ value,
        let q := emitCounter s.logged module labelValue e p (c, .forCounter ns module shown c label)
        q.session.2 = p.session.2 ++ [.value e c.id value] ∧
          q.scrape = p.scrape.record (x.event ns ⟨c, value⟩) ∧ q.plan = p.plan := by
      rw [emitCounter, Session.logged_value]
      generalize s.value p.session.1 e c.id = a
      obtain ⟨answer, next⟩ := a
      cases answer with
      | ok raw => exact ⟨.ok raw, rfl, rfl, rfl⟩
      | error cause => exact ⟨.error cause, rfl, rfl, rfl⟩
    obtain ⟨value, hlog, hscrape, hplan⟩ := hfirst
    rw [List.map_cons, List.zip_cons_cons, List.foldl_cons]
    generalize emitCounter s.logged module labelValue e p _ = q at hlog hscrape hplan ⊢
    obtain ⟨answers, hcounters, hlog', hscrape', hplan'⟩ := ih q
    refine ⟨⟨c, value⟩ :: answers, congrArg (c :: ·) hcounters, ?_, ?_, hplan'.trans hplan⟩
    · rw [hlog', hlog, List.append_assoc]
      rfl
    · rw [hscrape', hscrape]
      rfl

theorem emitEntry_tallied (labelValue : String) {p : Progress (σ × List Call)}
    (hp : p.plan.Sound ns module) (e : Entry) :
    ∃ d : Deed, d.present = false ∧
      Tallies ns module [d] p (emitEntry s.logged ns module labelValue p e) := by
  rw [emitEntry, Session.logged_read]
  generalize s.read p.session.1 e = a
  obtain ⟨answer, e, next⟩ := a
  cases answer with
  | error cause => exact ⟨.unread e cause, rfl, rfl, rfl, rfl, id, by simp [Deed.Fits]⟩
  | ok u =>
    dsimp only
    obtain ⟨shown, hset⟩ := hp.exists_build e.name
    have hgroup := p.plan.group_descriptors ns module e.name
    have hsound := hp.keep e.name
    generalize p.plan.descriptors ns module e.name = d at hset hgroup hsound ⊢
    obtain ⟨set, plan⟩ := d
    dsimp only at hset hgroup hsound ⊢
    -- a set that is built for the group has a descriptor for each of its counters
    rw [hset, hgroup, DescriptorSet.build]
    obtain ⟨answers, hcounters, hlog, hscrape, hplan⟩ :=
      emitCounters_answered s ns module shown p.plan.group.label labelValue e p.plan.group.counters
        { session := (next, p.session.2 ++ [.read (.ok u) e]), plan, scrape := p.scrape }
    dsimp only at hlog hscrape hplan ⊢
    generalize List.foldl _ _ _ = q at hlog hscrape hplan ⊢
    refine ⟨.read e shown labelValue answers (s.logged.snapshotTime q.session e), rfl, ?_, ?_, ?_,
      ?_, ?_⟩
    · dsimp only
      rw [hlog, List.flatMap_singleton, List.append_assoc]
      rfl
    · dsimp only
      rw [hscrape, List.flatMap_singleton]
      simp [Deed.events, Deed.probe?, Deed.refusal?, Deed.harvest?, Harvest.events,
        Scrape.recordAll_append, Scrape.recordAll_cons, Scrape.record, Subject.timeSample]
    · exact (congrArg GroupPlan.group hplan).trans hgroup
    · dsimp only
      rw [hplan]
      exact fun _ => hsound
    · intro d hd
      rw [List.mem_singleton.mp hd]
      exact hcounters

theorem emitEntries_tallied (labelValue : String) (es : List Entry) {p : Progress (σ × List Call)}
    (hp : p.plan.Sound ns module) :
    ∃ deeds : List Deed, deeds.countP Deed.present = 0 ∧
      Tallies ns module deeds p (es.foldl (emitEntry s.logged ns module labelValue) p) := by
  induction es generalizing p with
  | nil => exact ⟨[], rfl, .refl p⟩
  | cons e es ih =>
    obtain ⟨d, habsent, hd⟩ := emitEntry_tallied s ns module labelValue hp e
    obtain ⟨deeds, hnone, hdeeds⟩ := ih (hd.sound hp)
    refine ⟨d :: deeds, ?_, hd.trans hdeeds⟩
    rw [List.countP_cons, hnone, habsent]
    rfl

/-- A walk over a group is stopped at the limit or ends by itself, and every lookup and all that it
finds is in the deeds. -/
theorem walk_tallied (left : Nat) (inst : UInt32) (found : Nat) {p : Progress (σ × List Call)}
    (hp : p.plan.Sound ns module) :
    ∃ (deeds : List Deed) (q : Progress (σ × List Call)) (runaway : Bool),
      Tallies ns module deeds p q ∧
        walk s.logged ns module left inst found p = (found + deeds.countP Deed.present,
          { q with
            scrape := q.scrape.recordAll
              (if runaway then [.runaway module p.plan.group.id] else []) }) := by
  induction left generalizing inst found p with
  | zero => exact ⟨[], p, true, .refl p, rfl⟩
  | succ left ih =>
    rw [walk, Session.logged_lookup]
    generalize s.lookup p.session.1 module inst p.plan.group.pattern = a
    obtain ⟨answer, next⟩ := a
    let q : Probe := ⟨module, inst, p.plan.group.pattern, answer⟩
    cases answer with
    | ok entries =>
      have hlookup := Tallies.lookup ns q p next rfl rfl rfl
      obtain ⟨deeds, hnone, hdeeds⟩ :=
        emitEntries_tallied s ns module (toString inst.toNat) entries (hlookup.sound hp)
      have hentries := hlookup.trans hdeeds
      obtain ⟨rest, r, runaway, hrest, hwalk⟩ := ih (inst + 1) (found + 1) (hentries.sound hp)
      refine ⟨[.lookup q] ++ deeds ++ rest, r, runaway, hentries.trans hrest, ?_⟩
      have hcount : ([Deed.lookup q] ++ deeds ++ rest).countP Deed.present =
          1 + rest.countP Deed.present := by
        rw [List.countP_append, List.countP_append, hnone]
        rfl
      rw [hentries.group] at hwalk
      rw [hcount, ← Nat.add_assoc]
      exact hwalk
    | error cause =>
      dsimp only
      by_cases hc : cause.isNotFound = true
      · have hq : q.failure? = none := Probe.failure?_error.trans (if_pos hc)
        have hlookup := Tallies.lookup ns q p next rfl rfl (by rw [hq])
        rw [if_pos hc]
        exact ⟨_, _, false, hlookup, rfl⟩
      · have hq : q.failure? = some ⟨⟨module, inst, p.plan.group.id, ""⟩, cause⟩ :=
          Probe.failure?_error.trans (if_neg hc)
        have hlookup := Tallies.lookup ns q p next rfl rfl (by rw [hq])
        obtain ⟨rest, r, runaway, hrest, hwalk⟩ := ih (inst + 1) found (hlookup.sound hp)
        rw [if_neg hc]
        refine ⟨[.lookup q] ++ rest, r, runaway, hlookup.trans hrest, ?_⟩
        have hcount : ([Deed.lookup q] ++ rest).countP Deed.present = rest.countP Deed.present := by
          rw [List.countP_append]
          exact Nat.zero_add _
        rw [hcount]
        exact hwalk

end Progress

/-- The accounts of some groups, with what is added to a log and to a scrape. -/
structure Settles (ns : String) (groups : List (String × Schema.Group)) (accounts : List Account)
    (log log' : List Call) (scrape scrape' : Scrape) : Prop where
  groups : accounts.map (fun a => (a.module, a.group)) = groups
  fits : ∀ a ∈ accounts, a.Fits
  log : log' = log ++ accounts.flatMap Account.calls
  scrape : scrape' = scrape.recordAll (accounts.flatMap (Account.events ns))

namespace Settles

theorem nil (ns : String) (log : List Call) (scrape : Scrape) :
    Settles ns [] [] log log scrape scrape where
  groups := rfl
  fits := by simp
  log := (List.append_nil _).symm
  scrape := rfl

theorem append {ns : String} {groups groups' : List (String × Schema.Group)}
    {accounts accounts' : List Account} {log log' log'' : List Call}
    {scrape scrape' scrape'' : Scrape} (h : Settles ns groups accounts log log' scrape scrape')
    (h' : Settles ns groups' accounts' log' log'' scrape' scrape'') :
    Settles ns (groups ++ groups') (accounts ++ accounts') log log'' scrape scrape'' where
  groups := by rw [List.map_append, h.groups, h'.groups]
  fits a ha := (List.mem_append.mp ha).elim (h.fits a) (h'.fits a)
  log := by rw [h'.log, h.log, List.flatMap_append, List.append_assoc]
  scrape := by rw [h'.scrape, h.scrape, List.flatMap_append, Scrape.recordAll_append]

theorem of_tallies {ns module : String} {deeds : List Deed} {p q : Progress (σ × List Call)}
    (h : Tallies ns module deeds p q) (runaway : Bool) {scrape : Scrape}
    (hs : scrape = (q.scrape.recordAll
      (if runaway then [.runaway module p.plan.group.id] else [])).summarize
        ⟨module, p.plan.group.id, deeds.countP Deed.present⟩) :
    Settles ns [(module, p.plan.group)] [⟨module, p.plan.group, deeds, runaway⟩] p.session.2
      q.session.2 p.scrape scrape where
  groups := rfl
  fits := by
    intro a ha
    rw [List.mem_singleton.mp ha]
    exact h.fits
  log := by
    rw [List.flatMap_singleton]
    exact h.log
  scrape := by
    rw [hs, h.scrape, List.flatMap_singleton, Account.events, Scrape.recordAll_append,
      Scrape.recordAll_append]
    rfl

end Settles

theorem Harvest.events_ofRecord (ns module : String) (g : Schema.Group) (kind : StructuredKind)
    (stats : StructuredStats) :
    (ofRecord module g kind stats).events ns =
      (Step.structured module g kind (.ok stats)).events ns := by
  have hfield (c : Schema.Counter) : Subject.event ns
      ⟨module, 0, kind.name, kind.name, g.label, Progress.structuredLabel⟩
      ⟨c, stats.answer c.id⟩ = fieldEvent ns module g kind stats c := by
    rw [fieldEvent, StructuredStats.answer, stats.get?_eq_lookup]
    cases stats.words.lookup c.id with
    | some raw => rfl
    | none => rfl
  have htime : Event.sample (Subject.timeSample ns
      ⟨module, 0, kind.name, kind.name, g.label, Progress.structuredLabel⟩ stats.snaptime) =
      recordTimeEvent ns module kind stats := by
    cases stats
    rfl
  simp [events, ofRecord, Step.events, Step.occurrences, hfield, htime]

namespace Progress

variable (s : Session σ) (ns module : String)

theorem collectNamed_settles {p : Progress (σ × List Call)} (hp : p.plan.Sound ns module) :
    let q := p.collectNamed s.logged ns module
    ∃ accounts, Settles ns [(module, p.plan.group)] accounts p.session.2 q.session.2 p.scrape
      q.scrape := by
  obtain ⟨deeds, q, runaway, hdeeds, hwalk⟩ := walk_tallied s ns module maxInstances 0 0 hp
  rw [collectNamed, hwalk, Nat.zero_add]
  refine ⟨_, .of_tallies hdeeds runaway ?_⟩
  rw [← hdeeds.group]

theorem collectStructured_settles (kind : StructuredKind) (p : Progress (σ × List Call)) :
    let q := p.collectStructured s.logged module kind (.build ns module kind.name p.plan.group)
    ∃ accounts, Settles ns [(module, p.plan.group)] accounts p.session.2 q.session.2 p.scrape
      q.scrape := by
  have hlogged : s.logged.structured p.session kind =
      ((s.structured p.session.1 kind).1, (s.structured p.session.1 kind).2,
        p.session.2 ++ [.structured kind (s.structured p.session.1 kind).1]) := rfl
  rw [collectStructured, hlogged]
  generalize s.structured p.session.1 kind = a
  obtain ⟨answer, next⟩ := a
  -- one deed, which adds the events of the record or the failure to have it
  have hdeed {scrape : Scrape} (hs : scrape =
      p.scrape.recordAll (Deed.events ns module p.plan.group (.structured kind answer))) :
      Tallies ns module [.structured kind answer] p
        { session := (next, p.session.2 ++ [.structured kind answer]), plan := p.plan, scrape } :=
    ⟨rfl, by rw [hs, List.flatMap_singleton], rfl, id, by simp [Deed.Fits]⟩
  cases answer with
  | error cause => exact ⟨_, .of_tallies (hdeed rfl) false rfl⟩
  | ok stats =>
    have hevents : Deed.events ns module p.plan.group (.structured kind (.ok stats)) =
        (Step.structured module p.plan.group kind (.ok stats)).events ns :=
      Harvest.events_ofRecord ns module p.plan.group kind stats
    dsimp only
    rw [Presentation.emitStructured_eq, ← hevents]
    exact ⟨_, .of_tallies (hdeed rfl) false rfl⟩

theorem collect_settles {p : Progress (σ × List Call)} (hp : p.plan.Sound ns module) :
    let q := p.collect s.logged ns module
    ∃ accounts, Settles ns [(module, p.plan.group)] accounts p.session.2 q.session.2 p.scrape
      q.scrape := by
  rw [collect]
  cases hr : p.plan.route with
  | structured kind set =>
    rw [GroupPlan.Sound, hr] at hp
    obtain ⟨-, rfl⟩ := hp
    exact collectStructured_settles s ns module kind p
  | literal set => exact collectNamed_settles s ns module hp
  | pattern known => exact collectNamed_settles s ns module hp

end Progress

namespace Collector

variable (s : Session σ) (ns : String)

theorem collectGroups_settles (module : String) {plans : List GroupPlan}
    (hp : ∀ p ∈ plans, p.Sound ns module) (session : σ × List Call) (scrape : Scrape) :
    let q := collectGroups s.logged ns module plans session scrape
    ∃ accounts, Settles ns (plans.map fun p => (module, p.group)) accounts session.2 q.2.1.2 scrape
      q.2.2 := by
  induction plans generalizing session scrape with
  | nil => exact ⟨[], .nil ns session.2 scrape⟩
  | cons p plans ih =>
    obtain ⟨hfirst, hrest⟩ := List.forall_mem_cons.mp hp
    obtain ⟨accounts, haccounts⟩ :=
      Progress.collect_settles s ns module (p := { session, plan := p, scrape }) hfirst
    obtain ⟨accounts', haccounts'⟩ := ih hrest _ _
    exact ⟨accounts ++ accounts', haccounts.append haccounts'⟩

theorem collectModules_settles {modules : List ModulePlan} (hm : ∀ m ∈ modules, m.Sound ns)
    (session : σ × List Call) (scrape : Scrape) :
    let q := collectModules s.logged ns modules session scrape
    ∃ accounts, Settles ns (modules.flatMap fun m => m.groups.map fun p => (m.id, p.group)) accounts
      session.2 q.2.1.2 scrape q.2.2 := by
  induction modules generalizing session scrape with
  | nil => exact ⟨[], .nil ns session.2 scrape⟩
  | cons m modules ih =>
    obtain ⟨hfirst, hrest⟩ := List.forall_mem_cons.mp hm
    obtain ⟨accounts, haccounts⟩ := collectGroups_settles s ns m.id hfirst session scrape
    obtain ⟨accounts', haccounts'⟩ := ih hrest _ _
    exact ⟨accounts ++ accounts', haccounts.append haccounts'⟩

end Collector

def Schema.declared (schema : Schema) : List (String × Group) :=
  schema.modules.flatMap fun m => m.groups.map fun g => (m.id, g)

/-- The books of a scrape balance: the accounts of its groups explain its calls, its samples, its
failures, its log and its summaries, with nothing left over. -/
structure Balances (ns : String) (groups : List (String × Schema.Group)) (accounts : List Account)
    (log : List Call) (sink : Array Sample) (scrape : Scrape) : Prop where
  groups : accounts.map (fun a => (a.module, a.group)) = groups
  fits : ∀ a ∈ accounts, a.Fits
  calls : log = accounts.flatMap Account.calls
  sink : scrape.sink = sink ++ accounts.flatMap (Account.samples ns)
  emitted : scrape.emitted = (accounts.flatMap (Account.samples ns)).length
  yield : scrape.emitted = (accounts.map Account.yield).sum
  failures : scrape.failures.toList = accounts.flatMap Account.failures
  errors :
    (scrape.notices.toList.map Notice.line).filter (·.level = .error) =
      scrape.failures.toList.map fun f => ⟨.error, f.path.text ++ ": " ++ f.cause.message⟩
  lookups :
    (scrape.notices.toList.map Notice.line).filter (·.level = .debug) =
      (log.filterMap Call.probe?).map fun q =>
        ⟨.debug, "looking up kstat " ++ SourceError.place q.module q.inst q.pattern.source⟩
  summaries : scrape.groups.toList = accounts.map Account.summary

theorem Settles.balances {ns : String} {groups : List (String × Schema.Group)}
    {accounts : List Account} {log : List Call} {sink : Array Sample} {scrape : Scrape}
    (h : Settles ns groups accounts [] log { sink } scrape) :
    Balances ns groups accounts log sink scrape := by
  have hsamples : (accounts.flatMap (Account.events ns)).filterMap Event.sample? =
      accounts.flatMap (Account.samples ns) := by
    rw [List.filterMap_flatMap, funext (Account.sample?_events ns)]
  have hfailures : (accounts.flatMap (Account.events ns)).filterMap Event.failure? =
      accounts.flatMap Account.failures := by
    rw [List.filterMap_flatMap, funext (Account.failure?_events ns)]
  have hsummaries : (accounts.flatMap (Account.events ns)).filterMap Event.summary? =
      accounts.map Account.summary := by
    rw [List.filterMap_flatMap, funext (Account.summary?_events ns)]
    exact List.map_eq_flatMap.symm
  have hlookups : (accounts.flatMap (Account.events ns)).filterMap Event.lookup? =
      (log.filterMap Call.probe?).map fun q => .lookingUp q.module q.inst q.pattern.source := by
    rw [h.log, List.nil_append, List.filterMap_flatMap, funext (Account.lookup?_events ns),
      List.filterMap_flatMap, List.map_flatMap]
  have hyield : (accounts.flatMap (Account.samples ns)).length =
      (accounts.map Account.yield).sum := by
    rw [List.length_flatMap]
    exact congrArg List.sum (List.map_congr_left fun a ha => (h.fits a ha).length_samples ns)
  have hscrape := h.scrape
  rw [Scrape.recordAll_eq, hsamples, hfailures, hsummaries] at hscrape
  have hemitted : scrape.emitted = (accounts.flatMap (Account.samples ns)).length := by
    rw [hscrape]
    exact Nat.zero_add _
  have hfailed : scrape.failures.toList = accounts.flatMap Account.failures := by
    rw [hscrape]
    simp
  have hlines (l : Level) : (scrape.notices.toList.map Notice.line).filter (·.level = l) =
      (((accounts.flatMap (Account.events ns)).filterMap Event.notice?).filter
        (·.level = l)).map Notice.line := by
    rw [List.filter_map, hscrape]
    simp
    rfl
  exact {
    groups := h.groups
    fits := h.fits
    calls := by rw [h.log, List.nil_append]
    sink := by rw [hscrape]
    emitted := hemitted
    yield := hemitted.trans hyield
    failures := hfailed
    errors := by
      rw [hlines, Event.filter_level_error, hfailures, List.map_map, hfailed]
      rfl
    lookups := by
      rw [hlines, Event.filter_level_debug, hlookups, List.map_map]
      rfl
    summaries := by
      rw [hscrape]
      simp }

namespace Collector

/-- A scrape accounts for all that its session answers, whatever that is and whatever the collector has
been used for before. Each group has its account, in the order in which the groups are declared. -/
theorem collect_balances {schema : Schema} {ns : String} {c : Collector}
    (hc : Reached schema ns c) (src : Source ω σ) {source opened : ω} {session : σ}
    (ho : src.acquire source = (.ok session, opened)) (sink : Array Sample) :
    let run := c.collect src.logged (source, []) sink
    let out := c.collect src source sink
    out = ⟨run.result, run.collector, run.source.1⟩ ∧
      ∃ scrape accounts, out.result = .ok scrape ∧
        Balances ns schema.declared accounts run.source.2 sink scrape := by
  intro run out
  obtain ⟨hsound, hns, hschema⟩ := hc.sound
  have hacquire : src.logged.acquire (source, []) = (.ok (session, []), opened, []) := by
    show ((src.acquire source).1.map (·, []), (src.acquire source).2, []) = _
    rw [ho]
    rfl
  have hout : out = ⟨run.result, run.collector, run.source.1⟩ :=
    c.collect_logged src source [] sink
  have hdeclared : (c.modules.flatMap fun m => m.groups.map fun p => (m.id, p.group)) =
      schema.declared := by
    rw [← hschema]
    simp [Schema.declared, Collector.schema, ModulePlan.module, List.flatMap_map,
      Function.comp_def]
  have hsettles : ∃ scrape accounts, run.result = .ok scrape ∧
      Settles ns schema.declared accounts [] run.source.2 { sink } scrape := by
    obtain ⟨accounts, haccounts⟩ :=
      collectModules_settles src.toSession c.ns hsound (session, []) { sink }
    rw [hns, hdeclared] at haccounts
    dsimp only [run]
    rw [collect, hacquire, hns]
    exact ⟨_, accounts, rfl, haccounts⟩
  obtain ⟨scrape, accounts, hresult, haccounts⟩ := hsettles
  refine ⟨hout, scrape, accounts, ?_, haccounts.balances⟩
  rw [hout, hresult]

theorem collect_balances_typicalSystem :
    let c := ofSchema .brief defaultNamespace
    let source : Memory := { data := .typicalSystem }
    let opened : Memory := { data := .typicalSystem, calls := { opens := 1 } }
    let run := c.collect Memory.source.logged (source, []) #[]
    (Reached .brief defaultNamespace c ∧ Memory.source.acquire source = (.ok opened, opened)) ∧
      ∃ scrape accounts, run.result = .ok scrape ∧
        Balances defaultNamespace Schema.brief.declared accounts run.source.2 #[] scrape ∧
        (accounts.map Account.yield).sum = 14 ∧
        (accounts.flatMap Account.failures).length = 4 := by
  intro c source opened run
  have hnew : Reached .brief defaultNamespace c := .new
  have hopens : Memory.source.acquire source = (.ok opened, opened) := rfl
  obtain ⟨hout, scrape, accounts, hresult, hbalances⟩ :=
    collect_balances hnew Memory.source hopens #[]
  obtain ⟨hscrape, -⟩ := collect_memory_eq .brief defaultNamespace (m := source) rfl #[]
  have hsame := Except.ok.inj (hresult.symm.trans hscrape)
  refine ⟨⟨hnew, hopens⟩, scrape, accounts, ?_, hbalances, ?_, ?_⟩
  · rw [hout] at hresult
    exact hresult
  · rw [← hbalances.yield, hsame]
    decide +kernel
  · rw [← hbalances.failures, hsame]
    decide +kernel

end Collector

end KernelStats
