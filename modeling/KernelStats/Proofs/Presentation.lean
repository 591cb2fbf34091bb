import Mathlib.Data.List.Forall2
import KernelStats.Proofs.Snapshot
import KernelStats.Proofs.SoundPlan

/-!
# Sessions that present a snapshot

A session presents a snapshot if its answers are those of the snapshot, however its own state
changes meanwhile. A scrape over such a session records the events of the snapshot and nothing else.
-/

namespace KernelStats

def Answered (located : Entry → Reading → Prop) (answer : Except SourceError (List Entry)) :
    List Reading → Prop
  | [] => ∃ cause, answer = .error cause ∧ cause.isNotFound = true
  | rs => ∃ es, answer = .ok es ∧ List.Forall₂ located es rs

def Refreshed (opened : Content → Prop) (answer : Except SourceError Unit) :
    Except SourceError Content → Prop
  | .error cause => answer = .error cause
  | .ok content => answer = .ok () ∧ opened content

structure Presentation (s : Session σ) (v : Snapshot) where
  /-- What is true of the session after so many lookups and so many reads of records. -/
  Holds : Nat → Nat → σ → Prop
  Located : σ → UInt32 → Entry → Reading → Prop
  Opened : σ → Entry → Content → Prop
  lookup : ∀ {l r : Nat} {st : σ} (module : String) (inst : UInt32) (pattern : GroupPattern),
    Holds l r st → inst.toNat < maxInstances →
    Holds (l + 1) r (s.lookup st module inst pattern).2 ∧
      Answered (Located (s.lookup st module inst pattern).2 inst)
        (s.lookup st module inst pattern).1
        (v.find module inst pattern)
  read : ∀ {l r : Nat} {st : σ} {inst : UInt32} {e : Entry} {x : Reading},
    Holds l r st → Located st inst e x →
    Holds l r (s.read st e).2.2 ∧
      Refreshed (Opened (s.read st e).2.2 (s.read st e).2.1) (s.read st e).1 x.content ∧
      (s.read st e).2.1.inst = inst ∧ (s.read st e).2.1.name = x.name ∧
      ∀ e' x', Located st inst e' x' → Located (s.read st e).2.2 inst e' x'
  value : ∀ {st : σ} {e : Entry} {content : Content} (stat : String),
    Opened st e content → s.value st e stat = (content.value stat, st)
  time : ∀ {st : σ} {e : Entry} {content : Content},
    Opened st e content → s.snapshotTime st e = content.snaptime
  structured : ∀ {l r : Nat} {st : σ} (kind : StructuredKind), Holds l r st →
    Holds l (r + 1) (s.structured st kind).2 ∧ (s.structured st kind).1 = v.structured kind

namespace Presentation

variable {σ : Type} {s : Session σ} {w : Snapshot} (P : Presentation s w)

structure At (ns module : String) (g : Schema.Group) (l r : Nat) (scrape : Scrape)
    (p : Progress σ) : Prop where
  holds : P.Holds l r p.session
  sound : p.plan.Sound ns module
  group : p.plan.group = g
  scrape : p.scrape = scrape

theorem emitCounter_eq {ns : String} {v : Visit} {content : Content} {e : Entry} {p : Progress σ}
    (ho : P.Opened p.session e content) (hi : e.inst = v.inst) (hn : e.name = v.reading.name)
    (c : Schema.Counter) :
    Progress.emitCounter s v.module v.label e p
        (c, .forCounter ns v.module v.reading.name c v.group.label) =
      { p with scrape := p.scrape.record (v.counterEvent ns content c) } := by
  rw [Progress.emitCounter, P.value c.id ho]
  cases hc : content.value c.id with
  | ok raw => simp only [Visit.counterEvent, hc, Scrape.record, scaleValue]
  | error cause => simp only [Visit.counterEvent, hc, Scrape.record, Visit.path, hi, hn]

theorem emitCounters_eq {ns : String} {v : Visit} {content : Content} {e : Entry} {p : Progress σ}
    (ho : P.Opened p.session e content) (hi : e.inst = v.inst) (hn : e.name = v.reading.name)
    (counters : List Schema.Counter) :
    (counters.zip
        (counters.map fun c => .forCounter ns v.module v.reading.name c v.group.label)).foldl
        (Progress.emitCounter s v.module v.label e) p =
      { p with scrape := p.scrape.recordAll (counters.map (v.counterEvent ns content)) } := by
  induction counters generalizing p with
  | nil => rfl
  | cons c counters ih =>
    rw [List.map_cons, List.zip_cons_cons, List.foldl_cons, P.emitCounter_eq ho hi hn,
      ih (p := { p with scrape := p.scrape.record (v.counterEvent ns content c) }) ho]
    rfl

theorem emitSet_eq {ns module : String} {g : Schema.Group} {inst : UInt32} {x : Reading}
    {content : Content} {e : Entry} {p : Progress σ} (ho : P.Opened p.session e content)
    (hi : e.inst = inst) (hn : e.name = x.name) :
    (g.counters.zip (DescriptorSet.build ns module e.name g).counters).foldl
        (Progress.emitCounter s module (toString inst.toNat) e) p =
      { p with
        scrape := p.scrape.recordAll
          (g.counters.map (Visit.counterEvent ns ⟨module, g, inst, x⟩ content)) } := by
  rw [hn]
  exact P.emitCounters_eq (v := ⟨module, g, inst, x⟩) ho hi hn g.counters

theorem emitEntry_at {ns module : String} {g : Schema.Group} {inst : UInt32} {l r : Nat}
    {scrape : Scrape} {p : Progress σ} {e : Entry} {x : Reading}
    (hp : P.At ns module g l r scrape p) (hr : StructuredKind.route? module g.pattern = none)
    (hm : g.pattern.isMatch x.name = true) (he : P.Located p.session inst e x) :
    P.At ns module g l r
        (scrape.recordAll ((Step.visit ⟨module, g, inst, x⟩).events ns))
        (Progress.emitEntry s ns module (toString inst.toNat) p e) ∧
      ∀ e' x', P.Located p.session inst e' x' →
        P.Located (Progress.emitEntry s ns module (toString inst.toNat) p e).session inst
          e' x' := by
  obtain ⟨hholds, hread, hinst, hname, hkeep⟩ := P.read hp.holds he
  rw [Progress.emitEntry]
  generalize s.read p.session e = a at *
  obtain ⟨answer, e₁, st⟩ := a
  cases hc : x.content with
  | error cause =>
    rw [hc] at hread
    have ha : answer = .error cause := hread
    subst ha
    refine ⟨⟨hholds, hp.sound, hp.group, ?_⟩, hkeep⟩
    dsimp only at hinst hname ⊢
    rw [hp.scrape, hinst, hname]
    simp [Step.events, Step.occurrences, Visit.occurrences, hc, Scrape.recordAll, Scrape.record,
      Visit.path]
  | ok content =>
    rw [hc] at hread
    obtain ⟨ha, ho⟩ := hread
    dsimp only at ha ho hinst hname hkeep hholds
    subst ha
    -- the name still matches after the read, so the plan answers with what it would build for it
    have hmatch : p.plan.group.pattern.isMatch e₁.name = true := by
      rw [hp.group, hname]
      exact hm
    obtain ⟨hset, hsound⟩ := hp.sound.descriptors (hp.group ▸ hr) hmatch
    have hgroup := p.plan.group_descriptors ns module e₁.name
    dsimp only
    generalize p.plan.descriptors ns module e₁.name = d at *
    obtain ⟨set, plan⟩ := d
    dsimp only at hset hsound hgroup ⊢
    subst hset
    rw [hp.group] at hgroup
    rw [hgroup, hp.group, P.emitSet_eq (p := { p with session := st, plan }) ho hinst hname]
    refine ⟨⟨hholds, hsound, hgroup, ?_⟩, hkeep⟩
    dsimp only
    rw [P.time ho, hp.scrape, hname]
    simp [Step.events, Step.occurrences, Visit.occurrences, hc, Scrape.recordAll_append,
      Scrape.recordAll_cons, Scrape.record, Visit.timeEvent, Visit.label, DescriptorSet.build,
      Function.comp_def]

theorem emitEntries_at {ns module : String} {g : Schema.Group} {inst : UInt32} {l r : Nat}
    (hr : StructuredKind.route? module g.pattern = none) {scrape : Scrape} {p : Progress σ}
    {es : List Entry} {rs : List Reading} (hp : P.At ns module g l r scrape p)
    (hm : ∀ x ∈ rs, g.pattern.isMatch x.name = true)
    (he : List.Forall₂ (P.Located p.session inst) es rs) :
    P.At ns module g l r
      (scrape.recordAll
        ((rs.map fun x => Step.visit ⟨module, g, inst, x⟩).flatMap (Step.events ns)))
      (es.foldl (Progress.emitEntry s ns module (toString inst.toNat)) p) := by
  induction rs generalizing es p scrape with
  | nil =>
    obtain rfl := List.forall₂_nil_right_iff.mp he
    exact hp
  | cons x rs ih =>
    obtain ⟨e, es, hx, hes, rfl⟩ := List.forall₂_cons_right_iff.mp he
    obtain ⟨hq, hkeep⟩ := P.emitEntry_at hp hr (hm x List.mem_cons_self) hx
    rw [List.map_cons, List.flatMap_cons, Scrape.recordAll_append, List.foldl_cons]
    exact ih hq (fun x hx => hm x (List.mem_cons_of_mem _ hx)) (hes.imp hkeep)

theorem instance_at {ns module : String} {g : Schema.Group}
    (hr : StructuredKind.route? module g.pattern = none) {l r i : Nat} {scrape : Scrape}
    {p : Progress σ} (hp : P.At ns module g l r scrape p) {session : σ}
    (hs : P.Holds (l + 1) r session) {es : List Entry}
    (hes : List.Forall₂ (P.Located session (.ofNat i)) es (w.find module (.ofNat i) g.pattern)) :
    P.At ns module g (l + 1) r
      (scrape.recordAll ((w.instanceSteps module g i).flatMap (Step.events ns)))
      (es.foldl (Progress.emitEntry s ns module (toString (UInt32.ofNat i).toNat))
        { p with session, scrape := p.scrape.note (.lookingUp module (.ofNat i) g.id) }) := by
  have hbegun : P.At ns module g (l + 1) r (scrape.record (.lookup module (.ofNat i) g.id))
      { p with session, scrape := p.scrape.note (.lookingUp module (.ofNat i) g.id) } :=
    ⟨hs, hp.sound, hp.group, by rw [← hp.scrape]; rfl⟩
  exact P.emitEntries_at hr hbegun (fun x hx => w.isMatch_of_mem hx) hes

theorem walk_at {ns module : String} {g : Schema.Group}
    (hr : StructuredKind.route? module g.pattern = none) {l r left start : Nat} {scrape : Scrape}
    {p : Progress σ} (hp : P.At ns module g l r scrape p) (hle : start + left = maxInstances)
    (found : Nat) :
    (Progress.walk s ns module left (.ofNat start) found p).1 =
        found + w.extentFrom module g.pattern start left ∧
      P.At ns module g
        (l + (w.enumeration module g start
          (w.extentFrom module g.pattern start left)).countP Step.isLookup)
        r
        (scrape.recordAll ((w.enumeration module g start
          (w.extentFrom module g.pattern start left)).flatMap (Step.events ns)))
        (Progress.walk s ns module left (.ofNat start) found p).2 := by
  -- what is left of the limit; the counts and the record grow with each instance that is there
  induction left generalizing start found l scrape p with
  | zero =>
    have hlast : Snapshot.lastStep module g start = .runaway module g.id := by
      rw [Snapshot.lastStep, if_neg (by omega)]
    rw [Snapshot.extentFrom_zero, Snapshot.enumeration_zero, hlast]
    refine ⟨rfl, hp.holds, hp.sound, hp.group, ?_⟩
    simp only [Progress.walk, hp.group, hp.scrape]
    rfl
  | succ left ih =>
    have hlt : start < maxInstances := by omega
    have hinst : (UInt32.ofNat start).toNat < maxInstances := by rwa [toNat_instance (by omega)]
    obtain ⟨hholds, hfound⟩ := P.lookup module (.ofNat start) g.pattern hp.holds hinst
    rw [Progress.walk, hp.group, Snapshot.extentFrom_succ]
    generalize s.lookup p.session module (.ofNat start) g.pattern = a at *
    obtain ⟨answer, session⟩ := a
    cases hfind : w.find module (.ofNat start) g.pattern with
    | nil =>
      rw [hfind] at hfound
      obtain ⟨cause, ha, hmissing⟩ := hfound
      dsimp only at ha
      subst ha
      have hlast : Snapshot.lastStep module g start = .lookup module (.ofNat start) g.id := by
        rw [Snapshot.lastStep, if_pos hlt]
      simp only [List.isEmpty_nil, if_true, hmissing, Snapshot.enumeration_zero, hlast]
      refine ⟨rfl, hholds, hp.sound, hp.group, ?_⟩
      dsimp only
      rw [hp.scrape]
      rfl
    | cons x xs =>
      rw [hfind] at hfound
      obtain ⟨es, ha, hes⟩ := hfound
      dsimp only at ha hes hholds
      subst ha
      rw [← hfind] at hes
      have hrest : start + 1 + left = maxInstances := by omega
      obtain ⟨hcount, hat⟩ := ih (P.instance_at hr hp hholds hes) hrest (found + 1)
      rw [List.isEmpty_cons, if_neg Bool.false_ne_true, next_instance, Snapshot.enumeration_succ,
        List.countP_append, Snapshot.countP_isLookup_instanceSteps, List.flatMap_append,
        Scrape.recordAll_append]
      rw [Nat.add_assoc] at hat
      exact ⟨by rw [hcount]; omega, hat⟩

theorem collectNamed_at {ns module : String} {g : Schema.Group}
    (hr : StructuredKind.route? module g.pattern = none) {l r : Nat} {scrape : Scrape}
    {p : Progress σ} (hp : P.At ns module g l r scrape p) :
    P.At ns module g (l + (w.namedSteps module g).countP Step.isLookup) r
      (scrape.recordAll ((w.namedSteps module g).flatMap (Step.events ns)))
      (p.collectNamed s ns module) := by
  have hevents (sc : Scrape) : sc.recordAll ((w.namedSteps module g).flatMap (Step.events ns)) =
      (sc.recordAll
        ((w.enumeration module g 0 (w.extent module g.pattern)).flatMap (Step.events ns))).summarize
        ⟨module, g.id, w.extent module g.pattern⟩ := by
    simp [Snapshot.namedSteps, Scrape.recordAll_append, Step.events, Step.occurrences,
      Scrape.recordAll_cons, Scrape.record]
  have hzero : UInt32.ofNat 0 = 0 := rfl
  have hwalk := P.walk_at hr hp (Nat.zero_add maxInstances) 0
  rw [Snapshot.countP_isLookup_namedSteps, hevents, Progress.collectNamed]
  rw [Nat.zero_add, hzero, ← Snapshot.extent] at hwalk
  generalize Progress.walk s ns module maxInstances 0 0 p = q at hwalk ⊢
  obtain ⟨hcount, hat⟩ := hwalk
  refine ⟨hat.holds, hat.sound, hat.group, ?_⟩
  dsimp only
  rw [hcount, hat.scrape, hat.group]

theorem emitFields_eq {ns module : String} {g : Schema.Group} {kind : StructuredKind}
    {stats : StructuredStats} (counters : List Schema.Counter) (scrape : Scrape) :
    (counters.zip (counters.map fun c => .forCounter ns module kind.name c g.label)).foldl
        (Progress.emitField module kind stats) scrape =
      scrape.recordAll (counters.map (fieldEvent ns module g kind stats)) := by
  induction counters generalizing scrape with
  | nil => rfl
  | cons c counters ih =>
    rw [List.map_cons, List.zip_cons_cons, List.foldl_cons, ih, List.map_cons,
      Scrape.recordAll_cons, Progress.emitField, fieldEvent, stats.get?_eq_lookup]
    cases stats.words.lookup c.id with
    | some raw => rfl
    | none => rfl

theorem emitStructured_eq {ns module : String} {g : Schema.Group} {kind : StructuredKind}
    {stats : StructuredStats} (scrape : Scrape) :
    Progress.emitStructured module kind (.build ns module kind.name g) stats g scrape =
      scrape.recordAll ((Step.structured module g kind (.ok stats)).events ns) := by
  obtain ⟨fields, time⟩ := stats
  rw [Progress.emitStructured, DescriptorSet.build, emitFields_eq, Step.events, Step.occurrences,
    List.map_append, List.map_map, Scrape.recordAll_append]
  rfl

theorem collectStructured_at {ns module : String} {g : Schema.Group} {kind : StructuredKind}
    {l r : Nat} {scrape : Scrape} {p : Progress σ} (hp : P.At ns module g l r scrape p) :
    P.At ns module g l (r + 1)
      (scrape.recordAll ((w.structuredSteps module g kind).flatMap (Step.events ns)))
      (p.collectStructured s module kind (.build ns module kind.name g)) := by
  obtain ⟨hholds, hanswer⟩ := P.structured kind hp.holds
  rw [Progress.collectStructured, Snapshot.structuredSteps, ← hanswer]
  generalize s.structured p.session kind = a at *
  obtain ⟨answer, st⟩ := a
  cases answer with
  | error cause =>
    refine ⟨hholds, hp.sound, hp.group, ?_⟩
    dsimp only
    rw [hp.scrape, hp.group]
    rfl
  | ok stats =>
    refine ⟨hholds, hp.sound, hp.group, ?_⟩
    dsimp only
    rw [hp.scrape, hp.group, emitStructured_eq, List.flatMap_cons, Scrape.recordAll_append]
    rfl

theorem collect_at {ns module : String} {g : Schema.Group} {l r : Nat} {scrape : Scrape}
    {p : Progress σ} (hp : P.At ns module g l r scrape p) :
    P.At ns module g (l + (w.groupSteps module g).countP Step.isLookup)
      (r + (w.groupSteps module g).countP Step.isStructured)
      (scrape.recordAll ((w.groupSteps module g).flatMap (Step.events ns)))
      (p.collect s ns module) := by
  obtain ⟨session, plan, taken⟩ := p
  obtain ⟨group, route⟩ := plan
  have hsound := hp.sound
  have hgroup : group = g := hp.group
  subst hgroup
  -- one name or many: the descriptors are kept differently, the walk is the same
  have hnamed (hr : StructuredKind.route? module group.pattern = none) :
      P.At ns module group (l + (w.groupSteps module group).countP Step.isLookup)
        (r + (w.groupSteps module group).countP Step.isStructured)
        (scrape.recordAll ((w.groupSteps module group).flatMap (Step.events ns)))
        (Progress.collectNamed s ns module ⟨session, ⟨group, route⟩, taken⟩) := by
    rw [Snapshot.groupSteps_of_none hr, Snapshot.countP_isStructured_namedSteps]
    exact P.collectNamed_at hr hp
  cases route with
  | structured kind set =>
    obtain ⟨hr, hset⟩ := hsound
    dsimp only at hset
    subst hset
    rw [Snapshot.groupSteps_of_some hr]
    exact P.collectStructured_at hp
  | literal set => exact hnamed hsound.1
  | pattern known => exact hnamed hsound.1

theorem collectGroups_eq {ns module : String} {plans : List GroupPlan}
    (hplans : ∀ p ∈ plans, p.Sound ns module) {l r : Nat} {session : σ} (hs : P.Holds l r session)
    (scrape : Scrape) :
    let steps := (plans.map (·.group)).flatMap (w.groupSteps module)
    let out := Collector.collectGroups s ns module plans session scrape
    out.1.map (·.group) = plans.map (·.group) ∧ (∀ p ∈ out.1, p.Sound ns module) ∧
      P.Holds (l + steps.countP Step.isLookup) (r + steps.countP Step.isStructured) out.2.1 ∧
      out.2.2 = scrape.recordAll (steps.flatMap (Step.events ns)) := by
  induction plans generalizing l r session scrape with
  | nil => exact ⟨rfl, hplans, hs, rfl⟩
  | cons plan plans ih =>
    have hat := P.collect_at (p := ⟨session, plan, scrape⟩)
      ⟨hs, hplans plan List.mem_cons_self, rfl, rfl⟩
    obtain ⟨hgroups, hsound, hholds, hscrape⟩ :=
      ih (fun p hp => hplans p (List.mem_cons_of_mem _ hp)) hat.holds
        (Progress.collect s ns module ⟨session, plan, scrape⟩).scrape
    simp only [Collector.collectGroups, List.map_cons, List.flatMap_cons]
    rw [List.countP_append, List.countP_append, List.flatMap_append, Scrape.recordAll_append,
      ← Nat.add_assoc, ← Nat.add_assoc]
    refine ⟨by rw [hat.group, hgroups], ?_, hholds, by rw [hscrape, hat.scrape]⟩
    intro p hp
    rcases List.mem_cons.mp hp with rfl | hp
    · exact hat.sound
    · exact hsound p hp

theorem collectModules_eq {ns : String} {modules : List ModulePlan}
    (hmodules : ∀ m ∈ modules, m.Sound ns) {l r : Nat} {session : σ} (hs : P.Holds l r session)
    (scrape : Scrape) :
    let steps := (modules.map (·.module)).flatMap w.moduleSteps
    let out := Collector.collectModules s ns modules session scrape
    out.1.map (·.module) = modules.map (·.module) ∧ (∀ m ∈ out.1, m.Sound ns) ∧
      P.Holds (l + steps.countP Step.isLookup) (r + steps.countP Step.isStructured) out.2.1 ∧
      out.2.2 = scrape.recordAll (steps.flatMap (Step.events ns)) := by
  induction modules generalizing l r session scrape with
  | nil => exact ⟨rfl, hmodules, hs, rfl⟩
  | cons m modules ih =>
    obtain ⟨hgroups, hplans, hheld, hrecorded⟩ :=
      P.collectGroups_eq (hmodules m List.mem_cons_self) hs scrape
    obtain ⟨hms, hsound, hholds, hscrape⟩ :=
      ih (fun m hm => hmodules m (List.mem_cons_of_mem _ hm)) hheld
        (Collector.collectGroups s ns m.id m.groups session scrape).2.2
    simp only [Collector.collectModules, List.map_cons, List.flatMap_cons]
    rw [List.countP_append, List.countP_append, List.flatMap_append, Scrape.recordAll_append,
      ← Nat.add_assoc, ← Nat.add_assoc]
    refine ⟨?_, ?_, hholds, by rw [hscrape, hrecorded]; rfl⟩
    · rw [hms, ModulePlan.module, hgroups]
      rfl
    · intro k hk
      rcases List.mem_cons.mp hk with rfl | hk
      · exact hplans
      · exact hsound k hk

theorem collect_eq {src : Source ω σ} (Q : Presentation src.toSession w) {c : Collector}
    (hc : c.Sound) {source opened : ω} {session : σ} {l r : Nat}
    (hopen : src.acquire source = (.ok session, opened)) (hs : Q.Holds l r session)
    (sink : Array Sample) :
    let out := c.collect src source sink
    out.result = .ok (({ sink } : Scrape).recordAll (w.events c.ns c.schema)) ∧
      out.collector.ns = c.ns ∧ out.collector.schema = c.schema ∧ out.collector.Sound ∧
      ∃ last, Q.Holds (l + (w.steps c.schema).countP Step.isLookup)
          (r + (w.steps c.schema).countP Step.isStructured) last ∧
        out.source = src.release opened last := by
  obtain ⟨hmodules, hsound, hholds, hscrape⟩ := Q.collectModules_eq hc hs { sink }
  simp only [Collector.collect, hopen]
  rw [Snapshot.events_eq]
  refine ⟨by rw [hscrape]; rfl, trivial, ?_, hsound, _, hholds, rfl⟩
  rw [Collector.schema, Collector.schema, hmodules]

end Presentation

end KernelStats
