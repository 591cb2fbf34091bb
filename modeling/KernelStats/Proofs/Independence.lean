import KernelStats.Proofs.KernelSnapshot
import KernelStats.Proofs.MemorySnapshot
import KernelStats.Proofs.ScrapeJob

/-!
# Scrapes that do not disturb each other

A collector keeps descriptors from one scrape to the next and shares them between scrapes that run at
the same time. Since a source finds only names that are asked for, each question has one answer, and
what a scrape puts out is what it would put out with a new collector.
-/

namespace KernelStats

/-- The lookups of the session find only names of the group, and its reads leave the names alone. -/
structure Session.Faithful (s : Session σ) : Prop where
  lookup : ∀ {st : σ} {module : String} {inst : UInt32} {pattern : GroupPattern} {es : List Entry},
    (s.lookup st module inst pattern).1 = .ok es → ∀ e ∈ es, pattern.isMatch e.name = true
  read : ∀ (st : σ) (e : Entry), (s.read st e).2.1.name = e.name

theorem Memory.faithful_source : source.Faithful where
  lookup := by
    intro m module inst pattern es h e he
    have hfound : m.data.lookup module inst pattern = .ok es := h
    rw [Data.lookup] at hfound
    split at hfound
    · cases hfound
    · cases hfound
      obtain ⟨⟨k, slot⟩, hk, rfl⟩ := List.mem_map.mp he
      obtain ⟨-, hbelongs⟩ := List.mem_filter.mp hk
      exact (of_decide_eq_true hbelongs).2.2
  read := by
    intro m e
    show (m.data.read e).2.name = e.name
    rw [Data.read]
    cases m.data.chain[e.slot]? with
    | none => rfl
    | some k => cases hk : k.unreadable <;> simp [hk]

namespace Kernel

theorem Live.isMatch_of_mem_findAll {s : Live} {module : String} {inst : Nat} {group : GroupPattern}
    {place : Nat} (h : place ∈ s.findAll module inst group) :
    ∃ l, s.chain[place]? = some l ∧ group.isMatch (nameText l.kstat.name) = true := by
  have hover : s.Over (s.chain.map (·.kstat)) := rfl
  rw [hover.findAll] at h
  obtain ⟨⟨k, place⟩, hk, rfl⟩ := List.mem_map.mp h
  obtain ⟨hplace, hbelongs⟩ := mem_found hk
  obtain ⟨l, hl, rfl⟩ := hover.link hplace
  exact ⟨l, hl, (Kstat.belongs_iff.mp hbelongs).2.2⟩

theorem faithful_source : source.Faithful where
  lookup := by
    intro s module inst pattern es h e he
    have hfound : (s.lookup module inst pattern).1 = .ok es := h
    rw [Live.lookup] at hfound
    split at hfound
    · cases hfound
    · split at hfound
      · cases hfound
      · cases hfound
        obtain ⟨⟨place, i⟩, hplace, rfl⟩ := List.mem_map.mp he
        obtain ⟨l, hl, hmatch⟩ := Live.isMatch_of_mem_findAll (List.fst_mem_of_mem_zipIdx hplace)
        simp [Live.entry, hl, hmatch]
  read := by
    intro s e
    show (s.read e).2.1.name = e.name
    rw [Live.read]
    split
    · rfl
    · split
      · rfl
      · rfl

end Kernel

/-- The sources that a collector is given: the kernel's, and those in memory. -/
inductive Source.Provided : {ω σ : Type} → Source ω σ → Prop
  | memory : Provided Memory.source
  | kernel : Provided Kernel.source

theorem Source.Provided.faithful {src : Source ω σ} (h : src.Provided) : src.Faithful := by
  cases h with
  | memory => exact Memory.faithful_source
  | kernel => exact Kernel.faithful_source

namespace Progress

variable {s : Session σ} (hs : s.Faithful) {schema : Schema} (ns : String) {m : Schema.Module}
  {g : Schema.Group} {q : Place}

structure Stands (schema : Schema) (m : Schema.Module) (g : Schema.Group) (q : Place) : Prop where
  module : schema.modules[q.module]? = some m
  group : m.groups[q.group]? = some g
  named : StructuredKind.route? m.id g.pattern = none

include hs

theorem yields_emitEntryJob (hq : Stands schema m g q) (labelValue : String) {e : Entry}
    (he : g.pattern.isMatch e.name = true) (p : Progress σ) :
    ∃ n p', (emitEntryJob s m.id labelValue q p e).Yields schema ns n p' ∧ p'.plan = p.plan := by
  have hname := hs.read p.session e
  rw [emitEntryJob]
  generalize s.read p.session e = a at hname ⊢
  obtain ⟨answer, e', next⟩ := a
  dsimp only at hname ⊢
  cases answer with
  | error cause => exact ⟨0, _, .done _, rfl⟩
  | ok u =>
    have hanswer : schema.Answers ns q e'.name (.build ns m.id e'.name g) :=
      ⟨m, g, hq.module, hq.group, hq.named, hname ▸ he, rfl⟩
    have hplan := congrArg plan (foldl_emitCounter_plan s m.id labelValue e'
      (p.plan.group.counters.zip (DescriptorSet.build ns m.id e'.name g).counters)
      { p with session := next } p.plan)
    exact ⟨1, _, .request hanswer (.done _), hplan⟩

theorem yields_walkJob (hq : Stands schema m g q) (left : Nat) (inst : UInt32) (found : Nat)
    {p : Progress σ} (hp : p.plan.group = g) :
    ∃ n r, (walkJob s m.id q left inst found p).Yields schema ns n r ∧ r.2.plan = p.plan := by
  induction left generalizing inst found p with
  | zero => exact ⟨0, _, .done _, rfl⟩
  | succ left ih =>
    have hfound {es : List Entry}
        (h : (s.lookup p.session m.id inst p.plan.group.pattern).1 = .ok es) :
        ∀ e ∈ es, p.plan.group.pattern.isMatch e.name = true := hs.lookup h
    rw [walkJob]
    generalize s.lookup p.session m.id inst p.plan.group.pattern = a at hfound ⊢
    obtain ⟨answer, next⟩ := a
    cases answer with
    | ok entries =>
      have hentry : ∀ e ∈ entries, ∀ p' : Progress σ, p'.plan = p.plan →
          ∃ n p'', (emitEntryJob s m.id (toString inst.toNat) q p' e).Yields schema ns n p'' ∧
            p''.plan = p.plan := by
        intro e he p' hp'
        obtain ⟨n, p'', hn, hplan⟩ := yields_emitEntryJob hs ns hq (toString inst.toNat)
          (hp ▸ hfound rfl e he) p'
        exact ⟨n, p'', hn, hplan.trans hp'⟩
      obtain ⟨n, p', hn, hplan⟩ := Job.Yields.foldl hentry (b := { p with
        session := next
        scrape := p.scrape.note (.lookingUp m.id inst p.plan.group.id) }) rfl
      obtain ⟨n', r, hn', hplan'⟩ := ih (inst + 1) (found + 1) (p := p') (by rw [hplan, hp])
      exact ⟨n' + n, r, hn.bind hn', hplan'.trans hplan⟩
    | error cause =>
      dsimp only
      by_cases hc : cause.isNotFound = true
      · rw [if_pos hc]
        exact ⟨0, _, .done _, rfl⟩
      · rw [if_neg hc]
        exact ih (inst + 1) found hp

theorem yields_collectJob (hm : schema.modules[q.module]? = some m)
    (hg : m.groups[q.group]? = some g) (session : σ) (scrape : Scrape) :
    ∃ n p', (collectJob s m.id q { session, plan := .ofGroup ns m.id g, scrape }).Yields schema ns
      n p' := by
  cases hr : StructuredKind.route? m.id g.pattern with
  | some kind =>
    simp only [collectJob, GroupPlan.ofGroup, hr]
    exact ⟨0, _, .done _⟩
  | none =>
    let p : Progress σ := { session, plan := .ofGroup ns m.id g, scrape }
    have hnamed : collectJob s m.id q p = collectNamedJob s m.id q p := by
      simp only [collectJob, p, GroupPlan.ofGroup, hr]
      cases g.pattern.literal? with
      | some id => rfl
      | none => rfl
    obtain ⟨n, r, hn, -⟩ := yields_walkJob hs ns ⟨hm, hg, hr⟩ maxInstances 0 0 (p := p) rfl
    rw [hnamed, collectNamedJob]
    exact ⟨0 + n, _, hn.bind (.done _)⟩

end Progress

namespace Schema

variable {s : Session σ} (hs : s.Faithful) (ns : String)

include hs

theorem yields_groupsJob {schema : Schema} {m : Module} {i : Nat} (hm : schema.modules[i]? = some m)
    {before groups : List Group} (hg : m.groups = before ++ groups) (session : σ)
    (scrape : Scrape) :
    ∃ n r, (groupsJob s ns m.id i before.length groups session scrape).Yields schema ns n r := by
  induction groups generalizing before session scrape with
  | nil => exact ⟨0, _, .done _⟩
  | cons g groups ih =>
    have hplace : m.groups[before.length]? = some g := by simp [hg]
    obtain ⟨n, p, hn⟩ :=
      Progress.yields_collectJob hs ns (q := ⟨i, before.length⟩) hm hplace session scrape
    have hrest : m.groups = (before ++ [g]) ++ groups := by simp [hg]
    obtain ⟨n', r, hn'⟩ := ih hrest p.session p.scrape
    rw [List.length_append, List.length_singleton] at hn'
    exact ⟨n' + n, r, hn.bind hn'⟩

theorem yields_modulesJob {schema : Schema} {before modules : List Module}
    (hm : schema.modules = before ++ modules) (session : σ) (scrape : Scrape) :
    ∃ n r, (modulesJob s ns before.length modules session scrape).Yields schema ns n r := by
  induction modules generalizing before session scrape with
  | nil => exact ⟨0, _, .done _⟩
  | cons m modules ih =>
    have hplace : schema.modules[before.length]? = some m := by simp [hm]
    obtain ⟨n, r, hn⟩ :=
      yields_groupsJob hs ns hplace (List.nil_append m.groups).symm session scrape
    have hrest : schema.modules = (before ++ [m]) ++ modules := by simp [hm]
    obtain ⟨n', r', hn'⟩ := ih hrest r.1 r.2
    rw [List.length_append, List.length_singleton] at hn'
    exact ⟨n' + n, r', hn.bind hn'⟩

omit hs

theorem yields_job (schema : Schema) {src : Source ω σ} (hsrc : src.Faithful) (source : ω)
    (sink : Array Sample) :
    ∃ n out, (schema.job ns src source sink).Yields schema ns n out := by
  rw [job]
  generalize src.acquire source = a
  obtain ⟨answer, opened⟩ := a
  cases answer with
  | error cause => exact ⟨0, _, .done _⟩
  | ok session =>
    obtain ⟨n, r, hn⟩ := yields_modulesJob hsrc ns (List.nil_append schema.modules).symm session
      { sink }
    exact ⟨0 + n, _, hn.bind (.done _)⟩

end Schema

namespace Collector

def fresh (schema : Schema) (ns : String) (src : Source ω σ) (source : ω) (sink : Array Sample) :
    Except CollectError Scrape × ω :=
  let out := (ofSchema schema ns).collect src source sink
  (out.result, out.source)

theorem yields_fresh (schema : Schema) (ns : String) {src : Source ω σ} (hsrc : src.Faithful)
    (source : ω) (sink : Array Sample) :
    ∃ n, (schema.job ns src source sink).Yields schema ns n (fresh schema ns src source sink) := by
  obtain ⟨n, out, hn⟩ := schema.yields_job ns hsrc source sink
  obtain ⟨c, hrun⟩ := hn.run .new
  have hjob := schema.run_job (c := ofSchema schema ns) .new src source sink
  rw [hrun] at hjob
  have hout : out = fresh schema ns src source sink := (Prod.mk.inj (Option.some.inj hjob)).1
  exact ⟨n, hout ▸ hn⟩

theorem Reached.collect_eq_fresh {schema : Schema} {ns : String} {c : Collector}
    (hc : Reached schema ns c) {src : Source ω σ} (hsrc : src.Faithful) (source : ω)
    (sink : Array Sample) :
    let out := c.collect src source sink
    (out.result, out.source) = fresh schema ns src source sink := by
  have hjob := schema.run_job hc src source sink
  obtain ⟨n, hn⟩ := yields_fresh schema ns hsrc source sink
  obtain ⟨c', hrun⟩ := hn.run hc
  rw [hrun] at hjob
  exact (Prod.mk.inj (Option.some.inj hjob)).1.symm

/-- Whatever a collector has been asked before, and whatever it is asked meanwhile, it gives out the
descriptors that are built for the very name that was found, and a scrape has the result of a scrape
with a new collector. This holds for a scrape that is alone, and for each scrape of a crew that shares
the collector, in whatever order their questions come. -/
theorem collect_of_reached {schema : Schema} {ns : String} {c : Collector}
    (hc : Reached schema ns c) {src : Source ω σ} (hsrc : src.Provided) :
    (∀ m ∈ c.modules, ∀ p ∈ m.groups, StructuredKind.route? m.id p.group.pattern = none →
      ∀ session inst es, (src.lookup session m.id inst p.group.pattern).1 = .ok es → ∀ e ∈ es,
        (p.descriptors ns m.id e.name).1 = .build ns m.id e.name p.group) ∧
    (∀ source sink,
      let out := c.collect src source sink
      (schema.job ns src source sink).run c = some ((out.result, out.source), out.collector) ∧
        Reached schema ns out.collector ∧
        (out.result, out.source) = fresh schema ns src source sink) ∧
    ∀ starts : List (ω × Array Sample),
      let crew := Crew.run ⟨c, starts.map fun start => schema.job ns src start.1 start.2⟩
      (∀ schedule, Reached schema ns (crew schedule).collector) ∧
        ∀ i start, starts[i]? = some start →
          let result := fresh schema ns src start.1 start.2
          ∃ n, ∀ schedule,
            (n ≤ schedule.count i → (crew schedule).jobs[i]? = some (.done result)) ∧
              ∀ out, (crew schedule).jobs[i]? = some (.done out) → out = result := by
  have hfaithful := hsrc.faithful
  obtain ⟨hsound, hns, hschema⟩ := hc.sound
  refine ⟨?_, ?_, ?_⟩
  · intro m hm p hp hr session inst es hes e he
    have hplan := hns ▸ hsound m hm p hp
    exact (hplan.descriptors hr (hfaithful.lookup hes e he)).1
  · intro source sink out
    have hjob := schema.run_job hc src source sink
    refine ⟨hjob, hc.collect src source sink, ?_⟩
    obtain ⟨n, hn⟩ := yields_fresh schema ns hfaithful source sink
    obtain ⟨c', hrun⟩ := hn.run hc
    rw [hrun] at hjob
    exact (Prod.mk.inj (Option.some.inj hjob)).1.symm
  · intro starts crew
    refine ⟨fun schedule => Crew.reached_run hc schedule, ?_⟩
    intro i start hi result
    obtain ⟨n, hn⟩ := yields_fresh schema ns hfaithful start.1 start.2
    refine ⟨n, fun schedule => ?_⟩
    have hfirst : (starts.map fun start => schema.job ns src start.1 start.2)[i]? =
        some (schema.job ns src start.1 start.2) := by
      rw [List.getElem?_map, hi]
      rfl
    obtain ⟨t, ht, hyields⟩ := Crew.run_yields (w := ⟨c, _⟩) hc hfirst hn schedule
    refine ⟨?_, ?_⟩
    · intro hle
      rw [Nat.sub_eq_zero_of_le hle] at hyields
      cases hyields
      exact ht
    · intro out hout
      cases Option.some.inj (hout.symm.trans ht)
      generalize n - schedule.count i = left at hyields
      cases hyields
      rfl

theorem collect_of_reached_used :
    let c := ((ofSchema .brief defaultNamespace).collect Memory.source
      { data := .typicalSystem } #[]).collector
    let source : Memory := { data := .withCpus 2 }
    let out := c.collect Memory.source source #[]
    let job := Schema.brief.job defaultNamespace Memory.source source #[]
    (Reached .brief defaultNamespace c ∧ Memory.source.Provided) ∧
      out.result.toOption.map (·.emitted) = some 4 ∧
      ∃ n, ∀ schedule, n ≤ schedule.count 1 →
        (Crew.run ⟨c, [job, job]⟩ schedule).jobs[1]? = some (.done (out.result, out.source)) := by
  intro c source out job
  have hreached : Reached .brief defaultNamespace c := Reached.new.collect _ _ _
  obtain ⟨-, halone, hcrew⟩ := collect_of_reached hreached .memory
  obtain ⟨-, -, hfresh⟩ := halone source #[]
  obtain ⟨hscrape, -⟩ := collect_memory_eq .brief defaultNamespace (m := source) rfl #[]
  refine ⟨⟨hreached, .memory⟩, ?_, ?_⟩
  · have hresult : out.result = _ := (congrArg Prod.fst hfresh).trans hscrape
    rw [hresult]
    decide +kernel
  · obtain ⟨-, hjobs⟩ := hcrew [(source, #[]), (source, #[])]
    obtain ⟨n, hn⟩ := hjobs 1 (source, #[]) rfl
    refine ⟨n, fun schedule hle => ?_⟩
    rw [hfresh]
    exact (hn schedule).1 hle

end Collector

end KernelStats
