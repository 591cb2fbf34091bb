import KernelStats.Proofs.Job

/-!
# A scrape as a job

The work of a scrape between two questions is its own: its session, its sink and the descriptors that it
was given. `Schema.job` is the scrape taken apart at the questions. Alone on a collector the job does
what `Collector.collect` does.
-/

namespace KernelStats

namespace Progress

def emitEntryJob (s : Session σ) (module labelValue : String) (q : Place) (p : Progress σ)
    (e : Entry) : Job (Progress σ) :=
  match s.read p.session e with
  | (.error cause, e, session) =>
    .done { p with session, scrape := p.scrape.fail ⟨module, e.inst, e.name, ""⟩ cause }
  | (.ok (), e, session) =>
    .request q e.name fun set =>
      let p := (p.plan.group.counters.zip set.counters).foldl (emitCounter s module labelValue e)
        { p with session }
      .done { p with
        scrape :=
          p.scrape.emit set.snaptime labelValue (Number.ofInt (s.snapshotTime p.session e).toInt) }

def walkJob (s : Session σ) (module : String) (q : Place) :
    (left : Nat) → (inst : UInt32) → (found : Nat) → Progress σ → Job (Nat × Progress σ)
  | 0, _, found, p =>
    .done (found, { p with scrape := p.scrape.note (.runaway module p.plan.group.id) })
  | left + 1, inst, found, p =>
    let scrape := p.scrape.note (.lookingUp module inst p.plan.group.id)
    match s.lookup p.session module inst p.plan.group.pattern with
    | (.ok entries, session) =>
      (Job.foldl (emitEntryJob s module (toString inst.toNat) q) entries
        { p with session, scrape }).bind (walkJob s module q left (inst + 1) (found + 1))
    | (.error cause, session) =>
      if cause.isNotFound then .done (found, { p with session, scrape })
      else
        walkJob s module q left (inst + 1) found
          { p with session, scrape := scrape.fail ⟨module, inst, p.plan.group.id, ""⟩ cause }

def collectNamedJob (s : Session σ) (module : String) (q : Place) (p : Progress σ) :
    Job (Progress σ) :=
  (walkJob s module q maxInstances 0 0 p).bind fun (instances, p) =>
    .done { p with
      scrape := p.scrape.summarize { module, group := p.plan.group.id, instances } }

def collectJob (s : Session σ) (module : String) (q : Place) (p : Progress σ) : Job (Progress σ) :=
  match p.plan.route with
  | .structured kind set => .done (p.collectStructured s module kind set)
  | .literal _ | .pattern _ => p.collectNamedJob s module q

end Progress

namespace Schema

def groupsJob (s : Session σ) (ns module : String) (i : Nat) :
    (j : Nat) → List Group → σ → Scrape → Job (σ × Scrape)
  | _, [], session, scrape => .done (session, scrape)
  | j, g :: gs, session, scrape =>
    (Progress.collectJob s module ⟨i, j⟩ { session, plan := .ofGroup ns module g, scrape }).bind
      fun p => groupsJob s ns module i (j + 1) gs p.session p.scrape

def modulesJob (s : Session σ) (ns : String) :
    (i : Nat) → List Module → σ → Scrape → Job (σ × Scrape)
  | _, [], session, scrape => .done (session, scrape)
  | i, m :: ms, session, scrape =>
    (groupsJob s ns m.id i 0 m.groups session scrape).bind
      fun (session, scrape) => modulesJob s ns (i + 1) ms session scrape

def job (schema : Schema) (ns : String) (src : Source ω σ) (source : ω) (sink : Array Sample) :
    Job (Except CollectError Scrape × ω) :=
  match src.acquire source with
  | (.error cause, source) => .done (.error (.unopened cause), source)
  | (.ok session, source) =>
    (modulesJob src.toSession ns 0 schema.modules session { sink }).bind
      fun (session, scrape) => .done (.ok scrape, src.release source session)

end Schema

namespace Progress

variable (s : Session σ) (k : Surroundings)

theorem foldl_emitCounter_plan (module labelValue : String) (e : Entry)
    (cs : List (Schema.Counter × Descriptor)) (p : Progress σ) (plan : GroupPlan) :
    cs.foldl (emitCounter s module labelValue e) { p with plan } =
      { cs.foldl (emitCounter s module labelValue e) p with plan } := by
  refine List.foldl_hom (fun p : Progress σ => { p with plan }) ?_
  intro p c
  simp only [emitCounter]
  generalize s.value p.session e c.1.id = a
  obtain ⟨answer, next⟩ := a
  cases answer with
  | ok raw => rfl
  | error cause => rfl

theorem run_emitEntryJob (labelValue : String) {p : Progress σ} {plan : GroupPlan}
    (h : plan.group = p.plan.group) (e : Entry) :
    let q := emitEntry s k.ns k.module labelValue p e
    (emitEntryJob s k.module labelValue k.place { p with plan } e).run (k.fill p.plan) =
        some ({ q with plan }, k.fill q.plan) ∧
      q.plan.group = p.plan.group := by
  rw [emitEntry, emitEntryJob]
  dsimp only
  generalize s.read p.session e = a
  obtain ⟨answer, e, next⟩ := a
  cases answer with
  | error cause => exact ⟨rfl, rfl⟩
  | ok u =>
    have hgroup := p.plan.group_descriptors k.ns k.module e.name
    have hrequest := k.request_fill p.plan e.name
    dsimp only
    generalize p.plan.descriptors k.ns k.module e.name = d at hgroup hrequest ⊢
    obtain ⟨set, learnt⟩ := d
    dsimp only at hgroup hrequest ⊢
    -- what is read does not depend on the plan, be it as it was made or with what it has learnt
    have hplan := foldl_emitCounter_plan s k.module labelValue e
      (p.plan.group.counters.zip set.counters) { p with session := next } plan
    have hlearnt := foldl_emitCounter_plan s k.module labelValue e
      (p.plan.group.counters.zip set.counters) { p with session := next } learnt
    dsimp only at hplan hlearnt
    rw [Job.run, hrequest, Option.bind_some]
    dsimp only
    rw [Job.run, h, hgroup, hplan, hlearnt]
    exact ⟨rfl, hgroup⟩

theorem run_emitEntryJobs (labelValue : String) (es : List Entry) {p : Progress σ}
    {plan : GroupPlan} (h : plan.group = p.plan.group) :
    let q := es.foldl (emitEntry s k.ns k.module labelValue) p
    (Job.foldl (emitEntryJob s k.module labelValue k.place) es { p with plan }).run (k.fill p.plan) =
        some ({ q with plan }, k.fill q.plan) ∧
      q.plan.group = p.plan.group := by
  induction es generalizing p with
  | nil => exact ⟨rfl, rfl⟩
  | cons e es ih =>
    obtain ⟨hrun, hgroup⟩ := run_emitEntryJob s k labelValue h e
    obtain ⟨hrest, hgroup'⟩ := ih (h.trans hgroup.symm)
    refine ⟨?_, hgroup'.trans hgroup⟩
    rw [Job.foldl, Job.run_bind, hrun]
    exact hrest

theorem run_walkJob (left : Nat) (inst : UInt32) (found : Nat) {p : Progress σ} {plan : GroupPlan}
    (h : plan.group = p.plan.group) :
    let q := walk s k.ns k.module left inst found p
    (walkJob s k.module k.place left inst found { p with plan }).run (k.fill p.plan) =
        some ((q.1, { q.2 with plan }), k.fill q.2.plan) ∧
      q.2.plan.group = p.plan.group := by
  induction left generalizing inst found p with
  | zero =>
    rw [walk, walkJob, h]
    exact ⟨rfl, rfl⟩
  | succ left ih =>
    rw [walk, walkJob]
    dsimp only
    rw [h]
    generalize s.lookup p.session k.module inst p.plan.group.pattern = a
    obtain ⟨answer, next⟩ := a
    cases answer with
    | ok entries =>
      obtain ⟨hrun, hgroup⟩ := run_emitEntryJobs s k (toString inst.toNat) entries
        (p := { p with
          session := next
          scrape := p.scrape.note (.lookingUp k.module inst p.plan.group.id) }) h
      obtain ⟨hrest, hgroup'⟩ := ih (inst + 1) (found + 1) (h.trans hgroup.symm)
      refine ⟨?_, hgroup'.trans hgroup⟩
      dsimp only at hrun ⊢
      rw [Job.run_bind, hrun]
      exact hrest
    | error cause =>
      dsimp only
      by_cases hc : cause.isNotFound = true
      · rw [if_pos hc, if_pos hc]
        exact ⟨rfl, rfl⟩
      · rw [if_neg hc, if_neg hc]
        exact ih (inst + 1) found (p := { p with
          session := next
          scrape := (p.scrape.note (.lookingUp k.module inst p.plan.group.id)).fail
            ⟨k.module, inst, p.plan.group.id, ""⟩ cause }) h

theorem run_collectNamedJob {p : Progress σ} {plan : GroupPlan} (h : plan.group = p.plan.group) :
    let q := p.collectNamed s k.ns k.module
    (collectNamedJob s k.module k.place { p with plan }).run (k.fill p.plan) =
      some ({ q with plan }, k.fill q.plan) := by
  obtain ⟨hrun, hgroup⟩ := run_walkJob s k maxInstances 0 0 h
  rw [collectNamedJob, Job.run_bind, hrun, collectNamed]
  dsimp only [Option.bind_some, Job.run]
  rw [h, ← hgroup]

theorem run_collectJob {p : Progress σ} (hp : p.plan.Sound k.ns k.module) :
    let plan := GroupPlan.ofGroup k.ns k.module p.plan.group
    let q := p.collect s k.ns k.module
    (collectJob s k.module k.place { p with plan }).run (k.fill p.plan) =
      some ({ q with plan }, k.fill q.plan) := by
  intro plan
  have hnamed (hr : StructuredKind.route? k.module p.plan.group.pattern = none) :
      collectJob s k.module k.place { p with plan } =
        collectNamedJob s k.module k.place { p with plan } := by
    simp only [collectJob, plan, GroupPlan.ofGroup, hr]
    cases p.plan.group.pattern.literal? with
    | some id => rfl
    | none => rfl
  rw [collect]
  cases hroute : p.plan.route with
  | structured kind set =>
    rw [GroupPlan.Sound, hroute] at hp
    obtain ⟨hr, rfl⟩ := hp
    have hjob : collectJob s k.module k.place { p with plan } =
        .done ({ p with plan }.collectStructured s k.module kind
          (.build k.ns k.module kind.name p.plan.group)) := by
      simp only [collectJob, plan, GroupPlan.ofGroup, hr]
    rw [hjob, Job.run]
    simp only [collectStructured]
    generalize s.structured p.session kind = a
    obtain ⟨answer, next⟩ := a
    cases answer with
    | error cause => rfl
    | ok stats => rfl
  | literal set =>
    rw [GroupPlan.Sound, hroute] at hp
    rw [hnamed hp.1]
    exact run_collectNamedJob s k rfl
  | pattern known =>
    rw [GroupPlan.Sound, hroute] at hp
    rw [hnamed hp.1]
    exact run_collectNamedJob s k rfl

end Progress

namespace Schema

variable (s : Session σ)

theorem run_groupsJob (ns module : String) (modulesBefore modulesAfter : List ModulePlan)
    (before plans : List GroupPlan) (hp : ∀ p ∈ plans, p.Sound ns module) (session : σ)
    (scrape : Scrape) :
    let q := Collector.collectGroups s ns module plans session scrape
    (groupsJob s ns module modulesBefore.length before.length (plans.map (·.group)) session
        scrape).run ⟨ns, modulesBefore ++ ⟨module, before ++ plans⟩ :: modulesAfter⟩ =
      some (q.2, ⟨ns, modulesBefore ++ ⟨module, before ++ q.1⟩ :: modulesAfter⟩) := by
  induction plans generalizing before session scrape with
  | nil => rfl
  | cons p plans ih =>
    obtain ⟨hfirst, hrest⟩ := List.forall_mem_cons.mp hp
    let k : Surroundings := ⟨ns, modulesBefore, module, before, plans, modulesAfter⟩
    have hrun := Progress.run_collectJob s k (p := { session, plan := p, scrape }) hfirst
    rw [Collector.collectGroups, List.map_cons, groupsJob, Job.run_bind]
    refine (congrArg (Option.bind · _) hrun).trans ?_
    generalize Progress.collect s k.ns k.module { session, plan := p, scrape } = q
    have hnext := ih (before ++ [q.plan]) hrest q.session q.scrape
    rw [List.length_append, List.length_singleton] at hnext
    simp only [List.append_assoc, List.singleton_append] at hnext
    exact hnext

theorem run_modulesJob (ns : String) (before modules : List ModulePlan)
    (hm : ∀ m ∈ modules, m.Sound ns) (session : σ) (scrape : Scrape) :
    let q := Collector.collectModules s ns modules session scrape
    (modulesJob s ns before.length (modules.map (·.module)) session scrape).run
        ⟨ns, before ++ modules⟩ =
      some (q.2, ⟨ns, before ++ q.1⟩) := by
  induction modules generalizing before session scrape with
  | nil => rfl
  | cons m modules ih =>
    obtain ⟨hfirst, hrest⟩ := List.forall_mem_cons.mp hm
    have hrun := run_groupsJob s ns m.id before modules [] m.groups hfirst session scrape
    rw [Collector.collectModules, List.map_cons, modulesJob, Job.run_bind]
    refine (congrArg (Option.bind · _) hrun).trans ?_
    generalize Collector.collectGroups s ns m.id m.groups session scrape = q
    obtain ⟨groups, session, scrape⟩ := q
    have hnext := ih (before ++ [⟨m.id, groups⟩]) hrest session scrape
    rw [List.length_append, List.length_singleton] at hnext
    simp only [List.append_assoc, List.singleton_append] at hnext
    exact hnext

/-- Alone on a collector of the schema, the job of a scrape is the scrape, for any source. -/
theorem run_job {schema : Schema} {ns : String} {c : Collector}
    (hc : Collector.Reached schema ns c) (src : Source ω σ) (source : ω) (sink : Array Sample) :
    let out := c.collect src source sink
    (schema.job ns src source sink).run c = some ((out.result, out.source), out.collector) := by
  obtain ⟨hsound, rfl, rfl⟩ := hc.sound
  rw [job, Collector.collect]
  generalize src.acquire source = a
  obtain ⟨answer, opened⟩ := a
  cases answer with
  | error cause => rfl
  | ok session =>
    have hrun := run_modulesJob src.toSession c.ns [] c.modules hsound session { sink }
    dsimp only
    rw [Job.run_bind]
    refine (congrArg (Option.bind · _) hrun).trans ?_
    rfl

end Schema

theorem Collector.Reached.collect {schema : Schema} {ns : String} {c : Collector}
    (hc : Reached schema ns c) (src : Source ω σ) (source : ω) (sink : Array Sample) :
    Reached schema ns (c.collect src source sink).collector :=
  Job.reached_run hc (schema.run_job hc src source sink)

end KernelStats
