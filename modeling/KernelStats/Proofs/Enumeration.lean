import KernelStats.Proofs.CallLog
import KernelStats.Proofs.InstanceLoop
import KernelStats.Proofs.SoundPlan

/-!
# The enumeration of instances

A session may answer as it likes, and differently each time. Whatever it answers, a walk over a
group looks up the instances from 0 on, one after the other, up to the first one that is not found
or up to the limit, and every call leaves its trace in the scrape.
-/

namespace KernelStats

/-- The lookups of a group from an instance on: each instance once and in order, up to the first
that is missing, and no more than `left` of them. -/
structure Enumerates (module : String) (pattern : GroupPattern) (start left : Nat)
    (probes : List Probe) : Prop where
  addresses : probes.map Probe.address =
    (List.range' start probes.length).map fun i => (module, .ofNat i, pattern)
  length : probes.length =
    if probes.any Probe.missing then probes.findIdx Probe.missing + 1 else left
  length_le : probes.length ≤ left

namespace Enumerates

variable {module : String} {pattern : GroupPattern} {start left : Nat}

theorem nil : Enumerates module pattern start 0 [] where
  addresses := rfl
  length := rfl
  length_le := Nat.le_refl 0

theorem stop {q : Probe} (hq : q.address = (module, .ofNat start, pattern))
    (hm : q.missing = true) : Enumerates module pattern start (left + 1) [q] where
  addresses := by rw [List.map_singleton, hq]; rfl
  length := by simp [hm]
  length_le := by simp

theorem cons {q : Probe} {probes : List Probe} (hq : q.address = (module, .ofNat start, pattern))
    (hm : q.missing = false) (h : Enumerates module pattern (start + 1) left probes) :
    Enumerates module pattern start (left + 1) (q :: probes) where
  addresses := by
    rw [List.map_cons, hq, h.addresses, List.length_cons, List.range'_succ, List.map_cons]
  length := by
    have hl := h.length
    rw [List.any_cons, hm, Bool.false_or, List.findIdx_cons, hm, List.length_cons]
    by_cases ha : probes.any Probe.missing = true
    · rw [if_pos ha] at hl ⊢
      rw [hl, cond_false]
    · rw [if_neg ha] at hl ⊢
      rw [hl]
  length_le := Nat.succ_le_succ h.length_le

end Enumerates

structure Adds (module : String) (calls : List Call) (p q : Progress (σ × List Call)) : Prop where
  log : q.session.2 = p.session.2 ++ calls
  group : q.plan.group = p.plan.group
  failures : q.scrape.failures.toList =
    p.scrape.failures.toList ++ calls.filterMap (Call.failure? module)
  notices : q.scrape.notices.toList = p.scrape.notices.toList ++ calls.flatMap (Call.notices module)
  groups : q.scrape.groups = p.scrape.groups

namespace Adds

variable {module : String}

theorem refl (p : Progress (σ × List Call)) : Adds module [] p p where
  log := by simp
  group := rfl
  failures := by simp
  notices := by simp
  groups := rfl

theorem trans {calls calls' : List Call} {p q r : Progress (σ × List Call)}
    (h : Adds module calls p q) (h' : Adds module calls' q r) :
    Adds module (calls ++ calls') p r where
  log := by rw [h'.log, h.log, List.append_assoc]
  group := h'.group.trans h.group
  failures := by rw [h'.failures, h.failures, List.filterMap_append, List.append_assoc]
  notices := by rw [h'.notices, h.notices, List.flatMap_append, List.append_assoc]
  groups := h'.groups.trans h.groups

theorem single {c : Call} {p q : Progress (σ × List Call)} (hlog : q.session.2 = p.session.2 ++ [c])
    (hgroup : q.plan.group = p.plan.group)
    (hfailures : q.scrape.failures.toList = p.scrape.failures.toList ++ (c.failure? module).toList)
    (hnotices : q.scrape.notices.toList = p.scrape.notices.toList ++ c.notices module)
    (hgroups : q.scrape.groups = p.scrape.groups) : Adds module [c] p q where
  log := hlog
  group := hgroup
  failures := by
    rw [hfailures, List.filterMap_cons, List.filterMap_nil]
    cases c.failure? module with
    | none => rfl
    | some f => rfl
  notices := by rw [hnotices, List.flatMap_singleton]
  groups := hgroups

theorem lookup (module : String) {q : Probe} (hq : q.failure? = none) (p : Progress (σ × List Call))
    (session : σ) :
    Adds module [.lookup q] p
      { session := (session, p.session.2 ++ [.lookup q])
        plan := p.plan
        scrape := p.scrape.note (.lookingUp q.module q.inst q.pattern.source) } := by
  refine .single rfl rfl ?_ ?_ rfl
  · simp [Scrape.note, Call.failure?, hq]
  · simp [Scrape.note, Call.notices, Call.probe?, Call.failure?, hq]

theorem lookup_fail (module : String) {q : Probe} {f : StatFailure} (hq : q.failure? = some f)
    (p : Progress (σ × List Call)) (session : σ) :
    Adds module [.lookup q] p
      { session := (session, p.session.2 ++ [.lookup q])
        plan := p.plan
        scrape :=
          (p.scrape.note (.lookingUp q.module q.inst q.pattern.source)).fail f.path f.cause } := by
  refine .single rfl rfl ?_ ?_ rfl
  · simp [Scrape.fail, Scrape.note, Call.failure?, hq]
  · simp [Scrape.fail, Scrape.note, Call.notices, Call.probe?, Call.failure?, hq]

theorem foldl {f : Progress (σ × List Call) → α → Progress (σ × List Call)}
    (h : ∀ p x, ∃ calls, calls.filterMap Call.probe? = [] ∧ Adds module calls p (f p x))
    (xs : List α) (p : Progress (σ × List Call)) :
    ∃ calls, calls.filterMap Call.probe? = [] ∧ Adds module calls p (xs.foldl f p) := by
  induction xs generalizing p with
  | nil => exact ⟨[], rfl, refl p⟩
  | cons x xs ih =>
    obtain ⟨calls, hquiet, hadds⟩ := h p x
    obtain ⟨calls', hquiet', hadds'⟩ := ih (f p x)
    exact ⟨calls ++ calls', by rw [List.filterMap_append, hquiet, hquiet']; rfl, hadds.trans hadds'⟩

end Adds

namespace Progress

variable (s : Session σ)

theorem emitCounter_adds (module label : String) (e : Entry) (p : Progress (σ × List Call))
    (c : Schema.Counter × Descriptor) :
    ∃ calls, calls.filterMap Call.probe? = [] ∧
      Adds module calls p (emitCounter s.logged module label e p c) := by
  rw [emitCounter, Session.logged_value]
  generalize s.value p.session.1 e c.1.id = a
  obtain ⟨answer, next⟩ := a
  cases answer with
  | ok raw =>
    refine ⟨[.value e c.1.id (.ok raw)], rfl, .single rfl rfl ?_ ?_ rfl⟩
    · simp [Scrape.emit, Call.failure?]
    · simp [Scrape.emit, Call.notices, Call.probe?, Call.failure?]
  | error cause =>
    refine ⟨[.value e c.1.id (.error cause)], rfl, .single rfl rfl ?_ ?_ rfl⟩
    · simp [Scrape.fail, Scrape.note, Call.failure?]
    · simp [Scrape.fail, Scrape.note, Call.notices, Call.probe?, Call.failure?]

theorem emitEntry_adds (ns module label : String) (p : Progress (σ × List Call)) (e : Entry) :
    ∃ calls, calls.filterMap Call.probe? = [] ∧
      Adds module calls p (emitEntry s.logged ns module label p e) := by
  rw [emitEntry, Session.logged_read]
  generalize s.read p.session.1 e = a
  obtain ⟨answer, e, next⟩ := a
  cases answer with
  | error cause =>
    refine ⟨[.read (.error cause) e], rfl, .single rfl rfl ?_ ?_ rfl⟩
    · simp [Scrape.fail, Scrape.note, Call.failure?]
    · simp [Scrape.fail, Scrape.note, Call.notices, Call.probe?, Call.failure?]
  | ok u =>
    dsimp only
    -- the plan may keep new descriptors, but its group stays
    have hgroup := p.plan.group_descriptors ns module e.name
    generalize p.plan.descriptors ns module e.name = d at hgroup ⊢
    obtain ⟨set, plan⟩ := d
    dsimp only at hgroup ⊢
    have hread : Adds module [.read (.ok u) e] p
        { session := (next, p.session.2 ++ [.read (.ok u) e]), plan, scrape := p.scrape } := by
      refine .single rfl hgroup ?_ ?_ rfl
      · simp [Call.failure?]
      · simp [Call.notices, Call.probe?, Call.failure?]
    obtain ⟨calls, hquiet, hcounters⟩ :=
      Adds.foldl (fun p c => emitCounter_adds s module label e p c)
      (plan.group.counters.zip set.counters)
      { session := (next, p.session.2 ++ [.read (.ok u) e]), plan, scrape := p.scrape }
    have hall := hread.trans hcounters
    refine ⟨.read (.ok u) e :: calls, hquiet, ?_⟩
    exact ⟨hall.log, hall.group, hall.failures, hall.notices, hall.groups⟩

/-- What a walk from an instance on leaves: the calls of an enumeration, the number of instances
found, and a warning if none of them was missing. -/
def Enumerated (module : String) (start left found : Nat) (p : Progress (σ × List Call))
    (out : Nat × Progress (σ × List Call)) : Prop :=
  ∃ calls q,
    let probes := calls.filterMap Call.probe?
    Enumerates module p.plan.group.pattern start left probes ∧ Adds module calls p q ∧
      out = (found + probes.countP Probe.found,
        if probes.any Probe.missing then q
        else { q with scrape := q.scrape.note (.runaway module p.plan.group.id) })

theorem Enumerated.next {module : String} {start left found : Nat} {p p' : Progress (σ × List Call)}
    {out : Nat × Progress (σ × List Call)} {q : Probe} {calls : List Call}
    (hq : q.address = (module, .ofNat start, p.plan.group.pattern)) (hm : q.missing = false)
    (hquiet : calls.filterMap Call.probe? = []) (hadds : Adds module (.lookup q :: calls) p p')
    (h : Enumerated module (start + 1) left (found + q.found.toNat) p' out) :
    Enumerated module start (left + 1) found p out := by
  obtain ⟨calls', r, henum, hadds', hout⟩ := h
  have hprobes : (Call.lookup q :: calls ++ calls').filterMap Call.probe? =
      q :: calls'.filterMap Call.probe? := by
    rw [List.filterMap_append, List.filterMap_cons, hquiet]
    rfl
  rw [hadds.group] at henum hout
  refine ⟨Call.lookup q :: calls ++ calls', r, ?_⟩
  rw [hprobes]
  refine ⟨henum.cons hq hm, hadds.trans hadds', ?_⟩
  rw [hout, List.any_cons, hm, Bool.false_or, List.countP_cons]
  cases hf : q.found with
  | true => simp [Nat.add_comm, Nat.add_left_comm]
  | false => simp

/-- A walk over a group enumerates its instances, whatever it is answered. -/
theorem walk_enumerated (ns module : String) (left start found : Nat)
    (p : Progress (σ × List Call)) :
    Enumerated module start left found p (walk s.logged ns module left (.ofNat start) found p) := by
  induction left generalizing start found p with
  | zero => exact ⟨[], p, .nil, .refl p, rfl⟩
  | succ left ih =>
    rw [walk, Session.logged_lookup, next_instance]
    generalize s.lookup p.session.1 module (.ofNat start) p.plan.group.pattern = a
    obtain ⟨answer, next⟩ := a
    cases answer with
    | ok entries =>
      have hlookup := Adds.lookup module
        (q := ⟨module, .ofNat start, p.plan.group.pattern, .ok entries⟩) rfl p next
      obtain ⟨calls, hquiet, hentries⟩ :=
        Adds.foldl (emitEntry_adds s ns module (toString (UInt32.ofNat start).toNat)) entries _
      exact .next rfl rfl hquiet (hlookup.trans hentries) (ih (start + 1) (found + 1) _)
    | error cause =>
      dsimp only
      by_cases hc : cause.isNotFound = true
      · have hlookup := Adds.lookup module
          (q := ⟨module, .ofNat start, p.plan.group.pattern, .error cause⟩)
          (Probe.failure?_error.trans (if_pos hc)) p next
        have hm :
            (Probe.mk module (.ofNat start) p.plan.group.pattern (.error cause)).missing = true := by
          rw [Probe.missing_error, hc]
        have hany :
            [Probe.mk module (.ofNat start) p.plan.group.pattern (.error cause)].any Probe.missing =
            true := by
          rw [List.any_cons, hm, Bool.true_or]
        rw [if_pos hc]
        exact ⟨_, _, .stop rfl hm, hlookup, Prod.ext rfl (if_pos hany).symm⟩
      · have hlookup := Adds.lookup_fail module
          (q := ⟨module, .ofNat start, p.plan.group.pattern, .error cause⟩)
          (Probe.failure?_error.trans (if_neg hc)) p next
        have hm :
            (Probe.mk module (.ofNat start) p.plan.group.pattern (.error cause)).missing = false := by
          rw [Probe.missing_error]
          exact Bool.eq_false_iff.mpr hc
        rw [if_neg hc]
        exact .next rfl hm rfl hlookup (ih (start + 1) found _)

theorem walk_fst_le (ns module : String) (p : Progress σ) :
    (walk s ns module maxInstances 0 0 p).1 ≤ maxInstances := by
  have hzero : UInt32.ofNat 0 = 0 := rfl
  obtain ⟨calls, q, henum, -, hwalk⟩ := walk_enumerated s ns module maxInstances 0 0 p.logging
  obtain ⟨hbare, -⟩ := bare_walk s ns module maxInstances 0 0 p.logging
  rw [hzero, Nat.zero_add] at hwalk
  rw [bare_logging, hwalk] at hbare
  rw [← hbare]
  exact Nat.le_trans List.countP_le_length henum.length_le

theorem loop_ends (ns module : String) (p : Progress σ) :
    (Loop.after s ns module p (maxInstances + 1)).walker = .exhausted ∧
      (Loop.after s ns module p (maxInstances + 1)).finish module = p.collectNamed s ns module := by
  have hzero : UInt32.ofNat 0 = 0 := rfl
  have hend := Loop.iterate_turn_eq_walk s ns module (Nat.zero_add maxInstances) 0 p
  have hle := walk_fst_le s ns module p
  rw [hzero] at hend
  rw [Loop.after, Loop.start, hend, collectNamed]
  generalize walk s ns module maxInstances 0 0 p = w at hle ⊢
  obtain ⟨n, q⟩ := w
  -- no more instances are found than are looked up, so the word of the count is exact
  have hn : (UInt32.ofNat n).toNat = n := toNat_instance hle
  refine ⟨rfl, ?_⟩
  dsimp only [Loop.finish]
  rw [hn]

theorem collectNamed_logged (ns module : String) (p : Progress σ) :
    ∃ calls,
      let run := p.logging.collectNamed s.logged ns module
      let probes := calls.filterMap Call.probe?
      run.session.2 = calls ∧
        Enumerates module p.plan.group.pattern 0 maxInstances probes ∧
        run.scrape.failures = p.scrape.failures ++ calls.filterMap (Call.failure? module) ∧
        run.scrape.groups =
          p.scrape.groups.push ⟨module, p.plan.group.id, probes.countP Probe.found⟩ ∧
        run.scrape.notices = p.scrape.notices ++ (calls.flatMap (Call.notices module) ++
          if probes.any Probe.missing then [] else [.runaway module p.plan.group.id]) := by
  obtain ⟨calls, q, henum, hadds, hwalk⟩ := walk_enumerated s ns module maxInstances 0 0 p.logging
  have hzero : UInt32.ofNat 0 = 0 := rfl
  rw [hzero, Nat.zero_add] at hwalk
  have hgroup : q.plan.group = p.plan.group := hadds.group
  have hlog : q.session.2 = calls := hadds.log
  have hfailures :
      q.scrape.failures = p.scrape.failures ++ calls.filterMap (Call.failure? module) :=
    Array.toList_inj.mp (by rw [hadds.failures, Array.toList_appendList]; rfl)
  have hnotices : q.scrape.notices = p.scrape.notices ++ calls.flatMap (Call.notices module) :=
    Array.toList_inj.mp (by rw [hadds.notices, Array.toList_appendList]; rfl)
  have hgroups : q.scrape.groups = p.scrape.groups := hadds.groups
  refine ⟨calls, ?_⟩
  dsimp only
  rw [collectNamed, hwalk]
  dsimp only
  by_cases hm : (calls.filterMap Call.probe?).any Probe.missing = true
  · rw [if_pos hm, if_pos hm, List.append_nil]
    refine ⟨hlog, henum, hfailures, ?_, hnotices⟩
    rw [Scrape.summarize, hgroups, hgroup]
  · rw [if_neg hm, if_neg hm]
    refine ⟨hlog, henum, hfailures, ?_, ?_⟩
    · rw [Scrape.summarize, Scrape.note, hgroups, hgroup]
    · rw [Scrape.summarize, Scrape.note, hnotices]
      refine Array.toList_inj.mp ?_
      rw [Array.toList_push, Array.toList_appendList, Array.toList_appendList, List.append_assoc]
      rfl

/-- A walk over a group, for any session and whatever it answers: it looks up the instances 0, 1, 2,
... each once, and ends with the first that is not found or at the limit. A lookup that fails
otherwise leaves one failure, as do the other calls that fail, and they do not end the walk. The
loop that has only the limit to stop it does the same, with words that never wrap around. -/
theorem collectNamed_enumerates (ns module : String) (p : Progress σ) :
    let run := p.logging.collectNamed s.logged ns module
    let calls := run.session.2
    let probes := calls.filterMap Call.probe?
    let out := p.collectNamed s ns module
    let loop := Loop.after s ns module p
    run.bare = out ∧
      probes.map Probe.address =
        ((List.range probes.length).map fun i => (module, .ofNat i, p.plan.group.pattern)) ∧
      probes.length =
        (if probes.any Probe.missing then probes.findIdx Probe.missing + 1 else 65536) ∧
      probes.length ≤ 65536 ∧
      out.scrape.failures = p.scrape.failures ++ calls.filterMap (Call.failure? module) ∧
      out.scrape.groups =
        p.scrape.groups.push ⟨module, p.plan.group.id, probes.countP Probe.found⟩ ∧
      out.scrape.notices = p.scrape.notices ++ (calls.flatMap (Call.notices module) ++
        if probes.any Probe.missing then [] else [.runaway module p.plan.group.id]) ∧
      ((loop (65536 + 1)).walker = .exhausted ∧
        (loop (65536 + 1)).finish module = out) ∧
      ∀ turns inst, (loop turns).walker = .probe inst →
        inst.toNat = turns ∧ (inst.toNat < 65536 →
          (inst + 1).toNat = inst.toNat + 1 ∧
            ((loop turns).instances + 1).toNat = (loop turns).instances.toNat + 1) := by
  -- the run with a log shows the calls, and without it is the run itself
  obtain ⟨calls, hlog, henum, hfailures, hgroups, hnotices⟩ := collectNamed_logged s ns module p
  have hbare := bare_collectNamed s ns module p.logging
  rw [bare_logging] at hbare
  have hscrape :
      (p.collectNamed s ns module).scrape = (p.logging.collectNamed s.logged ns module).scrape := by
    rw [← hbare, bare_scrape]
  dsimp only
  rw [hlog, hscrape, List.range_eq_range']
  refine ⟨hbare, henum.addresses, henum.length, henum.length_le, hfailures, hgroups, hnotices,
    loop_ends s ns module p, ?_⟩
  intro turns inst hinst
  have hexact := Loop.exact_after s ns module p turns
  exact ⟨(hexact.inst inst hinst).1, hexact.toNat_add_one hinst⟩

end Progress

end KernelStats
