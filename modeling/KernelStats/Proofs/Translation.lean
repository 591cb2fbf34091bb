import KernelStats.Collect.Collector

/-!
# Translated scrapes

A session can be seen through a map of its states, and descriptors can go by other names. If the one
session answers in the image of a state as the other answers in the state, and descriptors are built
under the other names, then a scrape over the one is the image of a scrape over the other: the calls
and failures are the same, and the samples are renamed. What was in the sink before stays in front.
-/

namespace KernelStats

def DescriptorSet.rename (f : Descriptor → Descriptor) (set : DescriptorSet) : DescriptorSet where
  counters := set.counters.map f
  snaptime := f set.snaptime

def Route.rename (f : Descriptor → Descriptor) : Route → Route
  | .literal set => .literal (set.rename f)
  | .pattern known => .pattern (known.map fun entry => (entry.1, entry.2.rename f))
  | .structured kind set => .structured kind (set.rename f)

def GroupPlan.rename (f : Descriptor → Descriptor) (p : GroupPlan) : GroupPlan :=
  { p with route := p.route.rename f }

def ModulePlan.rename (f : Descriptor → Descriptor) (m : ModulePlan) : ModulePlan :=
  { m with groups := m.groups.map (.rename f) }

def Renames (ns ns' : String) (f : Descriptor → Descriptor) : Prop :=
  ∀ module name g, DescriptorSet.build ns' module name g =
    (DescriptorSet.build ns module name g).rename f

theorem DescriptorSet.rename_id (set : DescriptorSet) : set.rename id = set := by
  simp [rename]

theorem Renames.refl (ns : String) : Renames ns ns id :=
  fun _ _ _ => (DescriptorSet.rename_id _).symm

theorem GroupPlan.rename_id (p : GroupPlan) : p.rename id = p := by
  obtain ⟨g, route⟩ := p
  cases route with
  | literal set => simp [rename, Route.rename, DescriptorSet.rename_id]
  | pattern known => simp [rename, Route.rename, DescriptorSet.rename_id]
  | structured kind set => simp [rename, Route.rename, DescriptorSet.rename_id]

def Sample.rename (f : Descriptor → Descriptor) (x : Sample) : Sample := { x with desc := f x.desc }

def Scrape.rename (before : Array Sample) (f : Descriptor → Descriptor) (s : Scrape) : Scrape :=
  { s with sink := before ++ s.sink.map (.rename f) }

theorem Scrape.rename_id (s : Scrape) : s.rename #[] id = s := by
  have hsamples : Sample.rename id = id := rfl
  simp [rename, hsamples]

theorem map_rename_id (ms : List ModulePlan) : ms.map (.rename id) = ms := by
  have hgroups : GroupPlan.rename id = id := funext GroupPlan.rename_id
  have hmodules : ModulePlan.rename id = id := by
    funext m
    simp [ModulePlan.rename, hgroups]
  rw [hmodules, List.map_id]

section
variable {ns ns' : String} {f : Descriptor → Descriptor} (build : Renames ns ns' f)
include build

theorem Renames.ofGroup (module : String) (g : Schema.Group) :
    GroupPlan.ofGroup ns' module g = (GroupPlan.ofGroup ns module g).rename f := by
  simp only [GroupPlan.ofGroup, GroupPlan.rename]
  cases StructuredKind.route? module g.pattern with
  | some kind =>
    dsimp only
    rw [build]
    rfl
  | none =>
    dsimp only
    cases g.pattern.literal? with
    | some id =>
      dsimp only
      rw [build]
      rfl
    | none => rfl

theorem Renames.ofModule (m : Schema.Module) :
    ModulePlan.ofModule ns' m = (ModulePlan.ofModule ns m).rename f := by
  have hgroups : GroupPlan.ofGroup ns' m.id = GroupPlan.rename f ∘ GroupPlan.ofGroup ns m.id :=
    funext (build.ofGroup m.id)
  simp only [ModulePlan.ofModule, ModulePlan.rename, hgroups, List.map_map]

theorem Renames.ofSchema (schema : Schema) :
    Collector.ofSchema schema ns' =
      ⟨ns', (Collector.ofSchema schema ns).modules.map (.rename f)⟩ := by
  have hmodules : ModulePlan.ofModule ns' = ModulePlan.rename f ∘ ModulePlan.ofModule ns :=
    funext build.ofModule
  rw [Collector.ofSchema, Collector.ofSchema, hmodules, List.map_map]

end

/-- How a scrape over the session `s` is seen as one over the session `t`. -/
structure Translation (s : Session σ) (t : Session τ) (ns ns' : String) where
  state : σ → τ
  descriptor : Descriptor → Descriptor
  before : Array Sample
  lookup : ∀ st module inst pattern, t.lookup (state st) module inst pattern =
    ((s.lookup st module inst pattern).1, state (s.lookup st module inst pattern).2)
  read : ∀ st e, t.read (state st) e =
    ((s.read st e).1, (s.read st e).2.1, state (s.read st e).2.2)
  value : ∀ st e stat, t.value (state st) e stat = ((s.value st e stat).1, state (s.value st e stat).2)
  structured : ∀ st kind, t.structured (state st) kind =
    ((s.structured st kind).1, state (s.structured st kind).2)
  snapshotTime : ∀ st e, t.snapshotTime (state st) e = s.snapshotTime st e
  build : Renames ns ns' descriptor

namespace Translation

variable {s : Session σ} {t : Session τ} {ns ns' : String} (T : Translation s t ns ns')

def scrape (x : Scrape) : Scrape := x.rename T.before T.descriptor

def progress (p : Progress σ) : Progress τ where
  session := T.state p.session
  plan := p.plan.rename T.descriptor
  scrape := T.scrape p.scrape

theorem emit_scrape (x : Scrape) (d : Descriptor) (labelValue : String) (value : Float) :
    (T.scrape x).emit (T.descriptor d) labelValue value = T.scrape (x.emit d labelValue value) := by
  simp [scrape, Scrape.rename, Scrape.emit, Sample.rename]

theorem descriptors_rename (p : GroupPlan) (module name : String) :
    (p.rename T.descriptor).descriptors ns' module name =
      ((p.descriptors ns module name).1.rename T.descriptor,
        (p.descriptors ns module name).2.rename T.descriptor) := by
  obtain ⟨g, route⟩ := p
  cases route with
  | literal set => rfl
  | structured kind set => rfl
  | pattern known =>
    have hlookup : (known.map fun entry => (entry.1, entry.2.rename T.descriptor)).lookup name =
        (known.lookup name).map (.rename T.descriptor) := by
      induction known with
      | nil => rfl
      | cons entry known ih =>
        obtain ⟨other, set⟩ := entry
        rw [List.map_cons, List.lookup_cons, List.lookup_cons, ih]
        cases name == other with
        | true => rfl
        | false => rfl
    simp only [GroupPlan.rename, Route.rename, GroupPlan.descriptors, hlookup]
    cases known.lookup name with
    | some set => rfl
    | none =>
      simp only [Option.map_none, T.build module name g]
      rfl

theorem emitCounter_progress (module label : String) (e : Entry) (p : Progress σ)
    (c : Schema.Counter × Descriptor) :
    Progress.emitCounter t module label e (T.progress p) (Prod.map id T.descriptor c) =
      T.progress (Progress.emitCounter s module label e p c) := by
  have hvalue : t.value (T.progress p).session e (Prod.map id T.descriptor c).1.id =
      ((s.value p.session e c.1.id).1, T.state (s.value p.session e c.1.id).2) := T.value _ _ _
  simp only [Progress.emitCounter, hvalue]
  generalize s.value p.session e c.1.id = a
  obtain ⟨answer, next⟩ := a
  cases answer with
  | ok raw =>
    dsimp only
    rw [progress, progress, ← T.emit_scrape]
    rfl
  | error cause => rfl

theorem emitCounters_progress (module label : String) (e : Entry) (cs : List Schema.Counter)
    (ds : List Descriptor) (p : Progress σ) :
    (cs.zip (ds.map T.descriptor)).foldl (Progress.emitCounter t module label e) (T.progress p) =
      T.progress ((cs.zip ds).foldl (Progress.emitCounter s module label e) p) := by
  rw [List.zip_map_right, List.foldl_map]
  exact List.foldl_hom T.progress fun p c => T.emitCounter_progress module label e p c

theorem emitEntry_progress (module label : String) (p : Progress σ) (e : Entry) :
    Progress.emitEntry t ns' module label (T.progress p) e =
      T.progress (Progress.emitEntry s ns module label p e) := by
  have hread : t.read (T.progress p).session e =
      ((s.read p.session e).1, (s.read p.session e).2.1, T.state (s.read p.session e).2.2) :=
    T.read _ _
  simp only [Progress.emitEntry, hread]
  generalize s.read p.session e = a
  obtain ⟨answer, e, next⟩ := a
  cases answer with
  | error cause => rfl
  | ok u =>
    have hdescriptors : (T.progress p).plan.descriptors ns' module e.name =
        ((p.plan.descriptors ns module e.name).1.rename T.descriptor,
          (p.plan.descriptors ns module e.name).2.rename T.descriptor) := T.descriptors_rename _ _ _
    dsimp only
    rw [hdescriptors]
    generalize p.plan.descriptors ns module e.name = d
    obtain ⟨set, plan⟩ := d
    have hcounters := T.emitCounters_progress module label e plan.group.counters set.counters
      { session := next, plan, scrape := p.scrape }
    dsimp only [progress, DescriptorSet.rename, GroupPlan.rename] at hcounters ⊢
    rw [hcounters, T.snapshotTime, T.emit_scrape]

theorem walk_progress (module : String) (left : Nat) (inst : UInt32) (found : Nat)
    (p : Progress σ) :
    Progress.walk t ns' module left inst found (T.progress p) =
      ((Progress.walk s ns module left inst found p).1,
        T.progress (Progress.walk s ns module left inst found p).2) := by
  induction left generalizing inst found p with
  | zero => rfl
  | succ left ih =>
    have hlookup : t.lookup (T.progress p).session module inst (T.progress p).plan.group.pattern =
        ((s.lookup p.session module inst p.plan.group.pattern).1,
          T.state (s.lookup p.session module inst p.plan.group.pattern).2) := T.lookup _ _ _ _
    simp only [Progress.walk, hlookup]
    generalize s.lookup p.session module inst p.plan.group.pattern = a
    obtain ⟨answer, next⟩ := a
    cases answer with
    | ok entries =>
      have hentries : entries.foldl (Progress.emitEntry t ns' module (toString inst.toNat))
          (T.progress { p with
            session := next
            scrape := p.scrape.note (.lookingUp module inst p.plan.group.id) }) = T.progress _ :=
        List.foldl_hom T.progress fun p e => T.emitEntry_progress module _ p e
      rw [← ih, ← hentries]
      rfl
    | error cause =>
      dsimp only
      by_cases hc : cause.isNotFound = true
      · rw [if_pos hc, if_pos hc]
        rfl
      · rw [if_neg hc, if_neg hc, ← ih]
        rfl

theorem collectNamed_progress (module : String) (p : Progress σ) :
    (T.progress p).collectNamed t ns' module = T.progress (p.collectNamed s ns module) := by
  rw [Progress.collectNamed, Progress.collectNamed, T.walk_progress]
  rfl

theorem emitStructured_scrape (module : String) (kind : StructuredKind) (set : DescriptorSet)
    (stats : StructuredStats) (g : Schema.Group) (x : Scrape) :
    Progress.emitStructured module kind (set.rename T.descriptor) stats g (T.scrape x) =
      T.scrape (Progress.emitStructured module kind set stats g x) := by
  have hfield (x : Scrape) (c : Schema.Counter × Descriptor) :
      Progress.emitField module kind stats (T.scrape x) (Prod.map id T.descriptor c) =
        T.scrape (Progress.emitField module kind stats x c) := by
    simp only [Progress.emitField, Prod.map_fst, Prod.map_snd, id_eq, T.emit_scrape]
    cases stats.get? c.1.id with
    | some raw => rfl
    | none => rfl
  have hfields : (g.counters.zip (set.counters.map T.descriptor)).foldl
      (Progress.emitField module kind stats) (T.scrape x) =
        T.scrape ((g.counters.zip set.counters).foldl (Progress.emitField module kind stats) x) := by
    rw [List.zip_map_right, List.foldl_map]
    exact List.foldl_hom T.scrape hfield
  rw [Progress.emitStructured, Progress.emitStructured, ← T.emit_scrape, ← hfields]
  rfl

theorem collectStructured_progress (module : String) (kind : StructuredKind) (set : DescriptorSet)
    (p : Progress σ) :
    (T.progress p).collectStructured t module kind (set.rename T.descriptor) =
      T.progress (p.collectStructured s module kind set) := by
  have hstructured : t.structured (T.progress p).session kind =
      ((s.structured p.session kind).1, T.state (s.structured p.session kind).2) :=
    T.structured _ _
  simp only [Progress.collectStructured, hstructured]
  generalize s.structured p.session kind = a
  obtain ⟨answer, next⟩ := a
  cases answer with
  | error cause => rfl
  | ok stats =>
    dsimp only [progress]
    rw [GroupPlan.rename, T.emitStructured_scrape]
    rfl

theorem collect_progress (module : String) (p : Progress σ) :
    (T.progress p).collect t ns' module = T.progress (p.collect s ns module) := by
  have hroute : (T.progress p).plan.route = p.plan.route.rename T.descriptor := rfl
  rw [Progress.collect, Progress.collect, hroute]
  cases p.plan.route with
  | structured kind set => exact T.collectStructured_progress module kind set p
  | literal set => exact T.collectNamed_progress module p
  | pattern known => exact T.collectNamed_progress module p

theorem collectGroups_rename (module : String) (plans : List GroupPlan) (session : σ)
    (x : Scrape) :
    let out := Collector.collectGroups s ns module plans session x
    Collector.collectGroups t ns' module (plans.map (.rename T.descriptor)) (T.state session)
        (T.scrape x) =
      (out.1.map (.rename T.descriptor), T.state out.2.1, T.scrape out.2.2) := by
  induction plans generalizing session x with
  | nil => rfl
  | cons plan plans ih =>
    have hfirst := T.collect_progress module { session, plan, scrape := x }
    rw [List.map_cons, Collector.collectGroups, Collector.collectGroups]
    dsimp only [progress] at hfirst ⊢
    rw [hfirst]
    dsimp only
    rw [ih]
    rfl

theorem collectModules_rename (modules : List ModulePlan) (session : σ) (x : Scrape) :
    let out := Collector.collectModules s ns modules session x
    Collector.collectModules t ns' (modules.map (.rename T.descriptor)) (T.state session)
        (T.scrape x) =
      (out.1.map (.rename T.descriptor), T.state out.2.1, T.scrape out.2.2) := by
  induction modules generalizing session x with
  | nil => rfl
  | cons m modules ih =>
    have hfirst := T.collectGroups_rename m.id m.groups session x
    rw [List.map_cons, Collector.collectModules, Collector.collectModules]
    dsimp only [ModulePlan.rename] at hfirst ⊢
    rw [hfirst]
    dsimp only
    rw [ih]
    rfl

def renamed (s : Session σ) {f : Descriptor → Descriptor} (build : Renames ns ns' f)
    (sink : Array Sample) : Translation s s ns ns' where
  state st := st
  descriptor := f
  before := sink
  lookup _ _ _ _ := rfl
  read _ _ := rfl
  value _ _ _ := rfl
  structured _ _ := rfl
  snapshotTime _ _ := rfl
  build := build

end Translation

namespace Collector

variable (c : Collector) (src : Source ω σ) (source : ω) (sink : Array Sample)

theorem collect_rename {ns' : String} {f : Descriptor → Descriptor} (build : Renames c.ns ns' f) :
    let out := c.scrape src source
    collect ⟨ns', c.modules.map (.rename f)⟩ src source sink =
      ⟨out.result.map (.rename sink f), ⟨ns', out.collector.modules.map (.rename f)⟩,
        out.source⟩ := by
  rw [scrape, collect, collect]
  rcases src.acquire source with ⟨answer, opened⟩
  cases answer with
  | error cause => rfl
  | ok session =>
    have hmodules := (Translation.renamed src.toSession build sink).collectModules_rename
      c.modules session {}
    have hempty : ({ sink } : Scrape) = Scrape.rename sink f {} := by
      simp [Scrape.rename]
    dsimp only [Translation.renamed, Translation.scrape] at hmodules ⊢
    rw [hempty, hmodules]
    rfl

end Collector

end KernelStats
