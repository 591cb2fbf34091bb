import Mathlib.Data.List.Basic
import KernelStats.Proofs.SoundPlan

/-!
# Plans that are shared

The plans of a collector change only when descriptors are asked for, and one question is answered at a
time. Scrapes that run one after the other or side by side put their questions in some order, and
whatever the order is, the plans stay sound.
-/

namespace KernelStats

namespace GroupPlan

theorem Sound.keep {p : GroupPlan} {ns module : String} (h : p.Sound ns module) (name : String) :
    (p.descriptors ns module name).2.Sound ns module := by
  obtain ⟨g, route⟩ := p
  cases route with
  | structured kind set => exact h
  | literal set => exact h
  | pattern known =>
    have hs := h
    obtain ⟨hr, hl, hknown⟩ := hs
    simp only [GroupPlan.descriptors]
    cases known.lookup name with
    | some set => exact h
    | none =>
      refine ⟨hr, hl, ?_⟩
      simpa using hknown

theorem Sound.exists_build {p : GroupPlan} {ns module : String} (h : p.Sound ns module)
    (name : String) :
    ∃ shown, (p.descriptors ns module name).1 = .build ns module shown p.group := by
  obtain ⟨g, route⟩ := p
  cases route with
  | structured kind set => exact ⟨kind.name, h.2⟩
  | literal set =>
    obtain ⟨-, id, -, hset⟩ := h
    exact ⟨id, hset⟩
  | pattern known =>
    obtain ⟨-, -, hknown⟩ := h
    refine ⟨name, ?_⟩
    simp only [GroupPlan.descriptors]
    cases hlookup : known.lookup name with
    | some set => exact hknown _ (mem_of_lookup hlookup)
    | none => rfl

end GroupPlan

structure Place where
  module : Nat
  group : Nat

namespace Collector

def planAt? (c : Collector) (q : Place) : Option (String × GroupPlan) := do
  let m ← c.modules[q.module]?
  let p ← m.groups[q.group]?
  return (m.id, p)

def setPlan (c : Collector) (q : Place) (p : GroupPlan) : Collector :=
  { c with
    modules := c.modules.modify q.module fun m => { m with groups := m.groups.set q.group p } }

def request (c : Collector) (q : Place) (name : String) : Option (DescriptorSet × Collector) :=
  (c.planAt? q).map fun (module, p) =>
    let (set, p) := p.descriptors c.ns module name
    (set, c.setPlan q p)

/-- What a collector of a schema can have become: any number of questions have been answered. -/
inductive Reached (schema : Schema) (ns : String) : Collector → Prop
  | new : Reached schema ns (.ofSchema schema ns)
  | request {c : Collector} {q : Place} {name : String} {set : DescriptorSet} {c' : Collector}
    (h : Reached schema ns c) (hr : c.request q name = some (set, c')) : Reached schema ns c'

end Collector

structure Surroundings where
  ns : String
  modulesBefore : List ModulePlan
  module : String
  before : List GroupPlan
  after : List GroupPlan
  modulesAfter : List ModulePlan

namespace Surroundings

def place (k : Surroundings) : Place := ⟨k.modulesBefore.length, k.before.length⟩

def fill (k : Surroundings) (p : GroupPlan) : Collector where
  ns := k.ns
  modules := k.modulesBefore ++ ⟨k.module, k.before ++ p :: k.after⟩ :: k.modulesAfter

theorem planAt?_fill (k : Surroundings) (p : GroupPlan) :
    (k.fill p).planAt? k.place = some (k.module, p) := by
  simp [Collector.planAt?, fill, place]

theorem setPlan_fill (k : Surroundings) (p p' : GroupPlan) :
    (k.fill p).setPlan k.place p' = k.fill p' := by
  have hmodify (f : ModulePlan → ModulePlan) (ms : List ModulePlan) (m : ModulePlan) :
      (ms ++ m :: k.modulesAfter).modify ms.length f = ms ++ f m :: k.modulesAfter := by
    induction ms with
    | nil => rfl
    | cons m' ms ih => exact congrArg (m' :: ·) ih
  simp [Collector.setPlan, fill, place, hmodify]

theorem request_fill (k : Surroundings) (p : GroupPlan) (name : String) :
    (k.fill p).request k.place name =
      some ((p.descriptors k.ns k.module name).1, k.fill (p.descriptors k.ns k.module name).2) := by
  rw [Collector.request, planAt?_fill, Option.map_some]
  dsimp only
  rw [setPlan_fill]
  rfl

theorem schema_fill {k : Surroundings} {p p' : GroupPlan} (h : p'.group = p.group) :
    (k.fill p').schema = (k.fill p).schema := by
  simp [Collector.schema, fill, ModulePlan.module, h]

theorem sound_fill {k : Surroundings} {p : GroupPlan} :
    (k.fill p).Sound ↔
      (∀ m ∈ k.modulesBefore, m.Sound k.ns) ∧ (∀ p ∈ k.before, p.Sound k.ns k.module) ∧
        p.Sound k.ns k.module ∧ (∀ p ∈ k.after, p.Sound k.ns k.module) ∧
        ∀ m ∈ k.modulesAfter, m.Sound k.ns := by
  simp [Collector.Sound, fill, ModulePlan.Sound, or_imp, forall_and, and_assoc]

theorem exists_fill {c : Collector} {q : Place} {module : String} {p : GroupPlan}
    (h : c.planAt? q = some (module, p)) :
    ∃ k : Surroundings, k.place = q ∧ k.module = module ∧ k.fill p = c := by
  have hsplit {α : Type} {l : List α} {i : Nat} {x : α} (hx : l[i]? = some x) :
      (l.take i).length = i ∧ l.take i ++ x :: l.drop (i + 1) = l := by
    obtain ⟨hi, rfl⟩ := List.getElem?_eq_some_iff.mp hx
    exact ⟨List.length_take_of_le (Nat.le_of_lt hi), by rw [List.getElem_cons_drop, List.take_append_drop]⟩
  simp only [Collector.planAt?, Option.bind_eq_bind, Option.bind_eq_some_iff] at h
  obtain ⟨m, hm, p', hp, heq⟩ := h
  obtain ⟨rfl, rfl⟩ := Prod.mk.inj (Option.some.inj heq)
  obtain ⟨hmodule, hmodules⟩ := hsplit hm
  obtain ⟨hgroup, hgroups⟩ := hsplit hp
  refine ⟨⟨c.ns, c.modules.take q.module, m.id, m.groups.take q.group, m.groups.drop (q.group + 1),
    c.modules.drop (q.module + 1)⟩, ?_, rfl, ?_⟩
  · rw [place, hmodule, hgroup]
  · rw [fill]
    dsimp only
    rw [hgroups, hmodules]

end Surroundings

namespace Collector

theorem exists_of_request {c c' : Collector} {q : Place} {name : String} {set : DescriptorSet}
    (h : c.request q name = some (set, c')) :
    ∃ (k : Surroundings) (p : GroupPlan), k.place = q ∧ k.fill p = c ∧
      (p.descriptors k.ns k.module name).1 = set ∧
        k.fill (p.descriptors k.ns k.module name).2 = c' := by
  obtain ⟨⟨module, p⟩, hp, -⟩ := Option.map_eq_some_iff.mp h
  obtain ⟨k, rfl, rfl, rfl⟩ := Surroundings.exists_fill hp
  rw [k.request_fill] at h
  obtain ⟨hset, hfill⟩ := Prod.mk.inj (Option.some.inj h)
  exact ⟨k, p, rfl, rfl, hset, hfill⟩

theorem Sound.request {c c' : Collector} {q : Place} {name : String} {set : DescriptorSet}
    (h : c.Sound) (hr : c.request q name = some (set, c')) : c'.Sound := by
  obtain ⟨k, p, rfl, rfl, rfl, rfl⟩ := exists_of_request hr
  obtain ⟨hbefore, hgroups, hp, hrest⟩ := Surroundings.sound_fill.mp h
  exact Surroundings.sound_fill.mpr ⟨hbefore, hgroups, hp.keep name, hrest⟩

theorem same_of_request {c c' : Collector} {q : Place} {name : String} {set : DescriptorSet}
    (hr : c.request q name = some (set, c')) : c'.ns = c.ns ∧ c'.schema = c.schema := by
  obtain ⟨k, p, rfl, rfl, rfl, rfl⟩ := exists_of_request hr
  exact ⟨rfl, Surroundings.schema_fill (p.group_descriptors k.ns k.module name)⟩

theorem Reached.sound {schema : Schema} {ns : String} {c : Collector} (h : Reached schema ns c) :
    c.Sound ∧ c.ns = ns ∧ c.schema = schema := by
  induction h with
  | new => exact ⟨sound_ofSchema schema ns, rfl, schema_ofSchema schema ns⟩
  | request _ hr ih =>
    obtain ⟨hsound, hns, hschema⟩ := ih
    obtain ⟨hns', hschema'⟩ := same_of_request hr
    exact ⟨hsound.request hr, hns'.trans hns, hschema'.trans hschema⟩

end Collector

/-- The answer to a question about a name of the group at a place: the descriptors that are built for
that very name. Groups that are records are not asked about. -/
def Schema.Answers (schema : Schema) (ns : String) (q : Place) (name : String)
    (set : DescriptorSet) : Prop :=
  ∃ m g, schema.modules[q.module]? = some m ∧ m.groups[q.group]? = some g ∧
    StructuredKind.route? m.id g.pattern = none ∧ g.pattern.isMatch name = true ∧
      set = .build ns m.id name g

theorem Collector.Reached.exists_request {schema : Schema} {ns : String} {c : Collector}
    (h : Reached schema ns c) {q : Place} {name : String} {set : DescriptorSet}
    (hq : schema.Answers ns q name set) : ∃ c', c.request q name = some (set, c') := by
  obtain ⟨hsound, rfl, rfl⟩ := h.sound
  obtain ⟨m, g, hm, hg, hr, hmatch, rfl⟩ := hq
  have hplan : ∃ p, c.planAt? q = some (m.id, p) ∧ p.group = g ∧ p.Sound c.ns m.id := by
    obtain ⟨plan, hplan, rfl⟩ := Option.map_eq_some_iff.mp (List.getElem?_map.symm.trans hm)
    obtain ⟨p, hp, rfl⟩ := Option.map_eq_some_iff.mp (List.getElem?_map.symm.trans hg)
    refine ⟨p, ?_, rfl, hsound plan (List.mem_of_getElem? hplan) p (List.mem_of_getElem? hp)⟩
    simp [planAt?, hplan, hp, ModulePlan.module]
  obtain ⟨p, hp, rfl, hpsound⟩ := hplan
  obtain ⟨hset, -⟩ := hpsound.descriptors hr hmatch
  rw [Collector.request, hp, Option.map_some, ← hset]
  exact ⟨_, rfl⟩

end KernelStats
