import KernelStats.Collect.Collector
import KernelStats.Proofs.LiteralPattern

/-!
# Plans that know what they would build

Whatever a plan keeps from earlier scrapes, each descriptor set that it gives out for a name is the
one that would be built for that name. A set of a group with one name is built for the id, and no
other name is ever asked for. The property holds of new plans and is kept by every question.
-/

namespace KernelStats

theorem mem_of_lookup {l : List (String × α)} {key : String} {v : α} (h : l.lookup key = some v) :
    (key, v) ∈ l := by
  obtain ⟨before, after, rfl, -⟩ := List.lookup_eq_some_iff.mp h
  simp

namespace GroupPlan

/-- The descriptors that a plan keeps are those that it would build. -/
def Sound (p : GroupPlan) (ns module : String) : Prop :=
  match p.route with
  | .structured kind set =>
    StructuredKind.route? module p.group.pattern = some kind ∧
      set = .build ns module kind.name p.group
  | .literal set =>
    StructuredKind.route? module p.group.pattern = none ∧
      ∃ id, p.group.pattern.literal? = some id ∧ set = .build ns module id p.group
  | .pattern known =>
    StructuredKind.route? module p.group.pattern = none ∧ p.group.pattern.literal? = none ∧
      ∀ entry ∈ known, entry.2 = .build ns module entry.1 p.group

theorem sound_ofGroup (ns module : String) (g : Schema.Group) :
    (ofGroup ns module g).Sound ns module := by
  cases hr : StructuredKind.route? module g.pattern with
  | some kind => simp [Sound, ofGroup, hr]
  | none =>
    cases hl : g.pattern.literal? with
    | some id => simp [Sound, ofGroup, hr, hl]
    | none => simp [Sound, ofGroup, hr, hl]

@[simp] theorem group_descriptors (p : GroupPlan) (ns module name : String) :
    (p.descriptors ns module name).2.group = p.group := by
  obtain ⟨g, route⟩ := p
  cases route with
  | literal set => rfl
  | structured kind set => rfl
  | pattern known =>
    simp only [GroupPlan.descriptors]
    cases known.lookup name with
    | some set => rfl
    | none => rfl

theorem Sound.descriptors {p : GroupPlan} {ns module name : String} (h : p.Sound ns module)
    (hr : StructuredKind.route? module p.group.pattern = none)
    (hm : p.group.pattern.isMatch name = true) :
    (p.descriptors ns module name).1 = .build ns module name p.group ∧
      (p.descriptors ns module name).2.Sound ns module := by
  obtain ⟨g, route⟩ := p
  cases route with
  | structured kind set =>
    have hs : StructuredKind.route? module g.pattern = some kind := h.1
    rw [hr] at hs
    nomatch hs
  | literal set =>
    have hs := h
    obtain ⟨-, id, hid, hset⟩ := hs
    have hname := (GroupPattern.isMatch_eq_true_iff_of_literal hid name).mp hm
    subst hname
    exact ⟨hset, h⟩
  | pattern known =>
    have hs := h
    obtain ⟨-, hl, hknown⟩ := hs
    cases hlookup : known.lookup name with
    | some set =>
      have hd : GroupPlan.descriptors ⟨g, .pattern known⟩ ns module name =
          (set, ⟨g, .pattern known⟩) := by
        simp only [GroupPlan.descriptors, hlookup]
      rw [hd]
      exact ⟨hknown _ (mem_of_lookup hlookup), h⟩
    | none =>
      have hd : GroupPlan.descriptors ⟨g, .pattern known⟩ ns module name =
          (.build ns module name g, ⟨g, .pattern ((name, .build ns module name g) :: known)⟩) := by
        simp only [GroupPlan.descriptors, hlookup]
      rw [hd]
      refine ⟨rfl, hr, hl, ?_⟩
      simpa using hknown

end GroupPlan

namespace ModulePlan

def module (m : ModulePlan) : Schema.Module := { id := m.id, groups := m.groups.map (·.group) }

def Sound (m : ModulePlan) (ns : String) : Prop := ∀ p ∈ m.groups, p.Sound ns m.id

theorem sound_ofModule (ns : String) (m : Schema.Module) : (ofModule ns m).Sound ns := by
  intro p hp
  obtain ⟨g, -, rfl⟩ := List.mem_map.mp hp
  exact GroupPlan.sound_ofGroup ns m.id g

theorem module_ofModule (ns : String) (m : Schema.Module) : (ofModule ns m).module = m := by
  have h : (fun p : GroupPlan => p.group) ∘ GroupPlan.ofGroup ns m.id = fun g => g := rfl
  simp [ModulePlan.module, ofModule, h]

end ModulePlan

namespace Collector

def schema (c : Collector) : Schema := { modules := c.modules.map (·.module) }

def Sound (c : Collector) : Prop := ∀ m ∈ c.modules, m.Sound c.ns

theorem sound_ofSchema (schema : Schema) (ns : String) : (ofSchema schema ns).Sound := by
  intro m hm
  obtain ⟨m, -, rfl⟩ := List.mem_map.mp hm
  exact ModulePlan.sound_ofModule ns m

theorem schema_ofSchema (schema : Schema) (ns : String) : (ofSchema schema ns).schema = schema := by
  have h : (fun m : ModulePlan => m.module) ∘ ModulePlan.ofModule ns = fun m => m :=
    funext (ModulePlan.module_ofModule ns)
  simp [Collector.schema, ofSchema, h]

end Collector

end KernelStats
