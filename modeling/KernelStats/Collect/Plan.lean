import KernelStats.Metric.Descriptor
import KernelStats.Source.Structured

/-!
# Plans

A plan says how each group of a schema is read and under which descriptors its samples go out. The
descriptors of a group with one name are built with the plan. Those of a pattern are built for each name
when it is first seen, and are kept.
-/

namespace KernelStats

inductive Route where
  | literal (set : DescriptorSet)
  | pattern (known : List (String × DescriptorSet))
  | structured (kind : StructuredKind) (set : DescriptorSet)

structure GroupPlan where
  group : Schema.Group
  route : Route

structure ModulePlan where
  id : String
  groups : List GroupPlan

namespace GroupPlan

def ofGroup (ns module : String) (group : Schema.Group) : GroupPlan where
  group := group
  route :=
    match StructuredKind.route? module group.pattern with
    | some kind => .structured kind (.build ns module kind.name group)
    | none =>
      match group.pattern.literal? with
      | some name => .literal (.build ns module name group)
      | none => .pattern []

def descriptors (p : GroupPlan) (ns module name : String) : DescriptorSet × GroupPlan :=
  match p.route with
  | .literal set | .structured _ set => (set, p)
  | .pattern known =>
    match known.lookup name with
    | some set => (set, p)
    | none =>
      let set := DescriptorSet.build ns module name p.group
      (set, { p with route := .pattern ((name, set) :: known) })

end GroupPlan

def ModulePlan.ofModule (ns : String) (m : Schema.Module) : ModulePlan where
  id := m.id
  groups := m.groups.map (.ofGroup ns m.id)

end KernelStats
