import KernelStats.Schema.Basic

/-!
# Descriptors

The identity of a series of samples: the name of the metric, its help text and the name of the one label
that its samples carry. A name is made of a namespace, the address of the group and the counter, joined by
underscores. `DescriptorSet.build` makes the descriptors of a group under one concrete name.
-/

namespace KernelStats

def joinParts (parts : List String) : String :=
  "_".intercalate (parts.filter fun p => !p.isEmpty)

def underscored (s : String) : String := s.map fun c => if c = '-' then '_' else c

def metricName (ns subsystem name : String) : String := joinParts [ns, subsystem, name]

structure Descriptor where
  name : String
  help : String
  label : String
deriving DecidableEq

namespace Descriptor

def subsystem (module group : String) : String :=
  "kstat_" ++ underscored module ++ "_" ++ underscored group

@[simp] theorem subsystem_ne_empty (module group : String) : subsystem module group ≠ "" := by
  simp [subsystem]

def statName (id suffix : String) : String := underscored id ++ "_" ++ suffix

@[simp] theorem statName_ne_empty (id suffix : String) : statName id suffix ≠ "" := by
  simp [statName]

/-- The last part of the name of the time of the snapshot. It holds no underscore, so that no counter's
name is the same. -/
def snaptimeName : String := "snaptime"

def snaptimeLabel : String := "inst"

def forCounter (ns module group : String) (c : Schema.Counter) (label : String) : Descriptor where
  name := metricName ns (subsystem module group) (statName c.id c.suffix)
  help := c.help
  label := label

def forSnaptime (ns module group : String) : Descriptor where
  name := metricName ns (subsystem module group) snaptimeName
  help := Schema.address module group snaptimeName
  label := snaptimeLabel

end Descriptor

structure DescriptorSet where
  counters : List Descriptor
  snaptime : Descriptor
deriving DecidableEq

namespace DescriptorSet

def build (ns module name : String) (g : Schema.Group) : DescriptorSet where
  counters := g.counters.map fun c => .forCounter ns module name c g.label
  snaptime := .forSnaptime ns module name

end DescriptorSet

end KernelStats
