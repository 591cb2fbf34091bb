import Mathlib.Data.List.Forall2
import KernelStats.Proofs.DistinctSeries

/-!
# Names that collide

The names in one set of descriptors have a common stem, which is made of the namespace, the module and
the name of the group. What follows the stem is a counter's own, and it decides which names are equal.
The hyphens of an id are written as underscores there, so that a counter can be taken for another one.
None is taken for the time of the snapshot, as what follows the stem of that name holds no underscore.
-/

namespace KernelStats

/-- The same text, place by place, if a hyphen and an underscore are not told apart. -/
def Respelled (s t : String) : Prop :=
  List.Forall₂ (fun c d => c = d ∨ c ∈ ['-', '_'] ∧ d ∈ ['-', '_']) s.toList t.toList

instance (s t : String) : Decidable (Respelled s t) :=
  inferInstanceAs (Decidable (List.Forall₂ _ _ _))

theorem underscored_eq_iff {s t : String} : underscored s = underscored t ↔ Respelled s t := by
  have hchar (c d : Char) :
      ((if c = '-' then '_' else c) = if d = '-' then '_' else d) ↔
        c = d ∨ c ∈ ['-', '_'] ∧ d ∈ ['-', '_'] := by
    grind
  rw [← String.toList_inj, underscored, underscored, String.toList_map, String.toList_map,
    ← List.forall₂_eq_eq_eq, List.forall₂_map_left_iff, List.forall₂_map_right_iff, Respelled]
  simp only [hchar]

namespace Descriptor

def stem (ns module group : String) : String :=
  (if ns = "" then "" else ns ++ "_") ++ (subsystem module group ++ "_")

theorem metricName_eq_stem (ns module group : String) {last : String} (h : last ≠ "") :
    metricName ns (subsystem module group) last = stem ns module group ++ last := by
  by_cases hns : ns = ""
  · simp [metricName, joinParts, stem, hns, h]
  · simp [metricName, joinParts, stem, hns, h, String.append_assoc]

theorem stem_eq_iff {ns module a b : String} :
    stem ns module a = stem ns module b ↔ Respelled a b := by
  rw [stem, stem, String.append_right_inj, String.append_left_inj, subsystem, subsystem,
    String.append_right_inj, underscored_eq_iff]

theorem statName_ne_snaptimeName (id suffix : String) : statName id suffix ≠ snaptimeName := by
  have hstat : '_' ∈ (statName id suffix).toList := by simp [statName]
  have htime : '_' ∉ snaptimeName.toList := by decide
  intro h
  rw [h] at hstat
  exact htime hstat

theorem name_forCounter (ns module group : String) (c : Schema.Counter) (label : String) :
    (forCounter ns module group c label).name = stem ns module group ++ statName c.id c.suffix :=
  metricName_eq_stem ns module group (statName_ne_empty c.id c.suffix)

theorem name_forSnaptime (ns module group : String) :
    (forSnaptime ns module group).name = stem ns module group ++ snaptimeName :=
  metricName_eq_stem ns module group (by decide)

structure Describes (d : Descriptor) (stem label : String) (c : Schema.Counter) : Prop where
  name : d.name = stem ++ (underscored c.id ++ "_" ++ c.suffix)
  help : d.help = c.help
  label : d.label = label

theorem forCounter_describes (ns module group : String) (c : Schema.Counter) (label : String) :
    (forCounter ns module group c label).Describes (stem ns module group) label c :=
  ⟨name_forCounter ns module group c label, rfl, rfl⟩

theorem Describes.name_eq_iff {d d' : Descriptor} {stem label : String} {c c' : Schema.Counter}
    (h : d.Describes stem label c) (h' : d'.Describes stem label c') :
    d.name = d'.name ↔
      underscored c.id ++ "_" ++ c.suffix = underscored c'.id ++ "_" ++ c'.suffix := by
  rw [h.name, h'.name, String.append_right_inj]

theorem Describes.name_ne_snaptime {d : Descriptor} {ns module group label : String}
    {c : Schema.Counter} (h : d.Describes (stem ns module group) label c) :
    d.name ≠ (forSnaptime ns module group).name := by
  rw [h.name, name_forSnaptime, ne_eq, String.append_right_inj]
  exact statName_ne_snaptimeName c.id c.suffix

end Descriptor

def Schema.Group.lastParts (g : Schema.Group) : List String :=
  (g.counters.map fun c => Descriptor.statName c.id c.suffix) ++ [Descriptor.snaptimeName]

theorem Schema.Group.nodup_lastParts {g : Group} :
    g.lastParts.Nodup ↔ (g.counters.map fun c => Descriptor.statName c.id c.suffix).Nodup := by
  have htime : Descriptor.snaptimeName ∉
      g.counters.map fun c => Descriptor.statName c.id c.suffix := by
    intro h
    obtain ⟨c, -, hc⟩ := List.mem_map.mp h
    exact Descriptor.statName_ne_snaptimeName c.id c.suffix hc
  rw [lastParts, ← List.concat_eq_append, List.nodup_concat]
  exact and_iff_right htime

namespace DescriptorSet

theorem build_describes (ns module name : String) (g : Schema.Group) :
    List.Forall₂ (fun c d => d.Describes (Descriptor.stem ns module name) g.label c) g.counters
      (build ns module name g).counters := by
  rw [build, List.forall₂_map_right_iff, List.forall₂_same]
  intro c _
  exact Descriptor.forCounter_describes ns module name c g.label

theorem names_build (ns module name : String) (g : Schema.Group) :
    (build ns module name g).names = g.lastParts.map (Descriptor.stem ns module name ++ ·) := by
  simp [names, build, Schema.Group.lastParts, Descriptor.name_forCounter,
    Descriptor.name_forSnaptime]

theorem nodup_names_build {ns module name : String} {g : Schema.Group} :
    (build ns module name g).names.Nodup ↔
      (g.counters.map fun c => Descriptor.statName c.id c.suffix).Nodup := by
  rw [names_build, List.nodup_map_iff, Schema.Group.nodup_lastParts]
  intro a b h
  exact (String.append_right_inj _).mp h

theorem names_build_eq_iff {ns module a b : String} {g : Schema.Group} :
    (build ns module a g).names = (build ns module b g).names ↔ Respelled a b := by
  rw [names_build, names_build, List.map_inj_left, ← Descriptor.stem_eq_iff]
  constructor
  · -- the time of the snapshot is there even if no counter is
    intro h
    have htime := h Descriptor.snaptimeName (by simp [Schema.Group.lastParts])
    exact (String.append_left_inj _).mp htime
  · intro h last _
    rw [h]

/-- A set describes each counter once and in its place. No counter has the name of the time, two have the
same name exactly if their ids, with underscores for hyphens, and their suffixes join to the same text,
and another name of the group gives the same names exactly if it is spelled alike. -/
theorem build_tells_apart (ns module name : String) (g : Schema.Group) :
    let set := build ns module name g
    List.Forall₂ (fun c d => d.Describes (Descriptor.stem ns module name) g.label c)
        g.counters set.counters ∧
      (∀ d ∈ set.counters, d.name ≠ set.snaptime.name) ∧
      (∀ c d c' d', (c, d) ∈ g.counters.zip set.counters →
        (c', d') ∈ g.counters.zip set.counters →
        (d.name = d'.name ↔
          underscored c.id ++ "_" ++ c.suffix = underscored c'.id ++ "_" ++ c'.suffix)) ∧
      ∀ other, (build ns module other g).names = set.names ↔ Respelled other name := by
  intro set
  have hdescribes := build_describes ns module name g
  obtain ⟨-, hzip⟩ := List.forall₂_iff_zip.mp hdescribes
  refine ⟨hdescribes, ?_, ?_, fun other => names_build_eq_iff⟩
  · intro d hd
    obtain ⟨c, -, rfl⟩ := List.mem_map.mp hd
    exact (Descriptor.forCounter_describes ns module name c g.label).name_ne_snaptime
  · intro c d c' d' hd hd'
    exact (hzip hd).name_eq_iff (hzip hd')

theorem build_tells_apart_hyphens :
    let a : Schema.Counter := ⟨"rx-bytes", "Bytes received.", "", 1.0⟩
    let b : Schema.Counter := ⟨"rx", "Bytes received.", "bytes_", 1.0⟩
    let time : Schema.Counter := ⟨"snaptime", "No time.", "", 1.0⟩
    let g : Schema.Group := {
      pattern := (GroupPattern.ofText? "net-0").get (by rfl)
      label := "link"
      counters := [a, b, time] }
    let described c := Descriptor.forCounter "node" "link-aggr" "net-0" c "link"
    let set := build "node" "link-aggr" "net-0" g
    ((a, described a) ∈ g.counters.zip set.counters ∧
        (b, described b) ∈ g.counters.zip set.counters ∧ described time ∈ set.counters) ∧
      (described a).name = (described b).name ∧
      (described time).name ≠ set.snaptime.name ∧
      (build "node" "link-aggr" "net_0" g).names = set.names := by
  intro a b time g described set
  obtain ⟨-, htime, hcounters, hnames⟩ := build_tells_apart "node" "link-aggr" "net-0" g
  have ha : (a, described a) ∈ g.counters.zip set.counters := .head _
  have hb : (b, described b) ∈ g.counters.zip set.counters := .tail _ (.head _)
  have ht : described time ∈ set.counters := .tail _ (.tail _ (.head _))
  refine ⟨⟨ha, hb, ht⟩, ?_, htime _ ht, ?_⟩
  · exact (hcounters a _ b _ ha hb).mpr (by decide +kernel)
  · exact (hnames "net_0").mpr (by decide)

end DescriptorSet

end KernelStats
