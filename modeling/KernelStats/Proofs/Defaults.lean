import KernelStats.Proofs.Admission
import KernelStats.Proofs.Anchoring
import KernelStats.Proofs.Traversal

/-!
# Defaults of a schema

A schema has what its outline has, in the same order. Where the outline leaves something open, or gives
a value that counts as absent, the schema has a default, which itself does not count as absent. So a
schema that is written down with everything that it holds is read as the same schema.
-/

namespace KernelStats

/-- The value that is given is kept if it does not count as absent. Otherwise it is the default, which
does not count as absent either. -/
structure Stands (absent : α → Prop) (default : α) (given : Option α) (a : α) : Prop where
  kept : ∀ x, given = some x → ¬ absent x → a = x
  otherwise : (∀ x, given = some x → absent x) → a = default
  present : ¬ absent a

namespace Stands

variable {absent : α → Prop} {default a b : α} {given : Option α}

theorem of_default (h : ¬ absent default) (hg : ∀ x, given = some x → absent x) :
    Stands absent default given default where
  kept x hx hn := absurd (hg x hx) hn
  otherwise _ := rfl
  present := h

theorem of_given (h : ¬ absent a) : Stands absent default (some a) a where
  kept _ hx _ := Option.some.inj hx
  otherwise hall := absurd (hall a rfl) h
  present := h

theorem unique (ha : Stands absent default given a) (hb : Stands absent default given b) :
    a = b := by
  by_cases hall : ∀ x, given = some x → absent x
  · rw [ha.otherwise hall, hb.otherwise hall]
  · obtain ⟨x, hx⟩ := Classical.not_forall.mp hall
    obtain ⟨hx, hn⟩ := Classical.not_imp.mp hx
    rw [ha.kept x hx hn, hb.kept x hx hn]

end Stands

theorem GroupPattern.ofText?_source (p : GroupPattern) : ofText? p.source = some p := by
  obtain ⟨source, expr, reads⟩ := p
  rw [ofText?]
  split
  · next expr' reads' =>
    cases Option.some.inj (reads.symm.trans reads')
    rfl
  · next hnone =>
    cases reads.symm.trans hnone

namespace Schema

theorem stands_nonEmptyOr {default : String} (h : default ≠ "") (given : Option String) :
    Stands (· = "") default given (nonEmptyOr default given) := by
  cases given with
  | none => exact .of_default h nofun
  | some s =>
    rw [nonEmptyOr]
    by_cases hs : s = ""
    · rw [if_pos (String.isEmpty_iff.mpr hs)]
      exact .of_default h fun x hx => Option.some.inj hx ▸ hs
    · rw [if_neg fun he => hs (String.isEmpty_iff.mp he)]
      exact .of_given hs

theorem stands_scaleOr (given : Option Float) :
    Stands (Number.isZero · = true) 1.0 given (scaleOr given) := by
  have hone : ¬ Number.isZero 1.0 = true := by decide +kernel
  cases given with
  | none => exact .of_default hone nofun
  | some x =>
    rw [scaleOr]
    by_cases hx : Number.isZero x = true
    · rw [if_pos hx]
      exact .of_default hone fun y hy => Option.some.inj hy ▸ hx
    · rw [if_neg hx]
      exact .of_given hx

structure Counter.Mirrors (module group : String) (o : CounterOutline) (c : Counter) : Prop where
  ink : HasInk o.id
  id : c.id = o.id
  help : Stands (· = "") (module ++ "::" ++ group ++ ":" ++ o.id) o.help c.help
  suffix : Stands (· = "") "total" o.suffix c.suffix
  scale : Stands (Number.isZero · = true) 1.0 o.scale c.scale
  finite : Number.isFinite c.scale = true

structure Group.Mirrors (module : String) (o : GroupOutline) (g : Group) : Prop where
  ink : HasInk o.id
  id : g.id = o.id
  label : Stands (· = "") "instance" o.label g.label
  counters : List.Forall₂ (Counter.Mirrors module o.id) o.counters g.counters

structure Module.Mirrors (o : ModuleOutline) (m : Module) : Prop where
  ink : HasInk o.id
  id : m.id = o.id
  groups : List.Forall₂ (Group.Mirrors o.id) o.groups m.groups

def Mirrors (o : Outline) (s : Schema) : Prop := List.Forall₂ Module.Mirrors o.modules s.modules

theorem address_ne_empty (module group id : String) :
    module ++ "::" ++ group ++ ":" ++ id ≠ "" := by
  intro h
  have hlength := congrArg String.length h
  simp [String.length_append] at hlength

theorem Counter.ofOutline_eq_ok_iff {module group : String} {o : CounterOutline} {c : Counter} :
    Counter.ofOutline module group o = .ok c ↔ c.Mirrors module group o := by
  have hhelp := stands_nonEmptyOr (address_ne_empty module group o.id) o.help
  have hsuffix := stands_nonEmptyOr (by decide : "total" ≠ "") o.suffix
  have hscale := stands_scaleOr o.scale
  rw [Counter.ofOutline, ite_error_eq_ok_iff, ite_ok_else_error_iff, ← hasInk_iff]
  constructor
  · rintro ⟨hink, hfinite, hc⟩
    cases hc
    exact ⟨hink, rfl, hhelp, hsuffix, hscale, hfinite⟩
  · obtain ⟨id, help, suffix, scale⟩ := c
    rintro ⟨hink, hid, hh, hs, hx, hfinite⟩
    cases hid
    cases hhelp.unique hh
    cases hsuffix.unique hs
    cases hscale.unique hx
    exact ⟨hink, hfinite, rfl⟩

theorem Group.ofOutline_eq_ok_iff {module : String} {o : GroupOutline} {g : Group} :
    Group.ofOutline module o = .ok g ↔ g.Mirrors module o := by
  have hlabel := stands_nonEmptyOr (by decide : "instance" ≠ "") o.label
  have hcounters : ∀ counters, o.counters.mapM (Counter.ofOutline module o.id) = .ok counters ↔
      List.Forall₂ (Counter.Mirrors module o.id) o.counters counters :=
    fun _ => mapM_eq_ok_iff fun _ _ => Counter.ofOutline_eq_ok_iff
  rw [Group.ofOutline, ite_error_eq_ok_iff, ← hasInk_iff]
  constructor
  · rintro ⟨hink, h⟩
    cases hp : GroupPattern.ofText? o.id with
    | none =>
      rw [hp] at h
      cases h
    | some pattern =>
      rw [hp] at h
      obtain ⟨counters, hc, rfl⟩ := bind_pure_eq_ok_iff.mp h
      exact ⟨hink, GroupPattern.source_of_ofText? hp, hlabel, (hcounters _).mp hc⟩
  · obtain ⟨pattern, label, counters⟩ := g
    rintro ⟨hink, hid, hl, hc⟩
    have hp : GroupPattern.ofText? o.id = some pattern := hid ▸ pattern.ofText?_source
    cases hlabel.unique hl
    rw [hp]
    exact ⟨hink, bind_pure_eq_ok_iff.mpr ⟨counters, (hcounters _).mpr hc, rfl⟩⟩

theorem Module.ofOutline_eq_ok_iff {o : ModuleOutline} {m : Module} :
    Module.ofOutline o = .ok m ↔ m.Mirrors o := by
  have hgroups : ∀ groups, o.groups.mapM (Group.ofOutline o.id) = .ok groups ↔
      List.Forall₂ (Group.Mirrors o.id) o.groups groups :=
    fun _ => mapM_eq_ok_iff fun _ _ => Group.ofOutline_eq_ok_iff
  rw [Module.ofOutline, ite_error_eq_ok_iff, ← hasInk_iff]
  constructor
  · rintro ⟨hink, h⟩
    obtain ⟨groups, hg, rfl⟩ := bind_pure_eq_ok_iff.mp h
    exact ⟨hink, rfl, (hgroups _).mp hg⟩
  · obtain ⟨id, groups⟩ := m
    rintro ⟨hink, hid, hg⟩
    cases hid
    exact ⟨hink, bind_pure_eq_ok_iff.mpr ⟨groups, (hgroups _).mpr hg, rfl⟩⟩

theorem ofOutline_eq_ok_iff {o : Outline} {s : Schema} : ofOutline o = .ok s ↔ s.Mirrors o := by
  have hmodules : ∀ modules, o.modules.mapM Module.ofOutline = .ok modules ↔
      List.Forall₂ Module.Mirrors o.modules modules :=
    fun _ => mapM_eq_ok_iff fun _ _ => Module.ofOutline_eq_ok_iff
  rw [ofOutline, bind_pure_eq_ok_iff, Mirrors]
  constructor
  · rintro ⟨modules, hm, rfl⟩
    exact (hmodules modules).mp hm
  · intro h
    exact ⟨s.modules, (hmodules s.modules).mpr h, rfl⟩

def Counter.outline (c : Counter) : CounterOutline :=
  { id := c.id, help := some c.help, suffix := some c.suffix, scale := some c.scale }

def Group.outline (g : Group) : GroupOutline :=
  { id := g.id, label := some g.label, counters := g.counters.map Counter.outline }

def Module.outline (m : Module) : ModuleOutline :=
  { id := m.id, groups := m.groups.map Group.outline }

def outline (s : Schema) : Outline := { modules := s.modules.map Module.outline }

theorem Counter.Mirrors.outline {module group : String} {o : CounterOutline} {c : Counter}
    (h : c.Mirrors module group o) : c.Mirrors module group c.outline where
  ink := (congrArg HasInk h.id).mpr h.ink
  id := rfl
  help := .of_given h.help.present
  suffix := .of_given h.suffix.present
  scale := .of_given h.scale.present
  finite := h.finite

theorem Group.Mirrors.outline {module : String} {o : GroupOutline} {g : Group}
    (h : g.Mirrors module o) : g.Mirrors module g.outline where
  ink := (congrArg HasInk h.id).mpr h.ink
  id := rfl
  label := .of_given h.label.present
  counters := by
    have hcounters := h.counters
    rw [← h.id] at hcounters
    exact forall₂_map_self hcounters fun _ _ => Counter.Mirrors.outline

theorem Module.Mirrors.outline {o : ModuleOutline} {m : Module} (h : m.Mirrors o) :
    m.Mirrors m.outline where
  ink := (congrArg HasInk h.id).mpr h.ink
  id := rfl
  groups := by
    have hgroups := h.groups
    rw [← h.id] at hgroups
    exact forall₂_map_self hgroups fun _ _ => Group.Mirrors.outline

theorem Mirrors.outline {o : Outline} {s : Schema} (h : s.Mirrors o) : s.Mirrors s.outline :=
  forall₂_map_self h fun _ _ => Module.Mirrors.outline

/-- A schema has what its outline has, in the same order, with defaults for what counts as absent.
Written down with everything that it holds it is read as itself. -/
theorem ofOutline_settles {o : Outline} {s : Schema} (h : ofOutline o = .ok s) :
    s.Mirrors o ∧ ofOutline s.outline = .ok s := by
  have hmirrors := ofOutline_eq_ok_iff.mp h
  exact ⟨hmirrors, ofOutline_eq_ok_iff.mpr hmirrors.outline⟩

def sparse : Outline where
  modules := [{
    id := "unix"
    groups := [{
      id := "system_misc"
      label := some ""
      counters := [{ id := "nproc" },
        { id := "lbolt", help := some "Ticks.", suffix := some "", scale := some (-0.0) }] }] }]

theorem ofOutline_settles_sparse :
    ∃ s, ofOutline sparse = .ok s ∧ (s.Mirrors sparse ∧ ofOutline s.outline = .ok s) ∧
      s.modules.flatMap (·.groups.map fun g => (g.label, g.counters)) =
        [("instance", [⟨"nproc", "unix::system_misc:nproc", "total", 1.0⟩,
          ⟨"lbolt", "Ticks.", "total", 1.0⟩])] := by
  obtain ⟨s, hs⟩ : ∃ s, ofOutline sparse = .ok s := ⟨_, rfl⟩
  refine ⟨s, hs, ofOutline_settles hs, ?_⟩
  cases hs
  rfl

end Schema

end KernelStats
