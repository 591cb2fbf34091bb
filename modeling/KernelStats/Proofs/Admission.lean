import KernelStats.Schema.Basic

/-!
# Admission of outlines

An outline is checked part by part, in the order of the document: a module before its groups, a group
before its counters. It becomes a schema if all of its parts are admissible. Otherwise the first part
that is not tells why it is refused.
-/

namespace KernelStats

namespace Number

theorem isFinite_of_isZero {x : Float} (h : isZero x = true) : isFinite x = true := by
  rw [isZero] at h
  rw [isFinite]
  cases hx : Reading.ofFloat x with
  | nan => simp [hx] at h
  | infinite negative => simp [hx] at h
  | finite negative significand shift => rfl

theorem isFinite_one : isFinite 1.0 = true := by decide +kernel

end Number

def HasInk (s : String) : Prop := ∃ c ∈ s.toList, isBlank c = false

theorem isBlankText_eq_false_iff {s : String} : isBlankText s = false ↔ HasInk s := by
  simp [isBlankText, HasInk]

theorem hasInk_iff {s : String} : HasInk s ↔ ¬ isBlankText s = true := by
  rw [← isBlankText_eq_false_iff, Bool.not_eq_true]

theorem not_hasInk_iff {s : String} : ¬ HasInk s ↔ isBlankText s = true := by
  rw [hasInk_iff, Classical.not_not]

namespace Schema

inductive Part where
  | module (o : ModuleOutline)
  | group (module : String) (o : GroupOutline)
  | counter (module group : String) (o : CounterOutline)

def GroupOutline.parts (module : String) (o : GroupOutline) : List Part :=
  .group module o :: o.counters.map (.counter module o.id)

def ModuleOutline.parts (o : ModuleOutline) : List Part :=
  .module o :: o.groups.flatMap (GroupOutline.parts o.id)

def Outline.parts (o : Outline) : List Part := o.modules.flatMap ModuleOutline.parts

namespace Part

def Admissible : Part → Prop
  | .module o => HasInk o.id
  | .group _ o => HasInk o.id ∧ ∃ p, GroupPattern.ofText? o.id = some p
  | .counter _ _ o => HasInk o.id ∧ ∀ x, o.scale = some x → Number.isFinite x = true

/-- The error with which a part is refused, and its message. A blank id comes before everything else
that is wrong with a part. -/
inductive Refused : Part → LoadError → String → Prop
  | blankModule {o : ModuleOutline} (h : ¬ HasInk o.id) :
    Refused (.module o) (.invalid .blankModule) "invalid kstat schema: module with empty id"
  | blankGroup {module : String} {o : GroupOutline} (h : ¬ HasInk o.id) :
    Refused (.group module o) (.invalid (.blankGroup module))
      ("invalid kstat schema: " ++ ("group with empty id in module " ++ module))
  | pattern {module : String} {o : GroupOutline} (h : HasInk o.id)
      (hp : GroupPattern.ofText? o.id = none) :
    Refused (.group module o) (.pattern module o.id)
      ("invalid group pattern " ++ module ++ "::" ++ o.id ++ ": ")
  | blankCounter {module group : String} {o : CounterOutline} (h : ¬ HasInk o.id) :
    Refused (.counter module group o) (.invalid (.blankCounter module group))
      ("invalid kstat schema: " ++ ("counter with empty id in " ++ module ++ "::" ++ group))
  | scale {module group : String} {o : CounterOutline} {x : Float} (h : HasInk o.id)
      (hx : o.scale = some x) (hf : Number.isFinite x = false) :
    Refused (.counter module group o) (.invalid (.scale module group o.id))
      ("invalid kstat schema: " ++
        ("non-finite scale_factor for " ++ (module ++ "::" ++ group ++ ":" ++ o.id)))

variable {p : Part} {e e' : LoadError} {message message' : String}

theorem Refused.not_admissible (h : p.Refused e message) : ¬ p.Admissible := by
  cases h with
  | blankModule h => exact h
  | blankGroup h => exact fun hp => h hp.1
  | pattern h hp =>
    rintro ⟨-, q, hq⟩
    rw [hp] at hq
    nomatch hq
  | blankCounter h => exact fun hp => h hp.1
  | scale h hx hf =>
    intro hp
    rw [hp.2 _ hx] at hf
    nomatch hf

theorem Refused.unique (h : p.Refused e message) (h' : p.Refused e' message') : e = e' := by
  cases h with
  | blankModule h => cases h'; rfl
  | blankGroup h =>
    cases h' with
    | blankGroup => rfl
    | pattern h' => exact absurd h' h
  | pattern h hp =>
    cases h' with
    | blankGroup h' => exact absurd h h'
    | pattern => rfl
  | blankCounter h =>
    cases h' with
    | blankCounter => rfl
    | scale h' => exact absurd h' h
  | scale h hx hf =>
    cases h' with
    | blankCounter h' => exact absurd h h'
    | scale => rfl

theorem Refused.message?_eq (h : p.Refused e message) : e.message? = some message := by
  cases h <;> rfl

end Part

def FirstRefused (parts : List Part) (e : LoadError) : Prop :=
  ∃ before p after message, parts = before ++ p :: after ∧ (∀ q ∈ before, q.Admissible) ∧
    p.Refused e message

theorem not_firstRefused_nil (e : LoadError) : ¬ FirstRefused [] e := by
  rintro ⟨before, p, after, message, hparts, -⟩
  exact List.append_ne_nil_of_right_ne_nil before (List.cons_ne_nil p after) hparts.symm

theorem firstRefused_cons {p : Part} {parts : List Part} {e : LoadError} :
    FirstRefused (p :: parts) e ↔
      (∃ message, p.Refused e message) ∨ p.Admissible ∧ FirstRefused parts e := by
  constructor
  · rintro ⟨before, q, after, message, hparts, hbefore, hq⟩
    cases before with
    | nil =>
      cases hparts
      exact .inl ⟨message, hq⟩
    | cons r before =>
      cases hparts
      obtain ⟨hp, hbefore⟩ := List.forall_mem_cons.mp hbefore
      exact .inr ⟨hp, before, q, after, message, rfl, hbefore, hq⟩
  · rintro (⟨message, hp⟩ | ⟨hp, before, q, after, message, rfl, hbefore, hq⟩)
    · exact ⟨[], p, parts, message, rfl, List.forall_mem_nil _, hp⟩
    · exact ⟨p :: before, q, after, message, rfl, List.forall_mem_cons.mpr ⟨hp, hbefore⟩, hq⟩

theorem firstRefused_append {parts parts' : List Part} {e : LoadError} :
    FirstRefused (parts ++ parts') e ↔
      FirstRefused parts e ∨ (∀ p ∈ parts, p.Admissible) ∧ FirstRefused parts' e := by
  induction parts with
  | nil => simp [not_firstRefused_nil]
  | cons p parts ih =>
    rw [List.cons_append, firstRefused_cons, ih, firstRefused_cons, List.forall_mem_cons,
      and_or_left, or_assoc, and_assoc]

structure Settled (r : Except LoadError α) (parts : List Part) : Prop where
  ok : (∃ a, r = .ok a) ↔ ∀ p ∈ parts, p.Admissible
  error : ∀ e, r = .error e ↔ FirstRefused parts e

namespace Settled

variable {r : Except LoadError α} {p : Part} {parts parts' : List Part} {e : LoadError}

theorem nil (a : α) : Settled (.ok a : Except LoadError α) [] where
  ok := ⟨fun _ => List.forall_mem_nil _, fun _ => ⟨a, rfl⟩⟩
  error e := ⟨nofun, fun h => absurd h (not_firstRefused_nil e)⟩

theorem refused {message : String} (h : p.Refused e message) (parts : List Part) :
    Settled (.error e : Except LoadError α) (p :: parts) where
  ok := ⟨nofun, fun hall => absurd (hall p List.mem_cons_self) h.not_admissible⟩
  error e' := by
    rw [firstRefused_cons]
    constructor
    · intro he
      cases he
      exact .inl ⟨message, h⟩
    · rintro (⟨message', h'⟩ | ⟨hp, -⟩)
      · rw [h.unique h']
      · exact absurd hp h.not_admissible

theorem behind (hp : p.Admissible) (h : Settled r parts) : Settled r (p :: parts) where
  ok := by
    rw [h.ok, List.forall_mem_cons, and_iff_right hp]
  error e := by
    have hnot : ¬ ∃ message, p.Refused e message := fun ⟨_, hr⟩ => hr.not_admissible hp
    rw [h.error, firstRefused_cons, or_iff_right hnot, and_iff_right hp]

theorem bind (h : Settled r parts) {f : α → Except LoadError β}
    (hf : ∀ a, Settled (f a) parts') : Settled (r >>= f) (parts ++ parts') := by
  cases r with
  | ok a =>
    -- the first checks have all passed, so that the later ones settle the result
    have hall : ∀ p ∈ parts, p.Admissible := h.ok.mp ⟨a, rfl⟩
    have hnot : ∀ e, ¬ FirstRefused parts e := fun e he => nomatch (h.error e).mpr he
    refine ⟨?_, fun e => ?_⟩
    · rw [List.forall_mem_append, and_iff_right hall]
      exact (hf a).ok
    · rw [firstRefused_append, or_iff_right (hnot e), and_iff_right hall]
      exact (hf a).error e
  | error e =>
    -- the later checks are not reached
    have hnot : ¬ ∀ p ∈ parts, p.Admissible := fun hall => nomatch h.ok.mpr hall
    refine ⟨?_, fun e' => ?_⟩
    · rw [List.forall_mem_append]
      exact ⟨nofun, fun hall => absurd hall.1 hnot⟩
    · rw [firstRefused_append, or_iff_left fun hboth => hnot hboth.1, ← h.error]
      constructor
      · intro h
        cases h
        rfl
      · intro h
        cases h
        rfl

theorem map (h : Settled r parts) (g : α → β) : Settled (r >>= fun a => pure (g a)) parts := by
  have hmap := h.bind fun a => Settled.nil (g a)
  rwa [List.append_nil] at hmap

theorem mapM {f : γ → Except LoadError α} {partsOf : γ → List Part}
    (h : ∀ x, Settled (f x) (partsOf x)) (xs : List γ) :
    Settled (xs.mapM f) (xs.flatMap partsOf) := by
  induction xs with
  | nil => exact nil []
  | cons x xs ih =>
    rw [List.mapM_cons, List.flatMap_cons]
    exact (h x).bind fun y => ih.map (y :: ·)

end Settled

theorem isFinite_scaleOr {scale : Option Float} :
    Number.isFinite (scaleOr scale) = true ↔ ∀ x, scale = some x → Number.isFinite x = true := by
  cases scale with
  | none => exact iff_of_true Number.isFinite_one nofun
  | some x =>
    rw [scaleOr]
    by_cases hx : Number.isZero x = true
    · rw [if_pos hx]
      refine iff_of_true Number.isFinite_one ?_
      intro y hy
      exact Option.some.inj hy ▸ Number.isFinite_of_isZero hx
    · rw [if_neg hx]
      exact ⟨fun h y hy => Option.some.inj hy ▸ h, fun h => h x rfl⟩

theorem settled_counter (module group : String) (o : CounterOutline) :
    Settled (Counter.ofOutline module group o) [.counter module group o] := by
  rw [Counter.ofOutline]
  by_cases hid : HasInk o.id
  · rw [isBlankText_eq_false_iff.mpr hid, if_neg Bool.false_ne_true]
    by_cases hscale : Number.isFinite (scaleOr o.scale) = true
    · rw [if_pos hscale]
      exact .behind ⟨hid, isFinite_scaleOr.mp hscale⟩ (.nil _)
    · -- the default is finite, so that a scale which is not has been given
      rw [if_neg hscale]
      rw [isFinite_scaleOr, Classical.not_forall] at hscale
      obtain ⟨x, hx⟩ := hscale
      obtain ⟨hx, hf⟩ := Classical.not_imp.mp hx
      exact .refused (.scale hid hx (Bool.eq_false_iff.mpr hf)) []
  · rw [if_pos (not_hasInk_iff.mp hid)]
    exact .refused (.blankCounter hid) []

theorem settled_group (module : String) (o : GroupOutline) :
    Settled (Group.ofOutline module o) (o.parts module) := by
  rw [Group.ofOutline, GroupOutline.parts]
  by_cases hid : HasInk o.id
  · rw [isBlankText_eq_false_iff.mpr hid, if_neg Bool.false_ne_true]
    cases hp : GroupPattern.ofText? o.id with
    | none => exact .refused (.pattern hid hp) _
    | some pattern =>
      rw [List.map_eq_flatMap]
      exact .behind ⟨hid, pattern, hp⟩
        ((Settled.mapM (settled_counter module o.id) o.counters).map _)
  · rw [if_pos (not_hasInk_iff.mp hid)]
    exact .refused (.blankGroup hid) _

theorem settled_module (o : ModuleOutline) : Settled (Module.ofOutline o) o.parts := by
  rw [Module.ofOutline, ModuleOutline.parts]
  by_cases hid : HasInk o.id
  · rw [isBlankText_eq_false_iff.mpr hid, if_neg Bool.false_ne_true]
    exact .behind hid ((Settled.mapM (settled_group o.id) o.groups).map _)
  · rw [if_pos (not_hasInk_iff.mp hid)]
    exact .refused (.blankModule hid) _

theorem settled_schema (o : Outline) : Settled (ofOutline o) o.parts :=
  (Settled.mapM settled_module o.modules).map _

theorem ofText_of_error {text : String} {fault : ReadingError}
    (h : Outline.ofText text = .error fault) : ofText text = .error (.parse fault) := by
  unfold ofText
  rw [h]

theorem ofText_of_ok {text : String} {o : Outline} (h : Outline.ofText text = .ok o) :
    ofText text = ofOutline o := by
  unfold ofText
  rw [h]

/-- A document of the right shape becomes a schema exactly if all of its parts are admissible, and
otherwise the first part that is not, in the order of the document, tells why. A document of another
shape is refused for that, whatever else is wrong with it. -/
theorem ofText_admits (text : String) :
    match Outline.ofText text with
    | .error fault => ofText text = .error (.parse fault)
    | .ok o =>
      ((∃ s, ofText text = .ok s) ↔ ∀ p ∈ o.parts, p.Admissible) ∧
        ∀ e, ofText text = .error e ↔
          ∃ before p after message, o.parts = before ++ p :: after ∧
            (∀ q ∈ before, q.Admissible) ∧ p.Refused e message ∧ e.message? = some message := by
  cases ho : Outline.ofText text with
  | error fault => exact ofText_of_error ho
  | ok o =>
    have hsettled := settled_schema o
    rw [ofText_of_ok ho]
    refine ⟨hsettled.ok, fun e => (hsettled.error e).trans ?_⟩
    constructor
    · rintro ⟨before, p, after, message, hparts, hbefore, hp⟩
      exact ⟨before, p, after, message, hparts, hbefore, hp, hp.message?_eq⟩
    · rintro ⟨before, p, after, message, hparts, hbefore, hp, -⟩
      exact ⟨before, p, after, message, hparts, hbefore, hp⟩

example :
    ofText "kstat_modules:\n- id: unix\n  kstat_names:\n  - id: (\n    kstat_stats:\n    - id: ''\n- id: ''\n" =
      .error (.pattern "unix" "(") := rfl

end Schema

end KernelStats
