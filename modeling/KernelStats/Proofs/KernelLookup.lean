import KernelStats.Proofs.Interchange

/-!
# Lookups of the kernel

An id is looked up by the kernel's own search, which goes by bytes, and a pattern by a scan of the
chain, which goes by texts. Where keys are distinct both find what fits, whatever the session has read
so far. The kernel's search is relied on at instances that are not negative: a negative number may
stand for any instance, and no lookup asks for one.
-/

namespace KernelStats.Kernel

structure Search where
  module : List UInt8
  inst : Int32
  name : List UInt8

namespace Live

def fitting (s : Live) (module : String) (inst : UInt32) (group : GroupPattern) :
    List (Link × Nat) :=
  s.chain.zipIdx.filter fun x =>
    nameText x.1.kstat.module = module ∧ x.1.kstat.inst.toInt = inst.toNat ∧
      group.isMatch (nameText x.1.kstat.name)

/-- The kernel's search finds the first statistic with these bytes, if the instance is not negative.
What it does with a negative one is left open. -/
def IsSearch (s : Live) (search : Search → Option Nat) : Prop :=
  ∀ q, 0 ≤ q.inst.toInt →
    search q = s.chain.findIdx? (·.kstat.hasBytes q.module q.inst.toInt q.name)

def firstMatch (s : Live) (q : Search) : Option Nat :=
  s.chain.findIdx? fun l =>
    nameBytes l.kstat.module = q.module ∧ (q.inst = -1 ∨ l.kstat.inst = q.inst) ∧
      nameBytes l.kstat.name = q.name

theorem isSearch_firstMatch (s : Live) : s.IsSearch s.firstMatch := by
  intro q hq
  have hinst : q.inst ≠ -1 := by
    intro h
    rw [h] at hq
    exact absurd hq (by decide)
  refine congrArg (s.chain.findIdx? ·) (funext fun l => ?_)
  simp [Kstat.hasBytes, hinst, Int32.toInt_inj]

section Via

variable {m : Type → Type} [Monad m] (search : Search → m (Option Nat))

def exactVia (module : String) (inst : Int32) (name : String) : m (List Nat) :=
  match nameOf? module, nameOf? name with
  | some module, some name => do return (← search ⟨module, inst, name⟩).toList
  | _, _ => return []

def placesVia (s : Live) (module : String) (inst : Int32) (group : GroupPattern) : m (List Nat) :=
  match group.literal? with
  | some name => exactVia search module inst name
  | none =>
    return (s.chain.zipIdx.filter fun (l, _) => l.kstat.belongs module inst.toInt group).map (·.2)

/-- The lookup of a session, its searches by bytes being put to `search`. -/
def lookupVia (s : Live) (module : String) (inst : UInt32) (group : GroupPattern) :
    m (Except SourceError (List Entry) × Live) := do
  if maxInstance < inst.toNat then return (.error (.notFound module inst group.source), s)
  match ← placesVia search s module (.ofNat inst.toNat) group with
  | [] => return (.error (.notFound module inst group.source), s)
  | places =>
    return (.ok (places.zipIdx.map fun (place, i) => s.entry module inst place (s.handles.size + i)),
      { s with handles := s.handles ++ places })

end Via

def recorded (search : Search → Option Nat) (q : Search) : StateM (List Search) (Option Nat) := do
  modify (· ++ [q])
  return search q

variable {s : Live} {search : Search → Option Nat}

theorem toInt_ofNat_instance {inst : UInt32} (h : inst.toNat ≤ maxInstance) :
    (Int32.ofNat inst.toNat).toInt = inst.toNat :=
  Int32.toInt_ofNat_of_lt (by rw [maxInstance] at h; omega)

theorem exactVia_recorded (hs : s.IsSearch search) (module : String) {inst : UInt32}
    (hi : inst.toNat ≤ maxInstance) (name : String) (asked : List Search) :
    ∃ new, (exactVia (recorded search) module (.ofNat inst.toNat) name).run asked =
        ((s.findExact? module inst.toNat name).toList, asked ++ new) ∧
      ∀ q ∈ new, 0 ≤ q.inst.toInt := by
  have hinst := toInt_ofNat_instance hi
  rw [exactVia, findExact?]
  cases nameOf? module with
  | none => exact ⟨[], by rw [List.append_nil]; rfl, by simp⟩
  | some moduleBytes =>
    cases nameOf? name with
    | none => exact ⟨[], by rw [List.append_nil]; rfl, by simp⟩
    | some nameBytes =>
      have hnat : 0 ≤ (Int32.ofNat inst.toNat).toInt := by omega
      have hfound := hs ⟨moduleBytes, .ofNat inst.toNat, nameBytes⟩ hnat
      rw [hinst] at hfound
      refine ⟨[⟨moduleBytes, .ofNat inst.toNat, nameBytes⟩], ?_, by simpa using hnat⟩
      simp only [Option.bind_eq_bind, Option.bind_some, ← hfound]
      rfl

theorem placesVia_recorded (hs : s.IsSearch search) (module : String) {inst : UInt32}
    (hi : inst.toNat ≤ maxInstance) (group : GroupPattern) :
    ∃ new, (placesVia (recorded search) s module (.ofNat inst.toNat) group).run [] =
        (s.findAll module inst.toNat group, new) ∧
      ∀ q ∈ new, 0 ≤ q.inst.toInt := by
  rw [placesVia, findAll]
  cases group.literal? with
  | some name => exact exactVia_recorded hs module hi name []
  | none =>
    rw [toInt_ofNat_instance hi]
    exact ⟨[], rfl, by simp⟩

theorem lookupVia_recorded (hs : s.IsSearch search) (module : String) (inst : UInt32)
    (group : GroupPattern) :
    let asked := (lookupVia (recorded search) s module inst group).run []
    asked.1 = s.lookup module inst group ∧ (∀ q ∈ asked.2, 0 ≤ q.inst.toInt) ∧
      (maxInstance < inst.toNat → asked.2 = []) := by
  rw [lookupVia, lookup]
  by_cases hi : maxInstance < inst.toNat
  · rw [if_pos hi, if_pos hi, StateT.run_pure]
    exact ⟨rfl, List.forall_mem_nil _, fun _ => rfl⟩
  · obtain ⟨new, hrun, hnew⟩ := placesVia_recorded hs module (Nat.not_lt.mp hi) group
    rw [if_neg hi, if_neg hi, StateT.run_bind, hrun]
    refine ⟨?_, ?_, fun h => absurd h hi⟩
    · cases s.findAll module inst.toNat group <;> rfl
    · cases s.findAll module inst.toNat group <;> exact hnew

theorem fitting_eq_filter_belongs (s : Live) (module : String) (inst : UInt32)
    (group : GroupPattern) :
    s.fitting module inst group =
      s.chain.zipIdx.filter fun x => x.1.kstat.belongs module inst.toNat group := by
  refine List.filter_congr fun x _ => ?_
  rw [Bool.eq_iff_iff, Kstat.belongs_iff, decide_eq_true_eq]
  exact and_left_comm

theorem findAll_eq_fitting (h : Keyed (s.chain.map (·.kstat))) (module : String) (inst : UInt32)
    (group : GroupPattern) :
    s.findAll module inst.toNat group = (s.fitting module inst group).map (·.2) := by
  have hover : s.Over (s.chain.map (·.kstat)) := rfl
  rw [hover.findAll, h.found_eq, List.zipIdx_map, List.filter_map, List.map_map,
    fitting_eq_filter_belongs]
  rfl

theorem fitting_eq_nil {module : String} {inst : UInt32} (hi : maxInstance < inst.toNat)
    (group : GroupPattern) : s.fitting module inst group = [] := by
  rw [fitting, List.filter_eq_nil_iff]
  rintro ⟨l, place⟩ - hl
  have hinst : l.kstat.inst.toInt = inst.toNat := (of_decide_eq_true hl).2.1
  have hlt := l.kstat.inst.toInt_lt
  rw [maxInstance] at hi
  omega

theorem entry_of_mem_fitting {module : String} {inst : UInt32} {group : GroupPattern}
    {x : Link × Nat} (hx : x ∈ s.fitting module inst group) (slot : Nat) :
    s.entry module inst x.2 slot =
      { module, inst, name := nameText x.1.kstat.name, snaptime := x.1.snaptime, slot } := by
  have hplace := List.mem_zipIdx_iff_getElem?.mp (List.mem_of_mem_filter hx)
  rw [entry, hplace]
  rfl

def entriesOf (s : Live) (module : String) (inst : UInt32) (found : List (Link × Nat)) :
    List Entry :=
  found.zipIdx.map fun ((l, _), i) =>
    { module, inst, name := nameText l.kstat.name, snaptime := l.snaptime
      slot := s.handles.size + i }

theorem lookup_eq_fitting (h : Keyed (s.chain.map (·.kstat))) (module : String) (inst : UInt32)
    (group : GroupPattern) :
    s.lookup module inst group =
      match s.fitting module inst group with
      | [] => (.error (.notFound module inst group.source), s)
      | found =>
        (.ok (s.entriesOf module inst found), { s with handles := s.handles ++ found.map (·.2) }) := by
  have hentries : ∀ found ⊆ s.fitting module inst group,
      ((found.map (·.2)).zipIdx.map fun (place, i) => s.entry module inst place (s.handles.size + i)) =
        s.entriesOf module inst found := by
    intro found hfound
    rw [List.zipIdx_map, List.map_map, entriesOf]
    refine List.map_congr_left fun x hx => ?_
    exact entry_of_mem_fitting (hfound (List.fst_mem_of_mem_zipIdx hx)) _
  rw [lookup]
  by_cases hi : maxInstance < inst.toNat
  · rw [if_pos hi, fitting_eq_nil hi]
  · rw [if_neg hi, findAll_eq_fitting h]
    have hfound := hentries _ (List.Subset.refl _)
    cases hf : s.fitting module inst group with
    | nil => rfl
    | cons x found =>
      rw [hf] at hfound
      exact congrArg (fun es => (Except.ok es, _)) hfound

theorem lookup_eq_notFound_iff (h : Keyed (s.chain.map (·.kstat))) (module : String)
    (inst : UInt32) (group : GroupPattern) :
    ((s.lookup module inst group).1 = .error (.notFound module inst group.source) ↔
        s.fitting module inst group = []) ∧
      (s.lookup module inst group).1 ≠ .ok [] := by
  rw [lookup_eq_fitting h]
  cases s.fitting module inst group with
  | nil => simp
  | cons x found => simp [entriesOf]

/-- A lookup answers with what fits, in the order of the chain, and with an error if nothing does,
whatever the session has read and found before. The search by bytes, which an id is looked up with,
finds what a scan of the chain finds, and it is never asked for a negative instance. -/
theorem lookup_finds_fitting (h : Keyed (s.chain.map (·.kstat))) (hs : s.IsSearch search)
    (module : String) (inst : UInt32) (group : GroupPattern) :
    let fits := s.fitting module inst group
    let asked := (lookupVia (recorded search) s module inst group).run []
    s.lookup module inst group =
        (match fits with
        | [] => (.error (.notFound module inst group.source), s)
        | found =>
          (.ok (s.entriesOf module inst found),
            { s with handles := s.handles ++ found.map (·.2) })) ∧
      ((s.lookup module inst group).1 = .error (.notFound module inst group.source) ↔ fits = []) ∧
      (s.lookup module inst group).1 ≠ .ok [] ∧
      (∀ id, group.literal? = some id →
        (s.findExact? module inst.toNat id).toList = fits.map (·.2)) ∧
      asked.1 = s.lookup module inst group ∧
      (∀ q ∈ asked.2, 0 ≤ q.inst.toInt) ∧
      (maxInstance < inst.toNat → fits = [] ∧ asked.2 = []) := by
  intro fits asked
  obtain ⟨hmissing, hsome⟩ := lookup_eq_notFound_iff h module inst group
  obtain ⟨hanswer, hasked, hnone⟩ := lookupVia_recorded hs module inst group
  refine ⟨lookup_eq_fitting h module inst group, hmissing, hsome, ?_, hanswer, hasked, ?_⟩
  · intro id hid
    rw [← findAll_eq_fitting h, findAll, hid]
  · intro hi
    exact ⟨fitting_eq_nil hi group, hnone hi⟩

end Live

theorem lookup_finds_fitting_brief :
    let s : Live := { chain := brief.chain.map .ofKstat }
    let sys := (GroupPattern.ofText? "sys").get (by rfl)
    let zones := (GroupPattern.ofText? "zone_misc_.*").get (by rfl)
    Keyed (s.chain.map (·.kstat)) ∧ s.IsSearch s.firstMatch ∧
      (s.lookup "cpu" 0xFFFFFFFF sys).1 = .error (.notFound "cpu" 0xFFFFFFFF "sys") ∧
      ((Live.lookupVia (Live.recorded s.firstMatch) s "cpu" 0xFFFFFFFF sys).run []).2 = [] ∧
      (s.lookup "cpu" 0 sys).1 = .ok [⟨"cpu", 0, "sys", 1, 0⟩] ∧
      (s.lookup "zones" 0 zones).1 =
        .ok [⟨"zones", 0, "zone_misc_a", 1, 0⟩, ⟨"zones", 0, "zone_misc_b", 1, 1⟩] := by
  intro s sys zones
  have hkeyed : Keyed (s.chain.map (·.kstat)) := by
    rw [Live.over_ofKstat brief.chain]
    exact regular_brief.keyed
  have hsearch := s.isSearch_firstMatch
  have hfound := fun inst group => Live.lookup_finds_fitting hkeyed hsearch "cpu" inst group
  have hzones := Live.lookup_finds_fitting hkeyed hsearch "zones" 0 zones
  obtain ⟨hnone, hasked⟩ := (hfound 0xFFFFFFFF sys).2.2.2.2.2.2 (by decide)
  refine ⟨hkeyed, hsearch, (hfound 0xFFFFFFFF sys).2.1.mpr hnone, hasked, ?_, ?_⟩
  · rw [(hfound 0 sys).1]
    decide +kernel
  · rw [hzones.1]
    decide +kernel

end KernelStats.Kernel
