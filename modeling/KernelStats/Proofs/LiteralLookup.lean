import KernelStats.Proofs.Anchoring
import KernelStats.Proofs.KernelLookup

/-!
# Literal ids in lookups

The pattern of an id without signs of the pattern language matches the id alone, whatever else is
written in it. So it is all one whether a source searches for such an id directly, as the kernel does,
or tries its pattern on the name of each statistic, as memory does.
-/

namespace KernelStats

variable {group : GroupPattern} {id : String}

theorem Memory.Data.found_eq_filter_isAt (hl : group.literal? = some id) (d : Data)
    (module : String) (inst : UInt32) :
    d.found module inst group = d.chain.zipIdx.filter fun x => x.1.isAt module inst id := by
  refine List.filter_congr fun x _ => ?_
  rw [Kstat.isAt, Bool.eq_iff_iff, decide_eq_true_eq, decide_eq_true_eq,
    GroupPattern.isMatch_eq_true_iff_of_literal hl]

namespace Kernel.Live

variable {s : Live}

theorem findExact?_eq_find?_chain (module : String) (inst : Nat) (name : String) :
    s.findExact? module inst name =
      (s.chain.zipIdx.find? fun x => x.1.kstat.isNamed module inst name).map (·.2) := by
  have hs : s.Over (s.chain.map (·.kstat)) := rfl
  rw [hs.findExact?, locate?, List.zipIdx_map, List.find?_map, Option.map_map]
  rfl

theorem findExact?_eq_find?_fitting (hl : group.literal? = some id) (module : String)
    (inst : UInt32) :
    s.findExact? module inst.toNat id =
      ((s.fitting module inst group).find? fun x =>
        IsText x.1.kstat.module ∧ IsText x.1.kstat.name).map (·.2) := by
  have hnamed : (fun x : Link × Nat => x.1.kstat.isNamed module inst.toNat id) = fun x =>
      decide (x.1.kstat.belongs module inst.toNat group = true ∧
        decide (IsText x.1.kstat.module ∧ IsText x.1.kstat.name) = true) := by
    funext x
    rw [Bool.eq_iff_iff, Kstat.isNamed_iff_belongs hl, decide_eq_true_eq, decide_eq_true_eq]
  rw [findExact?_eq_find?_chain, hnamed, fitting_eq_filter_belongs, List.find?_filter]

theorem findExact?_eq_head?_fitting (hl : group.literal? = some id)
    (htext : ∀ l ∈ s.chain, IsText l.kstat.module ∧ IsText l.kstat.name) (module : String)
    (inst : UInt32) :
    s.findExact? module inst.toNat id = (s.fitting module inst group).head?.map (·.2) := by
  rw [findExact?_eq_find?_fitting hl]
  cases hf : s.fitting module inst group with
  | nil => rfl
  | cons x found =>
    have hx : x ∈ s.fitting module inst group := hf ▸ List.mem_cons_self
    have hx := htext x.1 (List.fst_mem_of_mem_zipIdx (List.mem_of_mem_filter hx))
    simp [hx]

end Kernel.Live

namespace GroupPattern

/-- A literal id matches itself alone. In memory its pattern finds the statistics of that very name.
In the kernel the search by bytes stops at the first statistic a scan finds whose module and name are
texts, and where keys are distinct no other one fits. -/
theorem literal_stands_for_itself {p : GroupPattern} (hp : ofText? id = some p) {literal : String}
    (hl : p.literal? = some literal) :
    literal = id ∧ (∀ name, p.isMatch name = true ↔ name = id) ∧
      (∀ (d : Memory.Data) (module : String) (inst : UInt32), d.found module inst p =
        d.chain.zipIdx.filter fun x => x.1.isAt module inst literal) ∧
      ∀ (s : Kernel.Live) (module : String) (inst : UInt32),
        let direct := s.findExact? module inst.toNat literal
        let scanned := s.fitting module inst p
        s.findAll module inst.toNat p = direct.toList ∧
        direct = (scanned.find? fun x =>
          Kernel.IsText x.1.kstat.module ∧ Kernel.IsText x.1.kstat.name).map (·.2) ∧
        ((∀ l ∈ s.chain, Kernel.IsText l.kstat.module ∧ Kernel.IsText l.kstat.name) →
          direct = scanned.head?.map (·.2)) ∧
        (Kernel.Keyed (s.chain.map (·.kstat)) → direct.toList = scanned.map (·.2)) := by
  obtain rfl : literal = id := (toList_plain hl).1.trans (source_of_ofText? hp)
  refine ⟨rfl, isMatch_eq_true_iff_of_literal hl, Memory.Data.found_eq_filter_isAt hl, ?_⟩
  intro s module inst direct scanned
  have hall : s.findAll module inst.toNat p = direct.toList := by
    rw [Kernel.Live.findAll, hl]
  refine ⟨hall, Kernel.Live.findExact?_eq_find?_fitting hl module inst, ?_, ?_⟩
  · intro htext
    exact Kernel.Live.findExact?_eq_head?_fitting hl htext module inst
  · intro hkeyed
    rw [← hall]
    exact Kernel.Live.findAll_eq_fitting hkeyed module inst p

theorem literal_stands_for_itself_oddName :
    let id := "rx-tx #0 & \"~\"\né"
    let p := (ofText? id).get (by decide +kernel)
    let k : Kernel.Kstat :=
      { module := Utf8.encode "link", inst := 0, name := Utf8.encode id, type := 1, snaptime := 1
        readError := 0, readSnaptime := 10, payload := none }
    let s : Kernel.Live := { chain := (k :: Kernel.brief.chain).map .ofKstat }
    ofText? id = some p ∧ p.literal? = some id ∧ p.isMatch id = true ∧
      p.isMatch (id ++ "\n") = false ∧ Kernel.Keyed (s.chain.map (·.kstat)) ∧
      s.findExact? "link" 0 id = (s.fitting "link" 0 p).head?.map (·.2) ∧
      (s.fitting "link" 0 p).map (·.2) = [0] := by
  intro id p k s
  have hp : ofText? id = some p := (Option.some_get _).symm
  have hl : p.literal? = some id := by decide +kernel
  have hkeyed : Kernel.Keyed (s.chain.map (·.kstat)) :=
    ⟨by decide +kernel, by decide +kernel, by decide +kernel⟩
  obtain ⟨-, hmatch, -, hkernel⟩ := literal_stands_for_itself hp hl
  obtain ⟨-, -, hfirst, hall⟩ := hkernel s "link" 0
  refine ⟨hp, hl, (hmatch id).mpr rfl, ?_, hkeyed, hfirst (by decide +kernel), ?_⟩
  · rw [Bool.eq_false_iff, Ne, hmatch]
    decide
  · rw [← hall hkeyed]
    decide +kernel

example :
    let p := (ofText? "\uFFFD").get (by rfl)
    let k : Kernel.Kstat :=
      { module := Utf8.encode "link", inst := 0, name := [0xFF], type := 1, snaptime := 1
        readError := 0, readSnaptime := 10, payload := none }
    let s : Kernel.Live := { chain := [.ofKstat k] }
    s.findExact? "link" 0 "\uFFFD" = none ∧ (s.fitting "link" 0 p).map (·.2) = [0] := by
  decide +kernel

end GroupPattern

end KernelStats
