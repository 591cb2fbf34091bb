import Mathlib.Logic.Relation
import KernelStats.Proofs.MemorySnapshot
import KernelStats.Proofs.Revision

/-!
# The layout of a chain in memory

An entry stands for a statistic by its place in the chain, and all that is read goes through that
place. A scrape does not show it: as long as each group meets the same statistics at each instance and
in the same order, other statistics may stand between them, and statistics of other instances and
modules may change places with them.
-/

namespace KernelStats

def Revision.placeless : Revision where
  reading r := { r with slot := 0 }
  record := id
  name_reading _ := rfl
  isOk_record _ := rfl

theorem Step.events_placeless (ns : String) (s : Step) :
    (s.revise .placeless).events ns = s.events ns := by
  cases s with
  | lookup module inst group => rfl
  | runaway module group => rfl
  | summary g => rfl
  | structured module g kind answer => rfl
  | visit v =>
    have hcontent : (Revision.placeless.reading v.reading).content = v.reading.content := rfl
    rw [revise, events, events, occurrences, occurrences, Visit.occurrences, Visit.occurrences,
      hcontent]
    cases v.reading.content with
    | error cause => rfl
    | ok content =>
      simp only [List.map_append, List.map_map]
      rfl

namespace Memory

/-- Two chains that look alike to a schema: at each instance a group that is no record meets the same
statistics in the same order. -/
def Alike (schema : Schema) (chain chain' : List Kstat) : Prop :=
  ∀ m ∈ schema.modules, ∀ g ∈ m.groups, StructuredKind.route? m.id g.pattern = none → ∀ inst,
    chain.filter (·.belongs m.id inst g.pattern) = chain'.filter (·.belongs m.id inst g.pattern)

/-- A change of a chain that a schema does not see: two neighbours of different modules or instances
change places, or a statistic that no group asks for is put in. -/
inductive Rearranges (schema : Schema) : List Kstat → List Kstat → Prop
  | swap (before after : List Kstat) (k l : Kstat) (h : k.module ≠ l.module ∨ k.inst ≠ l.inst) :
    Rearranges schema (before ++ k :: l :: after) (before ++ l :: k :: after)
  | insert (before after : List Kstat) (k : Kstat)
    (h : ∀ m ∈ schema.modules, ∀ g ∈ m.groups, m.id = k.module → g.pattern.isMatch k.name = false) :
    Rearranges schema (before ++ after) (before ++ k :: after)

theorem Rearranges.alike {schema : Schema} {chain chain' : List Kstat}
    (h : Rearranges schema chain chain') : Alike schema chain chain' := by
  intro m hm g hg _ inst
  cases h with
  | swap before after k l h =>
    -- of two statistics with different keys at most one belongs to a group at an instance
    have hone : k.belongs m.id inst g.pattern = false ∨ l.belongs m.id inst g.pattern = false := by
      by_contra hboth
      simp only [not_or, Bool.not_eq_false, Kstat.belongs, decide_eq_true_eq] at hboth
      obtain ⟨⟨hkm, hki, -⟩, hlm, hli, -⟩ := hboth
      rcases h with h | h
      · exact h (hkm.trans hlm.symm)
      · exact h (hki.trans hli.symm)
    rcases hone with h | h
    · simp [List.filter_append, List.filter_cons, h]
    · simp [List.filter_append, List.filter_cons, h]
  | insert before after k h =>
    have hk : k.belongs m.id inst g.pattern = false := by
      rw [Bool.eq_false_iff]
      intro hk
      obtain ⟨hmodule, -, hmatch⟩ := of_decide_eq_true hk
      rw [h m hm g hg hmodule.symm] at hmatch
      exact Bool.false_ne_true hmatch
    simp [List.filter_append, hk]

theorem alike_of_eqvGen {schema : Schema} {chain chain' : List Kstat}
    (h : Relation.EqvGen (Rearranges schema) chain chain') : Alike schema chain chain' := by
  induction h with
  | rel chain chain' h => exact h.alike
  | refl chain => exact fun _ _ _ _ _ _ => rfl
  | symm chain chain' _ ih => exact fun m hm g hg hr inst => (ih m hm g hg hr inst).symm
  | trans chain chain' chain'' _ _ ih ih' =>
    exact fun m hm g hg hr inst => (ih m hm g hg hr inst).trans (ih' m hm g hg hr inst)

theorem Data.find_placeless (d : Data) (module : String) (inst : UInt32) (pattern : GroupPattern) :
    (d.snapshot.revise .placeless).find module inst pattern =
      (d.chain.filter (·.belongs module inst pattern)).map (·.reading 0) := by
  have hfilter : d.chain.filter (·.belongs module inst pattern) =
      (d.found module inst pattern).map Prod.fst := (d.map_fst_found module inst pattern).symm
  rw [hfilter, List.map_map]
  exact List.map_map

theorem Data.steps_of_alike {schema : Schema} {d d' : Data} (h : Alike schema d.chain d'.chain)
    (hv : d.vminfo = d'.vminfo) :
    (d.snapshot.steps schema).map (Step.revise .placeless) =
      (d'.snapshot.steps schema).map (Step.revise .placeless) := by
  rw [← Snapshot.steps_revise, ← Snapshot.steps_revise]
  refine Snapshot.steps_congr_of_mem ?_ ?_
  · intro m hm g hg hr inst
    rw [find_placeless, find_placeless, h m hm g hg hr inst]
  · intro kind
    show d.snapshot.structured kind = d'.snapshot.structured kind
    rw [← d.structured_eq, ← d'.structured_eq]
    cases kind
    simp only [structured, hv]

end Memory

namespace Collector

/-- The layout of a chain makes no difference to a scrape. If each group meets the same statistics at
each instance, in particular after any number of changes that the schema does not see, then all that
the scrape puts out and all that it counts is the same. -/
theorem collect_of_alike (schema : Schema) (ns : String) {d d' : Memory.Data}
    (hv : d.vminfo = d'.vminfo) (hu : d.unavailable = d'.unavailable)
    (h : Memory.Alike schema d.chain d'.chain ∨
      Relation.EqvGen (Memory.Rearranges schema) d.chain d'.chain)
    (calls : Memory.Calls) (sink : Array Sample) :
    let run (data : Memory.Data) := (ofSchema schema ns).collect Memory.source { data, calls } sink
    (run d).result = (run d').result ∧ (run d).source.calls = (run d').source.calls := by
  intro run
  have halike : Memory.Alike schema d.chain d'.chain := h.elim id Memory.alike_of_eqvGen
  cases hd : d.unavailable with
  | true =>
    rw [hd] at hu
    have hclosed {data : Memory.Data} (hdata : data.unavailable = true) :
        (run data).result = .error (.unopened (.unavailable "/dev/kstat not present")) ∧
          (run data).source.calls = calls := by
      simp [run, collect, Memory.source, hdata]
    obtain ⟨hresult, hcalls⟩ := hclosed hd
    obtain ⟨hresult', hcalls'⟩ := hclosed hu.symm
    exact ⟨hresult.trans hresult'.symm, hcalls.trans hcalls'.symm⟩
  | false =>
    rw [hd] at hu
    have hsteps := Memory.Data.steps_of_alike halike hv
    obtain ⟨hresult, hsource⟩ := collect_memory_eq schema ns (m := { data := d, calls }) hd sink
    obtain ⟨hresult', hsource'⟩ :=
      collect_memory_eq schema ns (m := { data := d', calls }) hu.symm sink
    dsimp only at hresult hsource hresult' hsource'
    have hevents : d.snapshot.events ns schema = d'.snapshot.events ns schema := by
      have hshown (d : Memory.Data) : d.snapshot.events ns schema =
          ((d.snapshot.steps schema).map (Step.revise .placeless)).flatMap (Step.events ns) := by
        rw [Snapshot.events_eq, List.flatMap_map]
        exact congrArg (fun f => (d.snapshot.steps schema).flatMap f)
          (funext fun s => (s.events_placeless ns).symm)
      rw [hshown, hshown, hsteps]
    have hlookups := Step.countP_isLookup_revise .placeless (d.snapshot.steps schema)
    have hrecords := Step.countP_isStructured_revise .placeless (d.snapshot.steps schema)
    rw [hsteps, Step.countP_isLookup_revise] at hlookups
    rw [hsteps, Step.countP_isStructured_revise] at hrecords
    dsimp only [run]
    rw [hresult, hresult', hevents, hsource, hsource', hlookups, hrecords]
    exact ⟨rfl, rfl⟩

end Collector

def Memory.Data.shuffledCpus : Memory.Data where
  chain := [
    .ofCounts "cpu" 1 "sys" 1001 [("syscall", 200)],
    .ofCounts "audio" 0 "stats" 7 [("played", 3)],
    .ofCounts "cpu" 0 "sys" 1000 [("syscall", 100)]]

theorem Memory.eqvGen_shuffledCpus :
    Relation.EqvGen (Rearranges .brief) (Data.withCpus 2).chain Data.shuffledCpus.chain := by
  refine .trans _ _ _ (.rel _ _ (.swap [] [] _ _ (Or.inr (by decide)))) (.rel _ _ ?_)
  refine .insert [.ofCounts "cpu" 1 "sys" 1001 [("syscall", 200)]] _ _ ?_
  simp [Schema.brief, Kstat.ofCounts]

theorem Collector.collect_of_alike_shuffledCpus :
    Relation.EqvGen (Memory.Rearranges .brief) (Memory.Data.withCpus 2).chain
        Memory.Data.shuffledCpus.chain ∧
      let run (data : Memory.Data) :=
        (ofSchema .brief defaultNamespace).collect Memory.source { data } #[]
      (run (.withCpus 2)).result = (run .shuffledCpus).result ∧
        (run (.withCpus 2)).source.calls = (run .shuffledCpus).source.calls ∧
        (run .shuffledCpus).result.toOption.map (·.emitted) = some 4 := by
  have h := @collect_of_alike .brief defaultNamespace (.withCpus 2) .shuffledCpus rfl rfl
    (Or.inr Memory.eqvGen_shuffledCpus) {} #[]
  refine ⟨Memory.eqvGen_shuffledCpus, h.1, h.2, ?_⟩
  rw [(collect_memory_eq .brief defaultNamespace (m := { data := .shuffledCpus }) rfl #[]).1]
  decide +kernel

end KernelStats
