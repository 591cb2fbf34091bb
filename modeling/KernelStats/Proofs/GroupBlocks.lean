import KernelStats.Proofs.HandleTable
import KernelStats.Proofs.Independence
import KernelStats.Proofs.Interchange

/-!
# The blocks of a scrape

The groups of a scrape share a session, which remembers what it was asked. Still each group puts out a
block of its own, the one that it puts out in a scrape of that group alone, and a scrape is its blocks
in the order of the schema.
-/

namespace KernelStats

instance : Append Scrape where
  append a b := {
    sink := a.sink ++ b.sink
    emitted := a.emitted + b.emitted
    failures := a.failures ++ b.failures
    groups := a.groups ++ b.groups
    notices := a.notices ++ b.notices }

namespace Schema

def single (module : String) (g : Group) : Schema := { modules := [{ id := module, groups := [g] }] }

def pieces (schema : Schema) : List Schema :=
  schema.modules.flatMap fun m => m.groups.map (single m.id)

end Schema

namespace Scrape

theorem empty_append (s : Scrape) : ({} : Scrape) ++ s = s := by
  show Scrape.mk _ _ _ _ _ = s
  simp only [Array.empty_append, Nat.zero_add]

theorem append_record (a b : Scrape) (e : Event) : a ++ b.record e = (a ++ b).record e := by
  cases e with
  | lookup module inst group =>
    exact congrArg (Scrape.mk _ _ _ _) Array.append_push
  | runaway module group =>
    exact congrArg (Scrape.mk _ _ _ _) Array.append_push
  | summary g =>
    exact congrArg (Scrape.mk _ _ _ · _) Array.append_push
  | sample x =>
    exact congrArg (Scrape.mk · _ _ _ _) Array.append_push
  | failure f =>
    exact congr (congrArg (Scrape.mk _ _ · _) Array.append_push) Array.append_push

theorem append_recordAll (a b : Scrape) (es : List Event) :
    a ++ b.recordAll es = (a ++ b).recordAll es := by
  induction es generalizing b with
  | nil => rfl
  | cons e es ih => rw [recordAll_cons, ih, append_record, recordAll_cons]

theorem recordAll_eq_append (s : Scrape) (es : List Event) :
    s.recordAll es = s ++ ({} : Scrape).recordAll es := by
  have hempty : s ++ ({} : Scrape) = s := by
    show Scrape.mk _ _ _ _ _ = s
    simp only [Array.append_empty, Nat.add_zero]
  rw [append_recordAll, hempty]

end Scrape

namespace Snapshot

variable (v : Snapshot)

theorem steps_single (module : String) (g : Schema.Group) :
    v.steps (.single module g) = v.groupSteps module g := by
  simp [steps, moduleSteps, Schema.single]

theorem steps_pieces (schema : Schema) : schema.pieces.flatMap v.steps = v.steps schema := by
  simp only [Schema.pieces, List.flatMap_assoc, List.flatMap_map, steps_single]
  rfl

theorem filterMap_summary?_enumeration (module : String) (g : Schema.Group) (start count : Nat) :
    (v.enumeration module g start count).filterMap Step.summary? = [] := by
  rw [List.filterMap_eq_nil_iff]
  intro step hstep
  rcases List.mem_append.mp hstep with hinstance | hlast
  · obtain ⟨i, -, hi⟩ := List.mem_flatMap.mp hinstance
    rcases List.mem_cons.mp hi with rfl | hvisit
    · rfl
    · obtain ⟨r, -, rfl⟩ := List.mem_map.mp hvisit
      rfl
  · rw [List.mem_singleton.mp hlast, lastStep]
    split <;> rfl

theorem summary?_groupSteps (module : String) (g : Schema.Group) :
    ∃ n, (v.groupSteps module g).filterMap Step.summary? = [⟨module, g.id, n⟩] := by
  cases hr : StructuredKind.route? module g.pattern with
  | some kind =>
    rw [groupSteps_of_some hr]
    exact ⟨_, rfl⟩
  | none =>
    rw [groupSteps_of_none hr, namedSteps, List.filterMap_append, filterMap_summary?_enumeration]
    exact ⟨_, rfl⟩

/-- What a scrape of this schema puts out, on its own. -/
def block (ns : String) (schema : Schema) : Scrape := ({} : Scrape).recordAll (v.events ns schema)

variable (ns : String)

theorem block_append (ms ms' : List Schema.Module) :
    v.block ns ⟨ms ++ ms'⟩ = v.block ns ⟨ms⟩ ++ v.block ns ⟨ms'⟩ := by
  have hevents : v.events ns ⟨ms ++ ms'⟩ = v.events ns ⟨ms⟩ ++ v.events ns ⟨ms'⟩ := by
    rw [events_eq, events_eq, events_eq, ← List.flatMap_append]
    exact congrArg (List.flatMap (Step.events ns)) List.flatMap_append
  rw [block, hevents, Scrape.recordAll_append, Scrape.recordAll_eq_append]
  rfl

theorem foldl_block (schemas : List Schema) (s : Scrape) :
    (schemas.map (v.block ns)).foldl (· ++ ·) s = s.recordAll (schemas.flatMap (v.events ns)) := by
  induction schemas generalizing s with
  | nil => rfl
  | cons schema schemas ih =>
    rw [List.map_cons, List.foldl_cons, ih, block, ← Scrape.recordAll_eq_append,
      ← Scrape.recordAll_append, List.flatMap_cons]

theorem block_pieces (schema : Schema) :
    v.block ns schema = (schema.pieces.map (v.block ns)).foldl (· ++ ·) {} := by
  have hevents : v.events ns = fun schema => (v.steps schema).flatMap (Step.events ns) :=
    funext (v.events_eq ns)
  rw [foldl_block, hevents, ← List.flatMap_assoc, steps_pieces, block, events_eq]

theorem groups_block_single (module : String) (g : Schema.Group) :
    ∃ n, (v.block ns (.single module g)).groups = #[⟨module, g.id, n⟩] := by
  obtain ⟨n, hn⟩ := v.summary?_groupSteps module g
  refine ⟨n, ?_⟩
  have hsummary : (v.events ns (.single module g)).filterMap Event.summary? = [⟨module, g.id, n⟩] := by
    rw [events_eq, steps_single, List.filterMap_flatMap, funext (Step.filterMap_summary? ns), ← hn,
      List.filterMap_eq_flatMap_toList]
  rw [block, Scrape.recordAll_eq, hsummary]
  rfl

end Snapshot

theorem Memory.data_ask (m : Memory) (q : Query) : (source.ask m q).2.data = m.data := by
  cases q <;> rfl

theorem Memory.data_askAll (m : Memory) (qs : List Query) :
    (source.askAll m qs).2.data = m.data := by
  induction qs generalizing m with
  | nil => rfl
  | cons q qs ih => exact (ih (source.ask m q).2).trans (m.data_ask q)

theorem Source.Provided.presents {src : Source ω σ} (h : src.Provided) (session : σ) :
    ∃ v : Snapshot, ∀ qs, ∃ (P : Presentation src.toSession v) (l r : Nat),
      P.Holds l r (src.askAll session qs).2 := by
  cases h with
  | memory =>
    refine ⟨session.data.snapshot, fun qs => ?_⟩
    have hdata := session.data_askAll qs
    generalize (Memory.source.askAll session qs).2 = m at hdata
    exact ⟨Memory.presentation session.data m.calls, 0, 0, by rw [← hdata]; rfl⟩
  | kernel =>
    refine ⟨Kernel.snapshot (session.chain.map (·.kstat)), fun qs => ?_⟩
    exact ⟨Kernel.presentation _, 0, 0, (session.grows_askAll qs).chain⟩

namespace Collector

theorem collect_unopened {src : Source ω σ} {source left : ω} {cause : SourceError}
    (h : src.acquire source = (.error cause, left)) (c : Collector) (sink : Array Sample) :
    (c.collect src source sink).result = .error (.unopened cause) := by
  rw [collect, h]

/-- A scrape puts out the blocks of its groups, one after the other in the order of the schema. The
block of a group is that of a scrape of this group alone, whatever the collector and the session have
been asked before. -/
theorem collect_blocks {src : Source ω σ} (h : src.Provided) (source : ω) (ns : String) :
    match (src.acquire source).1 with
    | .error cause => ∀ schema c sink, Reached schema ns c →
        (c.collect src source sink).result = .error (.unopened cause)
    | .ok session => ∃ block : Schema → Scrape,
        (∀ schema c sink, Reached schema ns c →
          (c.collect src source sink).result = .ok (({ sink } : Scrape) ++ block schema)) ∧
        (∀ ms ms', block ⟨ms ++ ms'⟩ = block ⟨ms⟩ ++ block ⟨ms'⟩) ∧
        (∀ schema, block schema = (schema.pieces.map block).foldl (· ++ ·) {}) ∧
        (∀ module g, ∃ n, (block (.single module g)).groups = #[⟨module, g.id, n⟩]) ∧
        ∀ asked plan module scrape, GroupPlan.Sound plan ns module →
          (Progress.collect src.toSession ns module
              ⟨(src.askAll session asked).2, plan, scrape⟩).scrape =
            scrape ++ block (.single module plan.group) := by
  rcases hopen : src.acquire source with ⟨answer, opened⟩
  cases answer with
  | error cause => exact fun schema c sink _ => collect_unopened hopen c sink
  | ok session =>
    obtain ⟨v, hv⟩ := h.presents session
    refine ⟨v.block ns, ?_, v.block_append ns, v.block_pieces ns, v.groups_block_single ns, ?_⟩
    · intro schema c sink hc
      obtain ⟨P, l, r, hholds⟩ := hv []
      obtain ⟨hsound, rfl, rfl⟩ := hc.sound
      obtain ⟨hresult, -⟩ := P.collect_eq hsound hopen hholds sink
      rw [hresult, Scrape.recordAll_eq_append]
      rfl
    · intro asked plan module scrape hsound
      obtain ⟨P, l, r, hholds⟩ := hv asked
      have hat := P.collect_at (p := ⟨_, plan, scrape⟩) ⟨hholds, hsound, rfl, rfl⟩
      rw [hat.scrape, Scrape.recordAll_eq_append, Snapshot.block, Snapshot.events_eq,
        Snapshot.steps_single]

theorem collect_blocks_brief :
    let run := fun schema =>
      ((ofSchema schema defaultNamespace).collect Kernel.source .brief #[]).result
    Kernel.source.Provided ∧ ∃ blocks : List Scrape,
      Schema.brief.pieces.map run = blocks.map .ok ∧
        run .brief = .ok (blocks.foldl (· ++ ·) {}) ∧
        blocks.map (·.emitted) = [2, 2, 3] ∧ blocks.map (·.failures.size) = [2, 0, 1] := by
  intro run
  obtain ⟨block, hrun, -, hpieces, -⟩ := collect_blocks .kernel .brief defaultNamespace
  have hblock : ∀ schema, run schema = .ok (block schema) := by
    intro schema
    rw [← (block schema).empty_append]
    exact hrun schema _ #[] .new
  have hevents : block = Snapshot.block (Kernel.snapshot Kernel.brief.chain) defaultNamespace := by
    funext schema
    have hkernel := collect_kernel schema defaultNamespace (k := .brief) rfl #[]
    exact Except.ok.inj ((hblock schema).symm.trans hkernel)
  refine ⟨.kernel, Schema.brief.pieces.map block, ?_, ?_, ?_, ?_⟩
  · rw [List.map_map]
    exact List.map_congr_left fun schema _ => hblock schema
  · rw [hblock, ← hpieces]
  · rw [hevents]
    decide +kernel
  · rw [hevents]
    decide +kernel

end Collector

end KernelStats
