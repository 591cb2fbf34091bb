import KernelStats.Collect.Collector
import KernelStats.Proofs.CallLog

/-!
# The calls of a whole scrape

A source can be made to write down the calls of its sessions, over a scrape from its first group to
its last. The scrape leaves the same with the log as without.
-/

namespace KernelStats

def Source.logged (src : Source ω σ) : Source (ω × List Call) (σ × List Call) where
  toSession := src.toSession.logged
  acquire w :=
    let (answer, source) := src.acquire w.1
    (answer.map (·, w.2), source, w.2)
  release w session := (src.release w.1 session.1, session.2)

namespace Collector

variable (s : Session σ) (ns : String)

def bareOf (out : α × (σ × List Call) × Scrape) : α × σ × Scrape := (out.1, out.2.1.1, out.2.2)

theorem bare_collectModules (modules : List ModulePlan) (session : σ × List Call)
    (scrape : Scrape) :
    bareOf (collectModules s.logged ns modules session scrape) =
      collectModules s ns modules session.1 scrape := by
  have hmodules := (Translation.forgetting s ns).collectModules_rename modules session scrape
  dsimp only [Translation.forgetting, Translation.scrape] at hmodules
  rw [map_rename_id, map_rename_id, Scrape.rename_id, Scrape.rename_id] at hmodules
  exact hmodules.symm

theorem collect_logged (c : Collector) (src : Source ω σ) (source : ω) (log : List Call)
    (sink : Array Sample) :
    let run := c.collect src.logged (source, log) sink
    c.collect src source sink = ⟨run.result, run.collector, run.source.1⟩ := by
  have hacquire : src.logged.acquire (source, log) =
      ((src.acquire source).1.map (·, log), (src.acquire source).2, log) := rfl
  dsimp only
  rw [collect, collect, hacquire]
  generalize src.acquire source = a
  obtain ⟨answer, source⟩ := a
  cases answer with
  | error cause => rfl
  | ok session =>
    have hbare := bare_collectModules src.toSession c.ns c.modules (session, log) { sink }
    dsimp only [Except.map] at hbare ⊢
    rw [← hbare]
    rfl

end Collector

end KernelStats
