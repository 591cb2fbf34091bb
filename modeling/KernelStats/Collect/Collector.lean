import KernelStats.Collect.Walk

/-!
# Collectors

A collector is a plan for a whole schema. `Collector.collect` opens a session, walks over the groups in the
order of the schema and closes the session. Nothing but a session that cannot be opened stops it.
-/

namespace KernelStats

structure Collector where
  ns : String
  modules : List ModulePlan

def defaultNamespace : String := "node"

namespace Collector

def ofSchema (schema : Schema) (ns : String) : Collector where
  ns := ns
  modules := schema.modules.map (.ofModule ns)

def collectGroups (s : Session σ) (ns module : String) :
    List GroupPlan → σ → Scrape → List GroupPlan × σ × Scrape
  | [], session, scrape => ([], session, scrape)
  | plan :: plans, session, scrape =>
    let p := Progress.collect s ns module { session, plan, scrape }
    let (plans, session, scrape) := collectGroups s ns module plans p.session p.scrape
    (p.plan :: plans, session, scrape)

def collectModules (s : Session σ) (ns : String) :
    List ModulePlan → σ → Scrape → List ModulePlan × σ × Scrape
  | [], session, scrape => ([], session, scrape)
  | m :: ms, session, scrape =>
    let (groups, session, scrape) := collectGroups s ns m.id m.groups session scrape
    let (ms, session, scrape) := collectModules s ns ms session scrape
    ({ m with groups } :: ms, session, scrape)

structure Outcome (ω : Type) where
  result : Except CollectError Scrape
  collector : Collector
  source : ω

def collect (c : Collector) (src : Source ω σ) (source : ω) (sink : Array Sample) : Outcome ω :=
  match src.acquire source with
  | (.error cause, source) => { result := .error (.unopened cause), collector := c, source }
  | (.ok session, source) =>
    let (modules, session, scrape) := collectModules src.toSession c.ns c.modules session { sink }
    { result := .ok scrape, collector := { c with modules }, source := src.release source session }

def scrape (c : Collector) (src : Source ω σ) (source : ω) : Outcome ω := c.collect src source #[]

end Collector

end KernelStats
