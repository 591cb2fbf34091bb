import KernelStats.Collect.Plan
import KernelStats.Collect.Scrape
import KernelStats.Source.Session

/-!
# Walking over a group

A structured group is read once. The instances of any other group are looked up one after the other,
from 0 until one is not found, and each statistic found is read counter by counter. A failure is
recorded, and the walk goes on with what comes next.
-/

namespace KernelStats

structure Progress (σ : Type) where
  session : σ
  plan : GroupPlan
  scrape : Scrape

namespace Progress

def emitCounter (s : Session σ) (module label : String) (e : Entry) (p : Progress σ)
    (c : Schema.Counter × Descriptor) : Progress σ :=
  match s.value p.session e c.1.id with
  | (.ok raw, session) =>
    { p with session, scrape := p.scrape.emit c.2 label (scaleValue raw c.1.scale) }
  | (.error cause, session) =>
    { p with session, scrape := p.scrape.fail ⟨module, e.inst, e.name, c.1.id⟩ cause }

def emitEntry (s : Session σ) (ns module label : String) (p : Progress σ) (e : Entry) : Progress σ :=
  match s.read p.session e with
  | (.error cause, e, session) =>
    { p with session, scrape := p.scrape.fail ⟨module, e.inst, e.name, ""⟩ cause }
  | (.ok (), e, session) =>
    let (set, plan) := p.plan.descriptors ns module e.name
    let p := (plan.group.counters.zip set.counters).foldl (emitCounter s module label e)
      { p with session, plan }
    { p with
      scrape := p.scrape.emit set.snaptime label (Number.ofInt (s.snapshotTime p.session e).toInt) }

/-- Looks up the instances from `inst` on, at most `left` of them. Answers with the number of those that
exist, `found` being that of the instances before. -/
def walk (s : Session σ) (ns module : String) :
    (left : Nat) → (inst : UInt32) → (found : Nat) → Progress σ → Nat × Progress σ
  | 0, _, found, p =>
    (found, { p with scrape := p.scrape.note (.runaway module p.plan.group.id) })
  | left + 1, inst, found, p =>
    let scrape := p.scrape.note (.lookingUp module inst p.plan.group.id)
    match s.lookup p.session module inst p.plan.group.pattern with
    | (.ok entries, session) =>
      walk s ns module left (inst + 1) (found + 1)
        (entries.foldl (emitEntry s ns module (toString inst.toNat)) { p with session, scrape })
    | (.error cause, session) =>
      if cause.isNotFound then (found, { p with session, scrape })
      else
        walk s ns module left (inst + 1) found
          { p with session, scrape := scrape.fail ⟨module, inst, p.plan.group.id, ""⟩ cause }

def collectNamed (s : Session σ) (ns module : String) (p : Progress σ) : Progress σ :=
  let (instances, p) := walk s ns module maxInstances 0 0 p
  { p with scrape := p.scrape.summarize { module, group := p.plan.group.id, instances } }

def structuredLabel : String := "0"

def emitField (module : String) (kind : StructuredKind) (stats : StructuredStats) (scrape : Scrape)
    (c : Schema.Counter × Descriptor) : Scrape :=
  match stats.get? c.1.id with
  | some raw => scrape.emit c.2 structuredLabel (scaleValue raw c.1.scale)
  | none => scrape.fail ⟨module, 0, kind.name, c.1.id⟩ (.missingStat c.1.id)

def emitStructured (module : String) (kind : StructuredKind) (set : DescriptorSet)
    (stats : StructuredStats) (group : Schema.Group) (scrape : Scrape) : Scrape :=
  let scrape := (group.counters.zip set.counters).foldl (emitField module kind stats) scrape
  scrape.emit set.snaptime structuredLabel (Number.ofInt stats.snaptime.toInt)

def collectStructured (s : Session σ) (module : String) (kind : StructuredKind) (set : DescriptorSet)
    (p : Progress σ) : Progress σ :=
  match s.structured p.session kind with
  | (.error cause, session) =>
    { p with
      session
      scrape := (p.scrape.fail ⟨module, 0, kind.name, ""⟩ cause).summarize
        { module, group := p.plan.group.id, instances := 0 } }
  | (.ok stats, session) =>
    { p with
      session
      scrape := (emitStructured module kind set stats p.plan.group p.scrape).summarize
        { module, group := p.plan.group.id, instances := 1 } }

def collect (s : Session σ) (ns module : String) (p : Progress σ) : Progress σ :=
  match p.plan.route with
  | .structured kind set => p.collectStructured s module kind set
  | .literal _ | .pattern _ => p.collectNamed s ns module

end Progress

end KernelStats
