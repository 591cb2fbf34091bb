import KernelStats.Proofs.Events
import KernelStats.Proofs.Translation

/-!
# The calls of a scrape

A session can be made to write down its calls and their answers. It answers as before, so that what
a scrape does with it is what it does without the log, and the log holds the calls of the scrape in
their order.
-/

namespace KernelStats

structure Probe where
  module : String
  inst : UInt32
  pattern : GroupPattern
  answer : Except SourceError (List Entry)

namespace Probe

def address (q : Probe) : String × UInt32 × GroupPattern := (q.module, q.inst, q.pattern)

def missing (q : Probe) : Bool :=
  match q.answer with
  | .error (.notFound ..) => true
  | _ => false

def found (q : Probe) : Bool := q.answer.isOk

def failure? (q : Probe) : Option StatFailure :=
  match q.answer with
  | .ok _ | .error (.notFound ..) => none
  | .error cause => some ⟨⟨q.module, q.inst, q.pattern.source, ""⟩, cause⟩

variable {module : String} {inst : UInt32} {pattern : GroupPattern} {cause : SourceError}

theorem missing_error :
    (Probe.mk module inst pattern (.error cause)).missing = cause.isNotFound := by
  cases cause <;> rfl

theorem failure?_error :
    (Probe.mk module inst pattern (.error cause)).failure? =
      if cause.isNotFound then none else some ⟨⟨module, inst, pattern.source, ""⟩, cause⟩ := by
  cases cause <;> rfl

end Probe

/-- A call of a session that its state depends on, and the answer. -/
inductive Call where
  | lookup (q : Probe)
  | read (answer : Except SourceError Unit) (e : Entry)
  | value (e : Entry) (stat : String) (answer : Except SourceError UInt64)
  | structured (kind : StructuredKind) (answer : Except SourceError StructuredStats)

namespace Call

def probe? : Call → Option Probe
  | lookup q => some q
  | _ => none

def failure? (module : String) : Call → Option StatFailure
  | lookup q => q.failure?
  | read (.error cause) e => some ⟨⟨module, e.inst, e.name, ""⟩, cause⟩
  | value e stat (.error cause) => some ⟨⟨module, e.inst, e.name, stat⟩, cause⟩
  | _ => none

def notices (module : String) (c : Call) : List Notice :=
  (c.probe?.map fun q => .lookingUp q.module q.inst q.pattern.source).toList ++
    ((c.failure? module).map .failed).toList

end Call

namespace Session

/-- The session that also writes down its calls. -/
def logged (s : Session σ) : Session (σ × List Call) where
  lookup st module inst pattern :=
    let (answer, next) := s.lookup st.1 module inst pattern
    (answer, next, st.2 ++ [.lookup { module, inst, pattern, answer }])
  read st e :=
    let (answer, e, next) := s.read st.1 e
    (answer, e, next, st.2 ++ [.read answer e])
  value st e stat :=
    let (answer, next) := s.value st.1 e stat
    (answer, next, st.2 ++ [.value e stat answer])
  structured st kind :=
    let (answer, next) := s.structured st.1 kind
    (answer, next, st.2 ++ [.structured kind answer])
  snapshotTime st e := s.snapshotTime st.1 e

variable (s : Session σ)

theorem logged_lookup (st : σ × List Call) (module : String) (inst : UInt32)
    (pattern : GroupPattern) :
    s.logged.lookup st module inst pattern =
      ((s.lookup st.1 module inst pattern).1, (s.lookup st.1 module inst pattern).2,
        st.2 ++ [.lookup ⟨module, inst, pattern, (s.lookup st.1 module inst pattern).1⟩]) := rfl

theorem logged_read (st : σ × List Call) (e : Entry) :
    s.logged.read st e =
      ((s.read st.1 e).1, (s.read st.1 e).2.1, (s.read st.1 e).2.2,
        st.2 ++ [.read (s.read st.1 e).1 (s.read st.1 e).2.1]) := rfl

theorem logged_value (st : σ × List Call) (e : Entry) (stat : String) :
    s.logged.value st e stat =
      ((s.value st.1 e stat).1, (s.value st.1 e stat).2,
        st.2 ++ [.value e stat (s.value st.1 e stat).1]) := rfl

end Session

def Translation.forgetting (s : Session σ) (ns : String) : Translation s.logged s ns ns where
  state := Prod.fst
  descriptor := id
  before := #[]
  lookup _ _ _ _ := rfl
  read _ _ := rfl
  value _ _ _ := rfl
  structured _ _ := rfl
  snapshotTime _ _ := rfl
  build := .refl ns

namespace Progress

def logging (p : Progress σ) : Progress (σ × List Call) :=
  { session := (p.session, []), plan := p.plan, scrape := p.scrape }

def bare (p : Progress (σ × List Call)) : Progress σ :=
  { session := p.session.1, plan := p.plan, scrape := p.scrape }

@[simp] theorem bare_scrape (p : Progress (σ × List Call)) : p.bare.scrape = p.scrape := rfl

theorem bare_logging (p : Progress σ) : p.logging.bare = p := rfl

variable (s : Session σ)

theorem forgetting_progress (ns : String) (p : Progress (σ × List Call)) :
    (Translation.forgetting s ns).progress p = p.bare := by
  rw [Translation.progress, Translation.scrape]
  dsimp only [Translation.forgetting]
  rw [GroupPlan.rename_id, Scrape.rename_id]
  rfl

theorem bare_walk (ns module : String) (left : Nat) (inst : UInt32) (found : Nat)
    (p : Progress (σ × List Call)) :
    (walk s.logged ns module left inst found p).1 = (walk s ns module left inst found p.bare).1 ∧
      (walk s.logged ns module left inst found p).2.bare =
        (walk s ns module left inst found p.bare).2 := by
  have hwalk := (Translation.forgetting s ns).walk_progress module left inst found p
  rw [forgetting_progress, forgetting_progress] at hwalk
  rw [hwalk]
  exact ⟨rfl, rfl⟩

theorem bare_collectNamed (ns module : String) (p : Progress (σ × List Call)) :
    (p.collectNamed s.logged ns module).bare = p.bare.collectNamed s ns module := by
  have hnamed := (Translation.forgetting s ns).collectNamed_progress module p
  rw [forgetting_progress, forgetting_progress] at hnamed
  exact hnamed.symm

end Progress

end KernelStats
