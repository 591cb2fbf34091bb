import KernelStats.Source.Error
import KernelStats.Source.Structured

/-!
# Sources and their sessions

A `Source` opens sessions, and a session finds statistics and reads them. Both are given by transitions:
a session in state `σ` answers a question and goes on in another state, and a source in state `ω` gets
back the state of the session that it closes. A scrape uses nothing else, so that whatever holds of it for
every source holds of the kernel's and of those in memory.
-/

namespace KernelStats

structure Entry where
  module : String
  inst : UInt32
  name : String
  snaptime : Int64
  slot : Nat
deriving DecidableEq

structure Session (σ : Type) where
  lookup : σ → String → UInt32 → GroupPattern → Except SourceError (List Entry) × σ
  /-- Refreshes a statistic; answers with the entry as it is afterwards. -/
  read : σ → Entry → Except SourceError Unit × Entry × σ
  value : σ → Entry → String → Except SourceError UInt64 × σ
  structured : σ → StructuredKind → Except SourceError StructuredStats × σ
  snapshotTime : σ → Entry → Int64 := fun _ e => e.snaptime

structure Source (ω σ : Type) extends Session σ where
  acquire : ω → Except SourceError σ × ω
  release : ω → σ → ω

inductive Query where
  | lookup (module : String) (inst : UInt32) (group : GroupPattern)
  | read (e : Entry)
  | value (e : Entry) (stat : String)
  | structured (kind : StructuredKind)
  | snapshotTime (e : Entry)

inductive Reply where
  | found (answer : Except SourceError (List Entry))
  | refreshed (answer : Except SourceError Unit) (e : Entry)
  | value (answer : Except SourceError UInt64)
  | structured (answer : Except SourceError StructuredStats)
  | time (t : Int64)

def Session.ask (s : Session σ) (state : σ) : Query → Reply × σ
  | .lookup module inst group =>
    let (answer, state) := s.lookup state module inst group
    (.found answer, state)
  | .read e =>
    let (answer, e, state) := s.read state e
    (.refreshed answer e, state)
  | .value e stat =>
    let (answer, state) := s.value state e stat
    (.value answer, state)
  | .structured kind =>
    let (answer, state) := s.structured state kind
    (.structured answer, state)
  | .snapshotTime e => (.time (s.snapshotTime state e), state)

end KernelStats
