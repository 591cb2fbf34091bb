import KernelStats.Memory.Chain
import KernelStats.Source.Session

/-!
# Sessions over statistics in memory

A session sees the statistics as they were when it was opened. The slot of an entry is its place in the
chain. The calls are counted, whether they succeed or not; only an open that fails is not.
-/

namespace KernelStats

namespace Memory

namespace Data

def found (d : Data) (module : String) (inst : UInt32) (group : GroupPattern) : List (Kstat × Nat) :=
  d.chain.zipIdx.filter fun (k, _) => k.module = module ∧ k.inst = inst ∧ group.isMatch k.name

def lookup (d : Data) (module : String) (inst : UInt32) (group : GroupPattern) :
    Except SourceError (List Entry) :=
  match d.found module inst group with
  | [] => .error (.notFound module inst group.source)
  | found => .ok (found.map fun (k, slot) =>
    { module := k.module, inst := k.inst, name := k.name, snaptime := 0, slot })

def read (d : Data) (e : Entry) : Except SourceError Unit × Entry :=
  match d.chain[e.slot]? with
  | none => (.error (.notFound e.module e.inst e.name), e)
  | some k =>
    if k.unreadable then
      (.error (.read (SourceError.place k.module k.inst k.name ++ " is unreadable")), e)
    else (.ok (), { e with snaptime := k.snaptime })

def value (d : Data) (e : Entry) (stat : String) : Except SourceError UInt64 :=
  match (d.chain[e.slot]?).bind (·.stats.lookup stat) with
  | none => .error (.missingStat stat)
  | some (.unsigned n) => .ok n
  | some (.signed n) => if n < 0 then .error (.outOfRange stat n) else .ok n.toUInt64
  | some (.text _) => .error (.unsupportedType stat 9)
  | some .broken => .error (.read (stat ++ " vanished during read"))

def structured (d : Data) : StructuredKind → Except SourceError StructuredStats
  | .vminfo =>
    match d.vminfo with
    | some (fields, snaptime) => .ok (.vminfo fields snaptime)
    | none => .error (.read "unix:0:vminfo not present")

end Data

structure Calls where
  opens : Nat := 0
  closes : Nat := 0
  lookups : Nat := 0
  structured : Nat := 0
deriving DecidableEq

end Memory

structure Memory where
  data : Memory.Data := {}
  calls : Memory.Calls := {}

namespace Memory

def source : Source Memory Memory where
  lookup m module inst group :=
    (m.data.lookup module inst group,
      { m with calls := { m.calls with lookups := m.calls.lookups + 1 } })
  read m e :=
    let (answer, e) := m.data.read e
    (answer, e, m)
  value m e stat := (m.data.value e stat, m)
  structured m kind :=
    (m.data.structured kind,
      { m with calls := { m.calls with structured := m.calls.structured + 1 } })
  acquire m :=
    if m.data.unavailable then (.error (.unavailable "/dev/kstat not present"), m)
    else
      let m := { m with calls := { m.calls with opens := m.calls.opens + 1 } }
      (.ok m, m)
  release m session :=
    { m with calls := { session.calls with closes := session.calls.closes + 1 } }

end Memory

end KernelStats
