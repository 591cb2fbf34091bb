import KernelStats.Kernel.Chain
import KernelStats.Source.Session

/-!
# Sessions of the kernel

A session has a chain of its own, whose headers change as its statistics are read, and a table of the
statistics that its lookups have found. The slot of an entry is a place in that table, so that the entry
means the same statistic for as long as the session lives. An id that is no pattern is looked up by its
bytes; for a pattern the whole chain is searched.
-/

namespace KernelStats

namespace Kernel

structure Link where
  kstat : Kstat
  snaptime : Int64
  payload : Option Payload := none
deriving DecidableEq

def Link.ofKstat (k : Kstat) : Link := { kstat := k, snaptime := k.snaptime }

def Link.refreshed (l : Link) : Link :=
  { l with
    snaptime := l.kstat.readSnaptime
    payload := l.kstat.payload.filter Payload.isAttached }

structure Live where
  chain : List Link
  handles : Array Nat := #[]
deriving DecidableEq

/-- The largest number of an instance that the kernel can be asked for. -/
def maxInstance : Nat := 2 ^ 31 - 1

namespace Live

def findExact? (s : Live) (module : String) (inst : Nat) (name : String) : Option Nat := do
  let module ← nameOf? module
  let name ← nameOf? name
  s.chain.findIdx? (·.kstat.hasBytes module inst name)

def findAll (s : Live) (module : String) (inst : Nat) (group : GroupPattern) : List Nat :=
  match group.literal? with
  | some name => (s.findExact? module inst name).toList
  | none => (s.chain.zipIdx.filter fun (l, _) => l.kstat.belongs module inst group).map (·.2)

def entry (s : Live) (module : String) (inst : UInt32) (place slot : Nat) : Entry where
  module := module
  inst := inst
  name := (s.chain[place]?.map fun l => nameText l.kstat.name).getD ""
  snaptime := (s.chain[place]?.map (·.snaptime)).getD 0
  slot := slot

def lookup (s : Live) (module : String) (inst : UInt32) (group : GroupPattern) :
    Except SourceError (List Entry) × Live :=
  if maxInstance < inst.toNat then (.error (.notFound module inst group.source), s)
  else match s.findAll module inst.toNat group with
  | [] => (.error (.notFound module inst group.source), s)
  | places =>
    (.ok (places.zipIdx.map fun (place, i) => s.entry module inst place (s.handles.size + i)),
      { s with handles := s.handles ++ places })

def resolve? (s : Live) (e : Entry) : Option (Nat × Link) := do
  let place ← s.handles[e.slot]?
  let link ← s.chain[place]?
  return (place, link)

def refresh (s : Live) (place : Nat) (l : Link) : Except SourceError Link × Live :=
  if l.kstat.readError = 0 then
    (.ok l.refreshed, { s with chain := s.chain.set place l.refreshed })
  else (.error (.read (osError l.kstat.readError)), s)

def read (s : Live) (e : Entry) : Except SourceError Unit × Entry × Live :=
  match s.resolve? e with
  | none => (.error (.notFound e.module e.inst e.name), e, s)
  | some (place, link) =>
    match s.refresh place link with
    | (.error cause, s) => (.error cause, e, s)
    | (.ok link, s) => (.ok (), { e with snaptime := link.snaptime }, s)

def valueIn (k : Kstat) (p : Payload) (stat : String) : Except SourceError UInt64 :=
  if k.type ≠ namedType then .error (.unsupportedType stat k.type)
  else match (nameOf? stat).bind fun name => p.find? name with
  | none => .error (.missingStat stat)
  | some d =>
    match d.int? with
    | none => .error (.unsupportedType stat d.dataType)
    | some n => if n < 0 then .error (.outOfRange stat (.ofInt n)) else .ok (.ofNat n.toNat)

def value (s : Live) (e : Entry) (stat : String) : Except SourceError UInt64 :=
  match s.resolve? e with
  | none => .error (.missingStat stat)
  | some (_, link) =>
    match link.payload with
    | none => .error (.read (SourceError.place e.module e.inst e.name ++ " has not been read"))
    | some p => valueIn link.kstat p stat

def vminfoOf? (bytes : List UInt8) : Option Vminfo :=
  let word := fun i => Number.wordOfBytes ((bytes.drop (8 * i)).take 8)
  if bytes.length < 48 then none
  else some {
    freemem := word 0
    swapResv := word 1
    swapAlloc := word 2
    swapAvail := word 3
    swapFree := word 4
    updates := word 5 }

def structured (s : Live) (kind : StructuredKind) : Except SourceError StructuredStats × Live :=
  match (s.findExact? kind.module 0 kind.name).bind fun place => s.chain[place]?.map (place, ·) with
  | none => (.error (.notFound kind.module 0 kind.name), s)
  | some (place, link) =>
    match s.refresh place link with
    | (.error cause, s) => (.error cause, s)
    | (.ok link, s) =>
      let bytes := (link.payload.map Payload.bytes).getD []
      match vminfoOf? bytes with
      | some fields => (.ok (.vminfo fields link.snaptime), s)
      | none =>
        (.error (.read (kind.name ++ " is " ++ toString bytes.length ++ " bytes")), s)

end Live

end Kernel

structure Kernel where
  chain : List Kernel.Kstat
  openError : Nat := 0
  opens : Nat := 0
  closes : Nat := 0

namespace Kernel

def source : Source Kernel Live where
  lookup := Live.lookup
  read := Live.read
  value s e stat := (s.value e stat, s)
  structured := Live.structured
  acquire k :=
    if k.openError = 0 then
      (.ok { chain := k.chain.map .ofKstat }, { k with opens := k.opens + 1 })
    else (.error (.unavailable (osError k.openError)), k)
  release k _ := { k with closes := k.closes + 1 }

end Kernel

end KernelStats
