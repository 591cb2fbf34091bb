import KernelStats.GroupPattern

/-!
# Structured statistics

A few statistics are kept by the kernel as one record of fixed layout and have no names of their own.
`StructuredKind.route?` says which groups mean such a record, `StructuredStats.get?` gives its fields names.
-/

namespace KernelStats

structure Vminfo where
  freemem : UInt64 := 0
  swapResv : UInt64 := 0
  swapAlloc : UInt64 := 0
  swapAvail : UInt64 := 0
  swapFree : UInt64 := 0
  updates : UInt64 := 0
deriving DecidableEq

def Vminfo.get? (v : Vminfo) : String → Option UInt64
  | "freemem" => some v.freemem
  | "swap_resv" => some v.swapResv
  | "swap_alloc" => some v.swapAlloc
  | "swap_avail" => some v.swapAvail
  | "swap_free" => some v.swapFree
  | "updates" => some v.updates
  | _ => none

inductive StructuredKind where
  | vminfo
deriving DecidableEq

namespace StructuredKind

def name : StructuredKind → String
  | vminfo => "vminfo"

def module : StructuredKind → String
  | vminfo => "unix"

def route? (module : String) (group : GroupPattern) : Option StructuredKind :=
  if module = vminfo.module ∧ group.isMatch vminfo.name then some vminfo else none

end StructuredKind

inductive StructuredStats where
  | vminfo (fields : Vminfo) (snaptime : Int64)
deriving DecidableEq

namespace StructuredStats

def get? (id : String) : StructuredStats → Option UInt64
  | vminfo fields _ => fields.get? id

def snaptime : StructuredStats → Int64
  | vminfo _ t => t

end StructuredStats

end KernelStats
