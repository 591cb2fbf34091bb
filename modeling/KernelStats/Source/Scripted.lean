import KernelStats.Source.Session

/-!
# Sources that follow a script

A script says how a source answers, by rules: the first rule that fits a call settles the answer, and
without one a call succeeds in a plain way. Such a source can give every answer that a source can give,
among them those that the kernel gives only when something breaks.
-/

namespace KernelStats.Scripted

def fits [BEq α] (key : Option α) (x : α) : Bool := key.all (· == x)

structure LookupRule where
  module : Option String
  inst : Option UInt32
  group : Option String
  answer : Except SourceError (List Entry)

structure ReadRule where
  inst : Option UInt32
  name : Option String
  answer : Except SourceError (Option Int64)

structure ValueRule where
  inst : Option UInt32
  name : Option String
  stat : Option String
  answer : Except SourceError UInt64

structure Script where
  limit : UInt32
  openError : Option SourceError
  structuredError : Option SourceError
  lookups : List LookupRule
  reads : List ReadRule
  values : List ValueRule

structure Calls where
  opens : Nat := 0
  closes : Nat := 0
  lookups : Nat := 0
  reads : Nat := 0
  values : Nat := 0
  structured : Nat := 0
deriving DecidableEq

namespace Script

def lookup (s : Script) (module : String) (inst : UInt32) (group : GroupPattern) :
    Except SourceError (List Entry) :=
  match s.lookups.find? fun r =>
    fits r.module module && fits r.inst inst && fits r.group group.source with
  | some r => r.answer
  | none =>
    if inst < s.limit then
      .ok [{ module, inst, name := group.source, snaptime := .ofNat inst.toNat, slot := 0 }]
    else .error (.notFound module inst group.source)

def read (s : Script) (e : Entry) : Except SourceError Unit × Entry :=
  match s.reads.find? fun r => fits r.inst e.inst && fits r.name e.name with
  | none | some { answer := .ok none, .. } => (.ok (), e)
  | some { answer := .ok (some time), .. } => (.ok (), { e with snaptime := time })
  | some { answer := .error cause, .. } => (.error cause, e)

def value (s : Script) (e : Entry) (stat : String) : Except SourceError UInt64 :=
  match s.values.find? fun r => fits r.inst e.inst && fits r.name e.name && fits r.stat stat with
  | some r => r.answer
  | none => .ok 1

def structured (s : Script) : StructuredKind → Except SourceError StructuredStats
  | .vminfo =>
    match s.structuredError with
    | some cause => .error cause
    | none => .ok (.vminfo {} (-1))

def source (s : Script) : Source Calls Calls where
  lookup calls module inst group :=
    (s.lookup module inst group, { calls with lookups := calls.lookups + 1 })
  read calls e :=
    let (answer, e) := s.read e
    (answer, e, { calls with reads := calls.reads + 1 })
  value calls e stat := (s.value e stat, { calls with values := calls.values + 1 })
  structured calls kind := (s.structured kind, { calls with structured := calls.structured + 1 })
  acquire calls :=
    match s.openError with
    | some cause => (.error cause, calls)
    | none =>
      let calls := { calls with opens := calls.opens + 1 }
      (.ok calls, calls)
  release _ calls := { calls with closes := calls.closes + 1 }

end Script

end KernelStats.Scripted
