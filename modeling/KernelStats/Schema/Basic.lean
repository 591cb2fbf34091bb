import KernelStats.GroupPattern
import KernelStats.Number.Binary64
import KernelStats.Schema.Outline

/-!
# Schemas

A schema says which statistics are collected: modules of groups of counters, in the order in which they
are written. `Schema.ofOutline` fills in the defaults and refuses what cannot be used.
-/

namespace KernelStats.Schema

structure Counter where
  id : String
  help : String
  suffix : String
  scale : Float

structure Group where
  pattern : GroupPattern
  label : String
  counters : List Counter

def Group.id (g : Group) : String := g.pattern.source

structure Module where
  id : String
  groups : List Group

end Schema

structure Schema where
  modules : List Schema.Module

namespace Schema

def counterCount (s : Schema) : Nat :=
  ((s.modules.flatMap (·.groups)).flatMap (·.counters)).length

def defaultLabel : String := "instance"

def defaultSuffix : String := "total"

def address (module group counter : String) : String := module ++ "::" ++ group ++ ":" ++ counter

inductive Defect where
  | blankModule
  | blankGroup (module : String)
  | blankCounter (module group : String)
  | scale (module group counter : String)
  | other (text : String)
deriving Repr, DecidableEq

def Defect.message : Defect → String
  | .blankModule => "module with empty id"
  | .blankGroup module => "group with empty id in module " ++ module
  | .blankCounter module group => "counter with empty id in " ++ module ++ "::" ++ group
  | .scale module group counter => "non-finite scale_factor for " ++ address module group counter
  | .other text => text

inductive LoadError where
  | file (reason : String)
  | parse (e : ReadingError)
  | pattern (module group : String)
  | invalid (d : Defect)
deriving Repr, DecidableEq

/-- The message, as far as it is settled: the reason behind a pattern that cannot be read is left out,
and a text that is no document has none. -/
def LoadError.message? : LoadError → Option String
  | .file reason => some ("cannot read kstat schema: " ++ reason)
  | .parse e => e.message?.map ("malformed kstat schema: " ++ ·)
  | .pattern module group => some ("invalid group pattern " ++ module ++ "::" ++ group ++ ": ")
  | .invalid d => some ("invalid kstat schema: " ++ d.message)

def LoadError.hasCause : LoadError → Bool
  | .invalid _ => false
  | _ => true

def nonEmptyOr (default : String) : Option String → String
  | some s => if s.isEmpty then default else s
  | none => default

/-- A factor of zero counts as absent, and an absent one is one. -/
def scaleOr : Option Float → Float
  | some s => if Number.isZero s then 1.0 else s
  | none => 1.0

def Counter.ofOutline (module group : String) (o : CounterOutline) : Except LoadError Counter :=
  if isBlankText o.id then .error (.invalid (.blankCounter module group))
  else if Number.isFinite (scaleOr o.scale) then
    .ok {
      id := o.id
      help := nonEmptyOr (address module group o.id) o.help
      suffix := nonEmptyOr defaultSuffix o.suffix
      scale := scaleOr o.scale }
  else .error (.invalid (.scale module group o.id))

def Group.ofOutline (module : String) (o : GroupOutline) : Except LoadError Group :=
  if isBlankText o.id then .error (.invalid (.blankGroup module))
  else match GroupPattern.ofText? o.id with
  | none => .error (.pattern module o.id)
  | some pattern => do
    let counters ← o.counters.mapM (Counter.ofOutline module o.id)
    return { pattern, label := nonEmptyOr defaultLabel o.label, counters }

def Module.ofOutline (o : ModuleOutline) : Except LoadError Module :=
  if isBlankText o.id then .error (.invalid .blankModule)
  else do
    let groups ← o.groups.mapM (Group.ofOutline o.id)
    return { id := o.id, groups }

def ofOutline (o : Outline) : Except LoadError Schema := do
  return { modules := ← o.modules.mapM Module.ofOutline }

def ofText (text : String) : Except LoadError Schema :=
  match Outline.ofText text with
  | .error e => .error (.parse e)
  | .ok o => ofOutline o

end Schema

end KernelStats
