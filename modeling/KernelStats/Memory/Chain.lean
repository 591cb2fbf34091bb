import KernelStats.Source.Structured

/-!
# Statistics in memory

A chain of statistics that is held in memory and can be changed at will, also so that reading it fails.
A change that names a statistic acts on the first one with that module, instance and name, and on nothing
if there is none.
-/

namespace KernelStats.Memory

inductive Value where
  | unsigned (n : UInt64)
  | signed (n : Int64)
  | text (s : String)
  | broken
deriving DecidableEq

structure Kstat where
  module : String
  inst : UInt32
  name : String
  snaptime : Int64
  stats : List (String × Value)
  unreadable : Bool := false
deriving DecidableEq

def Kstat.isAt (k : Kstat) (module : String) (inst : UInt32) (name : String) : Bool :=
  k.module = module ∧ k.inst = inst ∧ k.name = name

def setStat (stat : String) (v : Value) : List (String × Value) → List (String × Value)
  | [] => [(stat, v)]
  | (name, old) :: rest =>
    if name = stat then (name, v) :: rest else (name, old) :: setStat stat v rest

structure Data where
  chain : List Kstat := []
  vminfo : Option (Vminfo × Int64) := none
  unavailable : Bool := false
deriving DecidableEq

namespace Data

def addKstat (d : Data) (k : Kstat) : Data := { d with chain := d.chain ++ [k] }

def updateAt (d : Data) (module : String) (inst : UInt32) (name : String) (f : Kstat → Kstat) : Data :=
  { d with chain := d.chain.modify (d.chain.findIdx (·.isAt module inst name)) f }

def setValue (d : Data) (module : String) (inst : UInt32) (name stat : String) (v : Value) : Data :=
  d.updateAt module inst name fun k => { k with stats := setStat stat v k.stats }

def setUnreadable (d : Data) (module : String) (inst : UInt32) (name : String) : Data :=
  d.updateAt module inst name fun k => { k with unreadable := true }

def setVminfo (d : Data) (fields : Vminfo) (snaptime : Int64) : Data :=
  { d with vminfo := some (fields, snaptime) }

end Data

inductive Change where
  | addKstat (k : Kstat)
  | setValue (module : String) (inst : UInt32) (name stat : String) (v : Value)
  | setUnreadable (module : String) (inst : UInt32) (name : String)
  | setVminfo (fields : Vminfo) (snaptime : Int64)

def Change.apply (d : Data) : Change → Data
  | addKstat k => d.addKstat k
  | setValue module inst name stat v => d.setValue module inst name stat v
  | setUnreadable module inst name => d.setUnreadable module inst name
  | setVminfo fields snaptime => d.setVminfo fields snaptime

end KernelStats.Memory
