import KernelStats.Number.Word
import KernelStats.OsError
import KernelStats.Source.Structured
import KernelStats.Text.Utf8

/-!
# The kernel's chain of statistics

What the kernel keeps for each statistic: a header with a name in bytes, ended by a zero byte, and data
that reading attaches to it. Data are a list of named values or plain bytes. `Kernel.find?` is the exact
search by bytes.
-/

namespace KernelStats.Kernel

def nameBytes (bytes : List UInt8) : List UInt8 := bytes.takeWhile (· != 0)

def nameText (bytes : List UInt8) : String := Utf8.decodeLossy (nameBytes bytes)

def nameOf? (s : String) : Option (List UInt8) :=
  let bytes := Utf8.encode s
  if bytes.contains 0 then none else some bytes

def namedType : UInt8 := 1

structure Datum where
  name : List UInt8
  dataType : UInt8
  word : UInt64
deriving DecidableEq

def Datum.int? (d : Datum) : Option Int :=
  match d.dataType with
  | 1 => some d.word.toUInt32.toInt32.toInt
  | 2 => some d.word.toUInt32.toNat
  | 3 => some d.word.toInt64.toInt
  | 4 => some d.word.toNat
  | _ => none

def nameField (length : Nat) (name : List UInt8) : List UInt8 :=
  let bytes := (nameBytes name).take length
  bytes ++ List.replicate (length - bytes.length) 0

/-- A named value as it lies in memory: the name in 31 bytes, the type, and 16 bytes for the value. -/
def Datum.bytes (d : Datum) : List UInt8 :=
  nameField 31 d.name ++ [d.dataType] ++ Number.bytesOfWord d.word ++ List.replicate 8 0

inductive Payload where
  | named (data : List Datum)
  | raw (bytes : List UInt8)
deriving DecidableEq

namespace Payload

def ofWords (words : List UInt64) (size : Option Nat) : Payload :=
  let bytes := words.flatMap Number.bytesOfWord
  let size := size.getD bytes.length
  .raw (bytes.take size ++ List.replicate (size - bytes.length) 0)

/-- Whether reading attaches the data: an empty list of named values is no data. -/
def isAttached : Payload → Bool
  | named data => !data.isEmpty
  | raw _ => true

def bytes : Payload → List UInt8
  | named data => data.flatMap Datum.bytes
  | raw bytes => bytes

def find? (name : List UInt8) : Payload → Option Datum
  | named data => data.find? (nameBytes ·.name == name)
  | raw _ => none

end Payload

structure Kstat where
  module : List UInt8
  inst : Int32
  name : List UInt8
  type : UInt8
  snaptime : Int64
  readError : Nat
  readSnaptime : Int64
  payload : Option Payload
deriving DecidableEq

def Kstat.hasBytes (k : Kstat) (module : List UInt8) (inst : Int) (name : List UInt8) : Bool :=
  nameBytes k.module = module ∧ k.inst.toInt = inst ∧ nameBytes k.name = name

def Kstat.belongs (k : Kstat) (module : String) (inst : Int) (group : GroupPattern) : Bool :=
  k.inst.toInt = inst ∧ nameText k.module = module ∧ group.isMatch (nameText k.name)

end KernelStats.Kernel
