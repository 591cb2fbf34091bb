/-!
# Errors of a source

What can go wrong between a collector and a source of statistics. `notFound` is the one that ends an
enumeration of instances.
-/

namespace KernelStats

inductive SourceError where
  | unavailable (reason : String)
  | notFound (module : String) (inst : UInt32) (group : String)
  | missingStat (stat : String)
  | unsupportedType (stat : String) (dataType : UInt8)
  | outOfRange (stat : String) (value : Int64)
  | read (reason : String)
deriving DecidableEq

namespace SourceError

def isNotFound : SourceError → Bool
  | notFound .. => true
  | _ => false

def place (module : String) (inst : UInt32) (group : String) : String :=
  module ++ ":" ++ toString inst.toNat ++ ":" ++ group

def message : SourceError → String
  | unavailable reason => "kstat unavailable: " ++ reason
  | notFound module inst group => "no kstat " ++ place module inst group
  | missingStat stat => "no statistic named " ++ stat
  | unsupportedType stat dataType =>
    "statistic " ++ stat ++ " has non-numeric type " ++ toString dataType.toNat
  | outOfRange stat value => "statistic " ++ stat ++ " is negative (" ++ toString value.toInt ++ ")"
  | read reason => "kstat read failed: " ++ reason

end SourceError

inductive CollectError where
  | unopened (cause : SourceError)
deriving DecidableEq

namespace CollectError

def cause : CollectError → SourceError
  | unopened e => e

def message : CollectError → String
  | unopened e => "cannot open kstat session: " ++ e.message

end CollectError

end KernelStats
