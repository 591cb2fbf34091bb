/-!
# Log lines
-/

namespace KernelStats

inductive Level where
  | error | warn | info | debug | trace
deriving DecidableEq

namespace Level

def rank : Level → Nat
  | error => 0
  | warn => 1
  | info => 2
  | debug => 3
  | trace => 4

def isShown (l shown : Level) : Bool := l.rank ≤ shown.rank

def name : Level → String
  | error => "ERROR"
  | warn => "WARN"
  | info => "INFO"
  | debug => "DEBUG"
  | trace => "TRACE"

end Level

structure LogLine where
  level : Level
  text : String
deriving DecidableEq

end KernelStats
