import KernelStats.Metric.Descriptor
import KernelStats.Number.Decimal

/-!
# Samples

A sample is a value in a series, with the value of the series' label. It is written as one line,
`name{label="value"} number`, and nothing in it is escaped.
-/

namespace KernelStats

structure Sample where
  desc : Descriptor
  labelValue : String
  value : Float

namespace Sample

def series (s : Sample) : String :=
  s.desc.name ++ "\x7b" ++ s.desc.label ++ "=\"" ++ s.labelValue ++ "\"\x7d "

def line (s : Sample) : String := s.series ++ Number.decimal s.value

end Sample

instance : ToString Sample := ⟨Sample.line⟩

/-- A raw value in the unit of its metric: scaled, and cut to a whole number toward zero. -/
def scaleValue (raw : UInt64) (scale : Float) : Float := Number.truncate (raw.toFloat * scale)

end KernelStats
