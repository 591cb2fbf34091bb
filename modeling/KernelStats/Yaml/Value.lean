import KernelStats.Number.Decimal
import KernelStats.Text.Quoted
import KernelStats.Yaml.Event

/-!
# Values of scalars

A plain scalar stands for nothing, a truth value, a number or its own text, by its form. A tag can say
which it is, and then the form has to agree. `Scalar.value?` is that reading, and `Value.describe` names
what was found where something else was expected.
-/

namespace KernelStats.Yaml

inductive Value where
  | null
  | bool (b : Bool)
  | int (n : Int)
  | float (x : Float)
  | text (s : String)

def tagOf (name : String) : String := "tag:yaml.org,2002:" ++ name

def isNullText (s : String) : Bool := s == "~" || s == "null" || s == "Null" || s == "NULL"

def boolOf? (s : String) : Option Bool :=
  if s == "true" || s == "True" || s == "TRUE" then some true
  else if s == "false" || s == "False" || s == "FALSE" then some false
  else none

def hasLeadingZero (text : List Char) : Bool :=
  let digits := match text with
    | '-' :: rest => rest
    | '+' :: rest => rest
    | rest => rest
  match digits with
  | '0' :: d :: rest => (d :: rest).all Char.isDigit
  | _ => false

def digitOf? (base : Nat) (c : Char) : Option Nat :=
  (hexadecimalDigit? c).bind fun d => if d < base then some d else none

def natOf? (base : Nat) (digits : List Char) : Option Nat :=
  if digits.isEmpty then none
  else (digits.mapM (digitOf? base)).map fun ds => ds.foldl (fun n d => base * n + d) 0

def magnitudeOf? : List Char → Option Nat
  | '0' :: 'x' :: digits => natOf? 16 digits
  | '0' :: 'o' :: digits => natOf? 8 digits
  | '0' :: 'b' :: digits => natOf? 2 digits
  | digits => natOf? 10 digits

def intOf? (s : String) : Option Int :=
  if hasLeadingZero s.toList then none
  else match s.toList with
  | '-' :: rest => (magnitudeOf? rest).bind fun n => if n ≤ 2 ^ 127 then some (-n) else none
  | '+' :: rest => (magnitudeOf? rest).bind fun n => if n < 2 ^ 128 then some n else none
  | rest => (magnitudeOf? rest).bind fun n => if n < 2 ^ 128 then some n else none

def floatOf? (s : String) : Option Float :=
  let unsigned := match s.toList with
    | '+' :: rest => .ofList rest
    | _ => s
  if unsigned == ".inf" || unsigned == ".Inf" || unsigned == ".INF" then
    some (.ofBits 0x7FF0000000000000)
  else if s == "-.inf" || s == "-.Inf" || s == "-.INF" then some (.ofBits 0xFFF0000000000000)
  else if s == ".nan" || s == ".NaN" || s == ".NAN" then some (.ofBits 0x7FF8000000000000)
  else (Number.readDecimal? s.toList).bind fun x => if Number.isFinite x then some x else none

def Value.ofPlain (s : String) : Value :=
  if s.isEmpty || isNullText s then .null
  else match boolOf? s with
  | some b => .bool b
  | none =>
    match intOf? s with
    | some n => .int n
    | none =>
      if hasLeadingZero s.toList then .text s
      else match floatOf? s with
      | some x => .float x
      | none => .text s

def Scalar.value? (s : Scalar) : Option Value :=
  match s.tag with
  | none => some (if s.style == .plain then .ofPlain s.text else .text s.text)
  | some tag =>
    if tag == tagOf "bool" then (boolOf? s.text).map .bool
    else if tag == tagOf "int" then (intOf? s.text).map .int
    else if tag == tagOf "float" then (floatOf? s.text).map .float
    else if tag == tagOf "null" then if isNullText s.text then some .null else none
    else if tag.toList.head? == some '!' && s.style == .plain then some (.ofPlain s.text)
    else some (.text s.text)

def intWidth (n : Int) : String :=
  if n < -2 ^ 63 then " as i128" else if 2 ^ 64 ≤ n then " as u128" else ""

def Value.describe : Value → String
  | .null => "unit value"
  | .bool b => "boolean \u0060" ++ (if b then "true" else "false") ++ "\u0060"
  | .int n => "integer \u0060" ++ toString n ++ "\u0060" ++ intWidth n
  | .float x =>
    let digits := Number.decimal x
    let pointed := if Number.isFinite x && !digits.toList.contains '.' then digits ++ ".0" else digits
    "floating point \u0060" ++ pointed ++ "\u0060"
  | .text s => "string " ++ Quoted.quote s

def Scalar.isEmptyPlain (s : Scalar) : Bool := s.text.isEmpty && s.style == .plain

end KernelStats.Yaml
