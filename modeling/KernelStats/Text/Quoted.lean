import KernelStats.Unicode.Category
import KernelStats.Unicode.Binary

/-!
# Quoted text

A text in double quotes in which every character shows: quotes, backslashes and the common control
characters are escaped by a letter, other characters without a shape of their own by their code.
-/

namespace KernelStats.Quoted

def unprintable : List Unicode.Ranges :=
  ["cc", "cf", "cn", "co", "zl", "zp", "zs"].filterMap (Unicode.Property.find? Unicode.categories)

def extending : Unicode.Ranges :=
  (Unicode.Property.find? Unicode.binaryProperties "graphemeextend").getD []

def isPrintable (c : Char) : Bool :=
  if c.toNat < 0x7F then 0x20 ≤ c.toNat
  else !extending.contains c && !unprintable.any (·.contains c)

def hexadecimal (n : Nat) : String := .ofList (Nat.toDigits 16 n)

def escape (c : Char) : String :=
  match c with
  | '\x00' => "\\0"
  | '\t' => "\\t"
  | '\r' => "\\r"
  | '\n' => "\\n"
  | '"' => "\\\""
  | '\\' => "\\\\"
  | c => if isPrintable c then c.toString else "\\u\x7b" ++ hexadecimal c.toNat ++ "\x7d"

def quote (text : String) : String :=
  "\"" ++ String.join (text.toList.map escape) ++ "\""

end KernelStats.Quoted
