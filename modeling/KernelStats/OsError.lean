/-!
# Errors of the operating system

The texts of the error numbers that opening, reading and writing can give.
-/

namespace KernelStats

def osReason : Nat → String
  | 2 => "No such file or directory"
  | 5 => "Input/output error"
  | 6 => "No such device or address"
  | 12 => "Cannot allocate memory"
  | 13 => "Permission denied"
  | 20 => "Not a directory"
  | 21 => "Is a directory"
  | 28 => "No space left on device"
  | code => "Unknown error " ++ toString code

def osError (code : Nat) : String := osReason code ++ " (os error " ++ toString code ++ ")"

end KernelStats
