import KernelStats.OsError
import KernelStats.Schema.Basic
import KernelStats.Text.Utf8

/-!
# Schema files

A schema is loaded from what the file system has under a path: bytes, which have to be UTF-8, or an error
of the system, as for a path that leads to nothing or to a directory.
-/

namespace KernelStats

inductive File where
  | content (bytes : List UInt8)
  | unreadable (code : Nat)

namespace File

def missing : File := .unreadable 2

def directory : File := .unreadable 21

def text : File → Except String String
  | unreadable code => .error (osError code)
  | content bytes =>
    match Utf8.decode? bytes with
    | some s => .ok s
    | none => .error "stream did not contain valid UTF-8"

end File

def Schema.load (f : File) : Except Schema.LoadError Schema :=
  match f.text with
  | .error reason => .error (.file reason)
  | .ok text => Schema.ofText text

end KernelStats
