import KernelStats.Schema.File
import KernelStats.Text.Utf8

/-!
# File trees

Files by their paths below a directory. What a path leads to is found component by component: one dot
stays, two dots go up, and only a directory has anything below it.
-/

namespace KernelStats

structure FileTree where
  files : List (List String × List UInt8)

namespace FileTree

def components (path : String) : List String :=
  (path.splitOn "/").filter fun c => !c.isEmpty

def ofTexts (files : List (String × String)) : FileTree where
  files := files.map fun (path, content) => (components path, Utf8.encode content)

inductive Node where
  | nothing
  | directory
  | file (bytes : List UInt8)

def node (t : FileTree) (place : List String) : Node :=
  match t.files.find? (·.1 == place) with
  | some (_, bytes) => .file bytes
  | none =>
    if place.isEmpty || t.files.any fun (file, _) => place.isPrefixOf file then .directory
    else .nothing

/-- Follows the components of a path from a place. A path that goes on after nothing or after a file is in
error; an empty component after a file asks for a directory. -/
def follow (t : FileTree) (place : List String) (path : List String) : File :=
  match t.node place, path with
  | .nothing, _ => .missing
  | .file bytes, [] => .content bytes
  | .file _, _ :: _ => .unreadable 20
  | .directory, [] => .directory
  | .directory, c :: rest =>
    t.follow (if c = "" ∨ c = "." then place else if c = ".." then place.dropLast else place ++ [c]) rest
termination_by path.length

/-- What a path leads to. A path that starts at the root leads out of the tree, where nothing is known but
the null device. -/
def find (t : FileTree) (path : String) : File :=
  match path.splitOn "/" with
  | "" :: rest => if rest = ["dev", "null"] then .content [] else .missing
  | cs => t.follow [] cs

end FileTree

end KernelStats
