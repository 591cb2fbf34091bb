import KernelStats.Yaml.Node

/-!
# Trees of YAML values

A tree is a document with its aliases replaced by what they stand for. The number of aliases followed
is limited by the size of the document, and nothing is looked at deeper than a given depth; beyond the
limits a tree is `broken`, as it is where the document could not be read.
-/

namespace KernelStats.Yaml

structure Entry (α : Type) where
  key : α
  value : α
  /-- Whether the key is written in its place and not taken from elsewhere by an alias. -/
  direct : Bool := true
deriving Repr

inductive Tree where
  | scalar (s : Scalar)
  | sequence (items : List Tree)
  | mapping (entries : List (Entry Tree))
  | broken
deriving Repr

namespace Document

abbrev Budget := StateM Nat

def follow (d : Document) : Node → Budget Node
  | .alias number => do
    let left ← get
    if left = 0 then return .broken
    else
      set (left - 1)
      return d.target number
  | n => return n

def isAlias : Node → Bool
  | .alias _ => true
  | _ => false

def expand (d : Document) : Nat → Node → Budget Tree
  | 0, _ => return .broken
  | depth + 1, n => do
    match ← d.follow n with
    | .scalar s => return .scalar s
    | .sequence items => return .sequence (← items.mapM (d.expand depth))
    | .mapping entries =>
      return .mapping (← entries.mapM fun (key, value) => do
        let keyTree ← d.expand depth key
        let valueTree ← d.expand depth value
        return { key := keyTree, value := valueTree, direct := !isAlias key })
    | .alias _ => return .broken
    | .broken => return .broken

/-- The tree of a document. A hundred aliases may be followed for each of its events. -/
def tree (d : Document) (depth : Nat) : Tree := (d.expand depth d.root |>.run (100 * d.eventCount)).1

end Document

end KernelStats.Yaml
