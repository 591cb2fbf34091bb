import KernelStats.Yaml.Event

/-!
# Nodes of a YAML document

Events are folded into nodes with a stack of open collections. A document that cannot be read to its
end has `broken` nodes where it stops. Aliases refer to anchors by number, and anchors are numbered by
the count of names known so far.
-/

namespace KernelStats.Yaml

inductive Node where
  | scalar (s : Scalar)
  | sequence (items : List Node)
  | mapping (entries : List (Node × Node))
  | alias (number : Nat)
  | broken

structure Anchored where
  number : Nat
  place : Nat
  node : Node

inductive CollectionKind where
  | sequence
  | mapping

structure OpenCollection where
  kind : CollectionKind
  anchor : Option (Nat × Nat)
  nodes : List Node := []

def pairUp : List Node → List (Node × Node)
  | key :: value :: rest => (key, value) :: pairUp rest
  | [key] => [(key, .broken)]
  | [] => []

def OpenCollection.close (c : OpenCollection) : Node :=
  match c.kind with
  | .sequence => .sequence c.nodes.reverse
  | .mapping => .mapping (pairUp c.nodes.reverse)

structure Builder where
  outside : List OpenCollection := []
  root : Option Node := none
  names : List (String × Nat) := []
  anchored : List Anchored := []
  place : Nat := 0

namespace Builder

def register (b : Builder) : Option String → Option (Nat × Nat) × Builder
  | none => (none, b)
  | some name =>
    let number := b.names.length
    (some (number, b.place), { b with names := (name, number) :: b.names.filter (·.1 != name) })

def addNode (b : Builder) (n : Node) : Builder :=
  match b.outside with
  | [] => { b with root := some n }
  | c :: rest => { b with outside := { c with nodes := n :: c.nodes } :: rest }

def keep (b : Builder) (anchor : Option (Nat × Nat)) (n : Node) : Builder :=
  match anchor with
  | none => b
  | some (number, place) => { b with anchored := ⟨number, place, n⟩ :: b.anchored }

def openCollection (b : Builder) (kind : CollectionKind) (anchor : Option String) : Builder :=
  let (anchor, b) := b.register anchor
  { b with outside := { kind, anchor } :: b.outside }

def closeCollection (b : Builder) : Builder :=
  match b.outside with
  | [] => b
  | c :: rest => (({ b with outside := rest } : Builder).keep c.anchor c.close).addNode c.close

def add? (b : Builder) (e : Event) : Option Builder :=
  let added : Option Builder := match e with
    | .alias name => (b.names.find? (·.1 == name)).map fun entry => b.addNode (.alias entry.2)
    | .scalar s anchor =>
      let (anchor, b) := b.register anchor
      some ((b.keep anchor (.scalar s)).addNode (.scalar s))
    | .sequenceStart anchor => some (b.openCollection .sequence anchor)
    | .mappingStart anchor => some (b.openCollection .mapping anchor)
    | .sequenceEnd => some b.closeCollection
    | .mappingEnd => some b.closeCollection
  added.map fun b => { b with place := b.place + 1 }

def addAll (b : Builder) : List Event → Builder × Bool
  | [] => (b, true)
  | e :: rest =>
    match b.add? e with
    | some b => addAll b rest
    | none => (b, false)

def breakOff : List OpenCollection → Builder → Builder
  | [], b => if b.root.isNone then { b with root := some .broken } else b
  | c :: rest, b =>
    let node := ({ c with nodes := .broken :: c.nodes } : OpenCollection).close
    let b := ({ b with outside := rest } : Builder).keep c.anchor node
    breakOff (match rest with
      | [] => []
      | o :: rest => { o with nodes := node :: o.nodes } :: rest)
      (match rest with
      | [] => { b with root := some node }
      | _ => b)
termination_by outside => outside.length
decreasing_by cases rest <;> simp_all

end Builder

structure Document where
  root : Node
  anchored : List Anchored
  eventCount : Nat
  sound : Bool

namespace Document

/-- Reads a document. Where the text holds none, its root is an empty scalar. -/
def ofStream (s : Stream) : Document :=
  let (b, known) := ({} : Builder).addAll s.events
  let empty := s.complete && s.events.isEmpty
  let b := if empty || (known && s.complete) then b else Builder.breakOff b.outside b
  { root := b.root.getD (.scalar { text := "", style := .plain })
    anchored := b.anchored
    eventCount := if empty then 1 else b.place
    sound := known && s.complete && s.single }

def ofText (text : String) : Document := ofStream (.ofText text)

def target (d : Document) (number : Nat) : Node :=
  match d.anchored.filter (·.number == number) with
  | [] => .broken
  | a :: rest => (rest.foldl (fun best a => if best.place < a.place then a else best) a).node

end Document

end KernelStats.Yaml
