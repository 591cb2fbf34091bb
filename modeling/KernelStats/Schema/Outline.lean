import KernelStats.Yaml.Tree
import KernelStats.Yaml.Value

/-!
# Outlines of schemas

An outline is a schema as it is written, before defaults. `Outline.ofTree` reads one from a tree. At each
level the keys of a mapping are read in order: a key must be the name of a field that has not been
given, and its value must have the shape of that field. The first fault ends the reading; it is told with
the path to the place where it was found.
-/

namespace KernelStats.Schema

open Yaml (Tree)

structure CounterOutline where
  id : String
  help : Option String := none
  suffix : Option String := none
  scale : Option Float := none

structure GroupOutline where
  id : String
  label : Option String := none
  counters : List CounterOutline := []

structure ModuleOutline where
  id : String
  groups : List GroupOutline := []

structure Outline where
  modules : List ModuleOutline := []

inductive Step where
  | key (name : String)
  | index (n : Nat)
  | nameless
deriving Repr, DecidableEq

abbrev Path := List Step

def Path.text : Path → String
  | [] => ""
  | .key name :: outer => if outer.isEmpty then name else Path.text outer ++ "." ++ name
  | .index n :: outer => Path.text outer ++ "[" ++ toString n ++ "]"
  | .nameless :: outer => if outer.isEmpty then "?" else Path.text outer ++ ".?"

inductive ShapeFault where
  | missingField (name : String)
  | duplicateField (name : String)
  | unknownField (name : String) (known : List String)
  | wrongType (found wanted : String)
deriving Repr, DecidableEq

def backquoted (s : String) : String := "\u0060" ++ s ++ "\u0060"

def expectedFields : List String → String
  | [a] => backquoted a
  | [a, b] => backquoted a ++ " or " ++ backquoted b
  | names => "one of " ++ ", ".intercalate (names.map backquoted)

def ShapeFault.message : ShapeFault → String
  | .missingField name => "missing field " ++ backquoted name
  | .duplicateField name => "duplicate field " ++ backquoted name
  | .unknownField name known => "unknown field " ++ backquoted name ++ ", expected " ++ expectedFields known
  | .wrongType found wanted => "invalid type: " ++ found ++ ", expected " ++ wanted

inductive ReadingError where
  | unreadable
  | fault (path : Path) (fault : ShapeFault)
deriving Repr, DecidableEq

def ReadingError.message? : ReadingError → Option String
  | .unreadable => none
  | .fault path f => some (if path.isEmpty then f.message else path.text ++ ": " ++ f.message)

abbrev Reader (α : Type) := Path → Tree → Except ReadingError α

def mismatch (wanted : String) : Reader α := fun path t =>
  match t with
  | .scalar s =>
    match s.value? with
    | some v => .error (.fault path (.wrongType v.describe wanted))
    | none => .error .unreadable
  | .sequence _ => .error (.fault path (.wrongType "sequence" wanted))
  | .mapping _ => .error (.fault path (.wrongType "map" wanted))
  | .broken => .error .unreadable

def readText (wanted : String) : Reader String := fun path t =>
  match t with
  | .scalar s => .ok s.text
  | t => mismatch wanted path t

def readFloat : Reader Float := fun path t =>
  match t with
  | .scalar s =>
    if s.style == .plain || (s.style == .literal && s.tag == some (Yaml.tagOf "float")) then
      match Yaml.floatOf? s.text with
      | some x => .ok x
      | none => mismatch "f64" path t
    else mismatch "f64" path t
  | t => mismatch "f64" path t

def readOptional (read : Reader α) : Reader (Option α) := fun path t =>
  match t with
  | .scalar s =>
    if s.style == .plain then
      match s.tag with
      | none =>
        if s.text.isEmpty || Yaml.isNullText s.text then .ok none else (read path t).map some
      | some tag =>
        if tag == Yaml.tagOf "null" then
          if Yaml.isNullText s.text then .ok none else .error .unreadable
        else (read path t).map some
    else (read path t).map some
  | t => (read path t).map some

def readItems (read : Reader α) (path : Path) : Nat → List Tree → Except ReadingError (List α)
  | _, [] => .ok []
  | n, t :: rest => do
    let x ← read (.index n :: path) t
    return x :: (← readItems read path (n + 1) rest)

def readList (read : Reader α) : Reader (List α) := fun path t =>
  match t with
  | .sequence items => readItems read path 0 items
  | .scalar s => if s.isEmptyPlain then .ok [] else mismatch "a sequence" path t
  | t => mismatch "a sequence" path t

structure Field (σ : Type) where
  name : String
  read : σ → Reader σ

def stepTo (e : Yaml.Entry Tree) : Step :=
  match e.key with
  | .scalar s => if e.direct then .key s.text else .nameless
  | _ => .nameless

def readEntries (fields : List (Field σ)) (path : Path) :
    List String → σ → List (Yaml.Entry Tree) → Except ReadingError σ
  | _, s, [] => .ok s
  | given, s, e :: rest => do
    let name ← readText "field identifier" path e.key
    match fields.find? (·.name == name) with
    | none => .error (.fault path (.unknownField name (fields.map (·.name))))
    | some f =>
      if given.contains name then .error (.fault path (.duplicateField name))
      else do
        let s ← f.read s (stepTo e :: path) e.value
        readEntries fields path (name :: given) s rest

def readRecord (wanted : String) (fields : List (Field σ)) (blank : σ) : Reader σ := fun path t =>
  match t with
  | .mapping entries => readEntries fields path [] blank entries
  | .scalar s => if s.isEmptyPlain then .ok blank else mismatch wanted path t
  | t => mismatch wanted path t

structure Named (σ : Type) where
  id : Option String := none
  rest : σ

def idField : Field (Named σ) :=
  { name := "id", read := fun s path t => return { s with id := some (← readText "a string" path t) } }

def readNamed (wanted : String) (fields : List (Field (Named σ))) (blank : σ)
    (build : String → σ → α) : Reader α := fun path t => do
  let s ← readRecord wanted (idField :: fields) { rest := blank } path t
  match s.id with
  | some id => return build id s.rest
  | none => .error (.fault path (.missingField "id"))

def field (name : String) (read : Reader α) (put : σ → α → σ) : Field (Named σ) :=
  { name, read := fun s path t => return { s with rest := put s.rest (← read path t) } }

def CounterOutline.read : Reader CounterOutline :=
  readNamed "struct RawCounter"
    [field "help" (readOptional (readText "a string")) fun c x => { c with help := x },
     field "suffix" (readOptional (readText "a string")) fun c x => { c with suffix := x },
     field "scale_factor" (readOptional readFloat) fun c x => { c with scale := x }]
    ({ id := "" } : CounterOutline)
    fun id c => { c with id }

def GroupOutline.read : Reader GroupOutline :=
  readNamed "struct RawGroup"
    [field "label_string" (readOptional (readText "a string")) fun g x => { g with label := x },
     field "kstat_stats" (readList CounterOutline.read) fun g x => { g with counters := x }]
    ({ id := "" } : GroupOutline)
    fun id g => { g with id }

def ModuleOutline.read : Reader ModuleOutline :=
  readNamed "struct RawModule"
    [field "kstat_names" (readList GroupOutline.read) fun m x => { m with groups := x }]
    ({ id := "" } : ModuleOutline)
    fun id m => { m with id }

namespace Outline

def depth : Nat := 8

def ofTree (t : Tree) : Except ReadingError Outline :=
  readRecord "struct RawSchema"
    [{ name := "kstat_modules"
       read := fun o path t => return { o with modules := ← readList ModuleOutline.read path t } }]
    ({} : Outline) [] t

/-- Reads an outline from a text that holds a single document. A fault of shape is told before what
makes the text unreadable further on. -/
def ofText (text : String) : Except ReadingError Outline := do
  let d := Yaml.Document.ofText text
  let o ← ofTree (d.tree depth)
  if d.sound then return o else .error .unreadable

end Outline

end KernelStats.Schema
