import KernelStats.Proofs.Traversal
import KernelStats.Schema.Outline

/-!
# What the readers of an outline take

A reader takes the trees of one shape and makes of each what is written in it; every other tree is an
error. A record is taken if each of its keys is the name of a field, none is given twice, and each value
has the shape of its field. What is read is then the same as if every field were looked up by its name.
-/

namespace KernelStats

namespace Yaml

def Scalar.isNullTagged (s : Scalar) : Bool := s.style == .plain && s.tag == some (tagOf "null")

def Scalar.isAbsent (s : Scalar) : Bool :=
  s.style == .plain &&
    ((s.tag == none && (s.text.isEmpty || isNullText s.text)) ||
      (s.isNullTagged && isNullText s.text))

namespace Tree

def isNullTagged : Tree → Bool
  | .scalar s => s.isNullTagged
  | _ => false

def isAbsent : Tree → Bool
  | .scalar s => s.isAbsent
  | _ => false

def text? : Tree → Option String
  | .scalar s => some s.text
  | _ => none

def number? : Tree → Option Float
  | .scalar s =>
    if s.style == .plain || (s.style == .literal && s.tag == some (tagOf "float")) then
      floatOf? s.text
    else none
  | _ => none

def items? : Tree → Option (List Tree)
  | .sequence items => some items
  | .scalar s => if s.isEmptyPlain then some [] else none
  | _ => none

end Tree

def Entry.name? (e : Entry Tree) : Option String := e.key.text?

def valueIn? (entries : List (Entry Tree)) (name : String) : Option Tree :=
  (entries.find? fun e => e.name? = some name).map (·.value)

theorem valueIn?_cons (e : Entry Tree) (entries : List (Entry Tree)) (name : String) :
    valueIn? (e :: entries) name =
      if e.name? = some name then some e.value else valueIn? entries name := by
  by_cases h : e.name? = some name <;> simp [valueIn?, h]

theorem valueIn?_eq_none {entries : List (Entry Tree)} {name : String}
    (h : ∀ e ∈ entries, e.name? ≠ some name) : valueIn? entries name = none := by
  rw [valueIn?, Option.map_eq_none_iff, List.find?_eq_none]
  simpa using h

theorem valueIn?_of_mem {entries : List (Entry Tree)} {name : String}
    (h : ∃ e ∈ entries, e.name? = some name) :
    ∃ e ∈ entries, e.name? = some name ∧ valueIn? entries name = some e.value := by
  obtain ⟨e, he, hname⟩ := h
  obtain ⟨first, hfirst⟩ : ∃ first, entries.find? (fun e => e.name? = some name) = some first :=
    Option.isSome_iff_exists.mp (List.find?_isSome.mpr ⟨e, he, decide_eq_true hname⟩)
  exact ⟨first, List.mem_of_find?_eq_some hfirst, by simpa using List.find?_some hfirst,
    congrArg (Option.map _) hfirst⟩

end Yaml

namespace Schema

open Yaml (Tree valueIn?)

theorem mismatch_ne_ok (wanted : String) (path : Path) (t : Tree) (a : α) :
    mismatch wanted path t ≠ .ok a := by
  cases t with
  | scalar s =>
    rw [mismatch]
    cases s.value? <;> exact nofun
  | _ => exact nofun

theorem readText_eq_ok_iff {wanted : String} {path : Path} {t : Tree} {text : String} :
    readText wanted path t = .ok text ↔ t.text? = some text := by
  cases t with
  | scalar s => simp [readText, Tree.text?]
  | _ => simp [readText, mismatch, Tree.text?]

theorem readFloat_eq_ok_iff {path : Path} {t : Tree} {x : Float} :
    readFloat path t = .ok x ↔ t.number? = some x := by
  cases t with
  | scalar s =>
    rw [readFloat, Tree.number?]
    by_cases h : (s.style == .plain ||
        (s.style == .literal && s.tag == some (Yaml.tagOf "float"))) = true
    · rw [if_pos h, if_pos h]
      cases Yaml.floatOf? s.text with
      | some y => simp
      | none => simp [mismatch_ne_ok]
    · rw [if_neg h, if_neg h]
      simp [mismatch_ne_ok]
  | _ => simp [readFloat, mismatch, Tree.number?]

/-- A reader takes the trees of a shape, and makes of each what a view of it shows. -/
def Reader.Takes (read : Reader α) (shape : Tree → Prop) (view : Tree → α) : Prop :=
  ∀ path t a, read path t = .ok a ↔ shape t ∧ view t = a

namespace Reader.Takes

variable {read : Reader α} {shape : Tree → Prop} {view : Tree → α}

theorem isOk_iff (h : read.Takes shape view) (path : Path) (t : Tree) :
    (∃ a, read path t = .ok a) ↔ shape t := by
  simp [h path t]

end Reader.Takes

def optionalView (view? : Tree → Option α) (t : Tree) : Option α :=
  if t.isAbsent then none else view? t

def OptionalShape (view? : Tree → Option α) (t : Tree) : Prop :=
  t.isAbsent = true ∨ t.isNullTagged = false ∧ (view? t).isSome = true

theorem readOptional_eq (read : Reader α) (path : Path) (t : Tree) :
    readOptional read path t =
      if t.isAbsent then .ok none
      else if t.isNullTagged then .error .unreadable
      else (read path t).map some := by
  cases t with
  | scalar s =>
    obtain ⟨text, style, tag⟩ := s
    rw [readOptional]
    simp only [Tree.isAbsent, Tree.isNullTagged, Yaml.Scalar.isAbsent, Yaml.Scalar.isNullTagged]
    by_cases hp : (style == .plain) = true
    · cases tag with
      | none => simp [hp]
      | some tag =>
        by_cases ht : tag = Yaml.tagOf "null"
        · by_cases hn : Yaml.isNullText text = true <;> simp [hp, ht, hn]
        · simp [hp, ht]
    · simp [hp]
  | _ => rfl

theorem takes_readOptional {read : Reader α} {view? : Tree → Option α}
    (h : ∀ path t a, read path t = .ok a ↔ view? t = some a) :
    (readOptional read).Takes (OptionalShape view?) (optionalView view?) := by
  intro path t a
  rw [readOptional_eq, OptionalShape, optionalView]
  by_cases habsent : t.isAbsent = true
  · rw [if_pos habsent, if_pos habsent, and_iff_right (.inl habsent), Except.ok.injEq]
  · rw [if_neg habsent, if_neg habsent, or_iff_right habsent]
    by_cases hnull : t.isNullTagged = true
    · simp [hnull]
    · rw [if_neg hnull, map_eq_ok_iff, and_iff_right (Bool.eq_false_iff.mpr hnull),
        Option.isSome_iff_exists]
      constructor
      · rintro ⟨x, hx, rfl⟩
        have hx := (h path t x).mp hx
        exact ⟨⟨x, hx⟩, hx⟩
      · rintro ⟨⟨x, hx⟩, rfl⟩
        exact ⟨x, (h path t x).mpr hx, hx.symm⟩

def ListShape (shape : Tree → Prop) (t : Tree) : Prop :=
  ∃ items, t.items? = some items ∧ ∀ u ∈ items, shape u

def listView (view : Tree → α) (t : Tree) : List α := (t.items?.getD []).map view

theorem readItems_eq_ok_iff {read : Reader α} {shape : Tree → Prop} {view : Tree → α}
    (h : read.Takes shape view) {path : Path} {n : Nat} {ts : List Tree} {as : List α} :
    readItems read path n ts = .ok as ↔ (∀ t ∈ ts, shape t) ∧ ts.map view = as := by
  induction ts generalizing n as with
  | nil => simp [readItems]
  | cons t ts ih =>
    rw [readItems, bind_eq_ok_iff, List.forall_mem_cons, List.map_cons]
    constructor
    · rintro ⟨a, ha, hrest⟩
      obtain ⟨as, has, rfl⟩ := bind_pure_eq_ok_iff.mp hrest
      obtain ⟨ht, rfl⟩ := (h ..).mp ha
      obtain ⟨hts, rfl⟩ := ih.mp has
      exact ⟨⟨ht, hts⟩, rfl⟩
    · rintro ⟨⟨ht, hts⟩, rfl⟩
      exact ⟨view t, (h ..).mpr ⟨ht, rfl⟩, bind_pure_eq_ok_iff.mpr ⟨_, ih.mpr ⟨hts, rfl⟩, rfl⟩⟩

theorem takes_readList {read : Reader α} {shape : Tree → Prop} {view : Tree → α}
    (h : read.Takes shape view) : (readList read).Takes (ListShape shape) (listView view) := by
  intro path t as
  cases t with
  | sequence items =>
    rw [readList, readItems_eq_ok_iff h]
    simp [ListShape, listView, Tree.items?]
  | scalar s =>
    rw [readList]
    by_cases hs : s.isEmptyPlain = true
    · simp [hs, ListShape, listView, Tree.items?]
    · simp [hs, ListShape, Tree.items?, mismatch_ne_ok]
  | _ => simp [readList, mismatch, ListShape, Tree.items?]

section Entries

variable {fields : List (Field σ)} {path : Path} {given : List String} {s s' : σ}
  {e : Yaml.Entry Tree} {entries : List (Yaml.Entry Tree)}

theorem readEntries_cons_eq_ok_iff :
    readEntries fields path given s (e :: entries) = .ok s' ↔
      ∃ f s₁, e.name? = some f.name ∧ fields.find? (·.name == f.name) = some f ∧ f.name ∉ given ∧
        f.read s (stepTo e :: path) e.value = .ok s₁ ∧
        readEntries fields path (f.name :: given) s₁ entries = .ok s' := by
  rw [readEntries, bind_eq_ok_iff]
  constructor
  · rintro ⟨name, hname, h⟩
    cases hf : fields.find? (·.name == name) with
    | none =>
      rw [hf] at h
      cases h
    | some f =>
      have hfname : f.name = name := by simpa using List.find?_some hf
      subst hfname
      rw [hf] at h
      obtain ⟨hgiven, h⟩ := ite_error_eq_ok_iff.mp h
      obtain ⟨s₁, hread, hrest⟩ := bind_eq_ok_iff.mp h
      exact ⟨f, s₁, readText_eq_ok_iff.mp hname, hf, by simpa using hgiven, hread, hrest⟩
  · rintro ⟨f, s₁, hname, hf, hgiven, hread, hrest⟩
    refine ⟨f.name, readText_eq_ok_iff.mpr hname, ?_⟩
    rw [hf]
    exact ite_error_eq_ok_iff.mpr ⟨by simpa using hgiven, bind_eq_ok_iff.mpr ⟨s₁, hread, hrest⟩⟩

/-- The entries that the fields of a record take: each has the name of a field and a value of its
shape, and no name is given twice. -/
structure Taken (fields : List (Field σ)) (shape : String → Tree → Prop) (given : List String)
    (entries : List (Yaml.Entry Tree)) : Prop where
  known : ∀ e ∈ entries, ∃ f ∈ fields, e.name? = some f.name ∧ shape f.name e.value
  fresh : ∀ e ∈ entries, ∀ name ∈ given, e.name? ≠ some name
  once : (entries.map Yaml.Entry.name?).Nodup

theorem taken_cons_iff {shape : String → Tree → Prop} :
    Taken fields shape given (e :: entries) ↔
      ∃ f ∈ fields, e.name? = some f.name ∧ shape f.name e.value ∧ f.name ∉ given ∧
        Taken fields shape (f.name :: given) entries := by
  constructor
  · rintro ⟨hknown, hfresh, honce⟩
    obtain ⟨⟨f, hf, hname, hshape⟩, hknown⟩ := List.forall_mem_cons.mp hknown
    obtain ⟨hgiven, hfresh⟩ := List.forall_mem_cons.mp hfresh
    obtain ⟨hnew, honce⟩ := List.nodup_cons.mp honce
    refine ⟨f, hf, hname, hshape, fun hmem => hgiven _ hmem hname, hknown, ?_, honce⟩
    intro e' he'
    refine List.forall_mem_cons.mpr ⟨fun hsame => hnew ?_, hfresh e' he'⟩
    rw [hname, ← hsame]
    exact List.mem_map_of_mem he'
  · rintro ⟨f, hf, hname, hshape, hgiven, hknown, hfresh, honce⟩
    refine ⟨List.forall_mem_cons.mpr ⟨⟨f, hf, hname, hshape⟩, hknown⟩,
      List.forall_mem_cons.mpr ⟨?_, fun e' he' n hn => hfresh e' he' n (List.mem_cons_of_mem _ hn)⟩,
      List.nodup_cons.mpr ⟨?_, honce⟩⟩
    · intro n hn hsame
      cases hname.symm.trans hsame
      exact hgiven hn
    · intro hmem
      obtain ⟨e', he', hsame⟩ := List.mem_map.mp hmem
      exact hfresh e' he' f.name List.mem_cons_self (hsame.trans hname)

theorem readEntries_isOk_iff {shape : String → Tree → Prop}
    (h : ∀ f ∈ fields, ∀ s path t, (∃ s', f.read s path t = .ok s') ↔ shape f.name t) :
    (∃ s', readEntries fields path given s entries = .ok s') ↔
      Taken fields shape given entries := by
  induction entries generalizing given s with
  | nil => exact iff_of_true ⟨s, rfl⟩ ⟨nofun, nofun, List.nodup_nil⟩
  | cons e entries ih =>
    rw [taken_cons_iff]
    constructor
    · rintro ⟨s', hs'⟩
      obtain ⟨f, s₁, hname, hfind, hgiven, hread, hrest⟩ := readEntries_cons_eq_ok_iff.mp hs'
      have hf := List.mem_of_find?_eq_some hfind
      exact ⟨f, hf, hname, (h f hf ..).mp ⟨s₁, hread⟩, hgiven, ih.mp ⟨s', hrest⟩⟩
    · rintro ⟨f, hf, hname, hshape, hgiven, hrest⟩
      -- the first field of that name is the one that reads
      obtain ⟨g, hg⟩ : ∃ g, fields.find? (·.name == f.name) = some g :=
        Option.isSome_iff_exists.mp (List.find?_isSome.mpr ⟨f, hf, beq_self_eq_true _⟩)
      have hsame : g.name = f.name := by simpa using List.find?_some hg
      rw [← hsame] at hname hshape hgiven hrest hg
      obtain ⟨s₁, hread⟩ := (h g (List.mem_of_find?_eq_some hg) s _ e.value).mpr hshape
      obtain ⟨s', hs'⟩ := ih.mpr hrest
      exact ⟨s', readEntries_cons_eq_ok_iff.mpr ⟨g, s₁, hname, hg, hgiven, hread, hs'⟩⟩

theorem fresh_of_readEntries (h : readEntries fields path given s entries = .ok s') :
    ∀ e ∈ entries, ∀ name ∈ given, e.name? ≠ some name := by
  induction entries generalizing given s with
  | nil => exact nofun
  | cons e entries ih =>
    obtain ⟨f, s₁, hname, -, hgiven, -, hrest⟩ := readEntries_cons_eq_ok_iff.mp h
    refine List.forall_mem_cons.mpr ⟨?_, ?_⟩
    · intro n hn hsame
      cases hname.symm.trans hsame
      exact hgiven hn
    · intro e' he' n hn
      exact ih hrest e' he' n (List.mem_cons_of_mem _ hn)

def only (name : String) (t : Tree) : String → Option Tree := fun n =>
  if n = name then some t else none

structure Fills (fields : List (Field σ)) (fill : (String → Option Tree) → σ → σ) : Prop where
  none : ∀ s, fill (fun _ => none) s = s
  or : ∀ look look' s, fill look (fill look' s) = fill (fun n => (look n).or (look' n)) s
  read : ∀ f ∈ fields, ∀ s path t s', f.read s path t = .ok s' → fill (only f.name t) s = s'

theorem Fills.readEntries_eq {fill : (String → Option Tree) → σ → σ} (h : Fills fields fill)
    (hs' : readEntries fields path given s entries = .ok s') : fill (valueIn? entries) s = s' := by
  induction entries generalizing given s with
  | nil =>
    cases hs'
    exact h.none _
  | cons e entries ih =>
    obtain ⟨f, s₁, hname, hfind, -, hread, hrest⟩ := readEntries_cons_eq_ok_iff.mp hs'
    have hs₁ := h.read f (List.mem_of_find?_eq_some hfind) _ _ _ _ hread
    have hlook : valueIn? (e :: entries) =
        fun n => (valueIn? entries n).or (only f.name e.value n) := by
      funext n
      rw [Yaml.valueIn?_cons, hname, only]
      by_cases hn : n = f.name
      · have hfresh := fun e' he' => fresh_of_readEntries hrest e' he' f.name List.mem_cons_self
        rw [hn, if_pos rfl, if_pos rfl, Yaml.valueIn?_eq_none hfresh, Option.none_or]
      · rw [if_neg fun hsame => hn (Option.some.inj hsame).symm, if_neg hn, Option.or_none]
    rw [hlook, ← h.or, hs₁]
    exact ih hrest

end Entries

theorem field_eq_ok_iff {name : String} {read : Reader α} {put : σ → α → σ} {s s' : Named σ}
    {path : Path} {t : Tree} :
    (field name read put).read s path t = .ok s' ↔
      ∃ a, read path t = .ok a ∧ { s with rest := put s.rest a } = s' :=
  bind_pure_eq_ok_iff

theorem idField_eq_ok_iff {s s' : Named σ} {path : Path} {t : Tree} :
    idField.read s path t = .ok s' ↔ ∃ id, t.text? = some id ∧ { s with id := some id } = s' := by
  refine bind_pure_eq_ok_iff.trans (exists_congr fun id => ?_)
  rw [readText_eq_ok_iff]

theorem readRecord_eq_ok_iff {wanted : String} {fields : List (Field σ)} {blank s : σ} {path : Path}
    {t : Tree} :
    readRecord wanted fields blank path t = .ok s ↔
      (∃ entries, t = .mapping entries ∧ readEntries fields path [] blank entries = .ok s) ∨
        ∃ c : Yaml.Scalar, t = .scalar c ∧ c.isEmptyPlain = true ∧ blank = s := by
  cases t with
  | mapping entries => simp [readRecord]
  | scalar c =>
    rw [readRecord]
    by_cases hc : c.isEmptyPlain = true
    · simp [hc]
    · simp [hc, mismatch_ne_ok]
  | _ => simp [readRecord, mismatch]

theorem readNamed_eq_ok_iff {wanted : String} {fields : List (Field (Named σ))} {blank : σ}
    {build : String → σ → α} {path : Path} {t : Tree} {a : α} :
    readNamed wanted fields blank build path t = .ok a ↔
      ∃ entries s id, t = .mapping entries ∧
        readEntries (idField :: fields) path [] { rest := blank } entries = .ok s ∧
        s.id = some id ∧ build id s.rest = a := by
  rw [readNamed, bind_eq_ok_iff]
  constructor
  · rintro ⟨s, hs, h⟩
    obtain ⟨entries, rfl, hentries⟩ | ⟨c, rfl, -, rfl⟩ := readRecord_eq_ok_iff.mp hs
    · cases hid : s.id with
      | none =>
        rw [hid] at h
        cases h
      | some id =>
        rw [hid] at h
        exact ⟨entries, s, id, rfl, hentries, hid, Except.ok.inj h⟩
    · cases h
  · rintro ⟨entries, s, id, rfl, hentries, hid, rfl⟩
    refine ⟨s, readRecord_eq_ok_iff.mpr (.inl ⟨entries, rfl, hentries⟩), ?_⟩
    rw [hid]
    rfl

end Schema

end KernelStats
