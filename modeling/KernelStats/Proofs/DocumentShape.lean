import KernelStats.Proofs.Defaults
import KernelStats.Proofs.FieldReading

/-!
# The shape of a document

A document has records on four levels: the document itself, its modules, their groups and their
counters. Each level has its own fields. A document is read exactly if every record in it is sound,
wherever it sits, and then nothing in it is left out.
-/

namespace KernelStats

namespace Yaml.Tree

def value? (t : Tree) (name : String) : Option Tree :=
  match t with
  | .mapping entries => valueIn? entries name
  | _ => none

def itemsOf (t : Tree) (name : String) : List Tree := ((t.value? name).bind items?).getD []

def id? (t : Tree) : Option String := (t.value? "id").bind text?

end Yaml.Tree

namespace Schema

open Yaml (Tree valueIn?)

inductive Level where
  | document
  | module
  | group
  | counter

inductive Content where
  | text
  | optionalText
  | optionalNumber
  | list (items : Level)

def Level.fields : Level → List (String × Content)
  | .document => [("kstat_modules", .list .module)]
  | .module => [("id", .text), ("kstat_names", .list .group)]
  | .group => [("id", .text), ("label_string", .optionalText), ("kstat_stats", .list .counter)]
  | .counter =>
    [("id", .text), ("help", .optionalText), ("suffix", .optionalText),
      ("scale_factor", .optionalNumber)]

def Level.content? (level : Level) (name : String) : Option Content := level.fields.lookup name

def Content.Admits : Content → Tree → Prop
  | .text, t => t.text?.isSome = true
  | .optionalText, t => OptionalShape Tree.text? t
  | .optionalNumber, t => OptionalShape Tree.number? t
  | .list _, t => t.items?.isSome = true

/-- A record whose keys are fields of its level, each given once and with a value of its shape, and
which has an id unless it is the document. An empty document is a record without fields. -/
inductive Level.Sound : Level → Tree → Prop
  | mapping {level : Level} {entries : List (Yaml.Entry Tree)}
      (known : ∀ e ∈ entries, ∃ name content, e.name? = some name ∧
        level.content? name = some content ∧ content.Admits e.value)
      (once : (entries.map Yaml.Entry.name?).Nodup)
      (identified : level ≠ .document → ∃ e ∈ entries, e.name? = some "id") :
    Sound level (.mapping entries)
  | blank {s : Yaml.Scalar} (h : s.isEmptyPlain = true) : Sound .document (.scalar s)

/-- The records in a record, each with its level: the record itself, and those in the items of its
lists. -/
inductive Sits : Level → Tree → Level → Tree → Prop
  | self (level : Level) (t : Tree) : Sits level t level t
  | item {level inner l : Level} {entries : List (Yaml.Entry Tree)} {e : Yaml.Entry Tree}
      {name : String} {items : List Tree} {t u : Tree} (he : e ∈ entries)
      (hname : e.name? = some name) (hlist : level.content? name = some (.list inner))
      (hitems : e.value.items? = some items) (ht : t ∈ items) (h : Sits inner t l u) :
    Sits level (.mapping entries) l u

def Level.Whole (level : Level) (t : Tree) : Prop := ∀ l u, Sits level t l u → l.Sound u

def Content.Whole (c : Content) (t : Tree) : Prop :=
  c.Admits t ∧
    ∀ inner, c = .list inner → ∀ items, t.items? = some items → ∀ u ∈ items, inner.Whole u

def Level.Holds (level : Level) (name : String) (t : Tree) : Prop :=
  ∃ content, level.content? name = some content ∧ content.Whole t

namespace Level

variable {level : Level} {entries : List (Yaml.Entry Tree)}

theorem Whole.sound {t : Tree} (h : level.Whole t) : level.Sound t := h level t (.self level t)

theorem whole_mapping_iff :
    level.Whole (.mapping entries) ↔
      ((∀ e ∈ entries, ∃ name, e.name? = some name ∧ level.Holds name e.value) ∧
        (entries.map Yaml.Entry.name?).Nodup) ∧
      (level ≠ .document → ∃ e ∈ entries, e.name? = some "id") := by
  constructor
  · intro h
    obtain ⟨hknown, honce, hid⟩ := h.sound
    refine ⟨⟨fun e he => ?_, honce⟩, hid⟩
    obtain ⟨name, content, hname, hcontent, hadmits⟩ := hknown e he
    refine ⟨name, hname, content, hcontent, hadmits, ?_⟩
    rintro inner rfl items hitems u hu l v hv
    exact h l v (.item he hname hcontent hitems hu hv)
  · rintro ⟨⟨hknown, honce⟩, hid⟩ l u hu
    cases hu with
    | self =>
      refine .mapping (fun e he => ?_) honce hid
      obtain ⟨name, hname, content, hcontent, hadmits, -⟩ := hknown e he
      exact ⟨name, content, hname, hcontent, hadmits⟩
    | item he hname hlist hitems ht h =>
      obtain ⟨name, hname', content, hcontent, -, hall⟩ := hknown _ he
      cases hname.symm.trans hname'
      cases hlist.symm.trans hcontent
      exact hall _ rfl _ hitems _ ht l u h

theorem whole_scalar_iff {s : Yaml.Scalar} :
    level.Whole (.scalar s) ↔ level = .document ∧ s.isEmptyPlain = true := by
  constructor
  · intro h
    obtain - | hs := h.sound
    exact ⟨rfl, hs⟩
  · rintro ⟨rfl, hs⟩ l u hu
    cases hu
    exact .blank hs

theorem content?_id (h : level ≠ .document) : level.content? "id" = some .text := by
  cases level with
  | document => exact absurd rfl h
  | _ => rfl

theorem mem_names_of_content? {name : String} {content : Content}
    (h : level.content? name = some content) : name ∈ level.fields.map Prod.fst := by
  obtain ⟨before, after, hfields, -⟩ := List.lookup_eq_some_iff.mp h
  rw [hfields]
  simp

theorem holds_iff {name : String} {content : Content} (h : level.content? name = some content)
    (t : Tree) : level.Holds name t ↔ content.Whole t := by
  simp [Holds, h]

theorem Whole.exists_id {t : Tree} (h : level.Whole t) (hlevel : level ≠ .document) :
    ∃ id, t.id? = some id := by
  cases t with
  | mapping entries =>
    obtain ⟨⟨hknown, -⟩, hidentified⟩ := whole_mapping_iff.mp h
    obtain ⟨e, he, hname, hvalue⟩ := Yaml.valueIn?_of_mem (hidentified hlevel)
    obtain ⟨name, hname', hholds⟩ := hknown e he
    cases hname.symm.trans hname'
    obtain ⟨id, hid⟩ := Option.isSome_iff_exists.mp ((holds_iff (content?_id hlevel) _).mp hholds).1
    refine ⟨id, ?_⟩
    rw [Tree.id?, Tree.value?, hvalue, Option.bind_some, hid]
  | scalar s => exact absurd (whole_scalar_iff.mp h).1 hlevel
  | sequence items => cases h.sound
  | broken => cases h.sound

end Level

namespace Content

theorem whole_text_iff {t : Tree} : Content.text.Whole t ↔ t.text?.isSome = true :=
  and_iff_left nofun

theorem whole_optionalText_iff {t : Tree} :
    Content.optionalText.Whole t ↔ OptionalShape Tree.text? t :=
  and_iff_left nofun

theorem whole_optionalNumber_iff {t : Tree} :
    Content.optionalNumber.Whole t ↔ OptionalShape Tree.number? t :=
  and_iff_left nofun

theorem whole_list_iff {level : Level} {t : Tree} :
    (Content.list level).Whole t ↔ ListShape level.Whole t := by
  constructor
  · rintro ⟨hadmits, hall⟩
    obtain ⟨items, hitems⟩ := Option.isSome_iff_exists.mp hadmits
    exact ⟨items, hitems, hall level rfl items hitems⟩
  · rintro ⟨items, hitems, hall⟩
    refine ⟨Option.isSome_iff_exists.mpr ⟨items, hitems⟩, ?_⟩
    rintro inner hinner items' hitems'
    cases hinner
    cases hitems.symm.trans hitems'
    exact hall

end Content

structure Suits (fields : List (Field σ)) (level : Level) : Prop where
  reads : ∀ f ∈ fields, ∀ s path t, (∃ s', f.read s path t = .ok s') ↔ level.Holds f.name t
  names : fields.map (·.name) = level.fields.map Prod.fst

theorem Suits.readEntries_isOk_iff {fields : List (Field σ)} {level : Level} (h : Suits fields level)
    (path : Path) (s : σ) {entries : List (Yaml.Entry Tree)} :
    (∃ s', readEntries fields path [] s entries = .ok s') ↔
      (∀ e ∈ entries, ∃ name, e.name? = some name ∧ level.Holds name e.value) ∧
        (entries.map Yaml.Entry.name?).Nodup := by
  rw [Schema.readEntries_isOk_iff h.reads]
  constructor
  · rintro ⟨hknown, -, honce⟩
    refine ⟨fun e he => ?_, honce⟩
    obtain ⟨f, -, hname, hholds⟩ := hknown e he
    exact ⟨f.name, hname, hholds⟩
  · rintro ⟨hknown, honce⟩
    refine ⟨fun e he => ?_, nofun, honce⟩
    obtain ⟨name, hname, hholds⟩ := hknown e he
    have hmem := Level.mem_names_of_content? hholds.choose_spec.1
    rw [← h.names] at hmem
    obtain ⟨f, hf, rfl⟩ := List.mem_map.mp hmem
    exact ⟨f, hf, hname, hholds⟩

theorem takes_readNamed (fill : (String → Option Tree) → Named σ → Named σ) {level : Level}
    (hlevel : level ≠ .document) {wanted : String} {fields : List (Field (Named σ))} {blank : σ}
    {build : String → σ → α} {view : Tree → α}
    (hsuits : Suits (idField :: fields) level) (hfill : Fills (idField :: fields) fill)
    (hid : ∀ look, (fill look { rest := blank }).id = (look "id").bind Tree.text?)
    (hview : ∀ t id, t.id? = some id → build id (fill t.value? { rest := blank }).rest = view t) :
    (readNamed wanted fields blank build).Takes level.Whole view := by
  intro path t a
  rw [readNamed_eq_ok_iff]
  constructor
  · rintro ⟨entries, s, id, rfl, hs, hsid, rfl⟩
    -- the id that has been read is the one that is looked up
    have hfilled := hfill.readEntries_eq hs
    have hlook : (valueIn? entries "id").bind Tree.text? = some id := by rw [← hid, hfilled, hsid]
    have hidentified : ∃ e ∈ entries, e.name? = some "id" := by
      by_contra hnone
      rw [Yaml.valueIn?_eq_none (by simpa using hnone)] at hlook
      cases hlook
    refine ⟨Level.whole_mapping_iff.mpr
      ⟨(hsuits.readEntries_isOk_iff path _).mp ⟨s, hs⟩, fun _ => hidentified⟩, ?_⟩
    rw [← hview (.mapping entries) id hlook]
    exact congrArg (fun s => build id s.rest) hfilled
  · rintro ⟨hwhole, rfl⟩
    cases t with
    | mapping entries =>
      obtain ⟨htaken, hidentified⟩ := Level.whole_mapping_iff.mp hwhole
      obtain ⟨s, hs⟩ := (hsuits.readEntries_isOk_iff path { rest := blank }).mpr htaken
      have hfilled := hfill.readEntries_eq hs
      obtain ⟨id, hlook⟩ := hwhole.exists_id hlevel
      refine ⟨entries, s, id, rfl, hs, ?_, ?_⟩
      · rw [← hfilled, hid]
        exact hlook
      · rw [← hview (.mapping entries) id hlook]
        exact congrArg (fun s => build id s.rest) hfilled.symm
    | scalar s => exact absurd (Level.whole_scalar_iff.mp hwhole).1 hlevel
    | sequence items => cases hwhole.sound
    | broken => cases hwhole.sound

theorem takes_readRecord (fill : (String → Option Tree) → σ → σ) {wanted : String}
    {fields : List (Field σ)} {blank : σ} {view : Tree → σ} (hsuits : Suits fields .document)
    (hfill : Fills fields fill) (hview : ∀ t, fill t.value? blank = view t) :
    (readRecord wanted fields blank).Takes Level.document.Whole view := by
  intro path t s
  rw [readRecord_eq_ok_iff, ← hview]
  constructor
  · rintro (⟨entries, rfl, hs⟩ | ⟨c, rfl, hc, rfl⟩)
    · exact ⟨Level.whole_mapping_iff.mpr
        ⟨(hsuits.readEntries_isOk_iff path _).mp ⟨s, hs⟩, fun h => absurd rfl h⟩,
        hfill.readEntries_eq hs⟩
    · exact ⟨Level.whole_scalar_iff.mpr ⟨rfl, hc⟩, hfill.none blank⟩
  · rintro ⟨hwhole, rfl⟩
    cases t with
    | mapping entries =>
      obtain ⟨htaken, -⟩ := Level.whole_mapping_iff.mp hwhole
      obtain ⟨s, hs⟩ := (hsuits.readEntries_isOk_iff path blank).mpr htaken
      exact .inl ⟨entries, rfl, hs.trans (congrArg _ (hfill.readEntries_eq hs).symm)⟩
    | scalar c =>
      exact .inr ⟨c, rfl, (Level.whole_scalar_iff.mp hwhole).2, (hfill.none blank).symm⟩
    | sequence items => cases hwhole.sound
    | broken => cases hwhole.sound

section Fields

variable {level : Level} {name : String} {content : Content} {read : Reader α}
  {shape : Tree → Prop} {view : Tree → α} {put : σ → α → σ}

theorem reads_idField (h : level ≠ .document) (s : Named σ) (path : Path) (t : Tree) :
    (∃ s', idField.read s path t = .ok s') ↔ level.Holds "id" t := by
  rw [Level.holds_iff (Level.content?_id h), Content.whole_text_iff, Option.isSome_iff_exists]
  constructor
  · rintro ⟨s', hs'⟩
    obtain ⟨id, hid, -⟩ := idField_eq_ok_iff.mp hs'
    exact ⟨id, hid⟩
  · rintro ⟨id, hid⟩
    exact ⟨_, idField_eq_ok_iff.mpr ⟨id, hid, rfl⟩⟩

theorem reads_field (hcontent : level.content? name = some content) (h : read.Takes shape view)
    (hshape : ∀ t, content.Whole t ↔ shape t) (s : Named σ) (path : Path) (t : Tree) :
    (∃ s', (field name read put).read s path t = .ok s') ↔ level.Holds name t := by
  rw [Level.holds_iff hcontent, hshape, ← h.isOk_iff path t]
  constructor
  · rintro ⟨s', hs'⟩
    obtain ⟨a, ha, -⟩ := field_eq_ok_iff.mp hs'
    exact ⟨a, ha⟩
  · rintro ⟨a, ha⟩
    exact ⟨_, field_eq_ok_iff.mpr ⟨a, ha, rfl⟩⟩

theorem fills_idField {fill : (String → Option Tree) → Named σ → Named σ}
    (hfill : ∀ s t, fill (only "id" t) s = { s with id := t.text? }) (s : Named σ) (path : Path)
    (t : Tree) (s' : Named σ) (hs' : idField.read s path t = .ok s') : fill (only "id" t) s = s' := by
  obtain ⟨id, hid, rfl⟩ := idField_eq_ok_iff.mp hs'
  rw [hfill, hid]

theorem fills_field {fill : (String → Option Tree) → Named σ → Named σ} (h : read.Takes shape view)
    (hfill : ∀ s t, fill (only name t) s = { s with rest := put s.rest (view t) })
    (s : Named σ) (path : Path) (t : Tree) (s' : Named σ)
    (hs' : (field name read put).read s path t = .ok s') : fill (only name t) s = s' := by
  obtain ⟨a, ha, rfl⟩ := field_eq_ok_iff.mp hs'
  rw [hfill, ((h ..).mp ha).2]

end Fields

theorem elim_or (o o' : Option α) (b : β) (f : α → β) :
    (o.or o').elim b f = o.elim (o'.elim b f) f := by
  cases o <;> rfl

theorem takes_optionalText :
    (readOptional (readText "a string")).Takes (OptionalShape Tree.text?)
      (optionalView Tree.text?) :=
  takes_readOptional fun _ _ _ => readText_eq_ok_iff

theorem takes_optionalNumber :
    (readOptional readFloat).Takes (OptionalShape Tree.number?) (optionalView Tree.number?) :=
  takes_readOptional fun _ _ _ => readFloat_eq_ok_iff

def CounterOutline.fill (look : String → Option Tree) (s : Named CounterOutline) :
    Named CounterOutline where
  id := (look "id").elim s.id Tree.text?
  rest := { s.rest with
    help := (look "help").elim s.rest.help (optionalView Tree.text?)
    suffix := (look "suffix").elim s.rest.suffix (optionalView Tree.text?)
    scale := (look "scale_factor").elim s.rest.scale (optionalView Tree.number?) }

def CounterOutline.written (t : Tree) : CounterOutline where
  id := t.id?.getD ""
  help := (t.value? "help").bind (optionalView Tree.text?)
  suffix := (t.value? "suffix").bind (optionalView Tree.text?)
  scale := (t.value? "scale_factor").bind (optionalView Tree.number?)

theorem elim_none (o : Option α) (f : α → Option β) : o.elim none f = o.bind f := by
  cases o <;> rfl

theorem takes_counter : CounterOutline.read.Takes Level.counter.Whole CounterOutline.written := by
  have hlevel : Level.counter ≠ .document := nofun
  refine takes_readNamed CounterOutline.fill hlevel ⟨?_, rfl⟩ ⟨fun _ => rfl, ?_, ?_⟩ ?_ ?_
  · simp only [List.forall_mem_cons]
    exact ⟨reads_idField hlevel,
      reads_field rfl takes_optionalText fun _ => Content.whole_optionalText_iff,
      reads_field rfl takes_optionalText fun _ => Content.whole_optionalText_iff,
      reads_field rfl takes_optionalNumber fun _ => Content.whole_optionalNumber_iff, nofun⟩
  · intro look look' s
    simp only [CounterOutline.fill, elim_or]
  · simp only [List.forall_mem_cons]
    exact ⟨fills_idField fun _ _ => rfl, fills_field takes_optionalText fun _ _ => rfl,
      fills_field takes_optionalText fun _ _ => rfl, fills_field takes_optionalNumber fun _ _ => rfl,
      nofun⟩
  · intro look
    exact elim_none _ _
  · intro t id hid
    simp only [CounterOutline.fill, CounterOutline.written, elim_none, hid, Option.getD_some]

theorem elim_listView (view : Tree → α) (t : Tree) (name : String) :
    (t.value? name).elim [] (listView view) = (t.itemsOf name).map view := by
  rw [Tree.itemsOf]
  cases t.value? name <;> rfl

def GroupOutline.fill (look : String → Option Tree) (s : Named GroupOutline) :
    Named GroupOutline where
  id := (look "id").elim s.id Tree.text?
  rest := { s.rest with
    label := (look "label_string").elim s.rest.label (optionalView Tree.text?)
    counters := (look "kstat_stats").elim s.rest.counters (listView CounterOutline.written) }

def GroupOutline.written (t : Tree) : GroupOutline where
  id := t.id?.getD ""
  label := (t.value? "label_string").bind (optionalView Tree.text?)
  counters := (t.itemsOf "kstat_stats").map CounterOutline.written

theorem takes_group : GroupOutline.read.Takes Level.group.Whole GroupOutline.written := by
  have hlevel : Level.group ≠ .document := nofun
  have hcounters := takes_readList takes_counter
  refine takes_readNamed GroupOutline.fill hlevel ⟨?_, rfl⟩ ⟨fun _ => rfl, ?_, ?_⟩ ?_ ?_
  · simp only [List.forall_mem_cons]
    exact ⟨reads_idField hlevel,
      reads_field rfl takes_optionalText fun _ => Content.whole_optionalText_iff,
      reads_field rfl hcounters fun _ => Content.whole_list_iff, nofun⟩
  · intro look look' s
    simp only [GroupOutline.fill, elim_or]
  · simp only [List.forall_mem_cons]
    exact ⟨fills_idField fun _ _ => rfl, fills_field takes_optionalText fun _ _ => rfl,
      fills_field hcounters fun _ _ => rfl, nofun⟩
  · intro look
    exact elim_none _ _
  · intro t id hid
    simp only [GroupOutline.fill, GroupOutline.written, elim_none, elim_listView, hid,
      Option.getD_some]

def ModuleOutline.fill (look : String → Option Tree) (s : Named ModuleOutline) :
    Named ModuleOutline where
  id := (look "id").elim s.id Tree.text?
  rest := { s.rest with
    groups := (look "kstat_names").elim s.rest.groups (listView GroupOutline.written) }

def ModuleOutline.written (t : Tree) : ModuleOutline where
  id := t.id?.getD ""
  groups := (t.itemsOf "kstat_names").map GroupOutline.written

theorem takes_module : ModuleOutline.read.Takes Level.module.Whole ModuleOutline.written := by
  have hlevel : Level.module ≠ .document := nofun
  have hgroups := takes_readList takes_group
  refine takes_readNamed ModuleOutline.fill hlevel ⟨?_, rfl⟩ ⟨fun _ => rfl, ?_, ?_⟩ ?_ ?_
  · simp only [List.forall_mem_cons]
    exact ⟨reads_idField hlevel, reads_field rfl hgroups fun _ => Content.whole_list_iff, nofun⟩
  · intro look look' s
    simp only [ModuleOutline.fill, elim_or]
  · simp only [List.forall_mem_cons]
    exact ⟨fills_idField fun _ _ => rfl, fills_field hgroups fun _ _ => rfl, nofun⟩
  · intro look
    exact elim_none _ _
  · intro t id hid
    simp only [ModuleOutline.fill, ModuleOutline.written, elim_listView, hid, Option.getD_some]

namespace Outline

def fill (look : String → Option Tree) (o : Outline) : Outline where
  modules := (look "kstat_modules").elim o.modules (listView ModuleOutline.written)

def written (t : Tree) : Outline where
  modules := (t.itemsOf "kstat_modules").map ModuleOutline.written

/-- A document is read exactly if every record in it is sound. -/
theorem ofTree_eq_ok_iff {t : Tree} {o : Outline} :
    ofTree t = .ok o ↔ Level.document.Whole t ∧ written t = o := by
  have hmodules := takes_readList takes_module
  refine takes_readRecord fill ⟨?_, rfl⟩ ⟨fun _ => rfl, ?_, ?_⟩ ?_ [] t o
  · refine List.forall_mem_singleton.mpr fun s path t => ?_
    have hcontent : Level.document.content? "kstat_modules" = some (.list .module) := rfl
    rw [Level.holds_iff hcontent, Content.whole_list_iff, ← hmodules.isOk_iff path t]
    constructor
    · rintro ⟨s', hs'⟩
      obtain ⟨ms, hms, -⟩ := bind_pure_eq_ok_iff.mp hs'
      exact ⟨ms, hms⟩
    · rintro ⟨ms, hms⟩
      exact ⟨_, bind_pure_eq_ok_iff.mpr ⟨ms, hms, rfl⟩⟩
  · intro look look' s
    simp only [fill, elim_or]
  · refine List.forall_mem_singleton.mpr fun s path t s' hs' => ?_
    obtain ⟨ms, hms, rfl⟩ := bind_pure_eq_ok_iff.mp hs'
    obtain ⟨-, rfl⟩ := (hmodules ..).mp hms
    rfl
  · intro t
    simp only [fill, written, elim_listView]

end Outline

/-- The schema has the modules, groups and counters of a document, in its order and with the ids that
are written there. -/
def Lists (s : Schema) (root : Tree) : Prop :=
  List.Forall₂
    (fun t (m : Module) => t.id? = some m.id ∧ List.Forall₂
      (fun t (g : Group) => t.id? = some g.id ∧ List.Forall₂
        (fun t (c : Counter) => t.id? = some c.id) (t.itemsOf "kstat_stats") g.counters)
      (t.itemsOf "kstat_names") m.groups)
    (root.itemsOf "kstat_modules") s.modules

theorem id?_eq_some {t : Tree} {id : String} (hid : id = t.id?.getD "")
    (hink : HasInk (t.id?.getD "")) : t.id? = some id := by
  cases ht : t.id? with
  | none =>
    rw [ht] at hink
    obtain ⟨c, hc, -⟩ := hink
    cases hc
  | some text =>
    rw [hid, ht, Option.getD_some]

theorem Mirrors.lists {s : Schema} {root : Tree} (h : s.Mirrors (.written root)) : s.Lists root := by
  refine (List.forall₂_map_left_iff.mp h).imp fun t m hm => ⟨id?_eq_some hm.id hm.ink, ?_⟩
  refine (List.forall₂_map_left_iff.mp hm.groups).imp fun t g hg => ⟨id?_eq_some hg.id hg.ink, ?_⟩
  exact (List.forall₂_map_left_iff.mp hg.counters).imp fun t c hc => id?_eq_some hc.id hc.ink

theorem Outline.ofText_eq_ok_iff {text : String} {o : Outline} :
    Outline.ofText text = .ok o ↔
      (Yaml.Document.ofText text).sound = true ∧
        Level.document.Whole ((Yaml.Document.ofText text).tree depth) ∧
          written ((Yaml.Document.ofText text).tree depth) = o := by
  rw [Outline.ofText, bind_eq_ok_iff]
  constructor
  · rintro ⟨o', ho', h⟩
    obtain ⟨hsound, h⟩ := ite_ok_else_error_iff.mp h
    cases h
    exact ⟨hsound, ofTree_eq_ok_iff.mp ho'⟩
  · rintro ⟨hsound, ho⟩
    exact ⟨o, ofTree_eq_ok_iff.mpr ho, ite_ok_else_error_iff.mpr ⟨hsound, rfl⟩⟩

theorem ofOutline_ne_parse (o : Outline) (fault : ReadingError) :
    ofOutline o ≠ .error (.parse fault) := by
  intro h
  obtain ⟨_, _, _, _, -, -, hrefused⟩ := ((settled_schema o).error _).mp h
  cases hrefused

/-- A document is refused for its shape exactly if it cannot be read to its end or some record in it is
not sound, wherever that sits. Otherwise nothing in it is left out: a schema that it gives is that of
the outline which is written in it, with the same modules, groups and counters. -/
theorem ofText_leaves_nothing_out (text : String) :
    let document := Yaml.Document.ofText text
    let root := document.tree Outline.depth
    ((∃ fault, ofText text = .error (.parse fault)) ↔
      document.sound = false ∨ ∃ level t, Sits .document root level t ∧ ¬ level.Sound t) ∧
    ∀ s, ofText text = .ok s →
      (∀ level t, Sits .document root level t → level.Sound t) ∧ s.Lists root ∧
        ofOutline (.written root) = .ok s := by
  intro document root
  cases ho : Outline.ofText text with
  | error fault =>
    rw [ofText_of_error ho]
    refine ⟨iff_of_true ⟨fault, rfl⟩ ?_, nofun⟩
    by_contra hnone
    obtain ⟨hsound, hwhole⟩ := not_or.mp hnone
    have hread : Outline.ofText text = .ok (.written root) :=
      Outline.ofText_eq_ok_iff.mpr ⟨Bool.not_eq_false _ ▸ hsound, fun level t ht =>
        by_contra fun hs => hwhole ⟨level, t, ht, hs⟩, rfl⟩
    cases ho.symm.trans hread
  | ok o =>
    obtain ⟨hsound, hwhole, rfl⟩ := Outline.ofText_eq_ok_iff.mp ho
    rw [ofText_of_ok ho]
    refine ⟨iff_of_false (fun ⟨fault, h⟩ => ofOutline_ne_parse _ fault h) ?_, fun s hs => ?_⟩
    · rintro (hbroken | ⟨level, t, ht, hs⟩)
      · cases hsound.symm.trans hbroken
      · exact hs (hwhole level t ht)
    · exact ⟨hwhole, (ofOutline_eq_ok_iff.mp hs).lists, hs⟩

def nested : String :=
  "kstat_modules:\n- id: unix\n  kstat_names:\n  - id: misc\n    kstat_stats:\n    - id: nproc\n"

def misspelt : String :=
  "kstat_modules:\n- id: unix\n  kstat_names:\n  - id: misc\n    kstat_stats:\n    - ids: nproc\n"

theorem ofText_leaves_nothing_out_nested :
    let root := fun text => (Yaml.Document.ofText text).tree Outline.depth
    let path : Path :=
      [.index 0, .key "kstat_stats", .index 0, .key "kstat_names", .index 0, .key "kstat_modules"]
    (∃ s, ofText nested = .ok s ∧ s.Lists (root nested) ∧
      (s.modules.flatMap (·.groups)).flatMap (·.counters.map (·.id)) = ["nproc"]) ∧
    ofText misspelt = .error (.parse (.fault path
      (.unknownField "ids" ["id", "help", "suffix", "scale_factor"]))) ∧
    ∃ level t, Sits .document (root misspelt) level t ∧ ¬ level.Sound t := by
  intro root path
  obtain ⟨-, hkept⟩ := ofText_leaves_nothing_out nested
  obtain ⟨hrefused, -⟩ := ofText_leaves_nothing_out misspelt
  have hfault : ofText misspelt = .error (.parse (.fault path
    (.unknownField "ids" ["id", "help", "suffix", "scale_factor"]))) := rfl
  have hread : (Yaml.Document.ofText misspelt).sound = true := by decide +kernel
  obtain ⟨s, hs⟩ : ∃ s, ofText nested = .ok s := ⟨_, rfl⟩
  refine ⟨⟨s, hs, (hkept s hs).2.1, ?_⟩, hfault, ?_⟩
  · cases hs
    rfl
  · obtain hbroken | hunsound := hrefused.mp ⟨_, hfault⟩
    · cases hread.symm.trans hbroken
    · exact hunsound

end Schema

end KernelStats
