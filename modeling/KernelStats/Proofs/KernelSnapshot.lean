import KernelStats.Kernel.Session
import KernelStats.Proofs.Presentation
import KernelStats.Proofs.Utf8RoundTrip

/-!
# Scrapes of the kernel

A session of the kernel refreshes headers and attaches data as it reads, and its table of what it
has found grows with each lookup. None of it shows: what a scrape is answered is settled by the
chain as it was when the session was opened.
-/

namespace KernelStats

namespace Kernel

namespace Kstat

def isNamed (k : Kstat) (module : String) (inst : Int) (name : String) : Bool :=
  k.hasBytes (Utf8.encode module) inst (Utf8.encode name)

theorem isNamed_iff {k : Kstat} {module : String} {inst : Int} {name : String} :
    k.isNamed module inst name = true ↔
      nameBytes k.module = Utf8.encode module ∧ k.inst.toInt = inst ∧
        nameBytes k.name = Utf8.encode name := by
  simp [isNamed, hasBytes]

def number (k : Kstat) : UInt32 := .ofNat k.inst.toInt.toNat

def attached? (k : Kstat) : Option Payload := k.payload.filter Payload.isAttached

def answer (k : Kstat) (stat : String) : Except SourceError UInt64 :=
  match k.attached? with
  | none =>
    .error
      (.read (SourceError.place (nameText k.module) k.number (nameText k.name) ++
        " has not been read"))
  | some p => Live.valueIn k p stat

def content (k : Kstat) : Except SourceError Content :=
  if k.readError = 0 then .ok { snaptime := k.readSnaptime, value := k.answer }
  else .error (.read (osError k.readError))

def reading (k : Kstat) (place : Nat) : Reading :=
  { slot := place, name := nameText k.name, content := k.content }

def record (k : Kstat) (kind : StructuredKind) : Except SourceError StructuredStats :=
  if k.readError = 0 then
    let bytes := (k.attached?.map Payload.bytes).getD []
    match Live.vminfoOf? bytes with
    | some fields => .ok (.vminfo fields k.readSnaptime)
    | none => .error (.read (kind.name ++ " is " ++ toString bytes.length ++ " bytes"))
  else .error (.read (osError k.readError))

end Kstat

def locate? (chain : List Kstat) (module : String) (inst : Nat) (name : String) :
    Option (Kstat × Nat) :=
  chain.zipIdx.find? fun x => x.1.isNamed module inst name

def found (chain : List Kstat) (module : String) (inst : Nat) (group : GroupPattern) :
    List (Kstat × Nat) :=
  match group.literal? with
  | some name => (locate? chain module inst name).toList
  | none => chain.zipIdx.filter fun x => x.1.belongs module inst group

theorem zero_notMem_nameBytes (bytes : List UInt8) : 0 ∉ nameBytes bytes := by
  intro h
  have hall : (nameBytes bytes).all (· != 0) = true := List.all_takeWhile
  exact absurd (List.all_eq_true.mp hall 0 h) (by decide)

theorem nameBytes_ne_encode {s : String} (h : nameOf? s = none) (bytes : List UInt8) :
    nameBytes bytes ≠ Utf8.encode s := by
  intro heq
  have hzero : 0 ∈ Utf8.encode s := by simpa [nameOf?] using h
  rw [← heq] at hzero
  exact zero_notMem_nameBytes bytes hzero

theorem nameOf?_eq_some {s : String} {bytes : List UInt8} (h : nameOf? s = some bytes) :
    bytes = Utf8.encode s := by
  rw [nameOf?] at h
  obtain ⟨-, heq⟩ := Option.ite_none_left_eq_some.mp h
  exact (Option.some.inj heq).symm

theorem locate?_eq_some {chain : List Kstat} {module : String} {inst : Nat} {name : String}
    {k : Kstat} {place : Nat} (h : locate? chain module inst name = some (k, place)) :
    chain[place]? = some k ∧ k.isNamed module inst name = true := by
  rw [locate?] at h
  have hmem := List.mem_of_find?_eq_some h
  have hnamed := List.find?_some h
  exact ⟨List.mem_zipIdx_iff_getElem?.mp hmem, hnamed⟩

theorem nameText_of_encode {bytes : List UInt8} {s : String} (h : nameBytes bytes = Utf8.encode s) :
    nameText bytes = s := by
  rw [nameText, h, Utf8.decodeLossy_encode]

theorem Kstat.belongs_iff {k : Kstat} {module : String} {inst : Int} {group : GroupPattern} :
    k.belongs module inst group = true ↔
      k.inst.toInt = inst ∧ nameText k.module = module ∧
        group.isMatch (nameText k.name) = true := by
  simp [Kstat.belongs]

theorem mem_found {chain : List Kstat} {module : String} {inst : Nat} {group : GroupPattern}
    {k : Kstat} {place : Nat} (h : (k, place) ∈ found chain module inst group) :
    chain[place]? = some k ∧ k.belongs module inst group = true := by
  rw [found] at h
  cases hl : group.literal? with
  | none =>
    rw [hl] at h
    obtain ⟨hmem, hk⟩ := List.mem_filter.mp h
    exact ⟨List.mem_zipIdx_iff_getElem?.mp hmem, hk⟩
  | some name =>
    rw [hl] at h
    obtain ⟨hplace, hnamed⟩ := locate?_eq_some (Option.mem_toList.mp h)
    obtain ⟨hmodule, hinst, hname⟩ := Kstat.isNamed_iff.mp hnamed
    have hmatch : group.isMatch (nameText k.name) = true :=
      (GroupPattern.isMatch_eq_true_iff_of_literal hl _).mpr (nameText_of_encode hname)
    exact ⟨hplace, Kstat.belongs_iff.mpr ⟨hinst, nameText_of_encode hmodule, hmatch⟩⟩

def snapshot (chain : List Kstat) : Snapshot where
  find module inst pattern :=
    if maxInstance < inst.toNat then []
    else (found chain module inst.toNat pattern).map fun x => x.1.reading x.2
  structured kind :=
    match locate? chain kind.module 0 kind.name with
    | none => .error (.notFound kind.module 0 kind.name)
    | some (k, _) => k.record kind
  isMatch_of_mem := by
    intro module inst pattern r hr
    by_cases hi : maxInstance < inst.toNat
    · rw [if_pos hi] at hr
      nomatch hr
    · rw [if_neg hi] at hr
      obtain ⟨⟨k, place⟩, hk, rfl⟩ := List.mem_map.mp hr
      exact (Kstat.belongs_iff.mp (mem_found hk).2).2.2

namespace Live

/-- The session is over this chain, whatever it has read so far. -/
def Over (s : Live) (chain : List Kstat) : Prop := s.chain.map (·.kstat) = chain

theorem over_ofKstat (chain : List Kstat) : Over { chain := chain.map .ofKstat } chain := by
  have h : (fun l : Link => l.kstat) ∘ Link.ofKstat = fun k => k := rfl
  rw [Over, List.map_map, h, List.map_id']

variable {s : Live} {chain : List Kstat}

theorem Over.link (hs : s.Over chain) {place : Nat} {k : Kstat} (hk : chain[place]? = some k) :
    ∃ l, s.chain[place]? = some l ∧ l.kstat = k := by
  rw [← hs, List.getElem?_map] at hk
  exact Option.map_eq_some_iff.mp hk

theorem Over.findExact? (hs : s.Over chain) (module : String) (inst : Nat) (name : String) :
    s.findExact? module inst name = (locate? chain module inst name).map (·.2) := by
  -- what has no bytes to search with is not there either
  have hnone (h : nameOf? module = none ∨ nameOf? name = none) :
      (locate? chain module inst name).map (·.2) = none := by
    rw [Option.map_eq_none_iff, locate?, List.find?_eq_none]
    rintro x - hx
    obtain ⟨hmodule, -, hname⟩ := Kstat.isNamed_iff.mp hx
    rcases h with h | h
    · exact nameBytes_ne_encode h _ hmodule
    · exact nameBytes_ne_encode h _ hname
  rw [Live.findExact?]
  cases hm : nameOf? module with
  | none => exact (hnone (.inl hm)).symm
  | some moduleBytes =>
    cases hn : nameOf? name with
    | none => exact (hnone (.inr hn)).symm
    | some nameBytes =>
      obtain rfl := nameOf?_eq_some hm
      obtain rfl := nameOf?_eq_some hn
      subst hs
      simp only [Option.bind_eq_bind, Option.bind_some]
      have hfind : (s.chain.map (·.kstat)).findIdx? (·.isNamed module inst name) = _ :=
        List.findIdx?_eq_fst_find?_zipIdx
      rw [List.findIdx?_map] at hfind
      exact hfind

theorem Over.findAll (hs : s.Over chain) (module : String) (inst : Nat) (group : GroupPattern) :
    s.findAll module inst group = (found chain module inst group).map (·.2) := by
  rw [Live.findAll, found]
  cases hl : group.literal? with
  | some name =>
    dsimp only
    rw [hs.findExact?]
    cases locate? chain module inst name <;> rfl
  | none =>
    subst hs
    dsimp only
    rw [List.zipIdx_map, List.filter_map, List.map_map]
    rfl

theorem Over.refreshed (hs : s.Over chain) {place : Nat} {l : Link}
    (hl : s.chain[place]? = some l) : Over { s with chain := s.chain.set place l.refreshed } chain := by
  have hplace : chain[place]? = some l.kstat := by rw [← hs, List.getElem?_map, hl]; rfl
  obtain ⟨hlt, hget⟩ := List.getElem?_eq_some_iff.mp hplace
  have hkstat : l.refreshed.kstat = l.kstat := rfl
  rw [Over] at hs
  rw [Over, List.map_set, hs, hkstat, ← hget]
  exact List.set_getElem_self hlt

def Locates (s : Live) (chain : List Kstat) (inst : UInt32) (e : Entry) (x : Reading) : Prop :=
  ∃ place k, s.handles[e.slot]? = some place ∧ chain[place]? = some k ∧ x = k.reading place ∧
    e.module = nameText k.module ∧ e.inst = inst ∧ k.number = inst ∧ e.name = nameText k.name

def Opened (s : Live) (e : Entry) (content : Content) : Prop :=
  ∃ place l, s.resolve? e = some (place, l) ∧ l.payload = l.kstat.attached? ∧
    e.module = nameText l.kstat.module ∧ e.inst = l.kstat.number ∧ e.name = nameText l.kstat.name ∧
    content = { snaptime := e.snaptime, value := l.kstat.answer }

theorem resolve?_eq_some {e : Entry} {place : Nat} {l : Link} :
    s.resolve? e = some (place, l) ↔
      s.handles[e.slot]? = some place ∧ s.chain[place]? = some l := by
  simp only [resolve?, Option.bind_eq_bind, Option.bind_eq_some_iff, Option.pure_def,
    Option.some.injEq, Prod.mk.injEq]
  constructor
  · rintro ⟨_, hslot, _, hl, rfl, rfl⟩
    exact ⟨hslot, hl⟩
  · rintro ⟨hslot, hl⟩
    exact ⟨place, hslot, l, hl, rfl, rfl⟩

theorem Locates.resolve {inst : UInt32} {e : Entry} {x : Reading} (h : s.Locates chain inst e x)
    (hs : s.Over chain) : ∃ place l, s.resolve? e = some (place, l) ∧ s.chain[place]? = some l ∧
      x = l.kstat.reading place ∧ e.module = nameText l.kstat.module ∧ e.inst = inst ∧
      l.kstat.number = inst ∧ e.name = nameText l.kstat.name := by
  obtain ⟨place, k, hslot, hk, hx, hmodule, hinst, hnumber, hname⟩ := h
  obtain ⟨l, hl, rfl⟩ := hs.link hk
  exact ⟨place, l, resolve?_eq_some.mpr ⟨hslot, hl⟩, hl, hx, hmodule, hinst, hnumber, hname⟩

theorem Over.located (hs : s.Over chain) {t : Live} {module : String} {inst : UInt32}
    {group : GroupPattern} {xs : List (Kstat × Nat)} (ht : t.handles = s.handles ++ xs.map (·.2))
    (hxs : ∀ x ∈ xs, chain[x.2]? = some x.1 ∧ x.1.belongs module inst.toNat group = true) :
    List.Forall₂ (t.Locates chain inst)
      ((xs.map (·.2)).zipIdx.map fun (place, i) => s.entry module inst place (s.handles.size + i))
      (xs.map fun x => x.1.reading x.2) := by
  rw [List.forall₂_iff_get]
  refine ⟨by simp, ?_⟩
  intro i h _
  have hi : i < xs.length := by simpa using h
  simp only [List.get_eq_getElem, List.getElem_map, List.getElem_zipIdx, Nat.zero_add]
  obtain ⟨hk, hbelongs⟩ := hxs _ (List.getElem_mem hi)
  generalize hx : xs[i] = x at hk hbelongs
  obtain ⟨hinst, hmodule, -⟩ := Kstat.belongs_iff.mp hbelongs
  obtain ⟨l, hl, hlk⟩ := hs.link hk
  refine ⟨x.2, x.1, ?_, hk, rfl, hmodule.symm, rfl, ?_, ?_⟩
  · have hget : (s.handles ++ xs.map (·.2)).toList[s.handles.toList.length + i]? = some x.2 := by
      rw [Array.toList_appendList, List.getElem?_append_right (Nat.le_add_right _ _),
        Nat.add_sub_cancel_left, List.getElem?_map, List.getElem?_eq_getElem hi, hx]
      rfl
    rw [ht, ← Array.getElem?_toList]
    exact hget
  · rw [Kstat.number, hinst, Int.toNat_natCast, UInt32.ofNat_toNat]
  · simp only [entry, hl, hlk, Option.map_some, Option.getD_some]

theorem Over.lookup (hs : s.Over chain) (module : String) (inst : UInt32) (pattern : GroupPattern) :
    (s.lookup module inst pattern).2.Over chain ∧
      Answered ((s.lookup module inst pattern).2.Locates chain inst)
        (s.lookup module inst pattern).1
        ((snapshot chain).find module inst pattern) := by
  simp only [Live.lookup, snapshot, hs.findAll]
  by_cases hi : maxInstance < inst.toNat
  · rw [if_pos hi, if_pos hi]
    exact ⟨hs, _, rfl, rfl⟩
  · rw [if_neg hi, if_neg hi]
    have hfound := fun k place => @mem_found chain module inst.toNat pattern k place
    generalize found chain module inst.toNat pattern = xs at hfound ⊢
    cases xs with
    | nil => exact ⟨hs, _, rfl, rfl⟩
    | cons x xs => exact ⟨hs, _, rfl, hs.located rfl fun x hx => hfound x.1 x.2 hx⟩

theorem read_of_resolve {e : Entry} {place : Nat} {l : Link} (h : s.resolve? e = some (place, l)) :
    s.read e =
      if l.kstat.readError = 0 then
        (.ok (), { e with snaptime := l.kstat.readSnaptime },
          { s with chain := s.chain.set place l.refreshed })
      else (.error (.read (osError l.kstat.readError)), e, s) := by
  by_cases hr : l.kstat.readError = 0
  · simp only [Live.read, h, refresh, hr, if_true]
    rfl
  · simp only [Live.read, h, refresh, hr, if_false]

theorem Over.read (hs : s.Over chain) {inst : UInt32} {e : Entry} {x : Reading}
    (h : s.Locates chain inst e x) :
    (s.read e).2.2.Over chain ∧
      Refreshed ((s.read e).2.2.Opened (s.read e).2.1) (s.read e).1 x.content ∧
      (s.read e).2.1.inst = inst ∧ (s.read e).2.1.name = x.name ∧
      (s.read e).2.2.handles = s.handles := by
  obtain ⟨place, l, hresolve, hl, rfl, hmodule, hinst, hnumber, hname⟩ := h.resolve hs
  rw [Kstat.reading, Kstat.content, read_of_resolve hresolve]
  by_cases hr : l.kstat.readError = 0
  · -- the entry leads to the same statistic, whose data are attached now
    have hagain : resolve? { s with chain := s.chain.set place l.refreshed }
        { e with snaptime := l.kstat.readSnaptime } = some (place, l.refreshed) := by
      obtain ⟨hslot, hl⟩ := resolve?_eq_some.mp hresolve
      obtain ⟨hlt, -⟩ := List.getElem?_eq_some_iff.mp hl
      exact resolve?_eq_some.mpr ⟨hslot, List.getElem?_set_self hlt⟩
    rw [if_pos hr, if_pos hr]
    refine ⟨hs.refreshed hl,
      ⟨rfl, place, l.refreshed, hagain, rfl, hmodule, ?_, hname, rfl⟩, hinst, hname, rfl⟩
    exact hinst.trans hnumber.symm
  · rw [if_neg hr, if_neg hr]
    exact ⟨hs, rfl, hinst, hname, rfl⟩

theorem Opened.value {e : Entry} {content : Content} (h : s.Opened e content) (stat : String) :
    s.value e stat = content.value stat := by
  obtain ⟨place, l, hresolve, hpayload, hmodule, hinst, hname, rfl⟩ := h
  simp only [Live.value, hresolve, hpayload, Kstat.answer]
  cases l.kstat.attached? with
  | none => simp only [hmodule, hinst, hname]
  | some p => rfl

theorem Over.structured (hs : s.Over chain) (kind : StructuredKind) :
    (s.structured kind).2.Over chain ∧
      (s.structured kind).1 = (snapshot chain).structured kind := by
  simp only [Live.structured, hs.findExact?, snapshot]
  cases hx : locate? chain kind.module 0 kind.name with
  | none => exact ⟨hs, rfl⟩
  | some x =>
    obtain ⟨k, place⟩ := x
    obtain ⟨hk, -⟩ := locate?_eq_some hx
    obtain ⟨l, hl, rfl⟩ := hs.link hk
    simp only [Option.map_some, Option.bind_some, hl, Kstat.record, refresh]
    by_cases hr : l.kstat.readError = 0
    · have hpayload : l.refreshed.payload = l.kstat.attached? := rfl
      simp only [hr, if_true, hpayload]
      cases Live.vminfoOf? ((l.kstat.attached?.map Payload.bytes).getD []) with
      | none => exact ⟨hs.refreshed hl, rfl⟩
      | some fields => exact ⟨hs.refreshed hl, rfl⟩
    · simp only [hr, if_false]
      exact ⟨hs, trivial⟩

end Live

def presentation (chain : List Kstat) : Presentation source.toSession (snapshot chain) where
  Holds _ _ s := s.Over chain
  Located s := s.Locates chain
  Opened := Live.Opened
  lookup module inst pattern hs _ := hs.lookup module inst pattern
  read := by
    intro l r s inst e x hs h
    obtain ⟨hover, hrefreshed, hinst, hname, hhandles⟩ := hs.read h
    refine ⟨hover, hrefreshed, hinst, hname, ?_⟩
    rintro e' x' ⟨place, k, hslot, hk⟩
    exact ⟨place, k, (congrArg (·[e'.slot]?) hhandles).trans hslot, hk⟩
  value stat h := Prod.ext (h.value stat) rfl
  time := by
    rintro s e content ⟨place, l, -, -, -, -, -, rfl⟩
    rfl
  structured kind hs := hs.structured kind

end Kernel

theorem Collector.collect_kernel (schema : Schema) (ns : String) {k : Kernel} (hk : k.openError = 0)
    (sink : Array Sample) :
    ((ofSchema schema ns).collect Kernel.source k sink).result =
      .ok (({ sink } : Scrape).recordAll ((Kernel.snapshot k.chain).events ns schema)) := by
  have hopen : Kernel.source.acquire k =
      (.ok { chain := k.chain.map .ofKstat }, { k with opens := k.opens + 1 }) := by
    simp only [Kernel.source, hk, if_true]
  obtain ⟨hresult, -⟩ :=
    (Kernel.presentation k.chain).collect_eq (l := 0) (r := 0) (sound_ofSchema schema ns)
    hopen (Kernel.Live.over_ofKstat k.chain) sink
  rw [schema_ofSchema] at hresult
  exact hresult

end KernelStats
