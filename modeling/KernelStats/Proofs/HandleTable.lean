import KernelStats.Proofs.KernelSnapshot

/-!
# The table of a kernel session

A lookup notes at the end of a table where in the chain it found each statistic, and the slot of an
entry is a place in that table. Whatever else the session is asked, a note is never changed. So an entry
stands for one statistic as long as the session lives, and no other entry has its slot.
-/

namespace KernelStats

def Session.askAll (s : Session σ) (state : σ) : List Query → List (Query × Reply) × σ
  | [] => ([], state)
  | q :: qs =>
    let (reply, next) := s.ask state q
    let (log, last) := s.askAll next qs
    ((q, reply) :: log, last)

theorem Session.askAll_append (s : Session σ) (state : σ) (qs qs' : List Query) :
    s.askAll state (qs ++ qs') =
      ((s.askAll state qs).1 ++ (s.askAll (s.askAll state qs).2 qs').1,
        (s.askAll (s.askAll state qs).2 qs').2) := by
  induction qs generalizing state with
  | nil => rfl
  | cons q qs ih =>
    simp only [List.cons_append, askAll, ih]

def Reply.entries : Reply → List Entry
  | found (.ok es) => es
  | _ => []

def entriesIn (log : List (Query × Reply)) : List Entry := log.flatMap (·.2.entries)

namespace Kernel.Live

/-- The entry is one that a lookup may give for the statistic at a place of the chain, and the table
has this place in its slot. -/
structure Stands (t : Live) (module : String) (inst : UInt32) (group : GroupPattern) (e : Entry)
    (place : Nat) : Prop where
  handle : t.handles[e.slot]? = some place
  found : ∃ l, t.chain[place]? = some l ∧ l.kstat.belongs module inst.toNat group = true ∧
    e.name = nameText l.kstat.name
  module : e.module = module
  inst : e.inst = inst

/-- What comes of a session in state `s` once it is in state `t`, having replied as logged: its chain
has the same statistics, and for each entry that it gave there is a note at the end of its table. -/
structure Grows (s : Live) (log : List (Query × Reply)) (t : Live) : Prop where
  chain : t.Over (s.chain.map (·.kstat))
  noted : ∃ notes, t.handles.toList = s.handles.toList ++ notes ∧
    (entriesIn log).map (·.slot) = List.range' s.handles.size notes.length
  stands : ∀ module inst group es, (.lookup module inst group, .found (.ok es)) ∈ log →
    List.Forall₂ (t.Stands module inst group) es (s.findAll module inst.toNat group)

variable {s t u : Live} {log log' : List (Query × Reply)}

theorem Over.findAll_eq (h : t.Over (s.chain.map (·.kstat))) (module : String) (inst : Nat)
    (group : GroupPattern) : t.findAll module inst group = s.findAll module inst group := by
  have hs : s.Over (s.chain.map (·.kstat)) := rfl
  rw [hs.findAll, h.findAll]

theorem Grows.of_handles (hchain : t.Over (s.chain.map (·.kstat))) (hhandles : t.handles = s.handles)
    {q : Query} {r : Reply} (hr : ∀ es, r ≠ .found (.ok es)) : s.Grows [(q, r)] t where
  chain := hchain
  noted := by
    have hentries : r.entries = [] := by
      unfold Reply.entries
      split
      · exact absurd rfl (hr _)
      · rfl
    refine ⟨[], by rw [hhandles, List.append_nil], ?_⟩
    simp [entriesIn, hentries]
  stands := by
    intro module inst group es hmem
    obtain ⟨-, rfl⟩ := Prod.mk.inj (List.mem_singleton.mp hmem)
    exact absurd rfl (hr es)

theorem Grows.keeps (h : s.Grows log t) {module : String} {inst : UInt32} {group : GroupPattern}
    {e : Entry} {place : Nat} (he : s.Stands module inst group e place) :
    t.Stands module inst group e place := by
  obtain ⟨notes, hnotes, -⟩ := h.noted
  obtain ⟨l, hl, hbelongs, hname⟩ := he.found
  obtain ⟨l', hl', hk⟩ := h.chain.link (k := l.kstat) (by rw [List.getElem?_map, hl]; rfl)
  refine ⟨?_, ⟨l', hl', hk ▸ hbelongs, hk ▸ hname⟩, he.module, he.inst⟩
  have hslot := Array.getElem?_toList.trans he.handle
  obtain ⟨hlt, -⟩ := List.getElem?_eq_some_iff.mp hslot
  rw [← Array.getElem?_toList, hnotes, List.getElem?_append_left hlt, hslot]

theorem Grows.refl (s : Live) : s.Grows [] s where
  chain := rfl
  noted := ⟨[], (List.append_nil _).symm, rfl⟩
  stands := by simp

theorem Grows.append (h : s.Grows log t) (h' : t.Grows log' u) : s.Grows (log ++ log') u where
  chain := by
    have hchain := h'.chain
    rwa [h.chain] at hchain
  noted := by
    obtain ⟨notes, hnotes, hslots⟩ := h.noted
    obtain ⟨notes', hnotes', hslots'⟩ := h'.noted
    have hsize : t.handles.size = s.handles.size + notes.length := by
      rw [← Array.length_toList, hnotes, List.length_append, Array.length_toList]
    refine ⟨notes ++ notes', by rw [hnotes', hnotes, List.append_assoc], ?_⟩
    rw [entriesIn, List.flatMap_append, List.map_append, ← entriesIn, ← entriesIn, hslots, hslots',
      hsize, List.length_append, List.range'_append_1]
  stands := by
    intro module inst group es hmem
    rcases List.mem_append.mp hmem with hmem | hmem
    · exact (h.stands module inst group es hmem).imp fun _ _ he => h'.keeps he
    · rw [← h.chain.findAll_eq]
      exact h'.stands module inst group es hmem

theorem read_keeps (s : Live) (e : Entry) :
    (s.read e).2.2.Over (s.chain.map (·.kstat)) ∧ (s.read e).2.2.handles = s.handles := by
  have hs : s.Over (s.chain.map (·.kstat)) := rfl
  cases hresolve : s.resolve? e with
  | none => simp only [read, hresolve, hs, and_self]
  | some x =>
    rw [read_of_resolve hresolve]
    split
    · exact ⟨hs.refreshed (resolve?_eq_some.mp hresolve).2, rfl⟩
    · exact ⟨hs, rfl⟩

theorem structured_handles (s : Live) (kind : StructuredKind) :
    (s.structured kind).2.handles = s.handles := by
  rw [structured]
  split
  · rfl
  · rw [refresh]
    split_ifs
    · dsimp only
      split <;> rfl
    · rfl

theorem Over.stands {chain : List Kstat} (hs : s.Over chain) (ht : t.Over chain) {module : String}
    {inst : UInt32} {group : GroupPattern} {xs : List (Kstat × Nat)}
    (hhandles : t.handles = s.handles ++ xs.map (·.2))
    (hxs : ∀ x ∈ xs, chain[x.2]? = some x.1 ∧ x.1.belongs module inst.toNat group = true) :
    List.Forall₂ (t.Stands module inst group)
      ((xs.map (·.2)).zipIdx.map fun (place, i) => s.entry module inst place (s.handles.size + i))
      (xs.map (·.2)) := by
  have hlocated := hs.located hhandles hxs
  rw [List.forall₂_map_right_iff] at hlocated ⊢
  refine ((List.forall₂_and_left _ _).mpr ⟨hxs, hlocated.flip⟩).flip.imp ?_
  rintro e ⟨k, place⟩ ⟨⟨hk, hbelongs⟩, place', k', hhandle, hk', hreading, hmodule, hinst, -, hname⟩
  -- the slot of what is read is its place
  obtain rfl : place = place' := congrArg Reading.slot hreading
  obtain rfl : k = k' := Option.some.inj (hk.symm.trans hk')
  obtain ⟨l, hl, rfl⟩ := ht.link hk
  have hmodule' := (Kstat.belongs_iff.mp hbelongs).2.1
  exact ⟨hhandle, ⟨l, hl, hbelongs, hname⟩, hmodule.trans hmodule', hinst⟩

theorem slot_found (s : Live) (module : String) (inst : UInt32) (places : List Nat) :
    (places.zipIdx.map fun (place, i) => s.entry module inst place (s.handles.size + i)).map (·.slot) =
      List.range' s.handles.size places.length := by
  rw [List.map_map]
  have hslot := congrArg (List.map (s.handles.size + ·)) (List.zipIdx_map_snd 0 places)
  rwa [List.map_map, List.map_add_range'] at hslot

theorem grows_found (s : Live) (module : String) (inst : UInt32) (group : GroupPattern) :
    let places := s.findAll module inst.toNat group
    s.Grows
      [(.lookup module inst group, .found (.ok (places.zipIdx.map fun (place, i) =>
        s.entry module inst place (s.handles.size + i))))]
      { s with handles := s.handles ++ places } where
  chain := rfl
  noted := by
    refine ⟨_, Array.toList_appendList, ?_⟩
    rw [entriesIn, List.flatMap_singleton]
    exact s.slot_found module inst _
  stands := by
    intro module' inst' group' es hmem
    obtain ⟨hq, hr⟩ := Prod.mk.inj (List.mem_singleton.mp hmem)
    obtain ⟨rfl, rfl, rfl⟩ := Query.lookup.inj hq
    obtain rfl := Except.ok.inj (Reply.found.inj hr)
    have hs : s.Over (s.chain.map (·.kstat)) := rfl
    rw [hs.findAll]
    refine hs.stands ?_ rfl fun x hx => mem_found hx
    exact hs

theorem grows_lookup (s : Live) (module : String) (inst : UInt32) (group : GroupPattern) :
    s.Grows [(.lookup module inst group, .found (s.lookup module inst group).1)]
      (s.lookup module inst group).2 := by
  have hfound := s.grows_found module inst group
  rw [lookup]
  split_ifs
  · exact .of_handles rfl rfl (by simp)
  · split
    · exact .of_handles rfl rfl (by simp)
    · exact hfound

theorem grows_ask (s : Live) (q : Query) :
    s.Grows [(q, (source.ask s q).1)] (source.ask s q).2 := by
  cases q with
  | lookup module inst group => exact grows_lookup s module inst group
  | read e =>
    obtain ⟨hchain, hhandles⟩ := s.read_keeps e
    exact .of_handles hchain hhandles (by simp [Session.ask])
  | value e stat => exact .of_handles rfl rfl (by simp [Session.ask])
  | structured kind =>
    have hs : s.Over (s.chain.map (·.kstat)) := rfl
    exact .of_handles (hs.structured kind).1 (s.structured_handles kind) (by simp [Session.ask])
  | snapshotTime e => exact .of_handles rfl rfl (by simp [Session.ask])

theorem grows_askAll (s : Live) (qs : List Query) :
    s.Grows (source.askAll s qs).1 (source.askAll s qs).2 := by
  induction qs generalizing s with
  | nil => exact .refl s
  | cons q qs ih => exact (grows_ask s q).append (ih _)

theorem Grows.slot_lt (h : s.Grows log t) {e : Entry} (he : e ∈ entriesIn log) :
    e.slot < t.handles.size := by
  obtain ⟨notes, hnotes, hslots⟩ := h.noted
  have hslot : e.slot ∈ List.range' s.handles.size notes.length := by
    rw [← hslots]
    exact List.mem_map_of_mem he
  obtain ⟨-, hlt⟩ := List.mem_range'_1.mp hslot
  rwa [← Array.length_toList, hnotes, List.length_append, Array.length_toList]

theorem Grows.slots_nodup (h : s.Grows log t) : ((entriesIn log).map (·.slot)).Nodup := by
  obtain ⟨notes, -, hslots⟩ := h.noted
  rw [hslots]
  exact List.nodup_range'

theorem lookup_error {module : String} {inst : UInt32} {group : GroupPattern} {cause : SourceError}
    (h : (s.lookup module inst group).1 = .error cause) : (s.lookup module inst group).2 = s := by
  by_cases hi : maxInstance < inst.toNat
  · rw [lookup, if_pos hi]
  · cases hfound : s.findAll module inst.toNat group with
    | nil => rw [lookup, if_neg hi, hfound]
    | cons place places =>
      rw [lookup, if_neg hi, hfound] at h
      cases h

theorem read_error {e : Entry} {cause : SourceError} (h : (s.read e).1 = .error cause) :
    (s.read e).2 = (e, s) := by
  cases hresolve : s.resolve? e with
  | none => rw [read, hresolve]
  | some x =>
    rw [read_of_resolve hresolve] at h ⊢
    by_cases hr : x.2.kstat.readError = 0
    · rw [if_pos hr] at h
      cases h
    · rw [if_neg hr]

theorem read_out_of_range {e : Entry} (h : s.handles.size ≤ e.slot) :
    s.read e = (.error (.notFound e.module e.inst e.name), e, s) := by
  have hresolve : s.resolve? e = none := by
    rw [resolve?, Array.getElem?_eq_none h]
    rfl
  rw [read, hresolve]

/-- Whatever a session is asked, its table grows at its end only, its chain keeps its statistics, and
each entry that a lookup gave stands for the statistic that it was given for, in a slot of its own.
Reading an entry or taking a value from it acts on the statistic in its slot and on nothing else. A
lookup or a read that fails changes nothing. -/
theorem askAll_keeps_entries (s : Live) (earlier later : List Query) :
    let before := source.askAll s earlier
    let after := source.askAll s (earlier ++ later)
    let t := after.2
    before.1 <+: after.1 ∧ before.2.handles.toList <+: t.handles.toList ∧
      t.chain.map (·.kstat) = s.chain.map (·.kstat) ∧
      (∀ e ∈ entriesIn after.1, e.slot < t.handles.size) ∧
      ((entriesIn after.1).map (·.slot)).Nodup ∧
      (∀ module inst group es, (.lookup module inst group, .found (.ok es)) ∈ after.1 →
        List.Forall₂ (t.Stands module inst group) es (s.findAll module inst.toNat group)) ∧
      (∀ e place l, t.handles[e.slot]? = some place → t.chain[place]? = some l →
        t.read e =
            (if l.kstat.readError = 0 then
              (.ok (), { e with snaptime := l.kstat.readSnaptime },
                { t with chain := t.chain.set place l.refreshed })
            else (.error (.read (osError l.kstat.readError)), e, t)) ∧
          ∀ stat, t.value e stat =
            match l.payload with
            | none =>
              .error (.read (SourceError.place e.module e.inst e.name ++ " has not been read"))
            | some p => valueIn l.kstat p stat) ∧
      (∀ module inst group cause, (t.lookup module inst group).1 = .error cause →
        (t.lookup module inst group).2 = t) ∧
      (∀ e cause, (t.read e).1 = .error cause → (t.read e).2 = (e, t)) ∧
      (∀ e, t.handles.size ≤ e.slot →
        (t.read e).1 = .error (.notFound e.module e.inst e.name)) := by
  intro before after t
  have hafter : after = (before.1 ++ (source.askAll before.2 later).1,
      (source.askAll before.2 later).2) := source.askAll_append s earlier later
  have hgrows : s.Grows after.1 t := s.grows_askAll (earlier ++ later)
  have ht : t = (source.askAll before.2 later).2 := congrArg (·.2) hafter
  have hlater := grows_askAll before.2 later
  rw [← ht] at hlater
  obtain ⟨notes, hnotes, -⟩ := hlater.noted
  refine ⟨?_, ⟨notes, hnotes.symm⟩, hgrows.chain, fun e => hgrows.slot_lt, hgrows.slots_nodup,
    hgrows.stands, ?_, fun _ _ _ _ => lookup_error, fun _ _ => read_error, ?_⟩
  · rw [hafter]
    exact List.prefix_append _ _
  · intro e place l hhandle hl
    have hresolve := resolve?_eq_some.mpr ⟨hhandle, hl⟩
    refine ⟨read_of_resolve hresolve, fun stat => ?_⟩
    cases hp : l.payload <;> simp only [value, hresolve, hp]
  · intro e he
    rw [read_out_of_range he]

end Kernel.Live

end KernelStats
