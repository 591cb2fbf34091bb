import KernelStats.Proofs.CloneFamilies
import KernelStats.Proofs.FaultIsolation

/-!
# Setting one value

To set a value of a statistic changes one answer: what the first statistic with the key says of that
one counter. The other counters, the other statistics, those with the same key further down the chain
among them, and all that is not a value stay as they were, and the last value that is set is the one
that counts.
-/

namespace KernelStats

theorem map_modify_of_comp_eq {f : α → α} {g : α → β} (h : ∀ a, g (f a) = g a) (l : List α) (n : Nat) :
    (l.modify n f).map g = l.map g := by
  refine List.ext_getElem? fun i => ?_
  rw [List.getElem?_map, List.getElem?_map, List.getElem?_modify]
  cases l[i]? with
  | none => rfl
  | some a =>
    by_cases hi : n = i
    · simp [hi, h]
    · simp [hi]

def Query.asksFor (slot : Nat) (stat : String) : Query → Bool
  | .value e id => e.slot = slot ∧ id = stat
  | _ => false

namespace Memory

theorem setStat_setStat (stat : String) (u v : Value) (stats : List (String × Value)) :
    setStat stat v (setStat stat u stats) = setStat stat v stats := by
  induction stats with
  | nil => simp [setStat]
  | cons entry stats ih =>
    obtain ⟨name, old⟩ := entry
    by_cases h : name = stat
    · simp [setStat, h]
    · simp [setStat, h, ih]

namespace Kstat

def bare (k : Kstat) : Kstat := { k with stats := [] }

def setValue (stat : String) (v : Value) (k : Kstat) : Kstat :=
  { k with stats := setStat stat v k.stats }

theorem setValue_comp (stat : String) (u v : Value) :
    setValue stat v ∘ setValue stat u = setValue stat v := by
  funext k
  simp [setValue, setStat_setStat]

end Kstat

namespace Data

/-- The first statistic with a key stands at a place of the chain. -/
structure FirstAt (d : Data) (module : String) (inst : UInt32) (name : String) (slot : Nat) : Prop where
  here : ∃ k, d.chain[slot]? = some k ∧ k.isAt module inst name = true
  first : ∀ i < slot, ∀ k, d.chain[i]? = some k → k.isAt module inst name = false

variable {d : Data} {module : String} {inst : UInt32} {name : String} {slot : Nat}

theorem FirstAt.place_eq (h : d.FirstAt module inst name slot) : d.place module inst name = slot := by
  obtain ⟨k, hk, hat⟩ := h.here
  obtain ⟨hlt, rfl⟩ := List.getElem?_eq_some_iff.mp hk
  apply (List.findIdx_eq hlt).mpr
  refine ⟨hat, fun i hi => ?_⟩
  exact h.first i hi _ (List.getElem?_eq_getElem (by omega))

theorem absent_or_firstAt (d : Data) (module : String) (inst : UInt32) (name : String) :
    (∀ k ∈ d.chain, k.isAt module inst name = false) ∨ ∃ slot, d.FirstAt module inst name slot := by
  by_cases h : ∃ k ∈ d.chain, k.isAt module inst name = true
  · right
    have hlt : d.place module inst name < d.chain.length := List.findIdx_lt_length.mpr h
    refine ⟨d.place module inst name, ⟨_, List.getElem?_eq_getElem hlt, ?_⟩, fun i hi k hk => ?_⟩
    · exact List.findIdx_getElem (w := hlt)
    · obtain ⟨_, rfl⟩ := List.getElem?_eq_some_iff.mp hk
      simpa using List.not_of_lt_findIdx hi
  · left
    intro k hk
    simpa using fun hat => h ⟨k, hk, hat⟩

theorem updateAt_of_absent (h : ∀ k ∈ d.chain, k.isAt module inst name = false) (f : Kstat → Kstat) :
    d.updateAt module inst name f = d := by
  have hend : d.chain.findIdx (·.isAt module inst name) = d.chain.length :=
    List.findIdx_eq_length_of_false h
  rw [updateAt, hend, List.modify_eq_self (Nat.le_refl _)]

section
variable (d : Data) (module : String) (inst : UInt32) (name stat : String) (v : Value)

theorem chain_setValue : (d.setValue module inst name stat v).chain =
    d.chain.modify (d.place module inst name) (Kstat.setValue stat v) := rfl

theorem map_bare_setValue :
    (d.setValue module inst name stat v).chain.map Kstat.bare = d.chain.map Kstat.bare := by
  exact map_modify_of_comp_eq (f := Kstat.setValue stat v) (fun _ => rfl) d.chain _

theorem place_setValue :
    (d.setValue module inst name stat v).place module inst name = d.place module inst name := by
  have hbare (d : Data) :
      d.place module inst name = (d.chain.map Kstat.bare).findIdx (·.isAt module inst name) := by
    rw [List.findIdx_map]
    rfl
  rw [hbare, map_bare_setValue, ← hbare]

theorem setValue_setValue (u : Value) :
    (d.setValue module inst name stat u).setValue module inst name stat v =
      d.setValue module inst name stat v := by
  have hchain : ((d.setValue module inst name stat u).setValue module inst name stat v).chain =
      (d.setValue module inst name stat v).chain := by
    rw [chain_setValue, place_setValue, chain_setValue, List.modify_modify_eq, Kstat.setValue_comp,
      chain_setValue]
  exact congrArg (fun chain => { d with chain := chain }) hchain

theorem lookup_setValue (module' : String) (inst' : UInt32) (pattern : GroupPattern) :
    (d.setValue module inst name stat v).lookup module' inst' pattern =
      d.lookup module' inst' pattern := by
  have hfound := found_updateAt (f := Kstat.setValue stat v) (fun _ => ⟨rfl, rfl, rfl⟩) d module inst
    name module' inst' pattern
  have hfound : (d.setValue module inst name stat v).found module' inst' pattern = _ := hfound
  rw [lookup, lookup, hfound]
  cases d.found module' inst' pattern with
  | nil => rfl
  | cons x found =>
    refine congrArg Except.ok ?_
    rw [List.map_map]
    refine List.map_congr_left fun x _ => ?_
    by_cases hx : x.2 = d.place module inst name
    · simp [hx, Kstat.setValue]
    · simp [hx]

end

section
variable (h : d.FirstAt module inst name slot) (stat : String) (v : Value)
include h

theorem getElem?_setValue (i : Nat) : (d.setValue module inst name stat v).chain[i]? =
    (d.chain[i]?).map fun k => if i = slot then k.setValue stat v else k := by
  rw [chain_setValue, h.place_eq, List.getElem?_modify]
  simp [eq_comm]

theorem read_setValue (e : Entry) : (d.setValue module inst name stat v).read e = d.read e := by
  rw [read, read, getElem?_setValue h]
  cases d.chain[e.slot]? with
  | none => rfl
  | some k =>
    by_cases he : e.slot = slot
    · simp [he, Kstat.setValue]
    · simp [he]

theorem value_setValue (e : Entry) (id : String) :
    (d.setValue module inst name stat v).value e id =
      if e.slot = slot ∧ id = stat then v.answer stat else d.value e id := by
  have hget := getElem?_setValue h stat v e.slot
  cases hk : d.chain[e.slot]? with
  | none =>
    rw [hk] at hget
    have hne : e.slot ≠ slot := by
      intro heq
      obtain ⟨k, hk', -⟩ := h.here
      rw [heq, hk'] at hk
      cases hk
    simp [value, hget, hk, hne]
  | some k =>
    rw [hk, Option.map_some] at hget
    rw [value_eq hget, value_eq hk]
    by_cases he : e.slot = slot
    · simp [he, Kstat.setValue, Kstat.answer_setStat]
    · simp [he]

theorem reply_setValue (q : Query) :
    (d.setValue module inst name stat v).reply q =
      if q.asksFor slot stat then .value (v.answer stat) else d.reply q := by
  cases q with
  | lookup module' inst' pattern =>
    exact congrArg Reply.found (lookup_setValue d module inst name stat v module' inst' pattern)
  | read e =>
    simp [reply, read_setValue h, Query.asksFor]
  | value e id =>
    rw [reply, value_setValue h, reply, Query.asksFor]
    by_cases hq : e.slot = slot ∧ id = stat
    · simp [hq]
    · simp [hq]
  | structured kind => rfl
  | snapshotTime e => rfl

theorem lookup_finds_first {pattern : GroupPattern} (hp : pattern.isMatch name = true) :
    ∃ entries e, d.lookup module inst pattern = .ok entries ∧
      entries.find? (·.name = name) = some e ∧ e.slot = slot := by
  obtain ⟨k, hk, hat⟩ := h.here
  have hlt : slot < d.chain.length := (List.getElem?_eq_some_iff.mp hk).1
  -- an entry with the name that a matching pattern finds has the key, and the other way round
  have hkey : (d.found module inst pattern).find? (·.1.name = name) =
      d.chain.zipIdx.find? (·.1.isAt module inst name) := by
    rw [found, List.find?_filter]
    refine congrArg (List.find? · _) (funext fun x => ?_)
    rw [Bool.eq_iff_iff, Kstat.isAt, decide_eq_true_eq, decide_eq_true_eq, decide_eq_true_eq,
      decide_eq_true_eq]
    constructor
    · intro hx
      exact ⟨hx.1.1, hx.1.2.1, hx.2⟩
    · intro hx
      exact ⟨⟨hx.1, hx.2.1, hx.2.2 ▸ hp⟩, hx.2.2⟩
  have hfirst : (d.found module inst pattern).find? (·.1.name = name) = some (k, slot) := by
    rw [hkey, List.find?_eq_some_iff_getElem]
    refine ⟨hat, slot, by simpa using hlt, ?_, fun i hi => ?_⟩
    · rw [List.getElem_zipIdx, Nat.zero_add]
      exact congrArg (·, slot) (List.getElem?_eq_some_iff.mp hk).2
    · rw [List.getElem_zipIdx, h.first i hi _ (List.getElem?_eq_getElem (by omega))]
      rfl
  rw [lookup]
  cases hfound : d.found module inst pattern with
  | nil =>
    rw [hfound] at hfirst
    cases hfirst
  | cons x found =>
    rw [hfound] at hfirst
    refine ⟨_, entryOf (k, slot), rfl, ?_, rfl⟩
    rw [List.find?_map]
    exact congrArg (Option.map entryOf) hfirst

end

end Data

namespace World

def askNew (w : World) (source : Nat) (q : Query) : Answer :=
  match w.step (.openSession source) with
  | (.session number, w') => (w'.step (.ask number q)).1
  | (answer, _) => answer

variable {w : World} {source : Nat} {x : Holding} (hx : w.sources[source]? = some x)
include hx

theorem askNew_eq (ha : x.data.unavailable = false) (q : Query) :
    w.askNew source q = .reply (x.data.reply q) := by
  obtain ⟨session, hopened, hasked⟩ := answer_opened hx ha
  rw [askNew]
  generalize w.step (.openSession source) = opened at hopened hasked
  obtain ⟨answer, w'⟩ := opened
  obtain rfl : answer = .session session := hopened
  exact hasked [] q

theorem step_change (c : Change) :
    (w.step (.change source c)).2 =
      { w with sources := w.sources.set source { x with data := c.apply x.data } } := by
  simp only [step, hx]

theorem set_source : w.sources.set source x = w.sources := by
  obtain ⟨hlt, rfl⟩ := List.getElem?_eq_some_iff.mp hx
  exact List.set_getElem_self hlt

theorem source_run_of_unchanged {ops : List Operation} (h : ∀ op ∈ ops, op.changeTo? source = none) :
    (w.run ops).sources[source]? = some x := by
  rw [source_run hx, List.filterMap_eq_nil_iff.mpr h]
  rfl

end World

/-- To set a value does nothing where no statistic has the key. Otherwise a session that is opened
afterwards answers with the new value where it is asked for that counter of the first statistic with
the key, which is also the first that a lookup finds, and answers every other question as a session
does that is opened before. A value that is set later takes the place of one that was set earlier. -/
theorem setValue_changes_one_answer (w : World) {source : Nat} {x : Holding}
    (hx : w.sources[source]? = some x) (module : String) (inst : UInt32) (name stat : String)
    (v : Value) :
    let set (v : Value) := Operation.change source (.setValue module inst name stat v)
    let w' := (w.step (set v)).2
    (∀ u, ((w.step (set u)).2.step (set v)).2 = w') ∧
      ((∀ k ∈ x.data.chain, k.isAt module inst name = false) ∧ w' = w ∨
        ∃ slot, x.data.FirstAt module inst name slot ∧
          (∃ data, w' = { w with sources := w.sources.set source { x with data } } ∧
            data.chain.map Kstat.bare = x.data.chain.map Kstat.bare ∧
            data.vminfo = x.data.vminfo ∧ data.unavailable = x.data.unavailable) ∧
          (x.data.unavailable = false →
            (∀ pattern, pattern.isMatch name = true → ∃ entries e,
              w.askNew source (.lookup module inst pattern) = .reply (.found (.ok entries)) ∧
                entries.find? (·.name = name) = some e ∧ e.slot = slot) ∧
            ∀ between, (∀ op ∈ between, op.changeTo? source = none) → ∀ q,
              (w'.run between).askNew source q =
                if q.asksFor slot stat then .reply (.value (v.answer stat))
                else w.askNew source q)) := by
  intro set w'
  have hstep (v : Value) : (w.step (set v)).2 = { w with
      sources := w.sources.set source
        { x with data := x.data.setValue module inst name stat v } } := World.step_change hx _
  have hlt : source < w.sources.length := (List.getElem?_eq_some_iff.mp hx).1
  have hset (y : Holding) : (w.sources.set source y)[source]? = some y :=
    List.getElem?_set_self hlt
  have hw' : w' = _ := hstep v
  refine ⟨fun u => ?_, ?_⟩
  · have hu : (w.step (set u)).2.sources[source]? =
        some { x with data := x.data.setValue module inst name stat u } := by
      rw [hstep u]
      exact hset _
    rw [World.step_change hu, hw', hstep u]
    dsimp only [Change.apply]
    rw [List.set_set, Data.setValue_setValue]
  · rcases x.data.absent_or_firstAt module inst name with habsent | ⟨slot, hfirst⟩
    · refine .inl ⟨habsent, ?_⟩
      have hsame : x.data.setValue module inst name stat v = x.data :=
        Data.updateAt_of_absent habsent _
      rw [hw', hsame]
      exact congrArg (fun sources => { w with sources }) (World.set_source hx)
    · refine .inr ⟨slot, hfirst, ⟨_, hw', Data.map_bare_setValue .., rfl, rfl⟩, fun ha => ⟨?_, ?_⟩⟩
      · intro pattern hp
        obtain ⟨entries, e, hfound, he⟩ := Data.lookup_finds_first hfirst hp
        refine ⟨entries, e, ?_, he⟩
        rw [World.askNew_eq hx ha, Data.reply, hfound]
      · intro between hbetween q
        have hafter : w'.sources[source]? =
            some { x with data := x.data.setValue module inst name stat v } := by
          rw [hw']
          exact hset _
        rw [World.askNew_eq (World.source_run_of_unchanged hafter hbetween) ha,
          World.askNew_eq hx ha]
        dsimp only
        rw [Data.reply_setValue hfirst]
        cases q.asksFor slot stat with
        | true => rfl
        | false => rfl

theorem setValue_changes_one_answer_twins :
    let d : Data := { chain := [
      { module := "cpu", inst := 0, name := "sys", snaptime := 10
        stats := [("idle", .unsigned 1), ("idle", .unsigned 2)] },
      { module := "cpu", inst := 0, name := "sys", snaptime := 20
        stats := [("idle", .unsigned 3)] }] }
    let w : World := { families := [{}], sources := [⟨0, d⟩] }
    let w' := (w.step (.change 0 (.setValue "cpu" 0 "sys" "idle" (.signed (-4))))).2
    let asked (slot : Nat) : Query := .value ⟨"cpu", 0, "sys", 0, slot⟩ "idle"
    w.sources[0]? = some ⟨0, d⟩ ∧
      w'.askNew 0 (asked 0) = .reply (.value (.error (.outOfRange "idle" (-4)))) ∧
      w'.askNew 0 (asked 1) = .reply (.value (.ok 3)) := by
  intro d w w' asked
  have hx : w.sources[0]? = some ⟨0, d⟩ := rfl
  obtain ⟨-, ⟨habsent, -⟩ | ⟨slot, hfirst, -, hopened⟩⟩ :=
    setValue_changes_one_answer w hx "cpu" 0 "sys" "idle" (.signed (-4))
  · have hpresent : ¬ ∀ k ∈ d.chain, k.isAt "cpu" 0 "sys" = false := by decide
    exact absurd habsent hpresent
  · obtain rfl : slot = 0 := hfirst.place_eq.symm
    have hanswers := (hopened rfl).2 [] nofun
    refine ⟨hx, ?_, ?_⟩
    · exact hanswers (asked 0)
    · exact hanswers (asked 1)

end Memory

end KernelStats
