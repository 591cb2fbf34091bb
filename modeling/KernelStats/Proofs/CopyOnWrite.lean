import KernelStats.Proofs.CloneFamilies

/-!
# Data that clones and sessions share

A clone, and a session that is opened, copy nothing: they point to the data of their source. A change is
made in place as long as nothing else points there, else to a copy. No answer tells whether data are
shared or copied at once.
-/

namespace KernelStats.Memory

structure Pointer where
  family : Nat
  cell : Nat

def dataAt (cells : List Data) (cell : Nat) : Data := cells[cell]?.getD {}

def Pointer.holding (cells : List Data) (p : Pointer) : Holding where
  family := p.family
  data := dataAt cells p.cell

/-- Sources and sessions that share their data. -/
structure Heap where
  families : List Calls := []
  cells : List Data := []
  sources : List Pointer := []
  sessions : List (Option Pointer) := []

namespace Heap

def owners (w : Heap) (cell : Nat) : Nat :=
  w.sources.countP (·.cell = cell) + w.sessions.countP (·.any (·.cell = cell))

def count (w : Heap) (family : Nat) (c : Call) : Heap :=
  { w with families := w.families.modify family (·.add c) }

/-- Changes data in place where they have one owner, else a copy that the source owns from then on. -/
def change (w : Heap) (source : Nat) (p : Pointer) (c : Change) : Heap :=
  let d := c.apply (dataAt w.cells p.cell)
  if w.owners p.cell = 1 then { w with cells := w.cells.set p.cell d }
  else
    { w with
      cells := w.cells ++ [d]
      sources := w.sources.set source { p with cell := w.cells.length } }

def step (w : Heap) : Operation → Answer × Heap
  | .create d =>
    (.source w.sources.length,
      { w with
        families := w.families ++ [{}]
        cells := w.cells ++ [d]
        sources := w.sources ++ [{ family := w.families.length, cell := w.cells.length }] })
  | .clone source =>
    match w.sources[source]? with
    | none => (.noSource, w)
    | some p => (.source w.sources.length, { w with sources := w.sources ++ [p] })
  | .change source c =>
    match w.sources[source]? with
    | none => (.noSource, w)
    | some p => (.changed, w.change source p c)
  | .calls source =>
    match w.sources[source]? with
    | none => (.noSource, w)
    | some p => (.calls (w.families[p.family]?.getD {}), w)
  | .openSession source =>
    match w.sources[source]? with
    | none => (.noSource, w)
    | some p =>
      if (dataAt w.cells p.cell).unavailable then
        (.failed absentCause, w)
      else
        (.session w.sessions.length,
          { w.count p.family .opened with sessions := w.sessions ++ [some p] })
  | .closeSession number =>
    match w.sessions[number]? with
    | none => (.noSession, w)
    | some none => (.closed false, w)
    | some (some p) =>
      (.closed true, { w.count p.family .closed with sessions := w.sessions.set number none })
  | .ask number q =>
    match w.sessions[number]?.join with
    | none => (.noSession, w)
    | some p =>
      (.reply ((dataAt w.cells p.cell).reply q),
        match Call.ofQuery? q with
        | some c => w.count p.family c
        | none => w)

def trace (w : Heap) : List Operation → List (Operation × Answer)
  | [] => []
  | op :: ops => (op, (w.step op).1) :: (w.step op).2.trace ops

def world (w : Heap) : World where
  families := w.families
  sources := w.sources.map (·.holding w.cells)
  sessions := w.sessions.map (·.map (·.holding w.cells))

structure Closed (w : Heap) : Prop where
  source : ∀ p ∈ w.sources, p.cell < w.cells.length
  session : ∀ s ∈ w.sessions, ∀ p ∈ s, p.cell < w.cells.length

variable {w : Heap}

theorem Closed.of_source (hw : w.Closed) {source : Nat} {p : Pointer}
    (hs : w.sources[source]? = some p) : p.cell < w.cells.length :=
  hw.source p (List.mem_of_getElem? hs)

theorem world_count (w : Heap) (family : Nat) (c : Call) :
    (w.count family c).world = w.world.count family c := by
  have hmodify : w.families.modify family (·.add c) =
      w.families.set family ((w.families[family]?.getD {}).add c) := by
    let _ : Inhabited Calls := ⟨{}⟩
    exact List.modify_eq_set _ _ _
  rw [count, hmodify]
  rfl

theorem holding_append {cells : List Data} {p : Pointer} (h : p.cell < cells.length) (d : Data) :
    p.holding (cells ++ [d]) = p.holding cells := by
  rw [Pointer.holding, dataAt, List.getElem?_append_left h]
  rfl

theorem holding_set_ne {cells : List Data} {p : Pointer} {cell : Nat} (h : p.cell ≠ cell) (d : Data) :
    p.holding (cells.set cell d) = p.holding cells := by
  rw [Pointer.holding, dataAt, List.getElem?_set_ne (Ne.symm h)]
  rfl

theorem map_sessions {sessions : List (Option Pointer)} {f g : Pointer → Holding}
    (h : ∀ s ∈ sessions, ∀ p ∈ s, f p = g p) :
    sessions.map (·.map f) = sessions.map (·.map g) :=
  List.map_congr_left fun s hs => Option.map_congr (h s hs)

theorem sole_owner {source : Nat} {p : Pointer} (hs : w.sources[source]? = some p)
    (h : w.owners p.cell = 1) :
    ∃ before after, w.sources = before ++ p :: after ∧ before.length = source ∧
      (∀ q ∈ before, q.cell ≠ p.cell) ∧ (∀ q ∈ after, q.cell ≠ p.cell) ∧
      ∀ s ∈ w.sessions, ∀ q ∈ s, q.cell ≠ p.cell := by
  obtain ⟨hlt, rfl⟩ := List.getElem?_eq_some_iff.mp hs
  have hsplit : w.sources = w.sources.take source ++ w.sources[source] :: w.sources.drop (source + 1) := by
    rw [List.getElem_cons_drop, List.take_append_drop]
  generalize w.sources[source] = p at hsplit h
  rw [owners, hsplit, List.countP_append, List.countP_cons] at h
  simp only [decide_true, if_true] at h
  have hbefore : (w.sources.take source).countP (·.cell = p.cell) = 0 := by omega
  have hafter : (w.sources.drop (source + 1)).countP (·.cell = p.cell) = 0 := by omega
  have hsessions : w.sessions.countP (·.any (·.cell = p.cell)) = 0 := by omega
  rw [List.countP_eq_zero] at hbefore hafter hsessions
  refine ⟨_, _, hsplit, List.length_take_of_le (Nat.le_of_lt hlt), ?_, ?_, ?_⟩
  · intro q hq
    simpa using hbefore q hq
  · intro q hq
    simpa using hafter q hq
  · intro s hs q hq
    obtain rfl := hq
    simpa using hsessions (some q) hs

theorem world_change_in_place {source : Nat} {p : Pointer} (hs : w.sources[source]? = some p)
    (hcell : p.cell < w.cells.length) (h : w.owners p.cell = 1) (d : Data) :
    world { w with cells := w.cells.set p.cell d } =
      { w.world with
        sources := w.world.sources.set source { family := p.family, data := d } } := by
  -- what is before and behind the source points elsewhere, and so do the sessions
  obtain ⟨before, after, hsources, rfl, hbefore, hafter, hsessions⟩ := sole_owner hs h
  have hnew : p.holding (w.cells.set p.cell d) = ⟨p.family, d⟩ := by
    rw [Pointer.holding, dataAt, List.getElem?_set_self hcell]
    rfl
  refine congr (congrArg (World.mk _) ?_) ?_
  · simp only [world, hsources, List.map_append, List.map_cons, hnew]
    rw [List.map_congr_left fun q hq => holding_set_ne (hbefore q hq) d,
      List.map_congr_left fun q hq => holding_set_ne (hafter q hq) d]
    simp
  · exact map_sessions fun s hs q hq => holding_set_ne (hsessions s hs q hq) d

theorem world_append (hw : w.Closed) (d : Data) :
    { w with cells := w.cells ++ [d] }.world = w.world := by
  rw [world, world]
  refine congr (congrArg (World.mk _) ?_) ?_
  · exact List.map_congr_left fun q hq => holding_append (hw.source q hq) d
  · exact map_sessions fun s hs q hq => holding_append (hw.session s hs q hq) d

theorem holding_concat (cells : List Data) (family : Nat) (d : Data) :
    Pointer.holding (cells ++ [d]) ⟨family, cells.length⟩ = ⟨family, d⟩ := by
  rw [Pointer.holding, dataAt, List.getElem?_concat_length]
  rfl

theorem world_change (hw : w.Closed) {source : Nat} {p : Pointer} (hs : w.sources[source]? = some p)
    (c : Change) :
    (w.change source p c).world =
      { w.world with
        sources := w.world.sources.set source
          { family := p.family, data := c.apply (dataAt w.cells p.cell) } } := by
  rw [change]
  by_cases h : w.owners p.cell = 1
  · rw [if_pos h]
    exact world_change_in_place hs (hw.of_source hs) h _
  · rw [if_neg h, ← world_append hw (c.apply (dataAt w.cells p.cell)),
      ← holding_concat w.cells p.family (c.apply (dataAt w.cells p.cell))]
    exact congrArg (World.mk _ · _) List.map_set

theorem Closed.of_le (hw : w.Closed) {cells : List Data} (hle : w.cells.length ≤ cells.length) :
    Closed { w with cells } where
  source p hp := Nat.lt_of_lt_of_le (hw.source p hp) hle
  session s hs p hp := Nat.lt_of_lt_of_le (hw.session s hs p hp) hle

theorem Closed.append (hw : w.Closed) (d : Data) :
    Closed { w with cells := w.cells ++ [d] } ∧ w.cells.length < (w.cells ++ [d]).length := by
  have hlength : (w.cells ++ [d]).length = w.cells.length + 1 := List.length_append
  exact ⟨hw.of_le (by omega), by omega⟩

theorem Closed.change (hw : w.Closed) (source : Nat) (p : Pointer) (c : Change) :
    (w.change source p c).Closed := by
  rw [Heap.change]
  by_cases h : w.owners p.cell = 1
  · rw [if_pos h]
    exact hw.of_le (Nat.le_of_eq List.length_set.symm)
  · rw [if_neg h]
    obtain ⟨hgrown, hnew⟩ := hw.append (c.apply (dataAt w.cells p.cell))
    exact ⟨forall_mem_set hgrown.source hnew, hgrown.session⟩

theorem Closed.step (hw : w.Closed) (op : Operation) : (w.step op).2.Closed := by
  cases op with
  | create d =>
    obtain ⟨hgrown, hnew⟩ := hw.append d
    exact ⟨forall_mem_concat hgrown.source hnew, hgrown.session⟩
  | clone source =>
    rw [Heap.step]
    cases hs : w.sources[source]? with
    | none => exact hw
    | some p => exact ⟨forall_mem_concat hw.source (hw.of_source hs), hw.session⟩
  | change source c =>
    rw [Heap.step]
    cases w.sources[source]? with
    | none => exact hw
    | some p => exact hw.change source p c
  | calls source =>
    rw [Heap.step]
    cases w.sources[source]? with
    | none => exact hw
    | some p => exact hw
  | openSession source =>
    rw [Heap.step]
    cases hs : w.sources[source]? with
    | none => exact hw
    | some p =>
      dsimp only
      by_cases hu : (dataAt w.cells p.cell).unavailable = true
      · rw [if_pos hu]
        exact hw
      · rw [if_neg hu]
        refine ⟨hw.source, forall_mem_concat hw.session ?_⟩
        intro q hq
        obtain rfl := Option.some.inj hq
        exact hw.of_source hs
  | closeSession number =>
    rw [Heap.step]
    cases hn : w.sessions[number]? with
    | none => exact hw
    | some session =>
      cases session with
      | none => exact hw
      | some p => exact ⟨hw.source, forall_mem_set hw.session fun _ hq => nomatch hq⟩
  | ask number q =>
    rw [Heap.step]
    cases w.sessions[number]?.join with
    | none => exact hw
    | some p =>
      cases Call.ofQuery? q with
      | none => exact hw
      | some c => exact ⟨hw.source, hw.session⟩

theorem world_addSource (w : Heap) (p : Pointer) :
    { w with sources := w.sources ++ [p] }.world =
      { w.world with sources := w.world.sources ++ [p.holding w.cells] } :=
  congrArg (World.mk _ · _) List.map_append

/-- Each operation is answered as in the world without sharing, and leads on to it. -/
theorem step_world (hw : w.Closed) (op : Operation) :
    (w.step op).1 = (w.world.step op).1 ∧ (w.step op).2.world = (w.world.step op).2 := by
  have hsource (source : Nat) :
      w.world.sources[source]? = w.sources[source]?.map (·.holding w.cells) := List.getElem?_map
  have hsession (number : Nat) :
      w.world.sessions[number]? = w.sessions[number]?.map (·.map (·.holding w.cells)) :=
    List.getElem?_map
  have hsources : w.world.sources.length = w.sources.length := List.length_map _
  have hsessions : w.world.sessions.length = w.sessions.length := List.length_map _
  cases op with
  | create d =>
    refine ⟨congrArg Answer.source hsources.symm, ?_⟩
    have hadded := world_addSource
      { w with families := w.families ++ [({} : Calls)], cells := w.cells ++ [d] }
      ⟨w.families.length, w.cells.length⟩
    rw [holding_concat] at hadded
    exact hadded.trans (congrArg (fun v : World => { v with
      families := w.families ++ [({} : Calls)]
      sources := v.sources ++ [({ family := w.families.length, data := d } : Holding)] })
      (world_append hw d))
  | clone source =>
    rw [step, World.step, hsource]
    cases w.sources[source]? with
    | none => exact ⟨rfl, rfl⟩
    | some p => exact ⟨congrArg Answer.source hsources.symm, w.world_addSource p⟩
  | change source c =>
    rw [step, World.step, hsource]
    cases hs : w.sources[source]? with
    | none => exact ⟨rfl, rfl⟩
    | some p => exact ⟨rfl, world_change hw hs c⟩
  | calls source =>
    rw [step, World.step, hsource]
    cases w.sources[source]? with
    | none => exact ⟨rfl, rfl⟩
    | some p => exact ⟨rfl, rfl⟩
  | openSession source =>
    rw [step, World.step, hsource]
    cases w.sources[source]? with
    | none => exact ⟨rfl, rfl⟩
    | some p =>
      simp only [Option.map_some]
      cases hu : (dataAt w.cells p.cell).unavailable with
      | true =>
        have hopen := World.openOn_of_unavailable (h := p.holding w.cells) hu w.world
        rw [hopen]
        exact ⟨rfl, rfl⟩
      | false =>
        have hopen := World.openOn_of_available (h := p.holding w.cells) hu w.world
        rw [hopen]
        refine ⟨congrArg Answer.session hsessions.symm, ?_⟩
        dsimp only [Pointer.holding]
        rw [← world_count]
        exact congrArg (World.mk _ _) List.map_append
  | closeSession number =>
    rw [step, World.step, hsession]
    cases w.sessions[number]? with
    | none => exact ⟨rfl, rfl⟩
    | some session =>
      cases session with
      | none => exact ⟨rfl, rfl⟩
      | some p =>
        refine ⟨rfl, ?_⟩
        simp only [Option.map_some, World.close_eq, Pointer.holding]
        rw [← world_count]
        exact congrArg (World.mk _ _) List.map_set
  | ask number q =>
    rw [step, World.step, World.session?, hsession]
    cases hn : w.sessions[number]? with
    | none => exact ⟨rfl, rfl⟩
    | some session =>
      cases session with
      | none => exact ⟨rfl, rfl⟩
      | some p =>
        have hworld : w.world.sessions[number]? = some (some (p.holding w.cells)) := by
          rw [hsession, hn]
          rfl
        simp only [Option.map_some, Option.join_some, World.askIn_eq hworld]
        refine ⟨rfl, ?_⟩
        cases Call.ofQuery? q with
        | none => rfl
        | some c => exact w.world_count p.family c

theorem trace_world (hw : w.Closed) (ops : List Operation) : w.trace ops = w.world.trace ops := by
  induction ops generalizing w with
  | nil => rfl
  | cons op ops ih =>
    obtain ⟨hanswer, hnext⟩ := step_world hw op
    rw [trace, World.trace, ih (hw.step op), hanswer, hnext]

theorem Closed.empty : Closed {} := ⟨by simp, by simp⟩

end Heap

/-- Whatever is done to sources and their sessions, from the beginning: a family of clones counts the
sessions that were opened and closed and the questions that were answered in it, and no others, and the
sessions that were opened but not closed are those that live. The data of a source change with the
changes that are made to it, and a session answers from the data that its source had when it was
opened. All of this is so also where clones and sessions share their data until they are changed. -/
theorem clones_share_calls (ops : List Operation) :
    let w := World.run {} ops
    let trace := World.trace {} ops
    let calls := World.callsMade {} ops
    trace = Heap.trace {} ops ∧
      (∀ a b x y, w.sources[a]? = some x → w.sources[b]? = some y →
        (x.family = y.family ↔ Relation.EqvGen (Cloned trace) a b)) ∧
      (∀ f, w.callsOf f = {
          opens := calls.count (f, .opened)
          closes := calls.count (f, .closed)
          lookups := calls.count (f, .lookup)
          structured := calls.count (f, .structured) } ∧
        (w.callsOf f).opens = (w.callsOf f).closes + w.live f) ∧
      ∀ source x, w.sources[source]? = some x →
        (w.step (.calls source)).1 = .calls (w.callsOf x.family) ∧
        w.step (.clone source) =
          (.source w.sources.length, { w with sources := w.sources ++ [x] }) ∧
        (∀ later, (w.run later).sources[source]? = some { x with
          data := (later.filterMap (·.changeTo? source)).foldl Change.apply x.data }) ∧
        (x.data.unavailable = true →
          w.step (.openSession source) = (.failed absentCause, w)) ∧
        (x.data.unavailable = false → ∃ session,
          (w.step (.openSession source)).1 = .session session ∧
            ∀ later q, (((w.step (.openSession source)).2.run later).step (.ask session q)).1 =
              if later.any (·.closes session) then .noSession else .reply (x.data.reply q)) := by
  intro w trace calls
  have haccounts : w.Accounts trace calls := World.Accounts.empty.run ops
  refine ⟨(Heap.trace_world .empty ops).symm, ?_, ?_, ?_⟩
  · intro a b x y hx hy
    have ha : w.familyOf a = some x.family := congrArg (Option.map _) hx
    have hb : w.familyOf b = some y.family := congrArg (Option.map _) hy
    constructor
    · intro hfamily
      exact haccounts.kin.cloned ha (hfamily ▸ hb)
    · intro hcloned
      have heq := haccounts.kin.familyOf_eq hcloned
      exact Option.some.inj (ha.symm.trans (heq.trans hb))
  · intro f
    have hcalls := haccounts.callsOf f
    refine ⟨hcalls, ?_⟩
    rw [hcalls]
    exact haccounts.balance f
  · intro source x hx
    refine ⟨?_, ?_, World.source_run hx, ?_, World.answer_opened hx⟩
    · simp only [World.step, hx]
    · simp only [World.step, hx, World.addSource]
    · intro hu
      simp only [World.step, hx, World.openOn_of_unavailable hu]

end KernelStats.Memory
