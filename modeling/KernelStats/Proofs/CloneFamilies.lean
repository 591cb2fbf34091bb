import KernelStats.Memory.World
import Mathlib.Logic.Relation

/-!
# Families of clones

A source in memory and its clones count their calls together, and each of their sessions counts with
them. Their data are their own: a change reaches one source and none of its clones, and a session keeps
what its source had when it was opened.
-/

namespace KernelStats.Memory

def Data.reply (d : Data) : Query → Reply
  | .lookup module inst group => .found (d.lookup module inst group)
  | .read e => .refreshed (d.read e).1 (d.read e).2
  | .value e stat => .value (d.value e stat)
  | .structured kind => .structured (d.structured kind)
  | .snapshotTime e => .time e.snaptime

inductive Call where
  | opened
  | closed
  | lookup
  | structured
deriving DecidableEq

def Calls.add (c : Calls) : Call → Calls
  | .opened => { c with opens := c.opens + 1 }
  | .closed => { c with closes := c.closes + 1 }
  | .lookup => { c with lookups := c.lookups + 1 }
  | .structured => { c with structured := c.structured + 1 }

def Call.ofQuery? : Query → Option Call
  | .lookup .. => some .lookup
  | .structured _ => some .structured
  | _ => none

theorem ask_eq (m : Memory) (q : Query) :
    source.ask m q =
      (m.data.reply q,
        { m with
          calls := match Call.ofQuery? q with
            | some c => m.calls.add c
            | none => m.calls }) := by
  cases q <;> rfl

def absentCause : SourceError := .unavailable "/dev/kstat not present"

def Calls.noting (c : Calls) (f : Nat) : Option (Nat × Call) → Calls
  | some (family, call) => if f = family then c.add call else c
  | none => c

def tally (calls : List (Nat × Call)) (family : Nat) : Calls where
  opens := calls.count (family, .opened)
  closes := calls.count (family, .closed)
  lookups := calls.count (family, .lookup)
  structured := calls.count (family, .structured)

theorem tally_append (calls : List (Nat × Call)) (o : Option (Nat × Call)) (f : Nat) :
    tally (calls ++ o.toList) f = (tally calls f).noting f o := by
  cases o with
  | none => rw [Option.toList_none, List.append_nil, Calls.noting]
  | some x =>
    obtain ⟨family, c⟩ := x
    rw [Option.toList_some, Calls.noting]
    by_cases hf : f = family
    · subst hf
      cases c <;> simp [tally, Calls.add, List.count_append]
    · simp [tally, hf, List.count_append, Ne.symm hf]

def Operation.source? : Operation → Option Nat
  | clone source | change source _ | calls source | openSession source => some source
  | _ => none

def Operation.changeTo? (source : Nat) : Operation → Option Change
  | change number c => if number = source then some c else none
  | _ => none

def Operation.closes (session : Nat) : Operation → Bool
  | closeSession number => number = session
  | _ => false

def Cloned (trace : List (Operation × Answer)) (source copy : Nat) : Prop :=
  (.clone source, .source copy) ∈ trace

theorem forall_mem_concat {α : Type} {P : α → Prop} {l : List α} {x : α} (hl : ∀ y ∈ l, P y)
    (hx : P x) : ∀ y ∈ l ++ [x], P y :=
  List.forall_mem_append.mpr ⟨hl, List.forall_mem_singleton.mpr hx⟩

theorem forall_mem_set {α : Type} {P : α → Prop} {l : List α} {i : Nat} {x : α} (hl : ∀ y ∈ l, P y)
    (hx : P x) : ∀ y ∈ l.set i x, P y := by
  intro y hy
  rcases List.mem_or_eq_of_mem_set hy with hold | rfl
  · exact hl y hold
  · exact hx

namespace World

def count (w : World) (family : Nat) (c : Call) : World :=
  w.setCalls family ((w.callsOf family).add c)

def live (w : World) (family : Nat) : Nat := w.sessions.countP (·.any (·.family = family))

/-- The call that an operation makes and the family that it is made to: a session that is opened, one
that is closed, or a question that a session answers. -/
def call? (w : World) (op : Operation) : Option (Nat × Call) :=
  match op, (w.step op).1 with
  | .openSession source, .session _ => w.sources[source]?.map fun h => (h.family, .opened)
  | .closeSession number, .closed true => (w.session? number).map fun h => (h.family, .closed)
  | .ask number q, .reply _ =>
    (w.session? number).bind fun h => (Call.ofQuery? q).map fun c => (h.family, c)
  | _, _ => none

/-- What one operation can do. -/
inductive Moves (w : World) : Operation → Answer → Option (Nat × Call) → World → Prop
  | created (d : Data) :
    w.Moves (.create d) (.source w.sources.length) none
      { w with
        families := w.families ++ [{}]
        sources := w.sources ++ [{ family := w.families.length, data := d }] }
  | cloned {source : Nat} {h : Holding} (hs : w.sources[source]? = some h) :
    w.Moves (.clone source) (.source w.sources.length) none { w with sources := w.sources ++ [h] }
  | changed {source : Nat} {h : Holding} (c : Change) (hs : w.sources[source]? = some h) :
    w.Moves (.change source c) .changed none
      { w with sources := w.sources.set source { h with data := c.apply h.data } }
  | reported {source : Nat} {h : Holding} (hs : w.sources[source]? = some h) :
    w.Moves (.calls source) (.calls (w.callsOf h.family)) none w
  | opened {source : Nat} {h : Holding} (hs : w.sources[source]? = some h)
    (ha : h.data.unavailable = false) :
    w.Moves (.openSession source) (.session w.sessions.length) (some (h.family, .opened))
      { w.count h.family .opened with sessions := w.sessions ++ [some h] }
  | refused {source : Nat} {h : Holding} (hs : w.sources[source]? = some h)
    (hu : h.data.unavailable = true) :
    w.Moves (.openSession source) (.failed absentCause) none w
  | closed {number : Nat} {h : Holding} (hn : w.sessions[number]? = some (some h)) :
    w.Moves (.closeSession number) (.closed true) (some (h.family, .closed))
      { w.count h.family .closed with sessions := w.sessions.set number none }
  | counted {number : Nat} {h : Holding} {q : Query} {c : Call}
    (hn : w.sessions[number]? = some (some h)) (hq : Call.ofQuery? q = some c) :
    w.Moves (.ask number q) (.reply (h.data.reply q)) (some (h.family, c)) (w.count h.family c)
  | answered {number : Nat} {h : Holding} {q : Query} (hn : w.sessions[number]? = some (some h))
    (hq : Call.ofQuery? q = none) :
    w.Moves (.ask number q) (.reply (h.data.reply q)) none w
  | noSource {op : Operation} {source : Nat} (hop : op.source? = some source)
    (hs : w.sources[source]? = none) : w.Moves op .noSource none w
  | neverOpened {number : Nat} (hn : w.sessions[number]? = none) :
    w.Moves (.closeSession number) .noSession none w
  | closedBefore {number : Nat} (hn : w.sessions[number]? = some none) :
    w.Moves (.closeSession number) (.closed false) none w
  | unanswered {number : Nat} {q : Query} (hn : w.session? number = none) :
    w.Moves (.ask number q) .noSession none w

theorem setCalls_callsOf (w : World) (family : Nat) : w.setCalls family (w.callsOf family) = w := by
  have hfamilies : w.families.set family (w.callsOf family) = w.families := by
    rw [callsOf]
    by_cases hlt : family < w.families.length
    · rw [List.getElem?_eq_getElem hlt]
      exact List.set_getElem_self hlt
    · exact List.set_eq_of_length_le (Nat.not_lt.mp hlt)
  rw [setCalls, hfamilies]

theorem set_session {w : World} {number : Nat} {h : Holding}
    (hn : w.sessions[number]? = some (some h)) : w.sessions.set number (some h) = w.sessions := by
  obtain ⟨hlt, hget⟩ := List.getElem?_eq_some_iff.mp hn
  rw [← hget]
  exact List.set_getElem_self hlt

theorem askIn_eq {w : World} {number : Nat} {h : Holding} (hn : w.sessions[number]? = some (some h))
    (q : Query) :
    w.askIn number h q =
      (h.data.reply q,
        match Call.ofQuery? q with
        | some c => w.count h.family c
        | none => w) := by
  simp only [askIn, ask_eq, view, set_session hn]
  cases Call.ofQuery? q with
  | some c => rfl
  | none => exact congrArg (_, ·) (w.setCalls_callsOf h.family)

theorem openOn_of_unavailable {h : Holding} (hu : h.data.unavailable = true) (w : World) :
    w.openOn h = (.failed absentCause, w) := by
  have hacquire : source.acquire (w.view h) = (.error absentCause, w.view h) := by
    simp only [source, view, hu, if_true, absentCause]
  rw [openOn, hacquire]
  exact congrArg (_, ·) (w.setCalls_callsOf h.family)

theorem openOn_of_available {h : Holding} (ha : h.data.unavailable = false) (w : World) :
    w.openOn h = (.session w.sessions.length,
      { w.count h.family .opened with sessions := w.sessions ++ [some h] }) := by
  simp only [openOn, source, view, ha]
  rfl

theorem close_eq (w : World) (number : Nat) (h : Holding) :
    w.close number h =
      { w.count h.family .closed with sessions := w.sessions.set number none } := rfl

theorem step_moves (w : World) (op : Operation) :
    w.Moves op (w.step op).1 (w.call? op) (w.step op).2 := by
  cases op with
  | create d => exact .created d
  | clone source =>
    cases hs : w.sources[source]? with
    | none => simpa [call?, step, hs] using .noSource rfl hs
    | some h => simpa [call?, step, hs] using .cloned hs
  | change source c =>
    cases hs : w.sources[source]? with
    | none => simpa [call?, step, hs] using .noSource rfl hs
    | some h => simpa [call?, step, hs] using .changed c hs
  | calls source =>
    cases hs : w.sources[source]? with
    | none => simpa [call?, step, hs] using .noSource rfl hs
    | some h => simpa [call?, step, hs] using .reported hs
  | openSession source =>
    cases hs : w.sources[source]? with
    | none => simpa [call?, step, hs] using .noSource rfl hs
    | some h =>
      cases hu : h.data.unavailable with
      | true => simpa [call?, step, hs, openOn_of_unavailable hu] using .refused hs hu
      | false => simpa [call?, step, hs, openOn_of_available hu] using .opened hs hu
  | closeSession number =>
    cases hn : w.sessions[number]? with
    | none => simpa [call?, step, hn] using .neverOpened hn
    | some session =>
      cases session with
      | none => simpa [call?, step, hn] using .closedBefore hn
      | some h => simpa [call?, step, hn, session?] using .closed hn
  | ask number q =>
    cases hn : w.session? number with
    | none => simpa [call?, step, hn] using .unanswered hn
    | some h =>
      have hnumber : w.sessions[number]? = some (some h) := Option.join_eq_some_iff.mp hn
      cases hq : Call.ofQuery? q with
      | some c => simpa [call?, step, hn, askIn_eq hnumber, hq] using .counted hnumber hq
      | none => simpa [call?, step, hn, askIn_eq hnumber, hq] using .answered hnumber hq

structure InRange (w : World) : Prop where
  source : ∀ h ∈ w.sources, h.family < w.families.length
  session : ∀ s ∈ w.sessions, ∀ h ∈ s, h.family < w.families.length

theorem length_count (w : World) (family : Nat) (c : Call) :
    (w.count family c).families.length = w.families.length := List.length_set

theorem callsOf_count {w : World} {family : Nat} (h : family < w.families.length) (c : Call)
    (f : Nat) :
    (w.count family c).callsOf f = if f = family then (w.callsOf f).add c else w.callsOf f := by
  rw [count, setCalls, callsOf, List.getElem?_set]
  by_cases hf : f = family
  · subst hf
    rw [if_pos rfl, if_pos h, if_pos rfl]
    rfl
  · rw [if_neg (Ne.symm hf), if_neg hf]
    rfl

variable {w w' : World} {op : Operation} {a : Answer} {o : Option (Nat × Call)}

theorem InRange.of_source (hw : w.InRange) {number : Nat} {h : Holding}
    (hs : w.sources[number]? = some h) : h.family < w.families.length :=
  hw.source h (List.mem_of_getElem? hs)

theorem InRange.of_session (hw : w.InRange) {number : Nat} {h : Holding}
    (hn : w.sessions[number]? = some (some h)) : h.family < w.families.length :=
  hw.session _ (List.mem_of_getElem? hn) h rfl

theorem InRange.of_le (hw : w.InRange) {families : List Calls}
    (hle : w.families.length ≤ families.length) : InRange { w with families } where
  source h hh := Nat.lt_of_lt_of_le (hw.source h hh) hle
  session s hs h hh := Nat.lt_of_lt_of_le (hw.session s hs h hh) hle

theorem InRange.count (hw : w.InRange) (family : Nat) (c : Call) : (w.count family c).InRange :=
  hw.of_le (Nat.le_of_eq (w.length_count family c).symm)

theorem Moves.inRange (h : w.Moves op a o w') (hw : w.InRange) : w'.InRange := by
  cases h with
  | created d =>
    have hlength : (w.families ++ [({} : Calls)]).length = w.families.length + 1 :=
      List.length_append
    have hgrown : InRange { w with families := w.families ++ [({} : Calls)] } :=
      hw.of_le (by omega)
    have hnew : w.families.length < (w.families ++ [({} : Calls)]).length := by omega
    exact ⟨forall_mem_concat hgrown.source hnew, hgrown.session⟩
  | cloned hs => exact ⟨forall_mem_concat hw.source (hw.of_source hs), hw.session⟩
  | changed c hs =>
    have hchanged := hw.of_source hs
    exact ⟨forall_mem_set hw.source hchanged, hw.session⟩
  | @opened _ h hs ha =>
    have hcount := hw.count h.family .opened
    refine ⟨hcount.source, forall_mem_concat hcount.session ?_⟩
    intro h' hh
    obtain rfl := Option.some.inj hh
    exact hcount.of_source hs
  | @closed _ h hn =>
    have hcount := hw.count h.family .closed
    exact ⟨hcount.source, forall_mem_set hcount.session fun _ hh => nomatch hh⟩
  | counted hn hq => exact hw.count _ _
  | _ => exact hw

theorem callsOf_created (w : World) (f : Nat) :
    (w.families ++ [({} : Calls)])[f]?.getD {} = w.callsOf f := by
  rw [callsOf, List.getElem?_append]
  by_cases hlt : f < w.families.length
  · rw [if_pos hlt]
  · rw [if_neg hlt, List.getElem?_eq_none (Nat.not_lt.mp hlt)]
    cases f - w.families.length <;> rfl

theorem Moves.callsOf (h : w.Moves op a o w') (hw : w.InRange) (f : Nat) :
    w'.callsOf f = (w.callsOf f).noting f o := by
  cases h with
  | created d => exact w.callsOf_created f
  | opened hs ha => exact callsOf_count (hw.of_source hs) _ f
  | closed hn => exact callsOf_count (hw.of_session hn) _ f
  | counted hn hq => exact callsOf_count (hw.of_session hn) _ f
  | _ => rfl

theorem live_set_none {number : Nat} {h : Holding} (hn : w.sessions[number]? = some (some h))
    (f : Nat) :
    live { w with sessions := w.sessions.set number none } f + (if h.family = f then 1 else 0) =
      w.live f := by
  obtain ⟨hlt, hget⟩ := List.getElem?_eq_some_iff.mp hn
  have hset := List.countP_set (p := fun s : Option Holding => s.any (·.family = f)) (a := none) hlt
  rw [hget] at hset
  rw [live, hset]
  by_cases hf : h.family = f
  · have hpos : 0 < w.live f :=
      List.countP_pos_iff.mpr ⟨_, List.mem_of_getElem? hn, by simp [hf]⟩
    rw [live] at hpos ⊢
    simp only [Option.any_some, Option.any_none, hf, decide_true, if_true, Bool.false_eq_true,
      if_false]
    omega
  · simp [live, hf]

theorem live_append (w : World) (h : Holding) (f : Nat) :
    live { w with sessions := w.sessions ++ [some h] } f =
      w.live f + if h.family = f then 1 else 0 := by
  rw [live, List.countP_append, List.countP_singleton]
  simp [live]

theorem Moves.live (h : w.Moves op a o w') (f : Nat) :
    w'.live f + o.toList.count (f, .closed) = w.live f + o.toList.count (f, .opened) := by
  -- the one call that is made counts if it is of the kind and made to the family
  have hone (family : Nat) (c c' : Call) : [(family, c)].count (f, c') =
      if c = c' then (if family = f then 1 else 0) else 0 := by
    by_cases hf : family = f <;> by_cases hc : c = c' <;> simp [hf, hc]
  cases h with
  | @opened _ h hs ha =>
    simp only [Option.toList_some, hone]
    exact w.live_append h f
  | @closed number h hn =>
    simp only [Option.toList_some, hone]
    exact live_set_none hn f
  | @counted _ h q c _ hq =>
    have hc : c = .lookup ∨ c = .structured := by
      cases q with
      | lookup module inst group => exact .inl (Option.some.inj hq).symm
      | structured kind => exact .inr (Option.some.inj hq).symm
      | read e => nomatch hq
      | value e stat => nomatch hq
      | snapshotTime e => nomatch hq
    simp only [Option.toList_some, hone]
    rcases hc with rfl | rfl <;> rfl
  | _ => rfl

theorem Moves.source (h : w.Moves op a o w') {number : Nat} {x : Holding}
    (hx : w.sources[number]? = some x) :
    w'.sources[number]? =
      some { x with data := (op.changeTo? number).toList.foldl Change.apply x.data } := by
  obtain ⟨hlt, -⟩ := List.getElem?_eq_some_iff.mp hx
  cases h with
  | created d => exact (List.getElem?_append_left hlt).trans hx
  | cloned hs => exact (List.getElem?_append_left hlt).trans hx
  | @changed source h c hs =>
    rw [Operation.changeTo?]
    by_cases heq : source = number
    · subst heq
      obtain rfl := Option.some.inj (hs.symm.trans hx)
      rw [if_pos rfl]
      exact List.getElem?_set_self hlt
    · rw [if_neg heq]
      exact (List.getElem?_set_ne heq).trans hx
  | noSource hop hs =>
    cases op with
    | change source c =>
      obtain rfl := Option.some.inj hop
      rw [Operation.changeTo?, if_neg]
      · exact hx
      · rintro rfl
        nomatch hs.symm.trans hx
    | _ => exact hx
  | _ => exact hx

theorem Moves.session (h : w.Moves op a o w') {number : Nat} {x : Option Holding}
    (hx : w.sessions[number]? = some x) :
    w'.sessions[number]? = some (if op.closes number then none else x) := by
  obtain ⟨hlt, -⟩ := List.getElem?_eq_some_iff.mp hx
  cases h with
  | opened hs ha => exact (List.getElem?_append_left hlt).trans hx
  | @closed closed h hn =>
    by_cases heq : closed = number
    · subst heq
      simp [Operation.closes, hlt]
    · simp [Operation.closes, heq, hx]
  | @neverOpened closed hn =>
    have hne : closed ≠ number := by
      rintro rfl
      nomatch hn.symm.trans hx
    simp [Operation.closes, hne, hx]
  | @closedBefore closed hn =>
    by_cases heq : closed = number
    · subst heq
      simp [Operation.closes, hn]
    · simp [Operation.closes, heq, hx]
  | @noSource op source hop hs =>
    cases op with
    | closeSession => nomatch hop
    | _ => exact hx
  | _ => exact hx

def familyOf (w : World) (source : Nat) : Option Nat := w.sources[source]?.map (·.family)

theorem Moves.familyOf_eq (h : w.Moves op a o w') {source f : Nat} (hf : w.familyOf source = some f) :
    w'.familyOf source = some f := by
  obtain ⟨x, hx, rfl⟩ := Option.map_eq_some_iff.mp hf
  rw [familyOf, h.source hx]
  rfl

theorem getElem?_concat_cases {l : List Holding} {h x : Holding} {i : Nat}
    (hx : (l ++ [h])[i]? = some x) : l[i]? = some x ∨ (i = l.length ∧ x = h) := by
  rcases Nat.lt_trichotomy i l.length with hlt | rfl | hgt
  · rw [List.getElem?_append_left hlt] at hx
    exact .inl hx
  · rw [List.getElem?_concat_length] at hx
    exact .inr ⟨rfl, (Option.some.inj hx).symm⟩
  · obtain ⟨hlt, -⟩ := List.getElem?_eq_some_iff.mp hx
    rw [List.length_append, List.length_singleton] at hlt
    omega

theorem Moves.familyOf_cases (h : w.Moves op a o w') {source f : Nat}
    (hf : w'.familyOf source = some f) :
    w.familyOf source = some f ∨
      (source = w.sources.length ∧ f = w.families.length ∧ ∃ d, op = .create d) ∨
      ∃ origin, op = .clone origin ∧ a = .source source ∧ w.familyOf origin = some f := by
  obtain ⟨x, hx, rfl⟩ := Option.map_eq_some_iff.mp hf
  cases h with
  | created d =>
    rcases getElem?_concat_cases hx with hold | ⟨rfl, rfl⟩
    · exact .inl (congrArg (Option.map _) hold)
    · exact .inr (.inl ⟨rfl, rfl, d, rfl⟩)
  | @cloned origin h hs =>
    rcases getElem?_concat_cases hx with hold | ⟨rfl, rfl⟩
    · exact .inl (congrArg (Option.map _) hold)
    · exact .inr (.inr ⟨origin, rfl, rfl, congrArg (Option.map _) hs⟩)
  | @changed changed h c hs =>
    left
    by_cases heq : changed = source
    · subst heq
      obtain ⟨hlt, -⟩ := List.getElem?_eq_some_iff.mp hs
      obtain rfl := Option.some.inj ((List.getElem?_set_self hlt).symm.trans hx)
      exact congrArg (Option.map _) hs
    · exact congrArg (Option.map _) ((List.getElem?_set_ne heq).symm.trans hx)
  | _ => exact .inl hf

/-- Two sources are of one family if and only if clones lead from the one to the other. -/
structure Kin (w : World) (trace : List (Operation × Answer)) : Prop where
  family : ∀ {source copy : Nat}, Cloned trace source copy →
    ∃ f, w.familyOf source = some f ∧ w.familyOf copy = some f
  cloned : ∀ {a b f : Nat}, w.familyOf a = some f → w.familyOf b = some f →
    Relation.EqvGen (Cloned trace) a b

theorem Kin.familyOf_eq {trace : List (Operation × Answer)} (hk : w.Kin trace) {a b : Nat}
    (h : Relation.EqvGen (Cloned trace) a b) : w.familyOf a = w.familyOf b := by
  induction h with
  | rel a b hab =>
    obtain ⟨f, ha, hb⟩ := hk.family hab
    exact ha.trans hb.symm
  | refl a => rfl
  | symm a b _ ih => exact ih.symm
  | trans a b c _ _ ihab ihbc => exact ihab.trans ihbc

theorem familyOf_lt (hw : w.InRange) {source f : Nat} (hf : w.familyOf source = some f) :
    f < w.families.length := by
  obtain ⟨x, hx, rfl⟩ := Option.map_eq_some_iff.mp hf
  exact hw.of_source hx

theorem Moves.family_of_cloned {source copy : Nat}
    (h : w.Moves (.clone source) (.source copy) o w') :
    ∃ f, w'.familyOf source = some f ∧ w'.familyOf copy = some f := by
  have hkept {f : Nat} (hf : w.familyOf source = some f) := h.familyOf_eq hf
  cases h with
  | @cloned _ x hs =>
    exact ⟨x.family, hkept (congrArg (Option.map _) hs), by simp [familyOf]⟩

theorem Moves.kin (h : w.Moves op a o w') (hw : w.InRange) {trace : List (Operation × Answer)}
    (hk : w.Kin trace) : w'.Kin (trace ++ [(op, a)]) where
  family := by
    intro source copy hcloned
    rcases List.mem_append.mp hcloned with hold | hnew
    · obtain ⟨f, hsource, hcopy⟩ := hk.family hold
      exact ⟨f, h.familyOf_eq hsource, h.familyOf_eq hcopy⟩
    · obtain ⟨rfl, rfl⟩ := Prod.mk.inj (List.mem_singleton.mp hnew)
      exact h.family_of_cloned
  cloned := by
    intro x y f hx hy
    have hmono {x y : Nat} (hx : w.familyOf x = some f) (hy : w.familyOf y = some f) :
        Relation.EqvGen (Cloned (trace ++ [(op, a)])) x y :=
      (hk.cloned hx hy).mono fun _ _ => List.mem_append_left _
    have hedge {origin copy : Nat} (hop : op = .clone origin) (ha : a = .source copy) :
        Relation.EqvGen (Cloned (trace ++ [(op, a)])) origin copy :=
      .rel _ _ (List.mem_append_right _ (by rw [hop, ha]; exact List.mem_singleton_self _))
    -- each of the two was there before, has started the family, or is a clone of one that was there;
    -- no source that was there before is of a family that starts now
    rcases h.familyOf_cases hx with hx | ⟨rfl, rfl, d, hd⟩ | ⟨origin, hop, ha, horigin⟩
    · rcases h.familyOf_cases hy with hy | ⟨-, rfl, -⟩ | ⟨origin, hop, ha, horigin⟩
      · exact hmono hx hy
      · exact absurd (familyOf_lt hw hx) (Nat.lt_irrefl _)
      · exact .trans _ _ _ (hmono hx horigin) (hedge hop ha)
    · rcases h.familyOf_cases hy with hy | ⟨rfl, -, -⟩ | ⟨origin, hop, -, -⟩
      · exact absurd (familyOf_lt hw hy) (Nat.lt_irrefl _)
      · exact .refl _
      · nomatch hd.symm.trans hop
    · rcases h.familyOf_cases hy with hy | ⟨-, -, d, hd⟩ | ⟨origin', hop', ha', horigin'⟩
      · exact .trans _ _ _ (.symm _ _ (hedge hop ha)) (hmono horigin hy)
      · nomatch hd.symm.trans hop
      · exact .trans _ _ _ (.symm _ _ (hedge hop ha))
          (.trans _ _ _ (hmono horigin horigin') (hedge hop' ha'))

def run (w : World) (ops : List Operation) : World := ops.foldl (fun w op => (w.step op).2) w

def trace (w : World) : List Operation → List (Operation × Answer)
  | [] => []
  | op :: ops => (op, (w.step op).1) :: (w.step op).2.trace ops

def callsMade (w : World) : List Operation → List (Nat × Call)
  | [] => []
  | op :: ops => (w.call? op).toList ++ (w.step op).2.callsMade ops

structure Accounts (w : World) (trace : List (Operation × Answer)) (calls : List (Nat × Call)) :
    Prop where
  inRange : w.InRange
  kin : w.Kin trace
  callsOf : ∀ f, w.callsOf f = tally calls f
  balance : ∀ f, calls.count (f, .opened) = calls.count (f, .closed) + w.live f

theorem Accounts.empty : Accounts {} [] [] where
  inRange := ⟨by simp, by simp⟩
  kin := ⟨by simp [Cloned], by simp [familyOf]⟩
  callsOf _ := rfl
  balance _ := rfl

theorem Accounts.step {trace : List (Operation × Answer)} {calls : List (Nat × Call)}
    (hw : w.Accounts trace calls) (op : Operation) :
    (w.step op).2.Accounts (trace ++ [(op, (w.step op).1)]) (calls ++ (w.call? op).toList) where
  inRange := (w.step_moves op).inRange hw.inRange
  kin := (w.step_moves op).kin hw.inRange hw.kin
  callsOf := by
    intro f
    rw [(w.step_moves op).callsOf hw.inRange f, hw.callsOf f, tally_append]
  balance := by
    intro f
    have hlive := (w.step_moves op).live f
    have hbalance := hw.balance f
    rw [List.count_append, List.count_append]
    omega

theorem Accounts.run {trace : List (Operation × Answer)} {calls : List (Nat × Call)}
    (hw : w.Accounts trace calls) (ops : List Operation) :
    (w.run ops).Accounts (trace ++ w.trace ops) (calls ++ w.callsMade ops) := by
  -- what the operation at hand adds goes behind the past, in front of what is still to come
  induction ops generalizing w trace calls with
  | nil =>
    rw [World.trace, callsMade, List.append_nil, List.append_nil]
    exact hw
  | cons op ops ih =>
    have hrest := ih (hw.step op)
    rw [List.append_assoc, List.append_assoc] at hrest
    exact hrest

theorem source_run {number : Nat} {x : Holding} (hx : w.sources[number]? = some x)
    (ops : List Operation) :
    (w.run ops).sources[number]? =
      some { x with data := (ops.filterMap (·.changeTo? number)).foldl Change.apply x.data } := by
  induction ops generalizing w x with
  | nil => exact hx
  | cons op ops ih =>
    have hrest := ih ((w.step_moves op).source hx)
    cases hop : op.changeTo? number with
    | none =>
      rw [hop] at hrest
      rw [List.filterMap_cons_none hop]
      exact hrest
    | some c =>
      rw [hop] at hrest
      rw [List.filterMap_cons_some hop]
      exact hrest

theorem session_run {number : Nat} {x : Option Holding} (hx : w.sessions[number]? = some x)
    (ops : List Operation) :
    (w.run ops).sessions[number]? = some (if ops.any (·.closes number) then none else x) := by
  induction ops generalizing w x with
  | nil => exact hx
  | cons op ops ih =>
    have hrest := ih ((w.step_moves op).session hx)
    rw [List.any_cons]
    cases hop : op.closes number with
    | true =>
      rw [hop, if_pos rfl, ite_self] at hrest
      exact hrest
    | false =>
      rw [hop, if_neg Bool.false_ne_true] at hrest
      exact hrest

theorem answer_run {number : Nat} {x : Holding} (hx : w.sessions[number]? = some (some x))
    (later : List Operation) (q : Query) :
    ((w.run later).step (.ask number q)).1 =
      if later.any (·.closes number) then .noSession else .reply (x.data.reply q) := by
  have hlater := session_run hx later
  cases hclosed : later.any (·.closes number) with
  | true =>
    rw [hclosed, if_pos rfl] at hlater
    rw [step, session?, hlater]
    rfl
  | false =>
    rw [hclosed, if_neg Bool.false_ne_true] at hlater
    rw [step, session?, hlater]
    simp only [Option.join_some, askIn_eq hlater]
    rfl

theorem answer_opened {source : Nat} {x : Holding} (hx : w.sources[source]? = some x)
    (ha : x.data.unavailable = false) :
    ∃ session, (w.step (.openSession source)).1 = .session session ∧
      ∀ later q, (((w.step (.openSession source)).2.run later).step (.ask session q)).1 =
        if later.any (·.closes session) then .noSession else .reply (x.data.reply q) := by
  have hstep : w.step (.openSession source) = (.session w.sessions.length,
      { w.count x.family .opened with sessions := w.sessions ++ [some x] }) := by
    simp only [step, hx, openOn_of_available ha]
  rw [hstep]
  exact ⟨_, rfl, answer_run List.getElem?_concat_length⟩

end World

end KernelStats.Memory
