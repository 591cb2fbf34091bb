import Mathlib.Data.List.Nodup
import Mathlib.Logic.Function.Iterate
import KernelStats.Proofs.Gathering

/-!
# Registration

Collectors are offered to a registry one after the other, and it may gather in between. A name belongs
to the collector that is offered under it first. A later offer of the name is refused and leaves no
trace: whatever is asked of the registry afterwards is answered as if it had not been made.
-/

namespace KernelStats

theorem eraseDups_concat (names : List String) (name : String) :
    (names ++ [name]).eraseDups =
      if name ∈ names then names.eraseDups else names.eraseDups ++ [name] := by
  rw [List.eraseDups_append]
  split <;> simp [List.removeAll, List.eraseDups_cons, *]

namespace Registry

inductive Call where
  | register (c : MetricCollector)
  | gather (elapsed : String → Duration)

inductive Answer where
  | registered
  | refused (e : DuplicateName)
  | gathered (g : Gathered)

def step (r : Registry) : Call → Answer × Registry
  | .register c =>
    match r.register c with
    | .ok r' => (.registered, r')
    | .error e => (.refused e, r)
  | .gather elapsed =>
    let (g, r') := r.gather elapsed
    (.gathered g, r')

def run (r : Registry) (calls : List Call) : Registry :=
  calls.foldl (fun r call => (r.step call).2) r

def answers (r : Registry) : List Call → List Answer
  | [] => []
  | call :: calls => (r.step call).1 :: (r.step call).2.answers calls

def names (r : Registry) : List String := r.collectors.map (·.name)

def offers (calls : List Call) : List String :=
  calls.filterMap fun
    | .register c => some c.name
    | .gather _ => none

def gathers (calls : List Call) : Nat :=
  calls.countP fun
    | .register _ => false
    | .gather _ => true

/-- A collector is offered at a place in the calls, and none before it under its name. -/
structure FirstOffer (calls : List Call) (i : Nat) (c : MetricCollector) : Prop where
  here : calls[i]? = some (.register c)
  new : c.name ∉ offers (calls.take i)

theorem mem_offers {calls : List Call} {name : String} :
    name ∈ offers calls ↔ ∃ c, .register c ∈ calls ∧ c.name = name := by
  rw [offers, List.mem_filterMap]
  constructor
  · intro h
    obtain ⟨call, hcall, hname⟩ := h
    cases call with
    | register c => exact ⟨c, hcall, Option.some.inj hname⟩
    | gather elapsed => nomatch hname
  · intro h
    obtain ⟨c, hc, hname⟩ := h
    exact ⟨.register c, hc, congrArg some hname⟩

theorem mem_offers_take {calls : List Call} {i : Nat} {name : String} :
    name ∈ offers (calls.take i) ↔
      ∃ j < i, ∃ b, calls[j]? = some (.register b) ∧ b.name = name := by
  rw [mem_offers]
  constructor
  · intro h
    obtain ⟨b, hb, hname⟩ := h
    obtain ⟨j, hj, hget⟩ := List.mem_take_iff_getElem.mp hb
    exact ⟨j, by omega, b, hget ▸ List.getElem?_eq_getElem (by omega), hname⟩
  · intro h
    obtain ⟨j, hj, b, hb, hname⟩ := h
    obtain ⟨hlt, hget⟩ := List.getElem?_eq_some_iff.mp hb
    exact ⟨b, List.mem_take_iff_getElem.mpr ⟨j, by omega, hget⟩, hname⟩

@[simp] theorem offers_append (calls later : List Call) :
    offers (calls ++ later) = offers calls ++ offers later := List.filterMap_append

@[simp] theorem gathers_append (calls later : List Call) :
    gathers (calls ++ later) = gathers calls + gathers later := List.countP_append

theorem run_cons (r : Registry) (call : Call) (calls : List Call) :
    r.run (call :: calls) = (r.step call).2.run calls := rfl

theorem getElem?_answers (r : Registry) {calls : List Call} {i : Nat} {call : Call}
    (h : calls[i]? = some call) :
    (r.answers calls)[i]? = some ((r.run (calls.take i)).step call).1 := by
  induction calls generalizing r i with
  | nil => nomatch h
  | cons first calls ih =>
    cases i with
    | zero =>
      obtain rfl := Option.some.inj h
      rfl
    | succ i => exact ih (r.step first).2 h

theorem run_take_succ (r : Registry) {calls : List Call} {i : Nat} {call : Call}
    (h : calls[i]? = some call) :
    r.run (calls.take (i + 1)) = ((r.run (calls.take i)).step call).2 := by
  simp [run, List.take_add_one, h]

/-- A call that changes nothing can be left out. -/
theorem answers_eraseIdx (r : Registry) {calls : List Call} {i : Nat} {call : Call}
    (h : calls[i]? = some call)
    (hsame : ((r.run (calls.take i)).step call).2 = r.run (calls.take i)) :
    r.run (calls.eraseIdx i) = r.run calls ∧
      r.answers (calls.eraseIdx i) = (r.answers calls).eraseIdx i := by
  induction calls generalizing r i with
  | nil => nomatch h
  | cons first calls ih =>
    cases i with
    | zero =>
      obtain rfl := Option.some.inj h
      have hsame : (r.step first).2 = r := hsame
      rw [run_cons, answers, hsame]
      exact ⟨rfl, rfl⟩
    | succ i =>
      obtain ⟨hrun, hanswers⟩ := ih (r.step first).2 h hsame
      exact ⟨hrun, congrArg _ hanswers⟩

theorem step_register (r : Registry) (c : MetricCollector) :
    r.step (.register c) =
      if c.name ∈ r.names then (.refused ⟨c.name⟩, r)
      else (.registered, { r with collectors := r.collectors ++ [c] }) := by
  have htaken : r.collectors.any (·.name == c.name) = true ↔ c.name ∈ r.names := by
    simp [names]
  rw [step, register]
  by_cases h : c.name ∈ r.names
  · rw [if_pos h, if_pos (htaken.mpr h)]
  · rw [if_neg h, if_neg (mt htaken.mp h)]

theorem step_gather (r : Registry) (elapsed : String → Duration) :
    (r.step (.gather elapsed)).2 = { r with collectors := r.collectors.map .next } := by
  rw [step, gather_eq]

structure Keeps (ns : String) (calls : List Call) (r : Registry) : Prop where
  ns_eq : r.ns = ns
  names_eq : r.names = (offers calls).eraseDups
  nodup : r.names.Nodup
  first : ∀ b ∈ r.collectors, ∃ i c, FirstOffer calls i c ∧
    b = MetricCollector.next^[gathers (calls.drop i)] c

theorem FirstOffer.concat {calls : List Call} {i : Nat} {c : MetricCollector}
    (h : FirstOffer calls i c) (call : Call) : FirstOffer (calls ++ [call]) i c := by
  obtain ⟨hi, -⟩ := List.getElem?_eq_some_iff.mp h.here
  refine ⟨?_, ?_⟩
  · rw [List.getElem?_append_left hi]
    exact h.here
  · rw [List.take_append_of_le_length (by omega)]
    exact h.new

namespace Keeps

variable {ns : String} {calls : List Call} {r : Registry}

theorem mem_names (h : Keeps ns calls r) (name : String) : name ∈ r.names ↔ name ∈ offers calls := by
  rw [h.names_eq, List.mem_eraseDups]

theorem step (h : Keeps ns calls r) (call : Call) : Keeps ns (calls ++ [call]) (r.step call).2 := by
  have hfirst : ∀ b ∈ r.collectors, ∃ i c, FirstOffer (calls ++ [call]) i c ∧
      b = MetricCollector.next^[gathers (calls.drop i)] c ∧
      (calls ++ [call]).drop i = calls.drop i ++ [call] := by
    intro b hb
    obtain ⟨i, c, hc, hb⟩ := h.first b hb
    obtain ⟨hi, -⟩ := List.getElem?_eq_some_iff.mp hc.here
    exact ⟨i, c, hc.concat call, hb, List.drop_append_of_le_length (by omega)⟩
  cases call with
  | register c =>
    have hoffers : offers (calls ++ [Call.register c]) = offers calls ++ [c.name] := by
      rw [offers_append]
      rfl
    have hkept : ∀ b ∈ r.collectors, ∃ i a, FirstOffer (calls ++ [.register c]) i a ∧
        b = MetricCollector.next^[gathers ((calls ++ [Call.register c]).drop i)] a := by
      intro b hb
      obtain ⟨i, a, ha, hb, hdrop⟩ := hfirst b hb
      refine ⟨i, a, ha, ?_⟩
      rw [hdrop, gathers_append]
      exact hb
    rw [step_register]
    by_cases hc : c.name ∈ r.names
    · rw [if_pos hc]
      refine ⟨h.ns_eq, ?_, h.nodup, hkept⟩
      rw [hoffers, eraseDups_concat, if_pos ((h.mem_names c.name).mp hc), h.names_eq]
    · have hnew : c.name ∉ offers calls := mt (h.mem_names c.name).mpr hc
      have hnames : names { r with collectors := r.collectors ++ [c] } = r.names ++ [c.name] :=
        List.map_append
      rw [if_neg hc]
      refine ⟨h.ns_eq, ?_, ?_, ?_⟩
      · rw [hnames, hoffers, eraseDups_concat, if_neg hnew, h.names_eq]
      · rw [hnames, ← List.concat_eq_append]
        exact List.Nodup.concat hc h.nodup
      · intro b hb
        rcases List.mem_append.mp hb with hold | hb
        · exact hkept b hold
        · refine ⟨calls.length, c, ⟨List.getElem?_concat_length, ?_⟩, ?_⟩
          · rw [List.take_left]
            exact hnew
          · rw [List.mem_singleton.mp hb, List.drop_left]
            rfl
  | gather elapsed =>
    have hnames : names { r with collectors := r.collectors.map .next } = r.names := by
      simp [names, MetricCollector.next]
    rw [step_gather]
    refine ⟨h.ns_eq, ?_, ?_, ?_⟩
    · rw [hnames, h.names_eq, offers_append]
      exact congrArg List.eraseDups (List.append_nil _).symm
    · rw [hnames]
      exact h.nodup
    · intro b hb
      obtain ⟨a, ha, rfl⟩ := List.mem_map.mp hb
      obtain ⟨i, c, hc, rfl, hdrop⟩ := hfirst a ha
      refine ⟨i, c, hc, ?_⟩
      rw [hdrop, gathers_append]
      exact (Function.iterate_succ_apply' ..).symm

theorem run (h : Keeps ns calls r) (later : List Call) : Keeps ns (calls ++ later) (r.run later) := by
  induction later generalizing calls r with
  | nil =>
    rw [List.append_nil]
    exact h
  | cons call later ih =>
    rw [List.append_cons]
    exact ih (h.step call)

theorem empty (ns : String) : Keeps ns [] { ns } := ⟨rfl, rfl, .nil, nofun⟩

end Keeps

section
variable (ns : String) {calls : List Call} {i : Nat} {c : MetricCollector}

theorem keeps_take (calls : List Call) (i : Nat) :
    Keeps ns (calls.take i) (run { ns } (calls.take i)) := (Keeps.empty ns).run (calls.take i)

theorem answer_register (h : calls[i]? = some (.register c)) :
    (answers { ns } calls)[i]? =
      some (if c.name ∈ offers (calls.take i) then .refused ⟨c.name⟩ else .registered) := by
  have hnames := (keeps_take ns calls i).mem_names c.name
  rw [getElem?_answers { ns } h, step_register]
  by_cases hc : c.name ∈ offers (calls.take i)
  · rw [if_pos hc, if_pos (hnames.mpr hc)]
  · rw [if_neg hc, if_neg (mt hnames.mp hc)]

theorem exists_registered {name : String} (h : name ∈ offers (calls.take i)) :
    ∃ j < i, ∃ b, calls[j]? = some (.register b) ∧ b.name = name ∧
      (answers { ns } calls)[j]? = some .registered := by
  induction i using Nat.strongRecOn with
  | ind i ih =>
    obtain ⟨j, hj, b, hcall, rfl⟩ := mem_offers_take.mp h
    have hanswer := answer_register ns hcall
    by_cases hbefore : b.name ∈ offers (calls.take j)
    · obtain ⟨k, hk, found⟩ := ih j hj hbefore
      exact ⟨k, by omega, found⟩
    · rw [if_neg hbefore] at hanswer
      exact ⟨j, hj, b, hcall, rfl, hanswer⟩

theorem refused_iff (h : calls[i]? = some (.register c)) :
    (answers { ns } calls)[i]? = some (.refused ⟨c.name⟩) ↔ c.name ∈ offers (calls.take i) := by
  rw [answer_register ns h]
  by_cases hc : c.name ∈ offers (calls.take i)
  · simp [hc]
  · simp [hc]

end

/-- Whatever is asked of a new registry, the names in it are those that have been offered, each once and
in the order of their first offers, and each stands for the collector of its first offer, as the gathers
since have left it. An offer is refused exactly if one of the same name has been accepted before. Then
the registry is what it was, and all calls, those after it among them, are answered as they would be
without it. -/
theorem register_keeps_first_offers (ns : String) (calls : List Call) :
    let r := run { ns } calls
    let answers := answers { ns }
    r.ns = ns ∧ r.names.Nodup ∧ r.names = (offers calls).eraseDups ∧
      (∀ b ∈ r.collectors, ∃ i c, FirstOffer calls i c ∧
        b = MetricCollector.next^[gathers (calls.drop i)] c) ∧
      ∀ i c, calls[i]? = some (.register c) →
        ((answers calls)[i]? = some .registered ∨
          (answers calls)[i]? = some (.refused ⟨c.name⟩)) ∧
        ((answers calls)[i]? = some (.refused ⟨c.name⟩) ↔
          ∃ j < i, ∃ b, calls[j]? = some (.register b) ∧ b.name = c.name ∧
            (answers calls)[j]? = some .registered) ∧
        ((answers calls)[i]? = some (.refused ⟨c.name⟩) →
          run { ns } (calls.take (i + 1)) = run { ns } (calls.take i) ∧
          run { ns } (calls.eraseIdx i) = r ∧
          answers (calls.eraseIdx i) = (answers calls).eraseIdx i) := by
  intro r answers
  have hkeeps : Keeps ns calls r := (Keeps.empty ns).run calls
  refine ⟨hkeeps.ns_eq, hkeeps.nodup, hkeeps.names_eq, hkeeps.first, fun i c hcall => ?_⟩
  have hanswer := answer_register ns hcall
  have hrefused := refused_iff ns hcall
  refine ⟨?_, ?_, fun hdup => ?_⟩
  · by_cases hc : c.name ∈ offers (calls.take i)
    · exact .inr (hrefused.mpr hc)
    · rw [if_neg hc] at hanswer
      exact .inl hanswer
  · rw [hrefused]
    constructor
    · exact exists_registered ns
    · intro h
      obtain ⟨j, hj, b, hb, hname, -⟩ := h
      exact mem_offers_take.mpr ⟨j, hj, b, hb, hname⟩
  · have hoffered := hrefused.mp hdup
    have hsame : ((run { ns } (calls.take i)).step (.register c)).2 = run { ns } (calls.take i) := by
      rw [step_register, if_pos (((keeps_take ns calls i).mem_names c.name).mpr hoffered)]
    refine ⟨?_, answers_eraseIdx { ns } hcall hsame⟩
    rw [run_take_succ { ns } hcall, hsame]

theorem register_keeps_first_offers_taken :
    let quiet : String → Option CollectError → MetricCollector := fun name failure =>
      { State := Unit, name, update := fun state => ({ failure }, state), state := () }
    let second := quiet "kstat" (some (.unopened (.unavailable "no such device")))
    let calls : List Call := [.register (quiet "kstat" none), .gather fun _ => ⟨5⟩,
      .register (quiet "disk" none), .register second, .gather fun _ => ⟨7⟩]
    calls[3]? = some (.register second) ∧
      (answers { ns := "node" } calls)[3]? = some (.refused ⟨"kstat"⟩) ∧
      (run { ns := "node" } calls).names = ["kstat", "disk"] ∧
      run { ns := "node" } (calls.eraseIdx 3) = run { ns := "node" } calls := by
  intro quiet second calls
  obtain ⟨-, -, hnames, -, hoffer⟩ := register_keeps_first_offers "node" calls
  have hcall : calls[3]? = some (.register second) := rfl
  obtain ⟨-, hrefused, htrace⟩ := hoffer 3 second hcall
  have hdup : (answers { ns := "node" } calls)[3]? = some (.refused ⟨"kstat"⟩) :=
    hrefused.mpr ⟨0, by decide, quiet "kstat" none, rfl, rfl, rfl⟩
  refine ⟨hcall, hdup, ?_, (htrace hdup).2.1⟩
  rw [hnames]
  decide

end Registry

end KernelStats
