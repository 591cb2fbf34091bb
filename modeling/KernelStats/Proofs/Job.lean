import KernelStats.Proofs.SharedPlans

/-!
# Jobs that share a collector

A job does its own work and stops at each question for descriptors, to go on with the answer. A crew
is a number of jobs that put their questions to one collector, one at a time and in any order. As long
as each answer depends on the question alone, a job comes to its own result, whatever the others do.
-/

namespace KernelStats

inductive Job (α : Type) where
  | done (a : α)
  | request (q : Place) (name : String) (next : DescriptorSet → Job α)

namespace Job

def bind : Job α → (α → Job β) → Job β
  | done a, f => f a
  | request q name next, f => request q name fun set => (next set).bind f

def foldl (f : β → α → Job β) : List α → β → Job β
  | [], b => done b
  | a :: as, b => (f b a).bind (foldl f as)

def run : Job α → Collector → Option (α × Collector)
  | done a, c => some (a, c)
  | request q name next, c => (c.request q name).bind fun (set, c) => (next set).run c

theorem run_bind (t : Job α) (f : α → Job β) (c : Collector) :
    (t.bind f).run c = (t.run c).bind fun (a, c) => (f a).run c := by
  induction t generalizing c with
  | done a => rfl
  | request q name next ih =>
    rw [bind, run, run, Option.bind_assoc]
    exact congrArg _ (funext fun (set, c) => ih set c)

theorem reached_run {schema : Schema} {ns : String} {t : Job α} {c c' : Collector} {a : α}
    (hc : Collector.Reached schema ns c) (h : t.run c = some (a, c')) :
    Collector.Reached schema ns c' := by
  induction t generalizing c with
  | done b =>
    cases h
    exact hc
  | request q name next ih =>
    obtain ⟨⟨set, next⟩, hr, hnext⟩ := Option.bind_eq_some_iff.mp h
    exact ih set (hc.request hr) hnext

/-- The job comes to a result after so many questions, if each is given its answer. -/
inductive Yields (schema : Schema) (ns : String) : Job α → Nat → α → Prop
  | done (a : α) : Yields schema ns (.done a) 0 a
  | request {q : Place} {name : String} {set : DescriptorSet} {next : DescriptorSet → Job α}
    {n : Nat} {a : α} (hq : schema.Answers ns q name set) (ht : Yields schema ns (next set) n a) :
    Yields schema ns (.request q name next) (n + 1) a

namespace Yields

variable {schema : Schema} {ns : String}

theorem bind {t : Job α} {f : α → Job β} {n n' : Nat} {a : α} {b : β}
    (ht : t.Yields schema ns n a) (hf : (f a).Yields schema ns n' b) :
    (t.bind f).Yields schema ns (n' + n) b := by
  induction ht with
  | done a => exact hf
  | request hq _ ih => exact .request hq (ih hf)

theorem foldl {f : β → α → Job β} {Holds : β → Prop} {as : List α}
    (hf : ∀ a ∈ as, ∀ b, Holds b → ∃ n b', (f b a).Yields schema ns n b' ∧ Holds b') {b : β}
    (hb : Holds b) : ∃ n b', (Job.foldl f as b).Yields schema ns n b' ∧ Holds b' := by
  induction as generalizing b with
  | nil => exact ⟨0, b, .done b, hb⟩
  | cons a as ih =>
    obtain ⟨hfirst, hrest⟩ := List.forall_mem_cons.mp hf
    obtain ⟨n, b', hn, hb'⟩ := hfirst b hb
    obtain ⟨n', b'', hn', hb''⟩ := ih hrest hb'
    exact ⟨n' + n, b'', hn.bind hn', hb''⟩

theorem run {t : Job α} {n : Nat} {a : α} (ht : t.Yields schema ns n a) {c : Collector}
    (hc : Collector.Reached schema ns c) : ∃ c', t.run c = some (a, c') := by
  induction ht generalizing c with
  | done a => exact ⟨c, rfl⟩
  | request hq _ ih =>
    obtain ⟨next, hr⟩ := hc.exists_request hq
    obtain ⟨c', hc'⟩ := ih (hc.request hr)
    refine ⟨c', ?_⟩
    rw [Job.run, hr]
    exact hc'

end Yields

end Job

structure Crew (α : Type) where
  collector : Collector
  jobs : List (Job α)

namespace Crew

def turn (w : Crew α) (i : Nat) : Crew α :=
  match w.jobs[i]? with
  | some (.request q name next) =>
    match w.collector.request q name with
    | some (set, collector) => { collector, jobs := w.jobs.set i (next set) }
    | none => w
  | _ => w

def run (w : Crew α) (schedule : List Nat) : Crew α := schedule.foldl turn w

variable {schema : Schema} {ns : String}

theorem reached_turn {w : Crew α} (hw : Collector.Reached schema ns w.collector) (i : Nat) :
    Collector.Reached schema ns (w.turn i).collector := by
  rw [turn]
  split
  · split
    · next hr => exact hw.request hr
    · exact hw
  · exact hw

theorem reached_run {w : Crew α} (hw : Collector.Reached schema ns w.collector)
    (schedule : List Nat) : Collector.Reached schema ns (w.run schedule).collector := by
  induction schedule generalizing w with
  | nil => exact hw
  | cons i schedule ih => exact ih (reached_turn hw i)

theorem turn_yields {w : Crew α} (hw : Collector.Reached schema ns w.collector) {i : Nat}
    {t : Job α} {n : Nat} {a : α} (hi : w.jobs[i]? = some t) (ht : t.Yields schema ns n a)
    (j : Nat) :
    ∃ t', (w.turn j).jobs[i]? = some t' ∧ t'.Yields schema ns (n - [j].count i) a := by
  by_cases hj : j = i
  · subst hj
    rw [List.count_singleton_self, turn, hi]
    cases ht with
    | done a => exact ⟨.done a, hi, .done a⟩
    | request hq ht =>
      obtain ⟨c, hr⟩ := hw.exists_request hq
      have hlt : j < w.jobs.length := (List.getElem?_eq_some_iff.mp hi).1
      dsimp only
      rw [hr]
      exact ⟨_, List.getElem?_set_self hlt, ht⟩
  · have hsame : (w.turn j).jobs[i]? = w.jobs[i]? := by
      rw [turn]
      split
      · split
        · exact List.getElem?_set_ne hj
        · rfl
      · rfl
    rw [hsame, List.count_singleton, if_neg (by simpa using hj)]
    exact ⟨t, hi, ht⟩

/-- Whatever the schedule is, a job of the crew is on its way to its own result, and each of its turns
brings it nearer. -/
theorem run_yields {w : Crew α} (hw : Collector.Reached schema ns w.collector) {i : Nat}
    {t : Job α} {n : Nat} {a : α} (hi : w.jobs[i]? = some t) (ht : t.Yields schema ns n a)
    (schedule : List Nat) :
    ∃ t', (w.run schedule).jobs[i]? = some t' ∧
      t'.Yields schema ns (n - schedule.count i) a := by
  induction schedule generalizing w t n with
  | nil => exact ⟨t, hi, ht⟩
  | cons j schedule ih =>
    obtain ⟨t', hi', ht'⟩ := turn_yields hw hi ht j
    obtain ⟨t'', hi'', ht''⟩ := ih (reached_turn hw j) hi' ht'
    refine ⟨t'', hi'', ?_⟩
    have hcount : n - (j :: schedule).count i = n - [j].count i - schedule.count i := by
      rw [← List.singleton_append, List.count_append, Nat.sub_sub]
    rw [hcount]
    exact ht''

end Crew

end KernelStats
