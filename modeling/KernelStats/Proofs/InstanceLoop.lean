import Mathlib.Logic.Function.Iterate
import KernelStats.Collect.Walk

/-!
# The loop over the instances of a group

`Progress.walk` is told how many instances it may look up. The loop here is not: it keeps the next
instance and a count in words of 32 bits, and what stops it is a lookup that finds nothing or the
check of the instance against the limit. It stops from every state, without a word ever wrapping
around, and with what the walk leaves.
-/

namespace KernelStats

inductive Walker where
  | probe (inst : UInt32)
  | exhausted

structure Loop (σ : Type) where
  walker : Walker
  instances : UInt32
  progress : Progress σ

namespace Loop

def start (p : Progress σ) : Loop σ := { walker := .probe 0, instances := 0, progress := p }

def turn (s : Session σ) (ns module : String) (l : Loop σ) : Loop σ :=
  let p := l.progress
  match l.walker with
  | .exhausted => l
  | .probe inst =>
    if maxInstances ≤ inst.toNat then
      { l with
        walker := .exhausted
        progress := { p with scrape := p.scrape.note (.runaway module p.plan.group.id) } }
    else
      let scrape := p.scrape.note (.lookingUp module inst p.plan.group.id)
      match s.lookup p.session module inst p.plan.group.pattern with
      | (.ok entries, session) => {
          walker := .probe (inst + 1)
          instances := l.instances + 1
          progress :=
            entries.foldl (Progress.emitEntry s ns module (toString inst.toNat))
              { p with session, scrape } }
      | (.error cause, session) =>
        if cause.isNotFound then
          { l with walker := .exhausted, progress := { p with session, scrape } }
        else {
          walker := .probe (inst + 1)
          instances := l.instances
          progress :=
            { p with session, scrape := scrape.fail ⟨module, inst, p.plan.group.id, ""⟩ cause } }

def after (s : Session σ) (ns module : String) (p : Progress σ) (turns : Nat) : Loop σ :=
  (turn s ns module)^[turns] (start p)

def finish (module : String) (l : Loop σ) : Progress σ :=
  let p := l.progress
  { p with
    scrape :=
      p.scrape.summarize { module, group := p.plan.group.id, instances := l.instances.toNat } }

/-- The words of a loop are right after so many turns: the next instance is that number, and no more
than that number have been found. -/
structure Exact (turns : Nat) (l : Loop σ) : Prop where
  inst : ∀ inst, l.walker = .probe inst → inst.toNat = turns ∧ turns ≤ maxInstances
  instances : l.instances.toNat ≤ turns ∧ l.instances.toNat ≤ maxInstances

theorem toNat_add_one {w : UInt32} (h : w.toNat < maxInstances) : (w + 1).toNat = w.toNat + 1 := by
  have hlt : w.toNat + 1 < 2 ^ 32 := Nat.lt_of_le_of_lt h (by decide)
  rw [UInt32.toNat_add]
  exact Nat.mod_eq_of_lt hlt

theorem exact_start (p : Progress σ) : (start p).Exact 0 where
  inst := by
    intro inst h
    cases h
    exact ⟨rfl, Nat.zero_le _⟩
  instances := ⟨Nat.le_refl 0, Nat.zero_le _⟩

theorem Exact.toNat_add_one {turns : Nat} {l : Loop σ} (h : l.Exact turns) {inst : UInt32}
    (hi : l.walker = .probe inst) (hlt : inst.toNat < maxInstances) :
    (inst + 1).toNat = inst.toNat + 1 ∧ (l.instances + 1).toNat = l.instances.toNat + 1 := by
  obtain ⟨hturns, -⟩ := h.inst inst hi
  have hle := h.instances.1
  exact ⟨Loop.toNat_add_one hlt, Loop.toNat_add_one (by omega)⟩

theorem Exact.turn (s : Session σ) (ns module : String) {turns : Nat} {l : Loop σ}
    (h : l.Exact turns) :
    (l.turn s ns module).Exact (turns + 1) := by
  obtain ⟨walker, instances, p⟩ := l
  have hle : instances.toNat ≤ turns := h.instances.1
  have hmax : instances.toNat ≤ maxInstances := h.instances.2
  have hstopped (q : Progress σ) : Exact (turns + 1) ⟨.exhausted, instances, q⟩ := by
    refine ⟨?_, Nat.le_succ_of_le hle, hmax⟩
    intro i hi
    nomatch hi
  cases walker with
  | exhausted => exact hstopped p
  | probe inst =>
    obtain ⟨hturns, -⟩ := h.inst inst rfl
    rw [Loop.turn]
    dsimp only
    by_cases hlimit : maxInstances ≤ inst.toNat
    · rw [if_pos hlimit]
      exact hstopped _
    · rw [if_neg hlimit]
      obtain ⟨hinst, hinstances⟩ := h.toNat_add_one rfl (Nat.lt_of_not_le hlimit)
      dsimp only at hinstances
      -- a turn that goes on leaves the next instance, whatever is counted
      have hnext (n : UInt32) (q : Progress σ) (hn : n.toNat ≤ instances.toNat + 1) :
          Exact (turns + 1) ⟨.probe (inst + 1), n, q⟩ := by
        refine ⟨?_, by dsimp only; omega, by dsimp only; omega⟩
        intro i hi
        cases hi
        exact ⟨by omega, by omega⟩
      generalize s.lookup p.session module inst p.plan.group.pattern = a
      obtain ⟨answer, session⟩ := a
      cases answer with
      | ok entries => exact hnext _ _ (Nat.le_of_eq hinstances)
      | error cause =>
        dsimp only
        by_cases hc : cause.isNotFound = true
        · rw [if_pos hc]
          exact hstopped _
        · rw [if_neg hc]
          exact hnext _ _ (Nat.le_succ _)

theorem exact_after (s : Session σ) (ns module : String) (p : Progress σ) (turns : Nat) :
    (after s ns module p turns).Exact turns := by
  induction turns with
  | zero => exact exact_start p
  | succ turns ih =>
    rw [after, Function.iterate_succ_apply']
    exact ih.turn s ns module

/-- The loop does what the walk does, in one turn more than there are instances to look up. -/
theorem iterate_turn_eq_walk (s : Session σ) (ns module : String) {left start : Nat}
    (hle : start + left = maxInstances) (found : Nat) (p : Progress σ) :
    (turn s ns module)^[left + 1] ⟨.probe (.ofNat start), .ofNat found, p⟩ =
      ⟨.exhausted, .ofNat (Progress.walk s ns module left (.ofNat start) found p).1,
        (Progress.walk s ns module left (.ofNat start) found p).2⟩ := by
  induction left generalizing start found p with
  | zero =>
    have hstart : (UInt32.ofNat start).toNat = start := toNat_instance (Nat.le.intro hle)
    rw [Function.iterate_one, turn, Progress.walk]
    dsimp only
    rw [hstart, if_pos (by omega)]
  | succ left ih =>
    have hstart : (UInt32.ofNat start).toNat = start := toNat_instance (Nat.le.intro hle)
    have hmore : start + 1 + left = maxInstances := by omega
    rw [Function.iterate_succ_apply, turn, Progress.walk]
    dsimp only
    rw [hstart, if_neg (by omega)]
    generalize s.lookup p.session module (.ofNat start) p.plan.group.pattern = a
    obtain ⟨answer, session⟩ := a
    cases answer with
    | ok entries =>
      dsimp only
      rw [next_instance, next_instance]
      exact ih hmore _ _
    | error cause =>
      dsimp only
      by_cases hc : cause.isNotFound = true
      · -- the remaining turns find the walker exhausted
        rw [if_pos hc, if_pos hc]
        exact Function.iterate_fixed rfl _
      · rw [if_neg hc, if_neg hc, next_instance]
        exact ih hmore _ _

end Loop

end KernelStats
