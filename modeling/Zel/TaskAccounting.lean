import Zel.Shutdown

/-!
# What the task tracker accounts for

The counter of a `TaskTracker` is the number of live guards, and the drop of the guard that takes it
from one to zero notifies in a second step.  A `wait_for_completion` that returns `Ok(())` has read
a zero, so there was a moment during the call at which no guard was live.  A live guard keeps two
`Arc` clones, which abort the process long before their number could wrap the counter around.

## What is here

* `task_accounting` — **the three facts together**, for every interleaving.
-/

set_option autoImplicit false

namespace Zel

namespace TaskTracker

/-! ## Notifications and transitions to zero -/

/-- The drops that stand just before their `notify_waiters`. -/
def notifyingGuards (s : TaskTracker) : Nat := s.guards.countP (· == .notifying)

/-- The step is a `notify_waiters`. -/
def notifies (_ : TaskTracker) (l : Label) (_ : TaskTracker) : Bool :=
  match l with
  | .notifyWaiters _ => true
  | _ => false

/-- The step takes the counter from one to zero. -/
def empties (s : TaskTracker) (_ : Label) (t : TaskTracker) : Bool :=
  s.activeTasks = 1 ∧ t.activeTasks = 0

/-- Only a `notify_waiters` moves the signal on. -/
theorem Moves.calls {s t : TaskTracker} {l : Label} (h : Moves s l t) :
    t.completionNotify.calls = s.completionNotify.calls + (notifies s l t).toNat := by
  cases h <;> rfl

/-- A drop finds its own guard in the counter, so that `fetch_sub` does not wrap around. -/
theorem Moves.activeTasks_fetchSub {s t : TaskTracker} {g : Nat} (h : Moves s (.fetchSub g) t)
    (hs : s.activeTasks = s.liveGuards) : t.activeTasks + 1 = s.activeTasks := by
  cases h with
  | fetchSub hg =>
    have hpos : s.activeTasks ≠ 0 := fun h0 ↦ ne_live_of_activeTasks_eq_zero hs h0 g hg
    show Zel.fetchSub s.activeTasks + 1 = s.activeTasks
    rw [Zel.fetchSub, if_neg hpos]
    omega

/-- A step that leaves the counter alone does not empty it. -/
theorem empties_eq_false {s t : TaskTracker} {l : Label} (h : t.activeTasks = s.activeTasks) :
    empties s l t = false := by
  simp only [empties, h, decide_eq_false_iff_not]
  omega

/-- **The drop that empties the counter owes a notification**, and each notification settles
one. -/
theorem Moves.owed {s t : TaskTracker} {l : Label} (h : Moves s l t)
    (hs : s.activeTasks = s.liveGuards) :
    t.completionNotify.calls + t.notifyingGuards =
      s.completionNotify.calls + s.notifyingGuards + (empties s l t).toNat := by
  cases h with
  | increment =>
    have hcount : (s.guards ++ [GuardPhase.live]).countP (· == .notifying) =
        s.guards.countP (· == .notifying) := by
      rw [List.countP_append]
      rfl
    simp [notifyingGuards, hcount, empties]
  | @fetchSub g hg =>
    have hdrop := (Moves.fetchSub hg).activeTasks_fetchSub hs
    by_cases h1 : s.activeTasks = 1
    · -- the last guard goes on to notify
      have hcount : (s.guards.set g .notifying).countP (· == .notifying) =
          s.guards.countP (· == .notifying) + 1 := by
        obtain ⟨hlt, hget⟩ := List.getElem?_eq_some_iff.mp hg
        rw [List.countP_set hlt, hget]
        rfl
      have hempties : (empties s (.fetchSub g) { s with
          activeTasks := Zel.fetchSub s.activeTasks
          guards := s.guards.set g (if s.activeTasks = 1 then .notifying else .dropped) }) =
          true := by
        simp [empties, h1, Zel.fetchSub]
      rw [hempties]
      simp only [notifyingGuards, h1, if_true, hcount, Bool.toNat_true]
      omega
    · have hcount : (s.guards.set g .dropped).countP (· == .notifying) =
          s.guards.countP (· == .notifying) := List.countP_set_of_neg_neg hg rfl rfl
      simp [notifyingGuards, h1, hcount, empties]
  | @notifyWaiters g hg =>
    have hcount : (s.guards.set g .dropped).countP (· == .notifying) + 1 =
        s.guards.countP (· == .notifying) := List.countP_set_of_pos_neg hg rfl rfl
    rw [empties_eq_false (by rfl)]
    simp only [notifyingGuards, Notify.notifyWaiters, Bool.toNat_false]
    omega
  | _ =>
    rw [empties_eq_false (by rfl)]
    rfl

/-! ## The moment without a live guard -/

/-- The call has been made and has not returned. -/
def pending : WaitPhase → Bool
  | .returned _ => false
  | _ => true

/-- The step in which a wait returns `Ok(())`. -/
theorem Moves.returned_ok {s t : TaskTracker} {l : Label} (h : Moves s l t) {w : Nat}
    (hs : s.waiters[w]? ≠ some (.returned (.ok ())))
    (ht : t.waiters[w]? = some (.returned (.ok ()))) :
    s.activeTasks = 0 ∧ ∃ p, s.waiters[w]? = some p ∧ pending p = true := by
  have other : ∀ (w' : Nat) (q : WaitPhase), q ≠ .returned (.ok ()) →
      (s.waiters.set w' q)[w]? ≠ some (.returned (.ok ())) := by
    intro w' q hq ht
    rcases List.getElem?_set_cases ht with ⟨-, he⟩ | ⟨-, hw⟩
    · exact hq he.symm
    · exact hs hw
  cases h with
  | wait =>
    rcases List.getElem?_concat_cases ht with ⟨-, he⟩ | hw
    · cases he
    · exact absurd hw hs
  | @load w' p q hw hq =>
    rcases List.getElem?_set_cases ht with ⟨rfl, rfl⟩ | ⟨-, hw'⟩
    · refine ⟨afterLoad_eq_ok hq, p, hw, ?_⟩
      cases p with
      | returned r => cases hq
      | _ => rfl
    · exact absurd hw' hs
  | create => exact absurd ht (other _ _ (by simp))
  | wake => exact absurd ht (other _ _ (by simp))
  | timeout => exact absurd ht (other _ _ (by simp))
  | _ => exact absurd ht hs

/-- The states of the tracker whose counter is right. -/
theorem counted_step {s t : TaskTracker} {l : Label} (hs : s.activeTasks = s.liveGuards)
    (ht : machine.step s l = some t) : t.activeTasks = t.liveGuards :=
  (moves_of_step ht).activeTasks_eq hs

/-- **Task accounting.**  After every schedule the counter is the number of live guards, and a drop
takes one from it without wrapping around; the executed `notify_waiters` and the drops that stand
before theirs are together as many as the transitions of the counter from one to zero; and a wait
that has returned `Ok(())` was pending at a moment when no guard was live. -/
theorem task_accounting (ls : List Label) (s : TaskTracker) (hs : machine.run ls = some s) :
    s.activeTasks = s.liveGuards ∧
      (∀ g t, s.step (.fetchSub g) = some t → t.activeTasks + 1 = s.activeTasks) ∧
      machine.countSteps notifies new ls + s.notifyingGuards =
        machine.countSteps empties new ls ∧
      ∀ w : Nat, s.waiters[w]? = some (.returned (.ok ())) →
        ∃ ls₁ ls₂ u, ls = ls₁ ++ ls₂ ∧ machine.run ls₁ = some u ∧ u.liveGuards = 0 ∧
          ∃ p, u.waiters[w]? = some p ∧ pending p = true := by
  have hcounter : s.activeTasks = s.liveGuards := activeTasks_eq ⟨ls, hs⟩
  refine ⟨hcounter, fun g t ht ↦ (moves_of_step ht).activeTasks_fetchSub hcounter, ?_, ?_⟩
  · have hcalls := Machine.potential_of_run (M := machine) (I := fun _ ↦ True) (p := notifies)
      (f := fun s ↦ s.completionNotify.calls) (fun _ _ _ _ _ ↦ trivial)
      (fun _ _ _ _ ht ↦ (moves_of_step ht).calls) trivial hs
    have howed := Machine.potential_of_run (M := machine)
      (I := fun s ↦ s.activeTasks = s.liveGuards) (p := empties)
      (f := fun s ↦ s.completionNotify.calls + s.notifyingGuards)
      (fun _ _ _ hs ht ↦ counted_step hs ht) (fun _ _ _ hs ht ↦ (moves_of_step ht).owed hs) rfl hs
    have h0 : new.completionNotify.calls = 0 := rfl
    have h0' : new.notifyingGuards = 0 := rfl
    have hinit : machine.init = new := rfl
    simp only [hinit] at hcalls howed
    omega
  · intro w hw
    have hnew : ¬ (new.waiters[w]? = some (.returned (.ok ()))) := by simp [new]
    obtain ⟨ls₁, l, ls₂, u, v, hls, hu, hv, hbefore, hafter⟩ := Machine.exists_step_of_change
      (M := machine) (P := fun s ↦ s.waiters[w]? = some (.returned (.ok ()))) hs hnew hw
    obtain ⟨h0, hp⟩ := (moves_of_step hv).returned_ok hbefore hafter
    exact ⟨ls₁, l :: ls₂, u, hls, hu, (activeTasks_eq ⟨ls₁, hu⟩).symm.trans h0, hp⟩

/-- One guard and one waiter, which sleeps until the guard is dropped. -/
def quietRun : List Label :=
  [.increment, .wait, .load 0, .load 0, .create 0, .fetchSub 0, .notifyWaiters 0, .wake 0, .load 0]

/-- The moment without a guard lies after the drop. -/
theorem task_accounting_quietRun :
    machine.countSteps notifies new quietRun + 0 = machine.countSteps empties new quietRun ∧
      ∃ ls₁ ls₂ u, quietRun = ls₁ ++ ls₂ ∧ machine.run ls₁ = some u ∧ u.liveGuards = 0 ∧
        ∃ p, u.waiters[0]? = some p ∧ pending p = true := by
  have hrun : machine.run quietRun = some ⟨0, ⟨1⟩, [.dropped], [.returned (.ok ())]⟩ := by decide
  exact ⟨(task_accounting quietRun _ hrun).2.2.1, (task_accounting quietRun _ hrun).2.2.2 0 rfl⟩

end TaskTracker

end Zel
