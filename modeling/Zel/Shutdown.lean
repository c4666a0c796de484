import Zel.Lib.Machine
import Zel.Lib.Notify
import Zel.Lib.Slots

/-!
# The task tracker

`TaskTracker` (`protocol/shutdown.rs`) counts the guards that are alive and lets a shutdown wait
until there are none.  It is modelled as a machine whose steps are the atomic steps of its
functions: the `fetch_add` of `increment`, the `fetch_sub` of `TaskGuard::drop` and the separate
`notify_waiters` that follows when the guard was the last one, and, for `wait_for_completion`, each
load of the counter, each creation of a `Notified`, its wake-up and the timeout.  Any number of
guards and of waiters share one tracker, and a schedule interleaves their steps at will.

## What is here

* `activeTasks_eq` — the counter is the number of live guards, so `fetch_sub` never underflows.
* `Stuck` — a waiter sleeps in `notified()` although no guard is left and no wake-up is on its way.
* `never_stuck_iff` — **when the completion wake-up is not lost**: a run has no stuck state if and
  only if every `Notified` is created while a guard is alive or a last drop has yet to notify.
* `lost_completion_wakeup` — a run in which it is lost, between the waiter's load of the counter
  and its creation of the `Notified`.
-/

set_option autoImplicit false

namespace Zel

/-! ## The tracker and the parties that share it -/

/-- `usize`'s largest value, for the wrap-around of `fetch_sub`. -/
def usizeMax : Nat := 18446744073709551615

/-- What `AtomicUsize::fetch_sub(1)` leaves in the counter. -/
def fetchSub (n : Nat) : Nat := if n = 0 then usizeMax else n - 1

/-- A `TaskGuard`. -/
inductive GuardPhase where
  /-- Between its `fetch_add` and its `fetch_sub`. -/
  | live
  /-- The `fetch_sub` returned 1 and `notify_waiters` is still to come. -/
  | notifying
  /-- Dropped. -/
  | dropped
  deriving DecidableEq

/-- A call of `wait_for_completion`. -/
inductive WaitPhase where
  /-- Before the check that returns at once. -/
  | entered
  /-- At the top of the loop, inside the timeout. -/
  | looping
  /-- The counter was not zero; `notified()` is about to be called. -/
  | registering
  /-- Suspended in `notified().await`. -/
  | awaiting (f : Notified)
  /-- Returned: `Ok(())`, or `Err(())` after the timeout. -/
  | returned (r : Except Unit Unit)
  deriving DecidableEq

/-- A `TaskTracker` with all the guards it gave out and all the calls that wait on it. -/
structure TaskTracker where
  /-- The shared counter. -/
  activeTasks : Nat
  /-- The shared signal. -/
  completionNotify : Notify
  /-- The guards, in the order of their creation. -/
  guards : List GuardPhase
  /-- The calls of `wait_for_completion`, in the order in which they were made. -/
  waiters : List WaitPhase
  deriving DecidableEq

namespace TaskTracker

/-- `TaskTracker::new` -/
def new : TaskTracker := ⟨0, Notify.new, [], []⟩

/-- The atomic steps. -/
inductive Label where
  /-- `increment`: `fetch_add`, and a new guard. -/
  | increment
  /-- `TaskGuard::drop` of guard `g`: `fetch_sub`. -/
  | fetchSub (g : Nat)
  /-- `TaskGuard::drop` of guard `g`: `notify_waiters`. -/
  | notifyWaiters (g : Nat)
  /-- A new call of `wait_for_completion`. -/
  | wait
  /-- Waiter `w` loads the counter. -/
  | load (w : Nat)
  /-- Waiter `w` calls `notified()` and suspends. -/
  | create (w : Nat)
  /-- Waiter `w` is woken. -/
  | wake (w : Nat)
  /-- The timeout of waiter `w` ends its wait. -/
  | timeout (w : Nat)
  deriving DecidableEq

/-- The waiter's phase after a load that read `n`. -/
def afterLoad (n : Nat) : WaitPhase → Option WaitPhase
  | .entered => some (if n = 0 then .returned (.ok ()) else .looping)
  | .looping => some (if n = 0 then .returned (.ok ()) else .registering)
  | _ => none

/-- Waiter `w` moves to phase `p`. -/
def setWaiter (s : TaskTracker) (w : Nat) (p : WaitPhase) : TaskTracker :=
  { s with waiters := s.waiters.set w p }

/-- One atomic step. -/
def step (s : TaskTracker) : Label → Option TaskTracker
  | .increment =>
    some { s with activeTasks := s.activeTasks + 1, guards := s.guards ++ [.live] }
  | .fetchSub g =>
    if s.guards[g]? = some .live then
      some { s with
        activeTasks := Zel.fetchSub s.activeTasks
        guards := s.guards.set g (if s.activeTasks = 1 then .notifying else .dropped) }
    else none
  | .notifyWaiters g =>
    if s.guards[g]? = some .notifying then
      some { s with
        completionNotify := s.completionNotify.notifyWaiters
        guards := s.guards.set g .dropped }
    else none
  | .wait => some { s with waiters := s.waiters ++ [.entered] }
  | .load w => (s.waiters[w]?.bind (afterLoad s.activeTasks)).map (s.setWaiter w)
  | .create w =>
    if s.waiters[w]? = some .registering then
      some (s.setWaiter w (.awaiting s.completionNotify.notified))
    else none
  | .wake w =>
    match s.waiters[w]? with
    | some (.awaiting f) =>
      if f.Ready s.completionNotify then some (s.setWaiter w .looping) else none
    | _ => none
  | .timeout w =>
    match s.waiters[w]? with
    | some (.awaiting f) =>
      -- the timeout polls the wait first, so it only ends one that is still pending
      if f.Ready s.completionNotify then none else some (s.setWaiter w (.returned (.error ())))
    | _ => none

/-- All interleavings of any number of guards and waiters. -/
def machine : Machine TaskTracker Label := ⟨new, step⟩

/-! ## What a step does

Every invariant below is read off this one inversion of `step`. -/

/-- The steps, one constructor for each way a label can move the tracker. -/
inductive Moves (s : TaskTracker) : Label → TaskTracker → Prop
  | increment :
      Moves s .increment { s with activeTasks := s.activeTasks + 1, guards := s.guards ++ [.live] }
  | fetchSub {g : Nat} (hg : s.guards[g]? = some .live) :
      Moves s (.fetchSub g) { s with
        activeTasks := Zel.fetchSub s.activeTasks
        guards := s.guards.set g (if s.activeTasks = 1 then .notifying else .dropped) }
  | notifyWaiters {g : Nat} (hg : s.guards[g]? = some .notifying) :
      Moves s (.notifyWaiters g) { s with
        completionNotify := s.completionNotify.notifyWaiters
        guards := s.guards.set g .dropped }
  | wait : Moves s .wait { s with waiters := s.waiters ++ [.entered] }
  | load {w : Nat} {p q : WaitPhase} (hw : s.waiters[w]? = some p)
      (hq : afterLoad s.activeTasks p = some q) : Moves s (.load w) (s.setWaiter w q)
  | create {w : Nat} (hw : s.waiters[w]? = some .registering) :
      Moves s (.create w) (s.setWaiter w (.awaiting s.completionNotify.notified))
  | wake {w : Nat} {f : Notified} (hw : s.waiters[w]? = some (.awaiting f))
      (hf : f.Ready s.completionNotify) : Moves s (.wake w) (s.setWaiter w .looping)
  | timeout {w : Nat} {f : Notified} (hw : s.waiters[w]? = some (.awaiting f))
      (hf : ¬ f.Ready s.completionNotify) :
      Moves s (.timeout w) (s.setWaiter w (.returned (.error ())))

theorem moves_of_step {s t : TaskTracker} {l : Label} (h : s.step l = some t) : Moves s l t := by
  cases l with
  | increment => cases h; exact .increment
  | fetchSub g =>
    rw [step] at h
    split at h
    · rename_i hg; cases h; exact .fetchSub hg
    · cases h
  | notifyWaiters g =>
    rw [step] at h
    split at h
    · rename_i hg; cases h; exact .notifyWaiters hg
    · cases h
  | wait => cases h; exact .wait
  | load w =>
    rw [step, Option.map_eq_some_iff] at h
    obtain ⟨q, hq, rfl⟩ := h
    obtain ⟨p, hw, hq⟩ := Option.bind_eq_some_iff.mp hq
    exact .load hw hq
  | create w =>
    rw [step] at h
    split at h
    · rename_i hw; cases h; exact .create hw
    · cases h
  | wake w =>
    rw [step] at h
    split at h
    · rename_i f hw
      split at h
      · rename_i hf; cases h; exact .wake hw hf
      · cases h
    · cases h
  | timeout w =>
    rw [step] at h
    split at h
    · rename_i f hw
      split at h
      · cases h
      · rename_i hf; cases h; exact .timeout hw hf
    · cases h

/-- A load leaves the waiter awake. -/
theorem afterLoad_ne_awaiting {n : Nat} {p q : WaitPhase} (h : afterLoad n p = some q)
    (f : Notified) : q ≠ .awaiting f := by
  rintro rfl
  cases p <;> simp only [afterLoad, Option.some_inj, reduceCtorEq] at h <;>
    split at h <;> cases h

/-! ## The counter -/

/-- The guards between their `fetch_add` and their `fetch_sub`. -/
def liveGuards (s : TaskTracker) : Nat := s.guards.countP (· == .live)

theorem Moves.activeTasks_eq {s t : TaskTracker} {l : Label} (h : Moves s l t)
    (hs : s.activeTasks = s.liveGuards) : t.activeTasks = t.liveGuards := by
  cases h with
  | increment =>
    show s.activeTasks + 1 = (s.guards ++ [GuardPhase.live]).countP (· == .live)
    rw [List.countP_append, hs]
    rfl
  | @fetchSub g hg =>
    have hcount : (s.guards.set g (if s.activeTasks = 1 then .notifying else .dropped)).countP
        (· == .live) + 1 = s.guards.countP (· == .live) :=
      List.countP_set_of_pos_neg hg rfl (by split <;> rfl)
    have hpos : s.activeTasks ≠ 0 := by
      rw [hs, liveGuards, ← hcount]
      omega
    show Zel.fetchSub s.activeTasks = List.countP _ (s.guards.set g _)
    rw [Zel.fetchSub, if_neg hpos]
    have hs' : s.activeTasks = s.guards.countP (· == .live) := hs
    omega
  | notifyWaiters hg =>
    show s.activeTasks = _
    rw [hs]
    exact (List.countP_set_of_neg_neg hg rfl rfl).symm
  | wait => exact hs
  | load => exact hs
  | create => exact hs
  | wake => exact hs
  | timeout => exact hs

/-- **Task accounting.**  In every reachable state the counter is the number of live guards. -/
theorem activeTasks_eq {s : TaskTracker} (hs : machine.Reachable s) :
    s.activeTasks = s.liveGuards :=
  hs.invariant (I := fun s ↦ s.activeTasks = s.liveGuards) rfl
    fun _ _ _ h ht ↦ (moves_of_step ht).activeTasks_eq h

/-- A counter at zero means that no guard is alive. -/
theorem ne_live_of_activeTasks_eq_zero {s : TaskTracker} (hs : s.activeTasks = s.liveGuards)
    (h0 : s.activeTasks = 0) (g : Nat) : s.guards[g]? ≠ some .live := by
  intro hg
  have := List.countP_eq_zero_getElem? (hs ▸ h0 : s.liveGuards = 0) hg
  simp at this

/-! ## Guards and returned waits -/

/-- Only its own `fetch_sub` ends a guard's life. -/
theorem Moves.live {s t : TaskTracker} {l : Label} (h : Moves s l t) {g : Nat}
    (hg : s.guards[g]? = some .live) (hl : l ≠ .fetchSub g) : t.guards[g]? = some .live := by
  cases h with
  | increment => exact List.getElem?_concat_of_some hg
  | @fetchSub g' =>
    have hne : g' ≠ g := fun he ↦ hl (he ▸ rfl)
    exact (List.getElem?_set_ne hne).trans hg
  | @notifyWaiters g' hg' => exact List.getElem?_set_other hg hg' (by decide)
  | _ => exact hg

/-- Guards are made by `increment` only. -/
theorem Moves.guards_length {s t : TaskTracker} {l : Label} (h : Moves s l t)
    (hl : l ≠ .increment) : t.guards.length = s.guards.length := by
  cases h with
  | increment => exact absurd rfl hl
  | fetchSub => exact List.length_set
  | notifyWaiters => exact List.length_set
  | _ => rfl

/-- Some wait has returned `Ok(())`. -/
def Completed (s : TaskTracker) : Prop := ∃ w : Nat, s.waiters[w]? = some (.returned (.ok ()))

/-- The load of the waiter that ends its wait. -/
theorem afterLoad_eq_ok {n : Nat} {p : WaitPhase} (h : afterLoad n p = some (.returned (.ok ()))) :
    n = 0 := by
  by_contra hn
  cases p <;> simp [afterLoad, hn] at h

theorem afterLoad_zero {p q : WaitPhase} (h : afterLoad 0 p = some q) :
    q = .returned (.ok ()) := by
  cases p <;> simp only [afterLoad, if_true, Option.some_inj, reduceCtorEq] at h <;> exact h.symm

/-- A wait that has returned stays so. -/
theorem Moves.completed {s t : TaskTracker} {l : Label} (h : Moves s l t) (hs : Completed s) :
    Completed t := by
  obtain ⟨w, hw⟩ := hs
  have keep : ∀ (w' : Nat) (p q : WaitPhase), s.waiters[w']? = some p → p ≠ .returned (.ok ()) →
      Completed (s.setWaiter w' q) := by
    intro w' p q hw' hp
    exact ⟨w, List.getElem?_set_other hw hw' hp⟩
  cases h with
  | wait => exact ⟨w, List.getElem?_concat_of_some hw⟩
  | load hw' hq => exact keep _ _ _ hw' (by rintro rfl; cases hq)
  | create hw' => exact keep _ _ _ hw' (by simp)
  | wake hw' => exact keep _ _ _ hw' (by simp)
  | timeout hw' => exact keep _ _ _ hw' (by simp)
  | _ => exact ⟨w, hw⟩

/-- A wait returns `Ok(())` in the step that reads the counter as zero. -/
theorem Moves.completed_cases {s t : TaskTracker} {l : Label} (h : Moves s l t)
    (ht : Completed t) : Completed s ∨ s.activeTasks = 0 ∧ ∃ w, l = .load w := by
  obtain ⟨w, hw⟩ := ht
  cases h with
  | wait =>
    rcases List.getElem?_concat_cases hw with ⟨-, hp⟩ | hw
    · cases hp
    · exact Or.inl ⟨w, hw⟩
  | load hw' hq =>
    rcases List.getElem?_set_cases hw with ⟨-, rfl⟩ | ⟨-, hw⟩
    · exact Or.inr ⟨afterLoad_eq_ok hq, _, rfl⟩
    · exact Or.inl ⟨w, hw⟩
  | create =>
    rcases List.getElem?_set_cases hw with ⟨-, hp⟩ | ⟨-, hw⟩
    · cases hp
    · exact Or.inl ⟨w, hw⟩
  | wake =>
    rcases List.getElem?_set_cases hw with ⟨-, hp⟩ | ⟨-, hw⟩
    · cases hp
    · exact Or.inl ⟨w, hw⟩
  | timeout =>
    rcases List.getElem?_set_cases hw with ⟨-, hp⟩ | ⟨-, hw⟩
    · cases hp
    · exact Or.inl ⟨w, hw⟩
  | _ => exact Or.inl ⟨w, hw⟩

/-! ## The completion wake-up -/

/-- A waiter sleeps in `notified()` and nothing is left that would wake it: no wake-up was
delivered, no task is active, and no drop stands between its `fetch_sub` and its
`notify_waiters`. -/
def Stuck (s : TaskTracker) : Prop :=
  (∃ (w : Nat) (f : Notified), s.waiters[w]? = some (.awaiting f) ∧ ¬ f.Ready s.completionNotify) ∧
    s.activeTasks = 0 ∧ ∀ g : Nat, s.guards[g]? ≠ some .notifying

/-- A `Notified` is created only while a task is active or a last drop has yet to notify. -/
def CreatesInTime (s : TaskTracker) : Label → Prop
  | .create _ => s.activeTasks ≠ 0 ∨ ∃ g : Nat, s.guards[g]? = some .notifying
  | _ => True

/-- Every sleeping waiter was created by this signal, and something will still wake it. -/
structure WakeupDue (s : TaskTracker) : Prop where
  createdBy : ∀ (w : Nat) (f : Notified), s.waiters[w]? = some (.awaiting f) →
    f.CreatedBy s.completionNotify
  due : ∀ (w : Nat) (f : Notified), s.waiters[w]? = some (.awaiting f) →
    ¬ f.Ready s.completionNotify → s.activeTasks ≠ 0 ∨ ∃ g : Nat, s.guards[g]? = some .notifying

theorem wakeupDue_new : WakeupDue new := by
  constructor <;> intro w f hw <;> simp [new] at hw

theorem WakeupDue.not_stuck {s : TaskTracker} (h : WakeupDue s) : ¬ s.Stuck := by
  rintro ⟨⟨w, f, hw, hf⟩, h0, hno⟩
  rcases h.due w f hw hf with hact | ⟨g, hg⟩
  · exact hact h0
  · exact hno g hg

/-- A step that puts no waiter to sleep keeps `WakeupDue` when the signal and the guards do. -/
theorem WakeupDue.setWaiter {s : TaskTracker} (h : WakeupDue s) {w : Nat} {p : WaitPhase}
    (hp : ∀ f, p = .awaiting f → f.CreatedBy s.completionNotify ∧
      (s.activeTasks ≠ 0 ∨ ∃ g : Nat, s.guards[g]? = some .notifying)) :
    WakeupDue (s.setWaiter w p) := by
  constructor
  · intro w' f hw'
    rcases List.getElem?_set_cases hw' with ⟨-, rfl⟩ | ⟨-, hw'⟩
    · exact (hp f rfl).1
    · exact h.createdBy w' f hw'
  · intro w' f hw' hf
    rcases List.getElem?_set_cases hw' with ⟨-, rfl⟩ | ⟨-, hw'⟩
    · exact (hp f rfl).2
    · exact h.due w' f hw' hf

theorem Moves.wakeupDue {s t : TaskTracker} {l : Label} (h : Moves s l t) (hs : WakeupDue s)
    (hc : CreatesInTime s l) : WakeupDue t := by
  cases h with
  | increment => exact ⟨hs.createdBy, fun _ _ _ _ ↦ Or.inl (Nat.succ_ne_zero _)⟩
  | @fetchSub g hg =>
    refine ⟨hs.createdBy, fun _ _ _ _ ↦ ?_⟩
    by_cases h1 : s.activeTasks = 1
    · refine Or.inr ⟨g, ?_⟩
      simp only [h1, if_true]
      exact List.getElem?_set_of_some hg
    · left
      show Zel.fetchSub s.activeTasks ≠ 0
      unfold Zel.fetchSub usizeMax
      split <;> omega
  | notifyWaiters hg =>
    refine ⟨fun w f hw ↦ (hs.createdBy w f hw).notifyWaiters, fun w f hw hf ↦ ?_⟩
    exact absurd (hs.createdBy w f hw).ready_notifyWaiters hf
  | wait =>
    constructor
    · intro w f hw
      rcases List.getElem?_concat_cases hw with ⟨-, hp⟩ | hw
      · cases hp
      · exact hs.createdBy w f hw
    · intro w f hw hf
      rcases List.getElem?_concat_cases hw with ⟨-, hp⟩ | hw
      · cases hp
      · exact hs.due w f hw hf
  | load hw hq => exact hs.setWaiter fun f hf ↦ absurd hf (afterLoad_ne_awaiting hq f)
  | create hw =>
    refine hs.setWaiter fun f hf ↦ ?_
    cases hf
    exact ⟨Notified.createdBy_notified _, hc⟩
  | wake => exact hs.setWaiter fun f hf ↦ by cases hf
  | timeout => exact hs.setWaiter fun f hf ↦ by cases hf

/-- A `Notified` that is created too late leaves its waiter stuck at once. -/
theorem Moves.stuck {s t : TaskTracker} {l : Label} (h : Moves s l t) (hc : ¬ CreatesInTime s l) :
    t.Stuck := by
  cases h with
  | @create w hw =>
    simp only [CreatesInTime, not_or, not_not, not_exists] at hc
    exact ⟨⟨w, _, List.getElem?_set_of_some hw, Notified.not_ready_notified _⟩, hc.1, hc.2⟩
  | _ => exact absurd trivial hc

/-- **When the completion wake-up is not lost.**  No state of a run is stuck if and only if every
waiter of the run creates its `Notified` while a task is active or while the last drop stands
between its `fetch_sub` and its `notify_waiters`. -/
theorem never_stuck_iff (ls : List Label) :
    machine.Along (fun s ↦ ¬ s.Stuck) new ls ↔ machine.Meets CreatesInTime new ls :=
  Machine.along_iff_meets (I := WakeupDue)
    (fun _ _ _ hs hc ht ↦ (moves_of_step ht).wakeupDue hs hc)
    (fun _ hs ↦ hs.not_stuck)
    (fun _ _ _ _ hc ht hns ↦ hns ((moves_of_step ht).stuck hc)) wakeupDue_new ls

/-- One guard and one waiter: the guard is dropped, and notifies, after the waiter has read the
counter and before it has created its `Notified`. -/
def lostWakeupRun : List Label :=
  [.increment, .wait, .load 0, .load 0, .fetchSub 0, .notifyWaiters 0, .create 0]

/-- **The completion wake-up can be lost.** -/
theorem lost_completion_wakeup : ∃ s, machine.run lostWakeupRun = some s ∧ s.Stuck := by
  refine ⟨⟨0, ⟨1⟩, [.dropped], [.awaiting ⟨1⟩]⟩, by decide, ⟨0, ⟨1⟩, rfl, by decide⟩, rfl, ?_⟩
  intro g hg
  cases g <;> simp at hg

end TaskTracker

end Zel
