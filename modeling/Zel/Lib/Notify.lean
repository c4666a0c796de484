import Mathlib.Order.Basic

/-!
# An edge-triggered wake-up signal

Tokio's `Notify`, as far as `notify_waiters` and `notified` go.  The signal counts its
`notify_waiters` calls; a `Notified` future remembers the count at which it was created and is ready
once the count has moved on.  So a `notify_waiters` wakes exactly the futures that exist at that
moment and leaves no permit behind for the ones created later.
-/

set_option autoImplicit false

/-- The shared side of the signal: how often `notify_waiters` was called. -/
structure Notify where
  /-- The number of `notify_waiters` calls so far. -/
  calls : Nat
  deriving DecidableEq

/-- A future returned by `notified()`. -/
structure Notified where
  /-- The number of `notify_waiters` calls at the time of its creation. -/
  seen : Nat
  deriving DecidableEq

namespace Notify

/-- `Notify::new()` -/
def new : Notify := ⟨0⟩

/-- `notified()` creates a future. -/
def notified (n : Notify) : Notified := ⟨n.calls⟩

/-- `notify_waiters()` -/
def notifyWaiters (n : Notify) : Notify := ⟨n.calls + 1⟩

end Notify

namespace Notified

/-- The future has been woken. -/
def Ready (f : Notified) (n : Notify) : Prop := f.seen < n.calls

instance (f : Notified) (n : Notify) : Decidable (f.Ready n) :=
  inferInstanceAs (Decidable (_ < _))

/-- The future was created from this signal, at some earlier moment. -/
def CreatedBy (f : Notified) (n : Notify) : Prop := f.seen ≤ n.calls

theorem createdBy_notified (n : Notify) : n.notified.CreatedBy n := Nat.le_refl _

/-- No permit is stored: a future is not ready when it is created. -/
theorem not_ready_notified (n : Notify) : ¬ n.notified.Ready n := Nat.lt_irrefl _

/-- `notify_waiters` wakes every future created before it. -/
theorem CreatedBy.ready_notifyWaiters {f : Notified} {n : Notify} (h : f.CreatedBy n) :
    f.Ready n.notifyWaiters := Nat.lt_succ_of_le h

theorem CreatedBy.notifyWaiters {f : Notified} {n : Notify} (h : f.CreatedBy n) :
    f.CreatedBy n.notifyWaiters := Nat.le_succ_of_le h

theorem Ready.notifyWaiters {f : Notified} {n : Notify} (h : f.Ready n) :
    f.Ready n.notifyWaiters := Nat.lt_succ_of_lt h

end Notified
