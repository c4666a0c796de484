import Mathlib.Order.Bounds.Basic

/-!
# Retried operations

An operation that may fail is executed again and again, with a list of delays in between.  It is
over when it succeeds, when it fails with an error that is not to be retried, and when the delays
are used up; what the last execution returned is the result.

## What is here

* `final`, `next`, `drive` — one execution after another.
* `drive_eq` — the whole loop stops at the least index that is final or the number of delays.
* `Running` — the loop in the middle, one execution at a time.
-/

set_option autoImplicit false

namespace Retry

variable {S T E D : Type*} (retryable : E → Bool)

/-- Another execution is not wanted: a success, or an error that is not to be retried. -/
def final : Except E T → Bool
  | .ok _ => true
  | .error e => !retryable e

/-- After an execution: the delays that are left if there is another one. -/
def next (r : Except E T) : List D → Option (List D)
  | [] => none
  | _ :: ds => if final retryable r then none else some ds

/-- The loop: its result and the state that the executions leave behind. -/
def drive (attempt : S → Except E T × S) : List D → S → Except E T × S
  | [], s => attempt s
  | _ :: ds, s =>
    if final retryable (attempt s).1 then attempt s else drive attempt ds (attempt s).2

/-- The index of the last execution, with `n` delays. -/
def StopsAt (result : Nat → Except E T) (n k : Nat) : Prop :=
  IsLeast {i | i = n ∨ final retryable (result i) = true} k

variable {retryable}

/-- Only an error that is to be retried is not final. -/
theorem final_eq_false {r : Except E T} :
    final retryable r = false ↔ ∃ e, r = .error e ∧ retryable e = true := by
  rcases r with e | v <;> simp [final]

theorem StopsAt.unique {result : Nat → Except E T} {n k k' : Nat}
    (h : StopsAt retryable result n k) (h' : StopsAt retryable result n k') : k = k' :=
  IsLeast.unique h h'

theorem StopsAt.le {result : Nat → Except E T} {n k : Nat} (h : StopsAt retryable result n k) :
    k ≤ n := h.2 (.inl rfl)

/-- All executions but the last were worth a retry. -/
theorem StopsAt.not_final {result : Nat → Except E T} {n k : Nat}
    (h : StopsAt retryable result n k) {i : Nat} (hi : i < k) :
    final retryable (result i) = false := by
  by_contra hfinal
  have hle := h.2 (.inr (Bool.eq_true_of_not_eq_false hfinal))
  omega

/-- A loop whose result is not final has used up its delays. -/
theorem StopsAt.eq_of_not_final {result : Nat → Except E T} {n k : Nat}
    (h : StopsAt retryable result n k) (hk : final retryable (result k) = false) : k = n :=
  h.1.resolve_right (ne_true_of_eq_false hk)

theorem stopsAt_of_forall {result : Nat → Except E T} {n k : Nat}
    (hk : k = n ∨ final retryable (result k) = true) (hn : k ≤ n)
    (hbefore : ∀ i < k, final retryable (result i) = false) : StopsAt retryable result n k := by
  refine ⟨hk, fun i hi ↦ ?_⟩
  rcases hi with rfl | hi
  · exact hn
  · by_contra hlt
    rw [hbefore i (Nat.lt_of_not_le hlt)] at hi
    cases hi

/-- **The whole loop.**  The executions leave behind one state after the other; the loop ends with
the first of them whose result is final, or with the one after the last delay. -/
theorem drive_eq (attempt : S → Except E T × S) (ds : List D) (s : S) :
    ∃ k, StopsAt retryable (fun i ↦ (attempt ((fun s ↦ (attempt s).2)^[i] s)).1) ds.length k ∧
      drive retryable attempt ds s = attempt ((fun s ↦ (attempt s).2)^[k] s) := by
  induction ds generalizing s with
  | nil => exact ⟨0, stopsAt_of_forall (.inl rfl) (Nat.zero_le _) nofun, rfl⟩
  | cons d ds ih =>
    rw [drive]
    by_cases hfinal : final retryable (attempt s).1 = true
    · exact ⟨0, stopsAt_of_forall (.inr hfinal) (Nat.zero_le _) nofun, if_pos hfinal⟩
    · obtain ⟨k, hk, hdrive⟩ := ih (attempt s).2
      refine ⟨k + 1, stopsAt_of_forall ?_ (Nat.succ_le_succ hk.le) fun i hi ↦ ?_, ?_⟩
      · exact hk.1.imp (congrArg Nat.succ) id
      · cases i with
        | zero => exact Bool.eq_false_of_not_eq_true hfinal
        | succ i => exact hk.not_final (Nat.lt_of_succ_lt_succ hi)
      · rw [if_neg hfinal, hdrive]
        rfl

/-! ## In the middle of the loop -/

/-- Another execution uses up one delay. -/
theorem next_eq_some {r : Except E T} {ds ds' : List D} (h : next retryable r ds = some ds') :
    ds.length = ds'.length + 1 ∧ final retryable r = false := by
  rcases ds with _ | ⟨d, ds⟩
  · cases h
  · rw [next] at h
    split at h
    · cases h
    · rename_i hfinal
      cases h
      exact ⟨rfl, Bool.eq_false_of_not_eq_true hfinal⟩

/-- There is no other execution when the delays are used up, or none is wanted. -/
theorem next_eq_none {r : Except E T} {ds : List D} (h : next retryable r ds = none) :
    ds = [] ∨ final retryable r = true := by
  rcases ds with _ | ⟨d, ds⟩
  · exact .inl rfl
  · rw [next] at h
    split at h
    · exact .inr ‹_›
    · cases h

variable (retryable) in
/-- The loop has made `i` of its executions and goes on, with these delays left of `n`. -/
structure Running (result : Nat → Except E T) (n i : Nat) (ds : List D) : Prop where
  left : ds.length + i = n
  not_final : ∀ j < i, final retryable (result j) = false

/-- Another execution. -/
theorem Running.again {result : Nat → Except E T} {n i : Nat} {ds ds' : List D}
    (h : Running retryable result n i ds) (hnext : next retryable (result i) ds = some ds') :
    Running retryable result n (i + 1) ds' ∧ final retryable (result i) = false := by
  rcases ds with _ | ⟨d, ds⟩
  · cases hnext
  · rw [next] at hnext
    split at hnext
    · cases hnext
    · rename_i hfinal
      cases hnext
      have hlast := Bool.eq_false_of_not_eq_true hfinal
      refine ⟨⟨?_, fun j hj ↦ ?_⟩, hlast⟩
      · rw [← h.left, List.length_cons]
        omega
      · rcases Nat.lt_succ_iff_lt_or_eq.mp hj with hj | rfl
        · exact h.not_final j hj
        · exact hlast

/-- The last execution. -/
theorem Running.stops {result : Nat → Except E T} {n i : Nat} {ds : List D}
    (h : Running retryable result n i ds) (hnext : next retryable (result i) ds = none) :
    StopsAt retryable result n i := by
  have hle : i ≤ n := by
    rw [← h.left]
    omega
  refine stopsAt_of_forall ?_ hle h.not_final
  rcases ds with _ | ⟨d, ds⟩
  · exact .inl (by rw [← h.left, List.length_nil, Nat.zero_add])
  · rw [next] at hnext
    split at hnext
    · exact .inr ‹_›
    · cases hnext

end Retry
