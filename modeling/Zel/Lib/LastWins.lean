import Mathlib.Logic.Function.Basic

/-!
# Updates of a dependent map, the last one wins

A dependent map has at most one value for each key, of a type that depends on the key.  After a
list of updates a key has the last value that the list has for it, or else its old one.
-/

set_option autoImplicit false

namespace LastWins

variable {K : Type*} [DecidableEq K] {V : K → Type*}

/-- The last value that a list of updates has for a key. -/
def lastOf (k : K) : List (Sigma V) → Option (V k)
  | [] => none
  | ⟨k', v⟩ :: l => (lastOf k l).or (if h : k' = k then some (h ▸ v) else none)

/-- The later list decides. -/
theorem lastOf_append (k : K) (l l' : List (Sigma V)) :
    lastOf k (l ++ l') = (lastOf k l').or (lastOf k l) := by
  induction l with
  | nil => exact (Option.or_none ..).symm
  | cons a l ih => rw [List.cons_append, lastOf, lastOf, ih, Option.or_assoc]

/-- A key has a value if and only if the list updates it. -/
theorem isSome_lastOf_iff {k : K} {l : List (Sigma V)} :
    (lastOf k l).isSome ↔ ∃ a ∈ l, a.1 = k := by
  induction l with
  | nil => simp [lastOf]
  | cons a l ih =>
    obtain ⟨k', v⟩ := a
    rw [lastOf, Option.isSome_or, Bool.or_eq_true, ih]
    by_cases h : k' = k <;> simp [h]

/-- The value is one that the list has for the key. -/
theorem mem_of_lastOf {k : K} {l : List (Sigma V)} {v : V k} (h : lastOf k l = some v) :
    ⟨k, v⟩ ∈ l := by
  induction l with
  | nil => cases h
  | cons a l ih =>
    obtain ⟨k', v'⟩ := a
    rw [lastOf, Option.or_eq_some_iff] at h
    rcases h with h | ⟨-, h⟩
    · exact List.mem_cons_of_mem _ (ih h)
    · split at h
      · rename_i hk
        subst hk
        exact Option.some.inj h ▸ List.mem_cons_self
      · cases h

/-- With one update for each key, nothing is replaced. -/
theorem lastOf_of_mem {l : List (Sigma V)} (h : (l.map Sigma.fst).Nodup) {k : K} {v : V k}
    (hv : ⟨k, v⟩ ∈ l) : lastOf k l = some v := by
  induction l with
  | nil => cases hv
  | cons a l ih =>
    rw [List.map_cons, List.nodup_cons] at h
    rw [lastOf]
    rcases List.mem_cons.mp hv with rfl | hv
    · have hnone : lastOf k l = none := by
        rw [← Option.not_isSome_iff_eq_none, isSome_lastOf_iff]
        rintro ⟨a, ha, hk⟩
        exact h.1 (List.mem_map.mpr ⟨a, ha, hk⟩)
      rw [hnone, dif_pos rfl]
      rfl
    · rw [ih h.2 hv]
      rfl

/-- The map after a list of updates. -/
def updates (m : ∀ k, Option (V k)) (l : List (Sigma V)) : ∀ k, Option (V k) :=
  l.foldl (fun m a ↦ Function.update m a.1 (some a.2)) m

theorem updates_cons (m : ∀ k, Option (V k)) (a : Sigma V) (l : List (Sigma V)) :
    updates m (a :: l) = updates (Function.update m a.1 (some a.2)) l := rfl

theorem updates_append (m : ∀ k, Option (V k)) (l l' : List (Sigma V)) :
    updates m (l ++ l') = updates (updates m l) l' := List.foldl_append

/-- **The last update wins.** -/
theorem updates_apply (m : ∀ k, Option (V k)) (l : List (Sigma V)) (k : K) :
    updates m l k = (lastOf k l).or (m k) := by
  induction l generalizing m with
  | nil => rfl
  | cons a l ih =>
    obtain ⟨k', v⟩ := a
    rw [updates_cons, ih, lastOf, Option.or_assoc]
    by_cases h : k' = k
    · subst h
      simp
    · rw [dif_neg h, Option.none_or, Function.update_of_ne (Ne.symm h)]

end LastWins
