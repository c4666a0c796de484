import Mathlib.Algebra.Ring.Nat
import Zel.Lib.Machine

/-!
# Machines that wind down

Once nothing new comes in, many machines have only finitely much left to do.  A measure counts it:
every step takes at least one from it, and a step that lets something in may add its cost before.
Then a run is at most as long as the measure at its start, together with what was let in.

A measure may depend on a bound, such as the number of parties, which holds all along a run because
it holds at the end and steps only take it further away.
-/

set_option autoImplicit false

namespace Machine

variable {S L : Type*} {M : Machine S L} {I J : S → Prop}

/-- What steps never restore, and holds at the end of a run, held at its start. -/
theorem of_runFrom (hback : ∀ s l t, M.step s l = some t → J t → J s) {s u : S} {ls : List L}
    (hr : M.runFrom s ls = some u) (hu : J u) : J s := by
  induction ls generalizing s with
  | nil =>
    rw [runFrom_nil, Option.some_inj] at hr
    exact hr ▸ hu
  | cons l ls ih =>
    obtain ⟨t, ht, hr'⟩ := runFrom_cons_eq_some.mp hr
    exact hback s l t ht (ih hr')

/-- **The measure rule.**  `J` bounds the state from above along the run. -/
theorem length_le_of_run {μ : S → Nat} {cost : L → Nat}
    (hI : ∀ s l t, I s → M.step s l = some t → I t)
    (hJ : ∀ s l t, M.step s l = some t → J t → J s)
    (hμ : ∀ s l t, I s → J s → M.step s l = some t → μ t < μ s + cost l) {s u : S} (hs : I s)
    {ls : List L} (hr : M.runFrom s ls = some u) (hu : J u) :
    ls.length + μ u ≤ μ s + (ls.map cost).sum := by
  induction ls generalizing s with
  | nil =>
    rw [runFrom_nil, Option.some_inj] at hr
    rw [hr]
    simp
  | cons l ls ih =>
    have hsJ := of_runFrom hJ hr hu
    obtain ⟨t, ht, hr'⟩ := runFrom_cons_eq_some.mp hr
    have hrest := ih (hI s l t hs ht) hr'
    have hstep := hμ s l t hs hsJ ht
    rw [List.length_cons, List.map_cons, List.sum_cons]
    omega

end Machine
