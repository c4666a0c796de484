import Mathlib.Data.List.Basic

/-!
# Sequences of frames that carry items

On a stream of frames some carry an item, some are passed over, and one may say that it is the last.
`Carries kinds frames vs closed` says that these frames are all of these kinds, which items they
carry, and whether the last one closes the sequence.  It is what a reader's invariant needs to know
of frames that are still on their way: a writer appends at the end, a reader takes from the front.
What the reader has made of the frames it took is a list of results, one for each time it was asked:
`Yields results vs n` says that these are the items, each as a success, and then `n` times the end.
-/

set_option autoImplicit false

/-- What a frame can be. -/
structure FrameKinds (F V : Type*) where
  /-- The frame carries this item. -/
  item : F → V → Prop
  /-- The frame is passed over. -/
  skipped : F → Prop
  /-- The frame closes the sequence. -/
  last : F → Prop

/-- These frames carry these items, and the flag says whether they close the sequence. -/
inductive Carries {F V : Type*} (kinds : FrameKinds F V) : List F → List V → Bool → Prop
  | nil : Carries kinds [] [] false
  | last {a : F} (h : kinds.last a) : Carries kinds [a] [] true
  | skipped {a : F} {as : List F} {vs : List V} {e : Bool} (h : kinds.skipped a)
      (hrest : Carries kinds as vs e) : Carries kinds (a :: as) vs e
  | item {a : F} {as : List F} {v : V} {vs : List V} {e : Bool} (h : kinds.item a v)
      (hrest : Carries kinds as vs e) : Carries kinds (a :: as) (v :: vs) e

namespace Carries

variable {F V : Type*} {kinds : FrameKinds F V} {a : F} {as : List F} {v : V} {vs : List V}
  {e : Bool}

theorem of_skipped (h : ∀ a ∈ as, kinds.skipped a) : Carries kinds as [] false := by
  induction as with
  | nil => exact .nil
  | cons a as ih =>
    exact .skipped (h a List.mem_cons_self) (ih fun b hb ↦ h b (List.mem_cons_of_mem a hb))

/-- The writer appends an item. -/
theorem concat_item (h : Carries kinds as vs false) (ha : kinds.item a v) :
    Carries kinds (as ++ [a]) (vs ++ [v]) false := by
  generalize he : false = e at h
  induction h with
  | nil => exact .item ha (he ▸ .nil)
  | last => cases he
  | skipped hb _ ih => exact .skipped hb (ih he)
  | item hb _ ih => exact .item hb (ih he)

/-- The writer closes the sequence. -/
theorem concat_last (h : Carries kinds as vs false) (ha : kinds.last a) :
    Carries kinds (as ++ [a]) vs true := by
  generalize he : false = e at h
  induction h with
  | nil => exact .last ha
  | last => cases he
  | skipped hb _ ih => exact .skipped hb (ih he)
  | item hb _ ih => exact .item hb (ih he)

/-- Without frames there are no items. -/
theorem nil_items (h : Carries kinds [] vs e) : vs = [] := by
  cases h
  rfl

end Carries

/-- The results are these items, each as a success, and then, `n` times, the end. -/
def Yields {E V : Type*} (results : List (Option (Except E V))) (vs : List V) (n : Nat) : Prop :=
  results = vs.map (fun v ↦ some (.ok v)) ++ List.replicate n none

namespace Yields

variable {E V : Type*} {results : List (Option (Except E V))} {vs : List V} {n : Nat}

theorem nil : Yields ([] : List (Option (Except E V))) [] 0 := rfl

/-- Before the end another item can follow. -/
theorem concat_item (h : Yields results vs 0) (v : V) :
    Yields (results ++ [some (.ok v)]) (vs ++ [v]) 0 := by
  rw [Yields] at h
  simp [Yields, h]

theorem concat_end (h : Yields results vs n) : Yields (results ++ [none]) vs (n + 1) := by
  rw [Yields] at h ⊢
  rw [h, List.append_assoc, List.replicate_succ']

end Yields
