import Zel.Lib.Machine

/-!
# Resources that close with their last handle

A resource stays open as long as somebody holds a handle of it, and closes when the last handle is
dropped, whatever was still pending on it.  `Handles` says who holds a handle of what in the states
of a machine, which steps drop one, and what is pending; that nothing pending is ever lost is then a
condition on these steps alone.

## What is here

* `Handles` — the holders, the drops and the pending work of a machine.
* `Handles.Safe` — what has pending work is held; `Handles.DropsSafely` — the last handle of a
  resource is dropped only when nothing is pending on it.
* `Handles.safe_iff` — **nothing pending is lost in a run** if and only if all its drops are safe.
-/

set_option autoImplicit false

/-- Who keeps the resources of a machine open. -/
structure Handles {S L : Type*} (M : Machine S L) (R H : Type*) where
  /-- An invariant of the machine, which the laws below may use. -/
  Inv : S → Prop
  /-- The holder has a handle of the resource. -/
  Holds : S → R → H → Prop
  /-- The step drops the holder's handle of the resource. -/
  Drops : S → L → R → H → Prop
  /-- There is work pending on the resource. -/
  Pending : S → R → Prop
  inv_step : ∀ s l t, Inv s → M.step s l = some t → Inv t
  /-- A handle is kept until it is dropped. -/
  kept : ∀ s l t, Inv s → M.step s l = some t → ∀ r h, Holds s r h →
    Holds t r h ∨ Drops s l r h
  /-- A drop takes one handle away and gives none. -/
  dropped : ∀ s l t, Inv s → M.step s l = some t → ∀ r h, Drops s l r h →
    ∀ h', Holds t r h' → h' ≠ h ∧ Holds s r h'
  /-- A drop completes no work. -/
  still_pending : ∀ s l t, Inv s → M.step s l = some t → ∀ r h, Drops s l r h →
    Pending s r → Pending t r
  /-- New work is given to a resource by somebody who holds it. -/
  new_pending : ∀ s l t, Inv s → M.step s l = some t → ∀ r, Pending t r →
    Pending s r ∨ ∃ h, Holds t r h
  /-- One handle is dropped at a time. -/
  drops_unique : ∀ s l r h h', Drops s l r h → Drops s l r h' → h = h'

namespace Handles

variable {S L R H : Type*} {M : Machine S L} (W : Handles M R H)

/-- What has pending work is held. -/
def Safe (s : S) : Prop := ∀ r, W.Pending s r → ∃ h, W.Holds s r h

/-- A handle is dropped only while somebody else has one, or nothing is pending. -/
def DropsSafely (s : S) (l : L) : Prop :=
  ∀ r h, W.Drops s l r h → W.Pending s r → ∃ h', h' ≠ h ∧ W.Holds s r h'

variable {W}

theorem Safe.step {s t : S} {l : L} (hs : W.Safe s) (hinv : W.Inv s) (hc : W.DropsSafely s l)
    (ht : M.step s l = some t) : W.Safe t := by
  intro r hr
  rcases W.new_pending s l t hinv ht r hr with hold | hheld
  · obtain ⟨h, hh⟩ := hs r hold
    rcases W.kept s l t hinv ht r h hh with hh | hdrop
    · exact ⟨h, hh⟩
    · obtain ⟨h', hne, hh'⟩ := hc r h hdrop hold
      rcases W.kept s l t hinv ht r h' hh' with hh' | hdrop'
      · exact ⟨h', hh'⟩
      · exact absurd (W.drops_unique s l r h' h hdrop' hdrop) hne
  · exact hheld

/-- An unsafe drop loses what is pending. -/
theorem not_safe_of_drop {s t : S} {l : L} (hinv : W.Inv s) (hc : ¬ W.DropsSafely s l)
    (ht : M.step s l = some t) : ¬ W.Safe t := by
  simp only [DropsSafely, not_forall, not_exists, not_and] at hc
  obtain ⟨r, h, hdrop, hpend, hlast⟩ := hc
  intro hsafe
  obtain ⟨h', hh'⟩ := hsafe r (W.still_pending s l t hinv ht r h hdrop hpend)
  obtain ⟨hne, hh'⟩ := W.dropped s l t hinv ht r h hdrop h' hh'
  exact hlast h' hne hh'

variable (W)

/-- **When nothing pending is lost.**  In every state of a run what has pending work is held, if and
only if no drop of the run takes the last handle of a resource with pending work. -/
theorem safe_iff {s : S} (hinv : W.Inv s) (hsafe : W.Safe s) (ls : List L) :
    M.Along W.Safe s ls ↔ M.Meets W.DropsSafely s ls :=
  Machine.along_iff_meets (I := fun s ↦ W.Inv s ∧ W.Safe s)
    (fun s l t hs hc ht ↦ ⟨W.inv_step s l t hs.1 ht, hs.2.step hs.1 hc ht⟩)
    (fun _ hs ↦ hs.2) (fun _ _ _ hs hc ht ↦ not_safe_of_drop hs.1 hc ht) ⟨hinv, hsafe⟩ ls

end Handles
