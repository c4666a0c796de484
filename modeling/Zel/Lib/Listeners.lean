import Zel.Lib.Machine
import Zel.Lib.Notify

/-!
# Parties that listen to an edge-triggered signal

Any number of parties of a machine suspend in futures of one `Notify`.  Whoever creates its future
before a `notify_waiters` is woken by it, whoever creates it afterwards sleeps on, since no permit
is stored.  `Listeners` says which futures the parties of a machine are suspended in and which of
its steps create one; that the signal is heard by everybody is then a condition on these steps
alone.

## What is here

* `Listeners` — the listening parties of a machine.
* `Listeners.Heard` — once the signal was given, nobody sleeps; `Listeners.CreatesInTime` — a future
  is created only before.
* `Listeners.heard_iff` — **the signal is heard throughout a run** if and only if all its futures
  are created in time.
-/

set_option autoImplicit false

/-- The parties of a machine that listen to a signal. -/
structure Listeners {S L : Type*} (M : Machine S L) where
  /-- The signal that they share. -/
  signal : S → Notify
  /-- Some party is suspended in this future. -/
  asleep : S → Notified → Prop
  /-- The step suspends a party in a new future. -/
  creates : S → L → Prop
  /-- The signal moves by `notify_waiters` only. -/
  signal_step : ∀ s l t, M.step s l = some t →
    signal t = signal s ∨ signal t = (signal s).notifyWaiters
  /-- Nobody falls asleep in another way. -/
  asleep_step : ∀ s l t, M.step s l = some t → ∀ f, asleep t f →
    asleep s f ∨ creates s l ∧ f = (signal s).notified
  /-- Who creates a future is suspended in it. -/
  creates_step : ∀ s l t, M.step s l = some t → creates s l →
    signal t = signal s ∧ asleep t (signal s).notified

namespace Listeners

variable {S L : Type*} {M : Machine S L} (W : Listeners M)

/-- Once the signal was given, everybody who is still suspended has been woken. -/
def Heard (s : S) : Prop := 0 < (W.signal s).calls → ∀ f, W.asleep s f → f.Ready (W.signal s)

/-- A future is created only before the signal is given. -/
def CreatesInTime (s : S) (l : L) : Prop := W.creates s l → (W.signal s).calls = 0

/-- Everybody is suspended in a future of the signal, and it is heard. -/
structure Attentive (s : S) : Prop where
  createdBy : ∀ f, W.asleep s f → f.CreatedBy (W.signal s)
  heard : W.Heard s

variable {W}

/-- Futures are created by the signal. -/
theorem createdBy_step {s t : S} {l : L}
    (hs : ∀ f, W.asleep s f → f.CreatedBy (W.signal s)) (ht : M.step s l = some t) (f : Notified)
    (hf : W.asleep t f) : f.CreatedBy (W.signal t) := by
  have hcreated : f.CreatedBy (W.signal s) := by
    rcases W.asleep_step s l t ht f hf with hold | ⟨-, rfl⟩
    · exact hs f hold
    · exact Notified.createdBy_notified _
  rcases W.signal_step s l t ht with hsig | hsig
  · exact hsig ▸ hcreated
  · exact hsig ▸ hcreated.notifyWaiters

theorem createdBy_of_reachable (h0 : ∀ f, ¬ W.asleep M.init f) {s : S} (hs : M.Reachable s)
    (f : Notified) (hf : W.asleep s f) : f.CreatedBy (W.signal s) :=
  hs.invariant (I := fun s ↦ ∀ f, W.asleep s f → f.CreatedBy (W.signal s))
    (fun f hf ↦ absurd hf (h0 f)) (fun _ _ _ hs ht ↦ createdBy_step hs ht) f hf

theorem Attentive.step {s t : S} {l : L} (hs : W.Attentive s) (hc : W.CreatesInTime s l)
    (ht : M.step s l = some t) : W.Attentive t := by
  refine ⟨createdBy_step hs.createdBy ht, fun hcalls f hf ↦ ?_⟩
  rcases W.signal_step s l t ht with hsig | hsig
  · rw [hsig] at hcalls ⊢
    rcases W.asleep_step s l t ht f hf with hold | ⟨hnew, -⟩
    · exact hs.heard hcalls f hold
    · exact absurd (hc hnew) (Nat.ne_of_gt hcalls)
  · rw [hsig]
    refine Notified.CreatedBy.ready_notifyWaiters ?_
    rcases W.asleep_step s l t ht f hf with hold | ⟨-, rfl⟩
    · exact hs.createdBy f hold
    · exact Notified.createdBy_notified _

/-- Who creates a future after the signal sleeps. -/
theorem not_heard_of_creates {s t : S} {l : L} (hc : ¬ W.CreatesInTime s l)
    (ht : M.step s l = some t) : ¬ W.Heard t := by
  simp only [CreatesInTime, Classical.not_imp] at hc
  obtain ⟨hnew, hcalls⟩ := hc
  obtain ⟨hsig, hasleep⟩ := W.creates_step s l t ht hnew
  intro hheard
  have hready := hheard (by rw [hsig]; exact Nat.pos_of_ne_zero hcalls) _ hasleep
  rw [hsig] at hready
  exact Notified.not_ready_notified _ hready

variable (W)

/-- **When a signal is heard.**  In every state of a run each suspended party has been woken once
the signal was given, if and only if every future of the run is created before. -/
theorem heard_iff {s : S} (h0 : ∀ f, ¬ W.asleep s f) (ls : List L) :
    M.Along W.Heard s ls ↔ M.Meets W.CreatesInTime s ls :=
  Machine.along_iff_meets (I := W.Attentive) (fun _ _ _ hs hc ht ↦ hs.step hc ht)
    (fun _ hs ↦ hs.heard) (fun _ _ _ _ hc ht ↦ not_heard_of_creates hc ht)
    ⟨fun f hf ↦ absurd hf (h0 f), fun _ f hf ↦ absurd hf (h0 f)⟩ ls

end Listeners
