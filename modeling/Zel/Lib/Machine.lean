import Mathlib.Data.List.Basic

/-!
# Labelled machines and their runs

A `Machine S L` is an initial state and a partial step function: `step s l` is the state after the
step `l`, or `none` when `l` is not possible in `s`.  The label says which party moves and how, so
a list of labels is a schedule, and quantifying over all lists is quantifying over all
interleavings.

## What is here

* `runFrom`, `run`, `Reachable` — the state a schedule ends in, and the states some schedule
  reaches.
* `Meets M C s ls` — every step that `ls` takes from `s` satisfies `C`, a condition on the state
  before the step and its label; `Along M P s ls` — every state that `ls` visits satisfies `P`.
* `meets_iff_forall_step`, `meets_and` — a run meets a condition if each of its steps does.
* `Reachable.invariant`, `along_of_meets`, `Meets.mono` — the rules by which an inductive
  invariant, possibly one that is kept only by steps meeting a condition, holds along a run.
* `along_iff_meets` — when a condition is *exact*: the states of a run are all good if and only if
  its steps all meet the condition.
* `countSteps` — how many steps of a run have a property; `potential_of_run`, the rule for a
  quantity that exactly these steps raise.
* `trace_of_run`, `holds_of_mem_run` — the rules for what the labels of a run leave behind.
* `exists_step_of_change` — what has come to hold in a run came to hold in one of its steps.
* `Leads M l P s` — the step `l`, taken again and again from `s`, reaches a state with `P`.
* `Refines.reachable` — a machine whose every step is a step, or no step, of another machine
  visits only states of the other.
* `run_filter` and `view_eq_of_filter_eq` — a part of the state that only the labels of one owner
  can move depends on that owner's labels alone.
-/

set_option autoImplicit false

/-- A labelled machine with a partial, deterministic step function. -/
structure Machine (S L : Type*) where
  /-- The initial state. -/
  init : S
  /-- The state after a step, or `none` when the step is not possible. -/
  step : S → L → Option S

namespace Machine

variable {S L : Type*}

/-! ## Runs -/

/-- The state in which the schedule `ls` ends when it starts in `s`; `none` when one of its steps
is not possible. -/
def runFrom (M : Machine S L) (s : S) : List L → Option S
  | [] => some s
  | l :: ls => (M.step s l).bind fun t ↦ M.runFrom t ls

/-- The state in which a schedule ends. -/
def run (M : Machine S L) (ls : List L) : Option S := M.runFrom M.init ls

/-- A state that some schedule ends in. -/
def Reachable (M : Machine S L) (s : S) : Prop := ∃ ls, M.run ls = some s

/-- Every step of `ls` that is taken from `s` satisfies `C`. -/
def Meets (M : Machine S L) (C : S → L → Prop) (s : S) : List L → Prop
  | [] => True
  | l :: ls => ∀ t, M.step s l = some t → C s l ∧ M.Meets C t ls

/-- Every state that `ls` visits from `s` satisfies `P`, the first one included. -/
def Along (M : Machine S L) (P : S → Prop) (s : S) : List L → Prop
  | [] => P s
  | l :: ls => P s ∧ ∀ t, M.step s l = some t → M.Along P t ls

variable {M : Machine S L} {C D : S → L → Prop} {P Q I : S → Prop}

@[simp] theorem runFrom_nil (s : S) : M.runFrom s [] = some s := rfl

theorem runFrom_cons (s : S) (l : L) (ls : List L) :
    M.runFrom s (l :: ls) = (M.step s l).bind fun t ↦ M.runFrom t ls := rfl

theorem runFrom_cons_eq_some {s u : S} {l : L} {ls : List L} :
    M.runFrom s (l :: ls) = some u ↔ ∃ t, M.step s l = some t ∧ M.runFrom t ls = some u := by
  rw [runFrom_cons, Option.bind_eq_some_iff]

theorem runFrom_append (s : S) (ls ms : List L) :
    M.runFrom s (ls ++ ms) = (M.runFrom s ls).bind fun t ↦ M.runFrom t ms := by
  induction ls generalizing s with
  | nil => rfl
  | cons l ls ih =>
    rw [List.cons_append, runFrom_cons, runFrom_cons]
    cases M.step s l with
    | none => rfl
    | some t => exact ih t

/-- Two schedules in sequence. -/
theorem runFrom_append_of {s t u : S} {ls ms : List L} (hl : M.runFrom s ls = some t)
    (hm : M.runFrom t ms = some u) : M.runFrom s (ls ++ ms) = some u := by
  rw [runFrom_append, hl]
  exact hm

theorem runFrom_singleton (s : S) (l : L) : M.runFrom s [l] = M.step s l := by
  rw [runFrom_cons]
  cases M.step s l <;> rfl

/-! ## The steps and the states of a run -/

theorem meets_cons_of_step {s t : S} {l : L} {ls : List L} (h : M.step s l = some t) :
    M.Meets C s (l :: ls) ↔ C s l ∧ M.Meets C t ls := by
  constructor
  · intro hm
    exact hm t h
  · rintro ⟨hc, hls⟩ t' h'
    rw [h, Option.some_inj] at h'
    subst h'
    exact ⟨hc, hls⟩

theorem Meets.mono (hCD : ∀ s l, C s l → D s l) {s : S} {ls : List L} (h : M.Meets C s ls) :
    M.Meets D s ls := by
  induction ls generalizing s with
  | nil => trivial
  | cons l ls ih =>
    intro t ht
    obtain ⟨hc, hls⟩ := h t ht
    exact ⟨hCD s l hc, ih hls⟩

/-- A condition on the labels alone. -/
theorem meets_of_forall {A : L → Prop} {s : S} {ls : List L} (h : ∀ l ∈ ls, A l) :
    M.Meets (fun _ l ↦ A l) s ls := by
  induction ls generalizing s with
  | nil => trivial
  | cons l ls ih =>
    intro t _
    exact ⟨h l List.mem_cons_self, ih fun l' hl' ↦ h l' (List.mem_cons_of_mem l hl')⟩

theorem meets_congr (hCD : ∀ s l, C s l ↔ D s l) {s : S} {ls : List L} :
    M.Meets C s ls ↔ M.Meets D s ls :=
  ⟨Meets.mono fun s l ↦ (hCD s l).mp, Meets.mono fun s l ↦ (hCD s l).mpr⟩

/-- The first part of a run meets what the run meets. -/
theorem Meets.append_left {s : S} {ls ms : List L} (h : M.Meets C s (ls ++ ms)) :
    M.Meets C s ls := by
  induction ls generalizing s with
  | nil => trivial
  | cons l ls ih => exact fun t ht ↦ ⟨(h t ht).1, ih (h t ht).2⟩

/-- A run that meets the condition can be cut anywhere. -/
theorem Meets.append_right {s t : S} {ls ms : List L} (h : M.Meets C s (ls ++ ms))
    (hl : M.runFrom s ls = some t) : M.Meets C t ms := by
  induction ls generalizing s with
  | nil =>
    rw [runFrom_nil, Option.some_inj] at hl
    subst hl
    exact h
  | cons l ls ih =>
    obtain ⟨u, hu, hl'⟩ := runFrom_cons_eq_some.mp hl
    exact ih (h u hu).2 hl'

/-- What a run meets, its steps meet one by one. -/
theorem meets_iff_forall_step {s : S} {ls : List L} :
    M.Meets C s ls ↔ ∀ ls₁ l ls₂ t u, ls = ls₁ ++ l :: ls₂ → M.runFrom s ls₁ = some t →
      M.step t l = some u → C t l := by
  constructor
  · rintro h ls₁ l ls₂ t u rfl hls hl
    exact ((h.append_right hls) u hl).1
  · induction ls generalizing s with
    | nil => exact fun _ ↦ trivial
    | cons l ls ih =>
      intro h t ht
      refine ⟨h [] l ls s t rfl rfl ht, ih fun ls₁ l' ls₂ u v he hu hv ↦ ?_⟩
      exact h (l :: ls₁) l' ls₂ u v (he ▸ rfl) (runFrom_cons_eq_some.mpr ⟨t, ht, hu⟩) hv

theorem meets_and {s : S} {ls : List L} :
    M.Meets (fun s l ↦ C s l ∧ D s l) s ls ↔ M.Meets C s ls ∧ M.Meets D s ls := by
  constructor
  · intro h
    exact ⟨h.mono fun _ _ hc ↦ hc.1, h.mono fun _ _ hc ↦ hc.2⟩
  · rintro ⟨hC, hD⟩
    rw [meets_iff_forall_step] at hC hD ⊢
    intro ls₁ l ls₂ t u he ht hu
    exact ⟨hC ls₁ l ls₂ t u he ht hu, hD ls₁ l ls₂ t u he ht hu⟩

/-- A run whose last step fails the condition. -/
theorem not_meets_concat {s t u : S} {ls : List L} {l : L} (hls : M.runFrom s ls = some t)
    (hl : M.step t l = some u) (hc : ¬ C t l) : ¬ M.Meets C s (ls ++ [l]) := by
  intro hm
  exact hc ((hm.append_right hls) u hl).1

theorem Along.head {s : S} {ls : List L} (h : M.Along P s ls) : P s := by
  cases ls with
  | nil => exact h
  | cons l ls => exact h.1

theorem Along.last {s t : S} {ls : List L} (h : M.Along P s ls) (hr : M.runFrom s ls = some t) :
    P t := by
  induction ls generalizing s with
  | nil =>
    rw [runFrom_nil, Option.some_inj] at hr
    exact hr ▸ h
  | cons l ls ih =>
    obtain ⟨u, hu, hr'⟩ := runFrom_cons_eq_some.mp hr
    exact ih (h.2 u hu) hr'

theorem Along.mono (hPQ : ∀ s, P s → Q s) {s : S} {ls : List L} (h : M.Along P s ls) :
    M.Along Q s ls := by
  induction ls generalizing s with
  | nil => exact hPQ s h
  | cons l ls ih => exact ⟨hPQ s h.1, fun t ht ↦ ih (h.2 t ht)⟩

/-! ## Invariants -/

/-- **The invariant rule.**  What holds initially and is kept by every step holds in every
reachable state. -/
theorem Reachable.invariant (h0 : I M.init) (hstep : ∀ s l t, I s → M.step s l = some t → I t)
    {s : S} (hs : M.Reachable s) : I s := by
  obtain ⟨ls, hls⟩ := hs
  have key : ∀ (ls : List L) (s u : S), I s → M.runFrom s ls = some u → I u := by
    intro ls
    induction ls with
    | nil =>
      intro s u hs hu
      rw [runFrom_nil, Option.some_inj] at hu
      exact hu ▸ hs
    | cons l ls ih =>
      intro s u hs hu
      obtain ⟨t, ht, hu'⟩ := runFrom_cons_eq_some.mp hu
      exact ih t u (hstep s l t hs ht) hu'
  exact key ls M.init s h0 hls

theorem Reachable.init : M.Reachable M.init := ⟨[], rfl⟩

theorem Reachable.step {s t : S} {l : L} (hs : M.Reachable s) (h : M.step s l = some t) :
    M.Reachable t := by
  obtain ⟨ls, hls⟩ := hs
  exact ⟨ls ++ [l], runFrom_append_of hls (by rw [runFrom_singleton, h])⟩

/-- **The invariant rule under a condition.**  An invariant that is kept by the steps meeting `C`
holds in every state of a run whose steps all meet `C`. -/
theorem along_of_meets (hstep : ∀ s l t, I s → C s l → M.step s l = some t → I t) {s : S}
    (hs : I s) {ls : List L} (h : M.Meets C s ls) : M.Along I s ls := by
  induction ls generalizing s with
  | nil => exact hs
  | cons l ls ih =>
    refine ⟨hs, fun t ht ↦ ?_⟩
    obtain ⟨hc, hls⟩ := h t ht
    exact ih (hstep s l t hs hc ht) hls

/-- An invariant of every step holds in every state of every run. -/
theorem along_of_invariant (hstep : ∀ s l t, I s → M.step s l = some t → I t) {s : S}
    (hs : I s) (ls : List L) : M.Along I s ls :=
  along_of_meets (C := fun _ _ ↦ True) (fun s l t hs _ ↦ hstep s l t hs) hs
    (meets_of_forall fun _ _ ↦ trivial)

/-- Along a run that meets `C`, every step has whatever the invariant and `C` together give it. -/
theorem meets_of_meets (hstep : ∀ s l t, I s → C s l → M.step s l = some t → I t)
    (hD : ∀ s l t, I s → C s l → M.step s l = some t → D s l) {s : S} (hs : I s) {ls : List L}
    (h : M.Meets C s ls) : M.Meets D s ls := by
  induction ls generalizing s with
  | nil => trivial
  | cons l ls ih =>
    intro t ht
    obtain ⟨hc, hls⟩ := h t ht
    exact ⟨hD s l t hs hc ht, ih (hstep s l t hs hc ht) hls⟩

/-- **Exact conditions.**  Let `I` be kept by the steps that meet `C` and imply `P`, and let a step
that fails `C` lead to a state without `P`.  Then the states of a run all have `P` if and only if
its steps all meet `C`.  Steps that fail `A` are left out of account. -/
theorem along_iff_meets_of {A : S → L → Prop}
    (hstep : ∀ s l t, I s → A s l → C s l → M.step s l = some t → I t) (hgood : ∀ s, I s → P s)
    (hbad : ∀ s l t, I s → A s l → ¬ C s l → M.step s l = some t → ¬ P t) {s : S} (hs : I s)
    {ls : List L} (hA : M.Meets A s ls) : M.Along P s ls ↔ M.Meets C s ls := by
  induction ls generalizing s with
  | nil => exact ⟨fun _ ↦ trivial, fun _ ↦ hgood s hs⟩
  | cons l ls ih =>
    constructor
    · intro h t ht
      have hc : C s l := by
        by_contra hc
        exact hbad s l t hs (hA t ht).1 hc ht (h.2 t ht).head
      exact ⟨hc, (ih (hstep s l t hs (hA t ht).1 hc ht) (hA t ht).2).mp (h.2 t ht)⟩
    · intro h
      refine ⟨hgood s hs, fun t ht ↦ ?_⟩
      obtain ⟨hc, hrest⟩ := h t ht
      exact (ih (hstep s l t hs (hA t ht).1 hc ht) (hA t ht).2).mpr hrest

/-- `along_iff_meets_of` for all labels. -/
theorem along_iff_meets (hstep : ∀ s l t, I s → C s l → M.step s l = some t → I t)
    (hgood : ∀ s, I s → P s)
    (hbad : ∀ s l t, I s → ¬ C s l → M.step s l = some t → ¬ P t) {s : S} (hs : I s)
    (ls : List L) : M.Along P s ls ↔ M.Meets C s ls :=
  along_iff_meets_of (A := fun _ _ ↦ True) (fun s l t hs _ ↦ hstep s l t hs) hgood
    (fun s l t hs _ ↦ hbad s l t hs) hs (meets_of_forall fun _ _ ↦ trivial)

/-- Under an invariant, predicates that agree are found along the same runs. -/
theorem along_congr (hstep : ∀ s l t, I s → M.step s l = some t → I t)
    (hPQ : ∀ s, I s → (P s ↔ Q s)) {s : S} (hs : I s) (ls : List L) :
    M.Along P s ls ↔ M.Along Q s ls := by
  induction ls generalizing s with
  | nil => exact hPQ s hs
  | cons l ls ih =>
    exact and_congr (hPQ s hs)
      (forall_congr' fun t ↦ forall_congr' fun ht ↦ ih (hstep s l t hs ht))

/-! ## Counting steps, and finding one -/

/-- The number of steps that `ls` takes from `s` with a property of the state before, the label and
the state after. -/
def countSteps (M : Machine S L) (p : S → L → S → Bool) (s : S) : List L → Nat
  | [] => 0
  | l :: ls =>
    match M.step s l with
    | some t => (p s l t).toNat + M.countSteps p t ls
    | none => 0

theorem countSteps_cons_of_step {p : S → L → S → Bool} {s t : S} {l : L} {ls : List L}
    (h : M.step s l = some t) :
    M.countSteps p s (l :: ls) = (p s l t).toNat + M.countSteps p t ls := by
  rw [countSteps, h]

/-- **The potential rule.**  A quantity that the counted steps raise by one and all others leave
alone has grown by their number at the end of a run. -/
theorem potential_of_run {p : S → L → S → Bool} {f : S → Nat}
    (hstep : ∀ s l t, I s → M.step s l = some t → I t)
    (hf : ∀ s l t, I s → M.step s l = some t → f t = f s + (p s l t).toNat) {s u : S} (hs : I s)
    {ls : List L} (hr : M.runFrom s ls = some u) : f u = f s + M.countSteps p s ls := by
  induction ls generalizing s with
  | nil =>
    rw [runFrom_nil, Option.some_inj] at hr
    rw [hr]
    rfl
  | cons l ls ih =>
    obtain ⟨t, ht, hr'⟩ := runFrom_cons_eq_some.mp hr
    rw [ih (hstep s l t hs ht) hr', hf s l t hs ht, countSteps_cons_of_step ht, Nat.add_assoc]

/-- **The trace rule.**  A list to which every step appends what its label leaves behind ends up
with what the labels of a run leave behind, in order. -/
theorem trace_of_run {α : Type*} {f : S → List α} {g : L → List α}
    (hstep : ∀ s l t, I s → M.step s l = some t → I t)
    (hf : ∀ s l t, I s → M.step s l = some t → f t = f s ++ g l) {s u : S} (hs : I s)
    {ls : List L} (hr : M.runFrom s ls = some u) : f u = f s ++ ls.flatMap g := by
  induction ls generalizing s with
  | nil =>
    rw [runFrom_nil, Option.some_inj] at hr
    rw [hr, List.flatMap_nil, List.append_nil]
  | cons l ls ih =>
    obtain ⟨t, ht, hr'⟩ := runFrom_cons_eq_some.mp hr
    rw [ih (hstep s l t hs ht) hr', hf s l t hs ht, List.flatMap_cons, List.append_assoc]

/-- **The mark rule.**  What a step with this label brings about, and no step undoes, holds at the
end of every run that takes such a step. -/
theorem holds_of_mem_run {l : L} {s u : S}
    (hset : ∀ s t, I s → M.step s l = some t → P t)
    (hkeep : ∀ s l' t, I s → P s → M.step s l' = some t → P t)
    (hstep : ∀ s l' t, I s → M.step s l' = some t → I t) (hs : I s) {ls : List L} (hl : l ∈ ls)
    (hr : M.runFrom s ls = some u) : P u := by
  have key : ∀ (ls : List L) (s : S), I s → P s → M.runFrom s ls = some u → P u := by
    intro ls
    induction ls with
    | nil =>
      intro s _ hP hr
      rw [runFrom_nil, Option.some_inj] at hr
      exact hr ▸ hP
    | cons l' ls ih =>
      intro s hs hP hr
      obtain ⟨t, ht, hr'⟩ := runFrom_cons_eq_some.mp hr
      exact ih t (hstep s l' t hs ht) (hkeep s l' t hs hP ht) hr'
  induction ls generalizing s with
  | nil => cases hl
  | cons l' ls ih =>
    obtain ⟨t, ht, hr'⟩ := runFrom_cons_eq_some.mp hr
    rcases List.mem_cons.mp hl with rfl | hl
    · exact key ls t (hstep s l t hs ht) (hset s t hs ht) hr'
    · exact ih (hstep s l' t hs ht) hl hr'

/-- What does not hold at the start of a run and does at its end came to hold in one of its
steps. -/
theorem exists_step_of_change {s t : S} {ls : List L} (hr : M.runFrom s ls = some t) (hs : ¬ P s)
    (ht : P t) : ∃ ls₁ l ls₂ u v, ls = ls₁ ++ l :: ls₂ ∧ M.runFrom s ls₁ = some u ∧
      M.step u l = some v ∧ ¬ P u ∧ P v := by
  induction ls generalizing s with
  | nil =>
    rw [runFrom_nil, Option.some_inj] at hr
    exact absurd (hr ▸ ht) hs
  | cons l ls ih =>
    obtain ⟨u, hu, hr'⟩ := runFrom_cons_eq_some.mp hr
    by_cases hPu : P u
    · exact ⟨[], l, ls, s, u, rfl, rfl, hu, hs, hPu⟩
    · obtain ⟨ls₁, l', ls₂, v, w, rfl, hv, hw, hPv, hPw⟩ := ih hr' hPu
      exact ⟨l :: ls₁, l', ls₂, v, w, rfl, runFrom_cons_eq_some.mpr ⟨u, hu, hv⟩, hw, hPv, hPw⟩

/-! ## One step again and again -/

/-- Taking the step `l` again and again leads to a state with `P`. -/
inductive Leads (M : Machine S L) (l : L) (P : S → Prop) : S → Prop
  | here {s : S} (h : P s) : M.Leads l P s
  | step {s t : S} (h : M.step s l = some t) (ht : M.Leads l P t) : M.Leads l P s

theorem leads_iff_of_step {l : L} {s t : S} (hP : ¬ P s) (h : M.step s l = some t) :
    M.Leads l P s ↔ M.Leads l P t := by
  constructor
  · intro hs
    cases hs with
    | here hs => exact absurd hs hP
    | step h' ht =>
      rw [h, Option.some_inj] at h'
      exact h' ▸ ht
  · exact .step h

theorem leads_iff_of_stuck {l : L} {s : S} (h : M.step s l = none) : M.Leads l P s ↔ P s := by
  constructor
  · intro hs
    cases hs with
    | here hs => exact hs
    | step h' _ =>
      rw [h] at h'
      cases h'
  · exact .here

/-! ## Refinement -/

variable {S' L' : Type*} {A : Machine S' L'}

/-- Under `f`, every step of `M` is a step of `A` or leaves `A`'s state alone. -/
structure Refines (M : Machine S L) (A : Machine S' L') (f : S → S') : Prop where
  /-- The initial states correspond. -/
  init : f M.init = A.init
  /-- A step is matched by one step or by none. -/
  step : ∀ s l t, M.step s l = some t → f t = f s ∨ ∃ l', A.step (f s) l' = some (f t)

/-- **Refinement carries reachability**, hence every invariant of the abstract machine. -/
theorem Refines.reachable {f : S → S'} (h : M.Refines A f) {s : S} (hs : M.Reachable s) :
    A.Reachable (f s) := by
  refine Reachable.invariant (I := fun s ↦ A.Reachable (f s)) ?_ ?_ hs
  · rw [h.init]
    exact Reachable.init
  · intro s l t hA ht
    rcases h.step s l t ht with he | ⟨l', hl'⟩
    · rw [he]
      exact hA
    · exact hA.step hl'

/-! ## What one owner's labels decide

`own` marks the labels of one owner and `view` is a part of the state.  If an owned step moves the
view the way a machine `V` of its own would, and every other step leaves it alone, then the view at
the end of a run is the end of `V`'s run over the owned labels. -/

variable {W : Type*} {V : Machine W L} {own : L → Bool} {view : S → W}

/-- **A run, seen through one owner's part of the state**, is that owner's own run. -/
theorem run_filter (hstep : ∀ s l t, I s → M.step s l = some t → I t)
    (hown : ∀ s l t, I s → M.step s l = some t → own l = true →
      V.step (view s) l = some (view t))
    (hother : ∀ s l t, I s → M.step s l = some t → own l = false → view t = view s)
    {s u : S} (hs : I s) {ls : List L} (hr : M.runFrom s ls = some u) :
    V.runFrom (view s) (ls.filter own) = some (view u) := by
  induction ls generalizing s with
  | nil =>
    rw [runFrom_nil, Option.some_inj] at hr
    rw [List.filter_nil, runFrom_nil, hr]
  | cons l ls ih =>
    obtain ⟨t, ht, hr'⟩ := runFrom_cons_eq_some.mp hr
    have hrest := ih (hstep s l t hs ht) hr'
    cases hl : own l with
    | true =>
      rw [List.filter_cons_of_pos hl, runFrom_cons, hown s l t hs ht hl]
      exact hrest
    | false =>
      rw [List.filter_cons_of_neg (by simp [hl]), ← hother s l t hs ht hl]
      exact hrest

/-- **Noninterference.**  Two runs with the same owned labels end with the same view. -/
theorem view_eq_of_filter_eq (hstep : ∀ s l t, I s → M.step s l = some t → I t)
    (hown : ∀ s l t, I s → M.step s l = some t → own l = true →
      V.step (view s) l = some (view t))
    (hother : ∀ s l t, I s → M.step s l = some t → own l = false → view t = view s)
    (h0 : I M.init) {ls ms : List L} {s t : S} (hls : M.run ls = some s)
    (hms : M.run ms = some t) (hf : ls.filter own = ms.filter own) : view s = view t := by
  have h1 := run_filter hstep hown hother h0 hls
  have h2 := run_filter hstep hown hother h0 hms
  rw [hf, h2, Option.some_inj] at h1
  exact h1.symm

end Machine
