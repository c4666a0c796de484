import Zel.Lib.Machine

/-!
# What the steps of a run put out

A step may make something visible that the state does not keep: a message is sent, a callback is
called.  `outputs` collects these things along a run, and `history_of_meets` is the invariant rule
for statements about the state together with everything that was put out before it.

`exists_output_of_change` finds the step that put something out, and `runFrom_outputs` and
`outputs_outputs` relate a machine to one that runs inside it.

A statement about one party of a machine speaks of what *its* steps put out, so `out` is a function
of the state and the label, and gives nothing for the steps of the others.
-/

set_option autoImplicit false

namespace Machine

variable {S L E : Type*}

/-- What the steps of a schedule put out, in order. -/
def outputs (M : Machine S L) (out : S → L → List E) (s : S) : List L → List E
  | [] => []
  | l :: ls =>
    match M.step s l with
    | some t => out s l ++ M.outputs out t ls
    | none => []

variable {M : Machine S L} {out : S → L → List E}

@[simp] theorem outputs_nil (s : S) : M.outputs out s [] = [] := rfl

theorem outputs_cons_of_step {s t : S} {l : L} {ls : List L} (h : M.step s l = some t) :
    M.outputs out s (l :: ls) = out s l ++ M.outputs out t ls := by
  rw [outputs, h]

/-- **The history rule.**  Let a relation between a history and a state be kept when a step that
meets `C` appends what it puts out.  Then it holds between the history and the end of every run that
meets `C`. -/
theorem history_of_meets {R : List E → S → Prop} {C : S → L → Prop}
    (hstep : ∀ h s l t, R h s → C s l → M.step s l = some t → R (h ++ out s l) t) {h : List E}
    {s u : S} (hs : R h s) {ls : List L} (hC : M.Meets C s ls) (hr : M.runFrom s ls = some u) :
    R (h ++ M.outputs out s ls) u := by
  induction ls generalizing h s with
  | nil =>
    rw [runFrom_nil, Option.some_inj] at hr
    rw [outputs_nil, List.append_nil]
    exact hr ▸ hs
  | cons l ls ih =>
    obtain ⟨t, ht, hr'⟩ := runFrom_cons_eq_some.mp hr
    obtain ⟨hl, hrest⟩ := hC t ht
    rw [outputs_cons_of_step ht, ← List.append_assoc]
    exact ih (hstep h s l t hs hl ht) hrest hr'

/-- The history rule for all runs. -/
theorem history_of_run {R : List E → S → Prop}
    (hstep : ∀ h s l t, R h s → M.step s l = some t → R (h ++ out s l) t) {h : List E} {s u : S}
    (hs : R h s) {ls : List L} (hr : M.runFrom s ls = some u) : R (h ++ M.outputs out s ls) u :=
  history_of_meets (C := fun _ _ ↦ True) (fun h s l t hR _ ht ↦ hstep h s l t hR ht) hs
    (meets_of_forall fun _ _ ↦ trivial) hr

/-! ## Who put it out -/

theorem outputs_append {s t : S} {ls ms : List L} (hls : M.runFrom s ls = some t) :
    M.outputs out s (ls ++ ms) = M.outputs out s ls ++ M.outputs out t ms := by
  induction ls generalizing s with
  | nil =>
    rw [runFrom_nil, Option.some_inj] at hls
    rw [hls, List.nil_append, outputs_nil, List.nil_append]
  | cons l ls ih =>
    obtain ⟨u, hu, hls'⟩ := runFrom_cons_eq_some.mp hls
    rw [List.cons_append, outputs_cons_of_step hu, outputs_cons_of_step hu, ih hls',
      List.append_assoc]

/-- What a step puts out is there at the end. -/
theorem mem_outputs_of_step {s t u : S} {ls₁ ls₂ : List L} {l : L} {e : E}
    (hls : M.runFrom s ls₁ = some t) (hl : M.step t l = some u) (he : e ∈ out t l) :
    e ∈ M.outputs out s (ls₁ ++ l :: ls₂) := by
  rw [outputs_append hls, outputs_cons_of_step hl]
  exact List.mem_append_right _ (List.mem_append_left _ he)

/-- What has come to hold in a run was put out by one of its steps, if every step that makes it hold
puts it out. -/
theorem exists_output_of_change {P : S → Prop} {p : E → Prop}
    (hstep : ∀ s l t, ¬ P s → M.step s l = some t → P t → ∃ e ∈ out s l, p e) {s t : S}
    {ls : List L} (hr : M.runFrom s ls = some t) (hs : ¬ P s) (ht : P t) :
    ∃ e ∈ M.outputs out s ls, p e := by
  obtain ⟨ls₁, l, ls₂, u, v, rfl, hu, hv, hPu, hPv⟩ := exists_step_of_change hr hs ht
  obtain ⟨e, he, hp⟩ := hstep u l v hPu hv hPv
  exact ⟨e, mem_outputs_of_step hu hv he, hp⟩

/-! ## Runs inside runs -/

section Inner

variable {S' L' : Type*} {A : Machine S' L'} {f : S → S'} {labels : S → L → List L'}

/-- **A part of the state that is a machine of its own** runs through the labels that are put out
for it. -/
theorem runFrom_outputs (hstep : ∀ s l t, M.step s l = some t →
      A.runFrom (f s) (labels s l) = some (f t)) {s t : S} {ls : List L}
    (hr : M.runFrom s ls = some t) : A.runFrom (f s) (M.outputs labels s ls) = some (f t) := by
  induction ls generalizing s with
  | nil =>
    rw [runFrom_nil, Option.some_inj] at hr
    rw [outputs_nil, runFrom_nil, hr]
  | cons l ls ih =>
    obtain ⟨u, hu, hr'⟩ := runFrom_cons_eq_some.mp hr
    rw [outputs_cons_of_step hu]
    exact runFrom_append_of (hstep s l u hu) (ih hr')

/-- What the inner machine puts out is what the outer one puts out for it. -/
theorem outputs_outputs {inner : S' → L' → List E} (hstep : ∀ s l t, M.step s l = some t →
      A.runFrom (f s) (labels s l) = some (f t))
    (hout : ∀ s l t, M.step s l = some t → A.outputs inner (f s) (labels s l) = out s l) {s t : S}
    {ls : List L} (hr : M.runFrom s ls = some t) :
    A.outputs inner (f s) (M.outputs labels s ls) = M.outputs out s ls := by
  induction ls generalizing s with
  | nil => rfl
  | cons l ls ih =>
    obtain ⟨u, hu, hr'⟩ := runFrom_cons_eq_some.mp hr
    rw [outputs_cons_of_step hu, outputs_cons_of_step hu, outputs_append (hstep s l u hu),
      hout s l u hu, ih hr']

end Inner

end Machine
