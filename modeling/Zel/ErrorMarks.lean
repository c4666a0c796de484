import Mathlib.Data.List.Induction
import Zel.ErrorClassification

/-!
# Marks on errors

`ErrorClassificationExt` lets a callback say how severe its error is, and errors are wrapped on
their way up: `.context(..)` adds a text, the four `as_*` methods mark.  `as_system_failure` wraps
the error in a marker and `as_infrastructure` makes an I/O error of it, and either is what the
default classifier finds from then on.  `as_application` and `as_application_error` hand the error
back as it is, so they do not take away what an earlier mark or the error itself says.

## What is here

* `Wrapping`, `wrapAll` — the wrappings, and any number of them.
* `lastMark_decides_iff` — **when the last mark decides.**
-/

set_option autoImplicit false

namespace Zel

/-- What an error can be wrapped in. -/
inductive Wrapping where
  /-- `.context(message)` -/
  | context (message : String)
  | asSystemFailure
  | asInfrastructure
  | asApplication
  | asApplicationError
  deriving DecidableEq

namespace Wrapping

/-- The wrapped error. -/
def apply : Wrapping → AnyhowError → AnyhowError
  | .context message, e => e.context message
  | .asSystemFailure, e => e.asSystemFailure
  | .asInfrastructure, e => e.asInfrastructure
  | .asApplication, e => e.asApplication
  | .asApplicationError, e => e.asApplicationError

/-- The severity that a mark asks for. -/
def mark : Wrapping → Option ErrorSeverity
  | .context _ => none
  | .asSystemFailure => some .systemFailure
  | .asInfrastructure => some .infrastructure
  | .asApplication | .asApplicationError => some .application

/-- The severities that a mark sets, whatever the error was. -/
def sets : Wrapping → Option ErrorSeverity
  | .asSystemFailure => some .systemFailure
  | .asInfrastructure => some .infrastructure
  | .context _ | .asApplication | .asApplicationError => none

end Wrapping

/-- The error is wrapped, from the first wrapping to the last. -/
def wrapAll (e : AnyhowError) (ws : List Wrapping) : AnyhowError :=
  ws.foldl (fun e w ↦ w.apply e) e

/-- The marks, in order. -/
def marks (ws : List Wrapping) : List ErrorSeverity := ws.filterMap Wrapping.mark

/-- The last mark decides, and the error itself if there is none. -/
def LastMarkDecides (e : AnyhowError) (ws : List Wrapping) : Prop :=
  ErrorClassifier.default.classify (wrapAll e ws) =
    (marks ws).getLast?.getD (ErrorClassifier.default.classify e)

/-- If the last mark is one of an application error, there is nothing it would have to undo: no
other kind of mark, and no severity of the error's own. -/
def NothingToUndo (e : AnyhowError) (ws : List Wrapping) : Prop :=
  (marks ws).getLast? = some .application →
    (∀ m ∈ marks ws, m = .application) ∧ ErrorClassifier.default.classify e = .application

namespace ErrorClassifier

/-- A context is looked through, and is no infrastructure error. -/
theorem classify_context (e : AnyhowError) (message : String) :
    default.classify (e.context message) = default.classify e := rfl

/-- **What one wrapping does**: it sets a severity, or leaves it alone. -/
theorem classify_apply (w : Wrapping) (e : AnyhowError) :
    default.classify (w.apply e) = w.sets.getD (default.classify e) := by
  cases w with
  | context message => exact classify_context e message
  | asSystemFailure => rfl
  | asInfrastructure => rfl
  | asApplication => rfl
  | asApplicationError => rfl

end ErrorClassifier

theorem wrapAll_concat (e : AnyhowError) (ws : List Wrapping) (w : Wrapping) :
    wrapAll e (ws ++ [w]) = w.apply (wrapAll e ws) := List.foldl_append ..

theorem marks_concat (ws : List Wrapping) (w : Wrapping) :
    marks (ws ++ [w]) = marks ws ++ w.mark.toList := by
  rw [marks, List.filterMap_append]
  cases h : w.mark <;> simp [marks, h]

/-- **An error is an application error** if it is one below all wrappings and nothing else was ever
asked for. -/
theorem classify_eq_application_iff (e : AnyhowError) (ws : List Wrapping) :
    ErrorClassifier.default.classify (wrapAll e ws) = .application ↔
      (∀ m ∈ marks ws, m = .application) ∧
        ErrorClassifier.default.classify e = .application := by
  induction ws using List.reverseRecOn with
  | nil => simp [wrapAll, marks]
  | append_singleton ws w ih =>
    rw [wrapAll_concat, ErrorClassifier.classify_apply, marks_concat]
    cases w with
    | context | asApplication | asApplicationError =>
      simpa [Wrapping.sets, Wrapping.mark, or_imp, forall_and] using ih
    | asSystemFailure | asInfrastructure =>
      simp [Wrapping.sets, Wrapping.mark, or_imp, forall_and]

/-- A last mark of another kind decides, and so does the error if there is no mark. -/
theorem lastMarkDecides_or (e : AnyhowError) (ws : List Wrapping) :
    LastMarkDecides e ws ∨ (marks ws).getLast? = some .application := by
  induction ws using List.reverseRecOn with
  | nil => exact Or.inl rfl
  | append_singleton ws w ih =>
    rw [LastMarkDecides, wrapAll_concat, ErrorClassifier.classify_apply, marks_concat]
    cases w with
    | context => simpa [Wrapping.sets, Wrapping.mark, LastMarkDecides] using ih
    | asSystemFailure | asInfrastructure =>
      exact Or.inl (by simp [Wrapping.sets, Wrapping.mark])
    | asApplication | asApplicationError => exact Or.inr (by simp [Wrapping.mark])

/-- **When the last mark decides.**  The default classifier goes by the last mark of a wrapped
error, and by the error itself if it is not marked, if and only if a last mark as an application
error has nothing to undo. -/
theorem lastMark_decides_iff (e : AnyhowError) (ws : List Wrapping) :
    LastMarkDecides e ws ↔ NothingToUndo e ws := by
  by_cases hlast : (marks ws).getLast? = some .application
  · -- the mark asks for what only an untouched application error is
    rw [LastMarkDecides, hlast, Option.getD_some, classify_eq_application_iff]
    exact ⟨fun h _ ↦ h, fun h ↦ h hlast⟩
  · have hdecides : LastMarkDecides e ws := (lastMarkDecides_or e ws).resolve_right hlast
    exact ⟨fun _ h ↦ absurd h hlast, fun _ ↦ hdecides⟩

/-- An I/O error as it comes from the standard library. -/
def connectionReset : AnyhowError := ⟨⟨.io, false, "connection reset"⟩, []⟩

/-- **A mark as an application error can be without effect.** -/
theorem application_mark_ignored :
    ErrorClassifier.default.classify (wrapAll connectionReset [.asApplicationError]) =
        .infrastructure ∧
      ¬ LastMarkDecides connectionReset [.asApplicationError] := by
  refine ⟨rfl, fun h ↦ ?_⟩
  cases h

end Zel
