import Mathlib.Data.List.Nodup

/-!
# Straight-line code with shadowing

A block of `let` statements, as a code generator writes it: each statement applies an operation to
some variables and binds the result, or takes a tuple apart.  A later binding of a name hides the
earlier ones.  What a block computes is kept as a term, so that two variables are told apart by what
was bound to them, and not by what that is at some moment.

## What is here

* `Value`, `Env`, `Stmt`, `run` — terms, environments, statements and blocks.
* `read_eq_some_iff` — several variables at once.
* `read_setAll_self`, `setAll_of_notMem` — what taking a tuple apart binds, and leaves alone.
* `read_iff_of_hidden` — **shadowing**: new bindings change what is read exactly if one of their
  names is read.
-/

set_option autoImplicit false

namespace Lets

variable {Op : Type}

/-- What a variable is bound to. -/
inductive Value (Op : Type) where
  | apply (f : Op) (args : List (Value Op))
  /-- A component of a tuple. -/
  | component (tuple : Value Op) (i : Nat)

/-- The variables in scope. -/
abbrev Env (Op : Type) := String → Option (Value Op)

namespace Env

/-- No variable is in scope. -/
def empty : Env Op := fun _ ↦ none

def set (env : Env Op) (x : String) (v : Value Op) : Env Op :=
  fun y ↦ if y = x then some v else env y

/-- The components of a tuple, from the `i`-th on. -/
def setAll (env : Env Op) (v : Value Op) (i : Nat) : List String → Env Op
  | [] => env
  | x :: xs => (env.set x (.component v i)).setAll v (i + 1) xs

/-- The values of several variables. -/
def read (env : Env Op) : List String → Option (List (Value Op))
  | [] => some []
  | x :: xs => (env x).bind fun v ↦ (env.read xs).map (v :: ·)

variable {env env' : Env Op} {x y : String} {xs : List String} {v w : Value Op}
  {vs : List (Value Op)}

@[simp] theorem set_self : env.set x v x = some v := if_pos rfl

theorem set_of_ne (h : y ≠ x) : env.set x v y = env y := if_neg h

theorem read_eq_some_iff : env.read xs = some vs ↔ xs.map env = vs.map some := by
  induction xs generalizing vs with
  | nil => cases vs <;> simp [read]
  | cons x xs ih =>
    rw [read, Option.bind_eq_some_iff, List.map_cons]
    constructor
    · rintro ⟨v, hv, hvs⟩
      obtain ⟨us, hus, rfl⟩ := Option.map_eq_some_iff.mp hvs
      rw [List.map_cons, hv, ih.mp hus]
    · intro h
      obtain ⟨v, us, rfl, hv, hus⟩ := List.map_eq_cons_iff.mp h.symm
      exact ⟨v, hv.symm, by rw [ih.mpr hus.symm]; rfl⟩

theorem read_congr (h : ∀ x ∈ xs, env x = env' x) : env.read xs = env'.read xs := by
  induction xs with
  | nil => rfl
  | cons x xs ih =>
    rw [read, read, h x List.mem_cons_self, ih fun y hy ↦ h y (List.mem_cons_of_mem x hy)]

theorem read_cons_eq_some_iff :
    env.read (x :: xs) = some (v :: vs) ↔ env x = some v ∧ env.read xs = some vs := by
  rw [read_eq_some_iff, read_eq_some_iff, List.map_cons, List.map_cons, List.cons_eq_cons]

theorem read_append_eq_some_iff {ys : List String} {ws : List (Value Op)}
    (hlen : xs.length = vs.length) :
    env.read (xs ++ ys) = some (vs ++ ws) ↔ env.read xs = some vs ∧ env.read ys = some ws := by
  simp only [read_eq_some_iff, List.map_append]
  refine ⟨fun h ↦ List.append_inj h (by simpa using hlen), ?_⟩
  rintro ⟨hxs, hys⟩
  rw [hxs, hys]

/-- A variable that is read has one of the values. -/
theorem exists_of_read (h : env.read xs = some vs) (hx : x ∈ xs) : ∃ v ∈ vs, env x = some v := by
  have hmem : env x ∈ vs.map some := read_eq_some_iff.mp h ▸ List.mem_map_of_mem hx
  obtain ⟨v, hv, he⟩ := List.mem_map.mp hmem
  exact ⟨v, hv, he.symm⟩

/-- **Shadowing.**  Where some names are bound anew, to something else, the same is read exactly if
none of them is read. -/
theorem read_iff_of_hidden {hidden : List String} (h : env.read xs = some vs)
    (hsame : ∀ y ∉ hidden, env' y = env y) (hnew : ∀ y ∈ hidden, ∀ v ∈ vs, env' y ≠ some v) :
    env'.read xs = some vs ↔ ∀ x ∈ xs, x ∉ hidden := by
  constructor
  · intro h' x hx hhidden
    obtain ⟨v, hv, he⟩ := exists_of_read h' hx
    exact hnew x hhidden v hv he
  · intro hx
    rw [← h]
    exact read_congr fun x hxs ↦ hsame x (hx x hxs)

theorem setAll_of_notMem {i : Nat} (h : y ∉ xs) : env.setAll v i xs y = env y := by
  induction xs generalizing env i with
  | nil => rfl
  | cons x xs ih =>
    rw [setAll, ih (List.not_mem_of_not_mem_cons h),
      set_of_ne (List.ne_of_not_mem_cons h)]

/-- A tuple is taken apart into its components. -/
theorem read_setAll_self {i : Nat} (h : xs.Nodup) :
    (env.setAll v i xs).read xs = some ((List.range' i xs.length).map (.component v)) := by
  induction xs generalizing env i with
  | nil => rfl
  | cons x xs ih =>
    obtain ⟨hx, hxs⟩ := List.nodup_cons.mp h
    rw [List.length_cons, List.range'_succ, List.map_cons, read_cons_eq_some_iff, setAll]
    exact ⟨(setAll_of_notMem hx).trans set_self, ih hxs⟩

end Env

/-! ## Blocks -/

/-- A statement. -/
inductive Stmt (Op : Type) where
  /-- `let x = f(args);` -/
  | bind (x : String) (f : Op) (args : List String)
  /-- `let (xs) = tuple;` -/
  | destructure (xs : List String) (tuple : String)

/-- `none` if a variable is not in scope. -/
def Stmt.run (env : Env Op) : Stmt Op → Option (Env Op)
  | .bind x f args => (env.read args).map fun vs ↦ env.set x (.apply f vs)
  | .destructure xs tuple => (env tuple).map fun v ↦ env.setAll v 0 xs

/-- A block is run from its first statement on. -/
def run (env : Env Op) : List (Stmt Op) → Option (Env Op)
  | [] => some env
  | s :: ss => (s.run env).bind fun env ↦ run env ss

theorem run_bind {env : Env Op} {x : String} {f : Op} {args : List String}
    {vs : List (Value Op)} (h : env.read args = some vs) (ss : List (Stmt Op)) :
    run env (.bind x f args :: ss) = run (env.set x (.apply f vs)) ss := by
  rw [run, Stmt.run, h]
  rfl

theorem run_destructure {env : Env Op} {xs : List String} {tuple : String} {v : Value Op}
    (h : env tuple = some v) (ss : List (Stmt Op)) :
    run env (.destructure xs tuple :: ss) = run (env.setAll v 0 xs) ss := by
  rw [run, Stmt.run, h]
  rfl

end Lets
