import Mathlib.Algebra.Order.Ring.Unbundled.Rat

/-!
# Circuit breakers

A circuit breaker decides, before an operation runs, whether it may run, and is told afterwards how
it went.  `Ops B` is what a user of a breaker with states in `B` can do; most of what is said here
holds for all of them.  `standard` is one of them, the usual three-state breaker: a run of
consecutive failures or a high rate of failures opens it, it rejects until its cooldown is over,
lets a limited number of probes through, and a run of consecutive successes closes it again.

## What is here

* `Ops.call` — a whole call: admission, and the record of how the operation went if it ran.
* `Between` — calls made one after the other between two instants.
* `Ops.OpenBreakers` — what is to be expected of open circuits.
* `Ops.Same`, `Ops.NoTrace`, `Ops.same_iff_noTrace` — **calls that can be left out** of a sequence
  without a difference to the others are those whose breakers are alike before and after them.
* `Circuit`, `standard` — the standard breaker; without a rate, `mode_of_short_streak` and
  `mode_of_full_streak`.
-/

set_option autoImplicit false

namespace Breaker

/-- What a breaker reports about itself. -/
inductive Mode where
  | closed
  | opened
  | halfOpen
  deriving DecidableEq

/-- The operations on the breakers that one configuration builds.  Times are instants on one
clock. -/
structure Ops (B : Type*) where
  /-- A fresh breaker. -/
  build : B
  /-- Whether a call may run that asks at this time. -/
  allow : B → Nat → Bool × B
  /-- An admitted call is over at this time, successfully or not. -/
  record : B → Nat → Bool → B
  currentState : B → Nat → Mode

/-- A call that asks at `start` and, if it runs, is over at `done`. -/
structure Call where
  start : Nat
  done : Nat
  ok : Bool
  deriving DecidableEq

/-- Calls made one after the other between two instants. -/
def Between : Nat → List Call → Nat → Prop
  | t, [], t' => t ≤ t'
  | t, c :: cs, t' => t ≤ c.start ∧ c.start ≤ c.done ∧ Between c.done cs t'

theorem Between.weaken {t u t' : Nat} {cs : List Call} (h : Between t cs t') (hu : u ≤ t) :
    Between u cs t' := by
  cases cs with
  | nil => exact Nat.le_trans hu h
  | cons c cs => exact ⟨Nat.le_trans hu h.1, h.2⟩

/-- Some of the calls, at their times. -/
theorem between_replicate (t n : Nat) (ok : Bool) :
    Between t (List.replicate n ⟨t, t, ok⟩) t := by
  induction n with
  | zero => exact Nat.le_refl t
  | succ n ih => exact ⟨Nat.le_refl t, Nat.le_refl t, ih⟩

theorem Between.sublist {t t' : Nat} {cs ds : List Call} (h : Between t cs t')
    (hd : ds.Sublist cs) : Between t ds t' := by
  induction hd generalizing t with
  | slnil => exact h
  | cons c _ ih => exact (ih h.2.2).weaken (Nat.le_trans h.1 h.2.1)
  | cons_cons c _ ih => exact ⟨h.1, h.2.1, ih h.2.2⟩

section Ops

variable {B : Type*} (ops : Ops B)

/-- A whole call, with nothing else happening to the breaker in between. -/
def Ops.call (b : B) (c : Call) : Bool × B :=
  if (ops.allow b c.start).1 then (true, ops.record (ops.allow b c.start).2 c.done c.ok)
  else (false, (ops.allow b c.start).2)

/-- Calls one after the other: which of them were admitted, and the breaker afterwards. -/
def Ops.calls {B : Type*} (ops : Ops B) (b : B) : List Call → List Bool × B
  | [] => ([], b)
  | c :: cs =>
    ((ops.call b c).1 :: (ops.calls (ops.call b c).2 cs).1, (ops.calls (ops.call b c).2 cs).2)

/-- The same breakers, which also keep a list of all they are told about how calls went. -/
def Ops.recording : Ops (B × List Bool) where
  build := (ops.build, [])
  allow b now := ((ops.allow b.1 now).1, (ops.allow b.1 now).2, b.2)
  record b now ok := (ops.record b.1 now ok, b.2 ++ [ok])
  currentState b now := ops.currentState b.1 now

theorem Ops.calls_cons (b : B) (c : Call) (cs : List Call) :
    ops.calls b (c :: cs) = ((ops.call b c).1 :: (ops.calls (ops.call b c).2 cs).1,
      (ops.calls (ops.call b c).2 cs).2) := rfl

/-- What can be seen of a breaker while calls are made: which of them are admitted, and the state
it reports afterwards. -/
def Ops.observe (b : B) (cs : List Call) (now : Nat) : List Bool × Mode :=
  ((ops.calls b cs).1, ops.currentState (ops.calls b cs).2 now)

/-- A call that is rejected and leaves the breaker as it is. -/
theorem Ops.call_of_rejected {b : B} {c : Call} (h : ops.allow b c.start = (false, b)) :
    ops.call b c = (false, b) := by
  rw [call, h]
  rfl

/-! ## Open circuits -/

/-- What is to be expected of breakers whose circuit is open since some time: until the cooldown is
over they say so and reject what asks, and a call that was admitted before the circuit opened does
not end that, whatever its outcome, though the cooldown may begin anew. -/
structure Ops.OpenBreakers (cooldown : Nat) (openSince : B → Nat → Prop) : Prop where
  state {b : B} {since now : Nat} (h : openSince b since) (hnow : now < since + cooldown) :
    ops.currentState b now = .opened
  rejects {b : B} {since now : Nat} (h : openSince b since) (hnow : now < since + cooldown) :
    (ops.allow b now).1 = false
  asked {b : B} {since now : Nat} (h : openSince b since) (hnow : now < since + cooldown) :
    openSince (ops.allow b now).2 since
  late {b : B} {since : Nat} (h : openSince b since) (now : Nat) (ok : Bool) :
    ∃ since', since ≤ since' ∧ openSince (ops.record b now ok) since'

end Ops

/-! ## Calls that can be left out -/

section NoTrace

variable {B α : Type*} (ops : Ops B) (call : α → Call) (left : α → Bool)

/-- The calls of a sequence, each with the decision on it. -/
def Ops.verdicts (b : B) (cs : List α) : List (α × Bool) := cs.zip (ops.calls b (cs.map call)).1

/-- The breaker after a sequence. -/
def Ops.after (b : B) (cs : List α) : B := (ops.calls b (cs.map call)).2

/-- Leaving out some of the calls changes neither the decisions on the others nor the state that is
reported in the end. -/
structure Ops.Same (b : B) (cs : List α) (now : Nat) : Prop where
  decided : (ops.verdicts call b cs).filter (fun d ↦ !left d.1) =
    ops.verdicts call b (cs.filter fun c ↦ !left c)
  state : ops.currentState (ops.after call b cs) now =
    ops.currentState (ops.after call b (cs.filter fun c ↦ !left c)) now

/-- From this time on, no calls but those that are left out tell the two breakers apart. -/
def Ops.Alike (t : Nat) (b b' : B) : Prop :=
  ∀ (ms : List α) (now : Nat), (∀ m ∈ ms, left m = false) → Between t (ms.map call) now →
    ops.observe b (ms.map call) now = ops.observe b' (ms.map call) now

/-- Each call that is left out finds a breaker that is alike before and after it. -/
def Ops.NoTrace {B α : Type*} (ops : Ops B) (call : α → Call) (left : α → Bool) (b : B) :
    List α → Prop
  | [] => True
  | m :: cs =>
    (left m = true → ops.Alike call left (call m).done (ops.call b (call m)).2 b) ∧
      ops.NoTrace call left (ops.call b (call m)).2 cs

variable {ops call left}

theorem Ops.verdicts_cons (b : B) (m : α) (cs : List α) :
    ops.verdicts call b (m :: cs) =
      (m, (ops.call b (call m)).1) :: ops.verdicts call (ops.call b (call m)).2 cs := rfl

theorem Ops.after_cons (b : B) (m : α) (cs : List α) :
    ops.after call b (m :: cs) = ops.after call (ops.call b (call m)).2 cs := rfl

theorem Ops.length_calls (b : B) (cs : List Call) : (ops.calls b cs).1.length = cs.length := by
  induction cs generalizing b with
  | nil => rfl
  | cons c cs ih => rw [calls_cons, List.length_cons, List.length_cons, ih]

/-- A sequence shows the decisions in its verdicts. -/
theorem Ops.observe_eq_iff {b b' : B} {cs : List α} {now : Nat} :
    ops.observe b (cs.map call) now = ops.observe b' (cs.map call) now ↔
      ops.verdicts call b cs = ops.verdicts call b' cs ∧
        ops.currentState (ops.after call b cs) now =
          ops.currentState (ops.after call b' cs) now := by
  have hsnd (b : B) : (ops.verdicts call b cs).map Prod.snd = (ops.calls b (cs.map call)).1 :=
    List.map_snd_zip (Nat.le_of_eq (by rw [length_calls, List.length_map]))
  refine ⟨fun h ↦ ⟨?_, congrArg Prod.snd h⟩, fun ⟨hv, hs⟩ ↦ Prod.ext ?_ hs⟩
  · exact congrArg (fun o ↦ cs.zip o.1) h
  · rw [observe, observe, ← hsnd, ← hsnd, hv]

/-- A call that stays in both sequences. -/
theorem Ops.same_cons {b : B} {m : α} (hm : left m = false) (cs : List α) (now : Nat) :
    ops.Same call left b (m :: cs) now ↔
      ops.Same call left (ops.call b (call m)).2 cs now := by
  have hothers : (m :: cs).filter (fun c ↦ !left c) = m :: cs.filter fun c ↦ !left c :=
    List.filter_cons_of_pos (by simp [hm])
  have hverdicts : (ops.verdicts call b (m :: cs)).filter (fun d ↦ !left d.1) =
      (m, (ops.call b (call m)).1) ::
        (ops.verdicts call (ops.call b (call m)).2 cs).filter fun d ↦ !left d.1 :=
    List.filter_cons_of_pos (by simp [hm])
  refine ⟨fun ⟨hd, hs⟩ ↦ ⟨?_, ?_⟩, fun ⟨hd, hs⟩ ↦ ⟨?_, ?_⟩⟩
  · rw [hverdicts, hothers, verdicts_cons] at hd
    exact List.tail_eq_of_cons_eq hd
  · rwa [hothers, after_cons, after_cons] at hs
  · rw [hverdicts, hothers, verdicts_cons, hd]
  · rwa [hothers, after_cons, after_cons]

/-- A call that is left out, when the breakers before and after it are alike. -/
theorem Ops.same_cons_of_alike {b : B} {m : α} {cs : List α} {now : Nat} (hm : left m = true)
    (halike : ops.Alike call left (call m).done (ops.call b (call m)).2 b)
    (hcs : Between (call m).done (cs.map call) now) :
    ops.Same call left b (m :: cs) now ↔
      ops.Same call left (ops.call b (call m)).2 cs now := by
  have hothers : (m :: cs).filter (fun c ↦ !left c) = cs.filter fun c ↦ !left c :=
    List.filter_cons_of_neg (by simp [hm])
  have hverdicts : (ops.verdicts call b (m :: cs)).filter (fun d ↦ !left d.1) =
      (ops.verdicts call (ops.call b (call m)).2 cs).filter fun d ↦ !left d.1 :=
    List.filter_cons_of_neg (by simp [hm])
  have hkept : ∀ c ∈ cs.filter (fun c ↦ !left c), left c = false := fun c hc ↦ by
    simpa using (List.mem_filter.mp hc).2
  obtain ⟨hv, hs⟩ := observe_eq_iff.mp
    (halike _ now hkept (hcs.sublist (List.filter_sublist.map call)))
  refine ⟨fun ⟨hd, hst⟩ ↦ ⟨?_, ?_⟩, fun ⟨hd, hst⟩ ↦ ⟨?_, ?_⟩⟩
  · rw [hv, ← hothers, ← hd, hverdicts]
  · rw [hs, ← hothers, ← hst, after_cons]
  · rw [hverdicts, hothers, hd, hv]
  · rw [hothers, after_cons, hst, hs]

/-- Without calls to be left out there is no difference. -/
theorem Ops.NoTrace.of_forall {b : B} {ms : List α} (hms : ∀ m ∈ ms, left m = false) :
    ops.NoTrace call left b ms := by
  induction ms generalizing b with
  | nil => trivial
  | cons m ms ih =>
    refine ⟨fun hm ↦ ?_, ih fun m' hm' ↦ hms m' (List.mem_cons_of_mem _ hm')⟩
    rw [hms m List.mem_cons_self] at hm
    cases hm

/-- The start of a sequence, followed by calls that are not left out. -/
theorem Ops.NoTrace.prefix_append {b : B} {cs pre ms : List α} (h : ops.NoTrace call left b cs)
    (hpre : pre <+: cs) (hms : ∀ m ∈ ms, left m = false) :
    ops.NoTrace call left b (pre ++ ms) := by
  obtain ⟨rest, rfl⟩ := hpre
  induction pre generalizing b with
  | nil => exact .of_forall hms
  | cons m pre ih => exact ⟨h.1, ih h.2⟩

theorem Ops.NoTrace.same {b : B} {cs : List α} {t now : Nat} (h : ops.NoTrace call left b cs)
    (hcs : Between t (cs.map call) now) : ops.Same call left b cs now := by
  induction cs generalizing b t with
  | nil => exact ⟨rfl, rfl⟩
  | cons m cs ih =>
    have hrest := ih h.2 hcs.2.2
    cases hm : left m with
    | true => exact (same_cons_of_alike hm (h.1 hm) hcs.2.2).mpr hrest
    | false => exact (same_cons hm cs now).mpr hrest

/-- **When calls can be left out.**  However a sequence of calls is broken off and goes on, leaving
some of its calls out makes no difference, if and only if each of them finds a breaker that is alike
before and after it. -/
theorem Ops.same_iff_noTrace {b : B} {cs : List α} {t t' : Nat}
    (hcs : Between t (cs.map call) t') :
    (∀ (pre ms : List α) (now : Nat), pre <+: cs → (∀ m ∈ ms, left m = false) →
      Between t ((pre ++ ms).map call) now → ops.Same call left b (pre ++ ms) now) ↔
    ops.NoTrace call left b cs := by
  refine ⟨fun h ↦ ?_, fun h pre ms now hpre hms hb ↦ (h.prefix_append hpre hms).same hb⟩
  induction cs generalizing b t with
  | nil => trivial
  | cons m cs ih =>
    obtain ⟨hstart, hdone, hcs⟩ := hcs
    have halike : left m = true →
        ops.Alike call left (call m).done (ops.call b (call m)).2 b := fun hm ms now hms hb ↦ by
      have hsame := h [m] ms now ⟨cs, rfl⟩ hms ⟨hstart, hdone, hb⟩
      have hkept : (m :: ms).filter (fun c ↦ !left c) = ms := by
        rw [List.filter_cons_of_neg (by simp [hm])]
        exact List.filter_eq_self.mpr fun m' hm' ↦ by simp [hms m' hm']
      have hdecided : (ops.verdicts call b (m :: ms)).filter (fun d ↦ !left d.1) =
          ops.verdicts call (ops.call b (call m)).2 ms := by
        rw [verdicts_cons, List.filter_cons_of_neg (by simp [hm])]
        exact List.filter_eq_self.mpr fun d hd ↦ by simp [hms d.1 (List.of_mem_zip hd).1]
      refine observe_eq_iff.mpr ⟨?_, ?_⟩
      · rw [← hdecided]
        exact hsame.decided.trans (congrArg _ hkept)
      · exact hsame.state.trans (congrArg (fun cs ↦ ops.currentState (ops.after call b cs) now)
          hkept)
    refine ⟨halike, ih hcs fun pre ms now hpre hms hb ↦ ?_⟩
    have hsame := h (m :: pre) ms now ((List.prefix_cons_inj m).mpr hpre) hms ⟨hstart, hdone, hb⟩
    cases hm : left m with
    | true => exact (same_cons_of_alike hm (halike hm) hb).mp hsame
    | false => exact (same_cons hm _ now).mp hsame

end NoTrace

/-! ## The standard breaker -/

/-- The numbers that shape a standard breaker. -/
structure Limits where
  /-- The rate of failures that opens a closed circuit, if there is one. -/
  rate : Option Rat
  /-- How many calls it takes for the rate to count. -/
  throughput : Nat
  /-- The consecutive failures that open a closed circuit, if they do. -/
  failures : Option Nat
  /-- The consecutive successes that close a half-open circuit. -/
  successes : Nat
  /-- How long an open circuit rejects. -/
  cooldown : Nat
  /-- The probe after which a half-open circuit lets no other through, counted from zero. -/
  probes : Nat
  deriving DecidableEq

/-- A standard circuit. -/
inductive Circuit where
  /-- The calls and failures since it was closed, and the failures since the last success. -/
  | closed (calls failures streak : Nat)
  | opened (since : Nat)
  | halfOpen (probes successes : Nat)
  deriving DecidableEq

namespace Circuit

/-- What the circuit reports. -/
def mode : Circuit → Mode
  | .closed _ _ _ => .closed
  | .opened _ => .opened
  | .halfOpen _ _ => .halfOpen

variable (l : Limits)

/-- A half-open circuit is asked. -/
def probe (p s : Nat) : Bool × Circuit :=
  if p ≤ l.probes then (true, .halfOpen (p + 1) s) else (false, .halfOpen p s)

/-- The circuit is asked. -/
def allow : Circuit → Nat → Bool × Circuit
  | .closed n f k, _ => (true, .closed n f k)
  | .opened since, now =>
    -- the first call after the cooldown makes the circuit half-open
    if since + l.cooldown ≤ now then probe l 0 0 else (false, .opened since)
  | .halfOpen p s, _ => probe l p s

/-- A failure opens a closed circuit, by the streak or by the rate. -/
def trips (calls failures streak : Nat) : Bool :=
  l.failures.any (· ≤ streak) ||
    l.rate.any fun rate ↦ l.throughput ≤ calls && rate * (calls : Rat) ≤ (failures : Rat)

/-- The circuit learns how a call went. -/
def record : Circuit → Nat → Bool → Circuit
  | .closed n f _, _, true => .closed (n + 1) f 0
  | .closed n f k, now, false =>
    if trips l (n + 1) (f + 1) (k + 1) then .opened now else .closed (n + 1) (f + 1) (k + 1)
  | .halfOpen p s, _, true => if l.successes ≤ s + 1 then .closed 0 0 0 else .halfOpen p (s + 1)
  | .halfOpen _ _, now, false => .opened now
  -- a call that was admitted before the circuit opened
  | .opened since, _, _ => .opened since

end Circuit

/-- **The standard breaker** with given limits. -/
def standard (l : Limits) : Ops Circuit where
  build := .closed 0 0 0
  allow := Circuit.allow l
  record := Circuit.record l
  currentState c _ := c.mode

section Standard

variable {l : Limits}

/-- An open circuit rejects, and stays as it is, until its cooldown is over. -/
theorem allow_cooling {since now : Nat} (h : now < since + l.cooldown) :
    (standard l).allow (.opened since) now = (false, .opened since) :=
  if_neg (Nat.not_le.mpr h)

/-- Standard breakers are open as is to be expected. -/
theorem openBreakers_standard :
    (standard l).OpenBreakers l.cooldown fun c since ↦ c = .opened since where
  state h _ := by rw [h]; rfl
  rejects h hnow := by rw [h, allow_cooling hnow]
  asked h hnow := by rw [h, allow_cooling hnow]
  late {b since} h now ok := ⟨since, Nat.le_refl since, by rw [h]; rfl⟩

/-- Without a rate, all that a closed circuit knows is its streak. -/
theorem observe_closed (hrate : l.rate = none) (n f n' f' k : Nat) (cs : List Call) (now : Nat) :
    (standard l).observe (.closed n f k) cs now =
      (standard l).observe (.closed n' f' k) cs now := by
  induction cs generalizing n f n' f' k with
  | nil => rfl
  | cons c cs ih =>
    have hcall (n f : Nat) : (standard l).call (.closed n f k) c =
        (true, Circuit.record l (.closed n f k) c.done c.ok) := rfl
    have htrips (n f : Nat) : Circuit.trips l n f (k + 1) = l.failures.any (· ≤ k + 1) := by
      rw [Circuit.trips, hrate, Option.any_none, Bool.or_false]
    have hcons (n f : Nat) : (standard l).observe (.closed n f k) (c :: cs) now =
        (true :: ((standard l).observe (Circuit.record l (.closed n f k) c.done c.ok) cs now).1,
          ((standard l).observe (Circuit.record l (.closed n f k) c.done c.ok) cs now).2) := by
      rw [Ops.observe, Ops.calls_cons, hcall]
      rfl
    rw [hcons, hcons]
    cases c.ok with
    | true => simp only [Circuit.record, ih (n + 1) f (n' + 1) f' 0]
    | false =>
      simp only [Circuit.record, htrips]
      split
      · rfl
      · rw [ih (n + 1) (f + 1) (n' + 1) (f' + 1) (k + 1)]

section Streak

variable {limit : Nat} (hrate : l.rate = none) (hlimit : l.failures = some limit)
include hrate hlimit

/-- Without a rate, a closed circuit opens when the streak reaches its limit. -/
theorem call_failure (n f k t : Nat) :
    (standard l).call (.closed n f k) ⟨t, t, false⟩ =
      (true, if limit ≤ k + 1 then .opened t else .closed (n + 1) (f + 1) (k + 1)) := by
  have htrips : Circuit.trips l (n + 1) (f + 1) (k + 1) = decide (limit ≤ k + 1) := by
    rw [Circuit.trips, hrate, hlimit, Option.any_none, Bool.or_false, Option.any_some]
  show (true, Circuit.record l (.closed n f k) t false) = _
  simp only [Circuit.record, htrips, decide_eq_true_eq]

/-- Fewer failures than that leave it closed. -/
theorem mode_of_short_streak {n f k j t : Nat} (h : k + j < limit) :
    ((standard l).calls (.closed n f k) (List.replicate j ⟨t, t, false⟩)).2.mode = .closed := by
  induction j generalizing n f k with
  | zero => rfl
  | succ j ih =>
    rw [List.replicate_succ, Ops.calls_cons, call_failure hrate hlimit, if_neg (by omega)]
    exact ih (by omega)

/-- As many failures as are missing open it. -/
theorem mode_of_full_streak {n f k j t : Nat} (h : k + j + 1 = limit) :
    ((standard l).calls (.closed n f k) (List.replicate (j + 1) ⟨t, t, false⟩)).2.mode =
      .opened := by
  induction j generalizing n f k with
  | zero =>
    rw [List.replicate_succ, Ops.calls_cons, call_failure hrate hlimit, if_pos (by omega)]
    rfl
  | succ j ih =>
    rw [List.replicate_succ, Ops.calls_cons, call_failure hrate hlimit, if_neg (by omega)]
    exact ih (by omega)

end Streak

end Standard

end Breaker
