import Zel.Lib.Machine
import Zel.Lib.Slots
import Zel.Retry

/-!
# What the retry metrics count

Any number of calls of one client are retried at the same time and share one `RetryMetrics`.  An
execution of the closure changes one counter at most, when it is over; in between the executions of
the calls may come in any order.

The closure cannot see the delays.  It counts a retry when it sees an error that is worth one,
whether or not a delay is left for it; and it counts an exhausted call when it sees an error that is
not worth a retry, late enough.

## What is here

* `RetryClient.machine` — the calls, under all interleavings.
* `completed_alone` — a call ends as `callWithRetry` says, whatever the others do.
* `retry_count_iff`, `exhaustion_count_iff` — **when the counters say what they are named for.**
-/

set_option autoImplicit false

namespace Zel

namespace RetryClient

/-! ## The calls -/

/-- A call that is being retried. -/
structure Call where
  /-- What `call_internal` comes to, one time after the other. -/
  outcomes : Nat → Outcome
  /-- The delays that backon has left. -/
  delays : List Duration
  executions : Nat
  /-- The attempt counter. -/
  attempt : UInt64
  result : Option Outcome

/-- A client with metrics, and its calls. -/
structure State where
  metrics : RetryMetrics
  calls : List Call

inductive Label where
  /-- `call_with_retry` is called. -/
  | call (outcomes : Nat → Outcome) (draw : Nat)
  /-- An execution of the closure is over, and backon decides what comes next. -/
  | attempt (c : Nat)

variable (config : RetryConfig) (backon : Backon)

/-- The call after an execution of the closure. -/
def Call.executed (x : Call) : Call :=
  match Retry.next config.isRetryable (x.outcomes x.executions) x.delays with
  | some delays =>
    { x with delays := delays, executions := x.executions + 1, attempt := x.attempt + 1 }
  | none =>
    { x with
      executions := x.executions + 1
      attempt := x.attempt + 1
      result := some (x.outcomes x.executions) }

def step (s : State) : Label → Option State
  | .call outcomes draw =>
    some { s with calls := s.calls ++ [⟨outcomes, backon.delays config.policy draw, 0, 0, none⟩] }
  | .attempt c =>
    match s.calls[c]? with
    | some x =>
      if x.result.isNone then
        some
          { metrics := config.record x.attempt (x.outcomes x.executions) s.metrics
            calls := s.calls.set c (x.executed config) }
      else none
    | none => none

/-- All interleavings of any number of calls. -/
def machine : Machine State Label := ⟨⟨.new, []⟩, step config backon⟩

/-- Every call is over. -/
def State.Completed (s : State) : Prop := ∀ x ∈ s.calls, x.result.isSome

instance (s : State) : Decidable s.Completed :=
  inferInstanceAs (Decidable (∀ x ∈ s.calls, x.result.isSome))

/-! ## One call -/

variable {config backon}

/-- What a call has gone through so far. -/
structure Call.Inv (config : RetryConfig) (x : Call) : Prop where
  running : x.result = none → x.attempt = .ofNat x.executions ∧
    Retry.Running config.isRetryable x.outcomes config.maxAttempts.toNat x.executions x.delays
  ended : ∀ r, x.result = some r → ∃ k,
    Retry.StopsAt config.isRetryable x.outcomes config.maxAttempts.toNat k ∧
      x.executions = k + 1 ∧ r = x.outcomes k

theorem Call.inv_new (config : RetryConfig) (backon : Backon) (outcomes : Nat → Outcome)
    (draw : Nat) :
    Call.Inv config ⟨outcomes, backon.delays config.policy draw, 0, 0, none⟩ := by
  exact ⟨fun _ ↦ ⟨rfl, backon.length_delays config.policy draw, nofun⟩, nofun⟩

/-- Another execution follows. -/
theorem Call.executed_of_some {x : Call} {ds : List Duration}
    (h : Retry.next config.isRetryable (x.outcomes x.executions) x.delays = some ds) :
    x.executed config =
      { x with delays := ds, executions := x.executions + 1, attempt := x.attempt + 1 } := by
  rw [Call.executed, h]

/-- The call is over. -/
theorem Call.executed_of_none {x : Call}
    (h : Retry.next config.isRetryable (x.outcomes x.executions) x.delays = none) :
    x.executed config =
      { x with
        executions := x.executions + 1
        attempt := x.attempt + 1
        result := some (x.outcomes x.executions) } := by
  rw [Call.executed, h]

theorem Call.Inv.executed {x : Call} (hx : x.Inv config) (hr : x.result = none) :
    (x.executed config).Inv config := by
  obtain ⟨hattempt, hrunning⟩ := hx.running hr
  rcases hnext : Retry.next config.isRetryable (x.outcomes x.executions) x.delays with _ | ds
  · rw [Call.executed_of_none hnext]
    refine ⟨nofun, fun r hr' ↦ ⟨x.executions, hrunning.stops hnext, rfl, ?_⟩⟩
    exact (Option.some_inj.mp hr').symm
  · rw [Call.executed_of_some hnext]
    refine ⟨fun _ ↦ ⟨?_, (hrunning.again hnext).1⟩, fun r hr' ↦ ?_⟩
    · rw [UInt64.ofNat_add, ← hattempt]
      rfl
    · exact absurd (hr.symm.trans hr') nofun

/-! ## What one execution counts for -/

end RetryClient

namespace RetryConfig

variable (config : RetryConfig)

/-- An error that is not worth a retry. -/
def refuses : Outcome → Bool
  | .ok _ => false
  | .error e => !config.isRetryable e

theorem refuses_of_not_final {r : Outcome} (h : Retry.final config.isRetryable r = false) :
    config.refuses r = false := by
  rcases r with e | resp
  · exact h
  · cases h

/-- Every error that is worth a retry counts as a retry. -/
theorem totalRetries_record (currentAttempt : UInt64) (r : Outcome) (m : RetryMetrics) :
    (config.record currentAttempt r m).totalRetries =
      m.totalRetries + .ofNat (!Retry.final config.isRetryable r).toNat := by
  rcases r with e | resp
  · rw [record, Retry.final]
    cases config.isRetryable e with
    | true => rfl
    | false =>
      rw [if_neg Bool.false_ne_true]
      split <;> exact (UInt64.add_zero _).symm
  · rw [record]
    split <;> exact (UInt64.add_zero _).symm

/-- The attempt index that the closure takes for the last one. -/
theorem le_ofNat_iff (hmax : config.maxAttempts ≠ 0) {i : Nat}
    (hi : i ≤ config.maxAttempts.toNat) :
    .ofNat i ≥ config.maxAttempts.toUInt64 - 1 ↔ config.maxAttempts.toNat ≤ i + 1 := by
  have hpos : 1 ≤ config.maxAttempts.toNat := by
    rw [Nat.one_le_iff_ne_zero]
    exact fun h0 ↦ hmax (UInt32.toNat_inj.mp h0)
  have hlt := config.maxAttempts.toNat_lt
  have hsub : (config.maxAttempts.toUInt64 - 1).toNat = config.maxAttempts.toNat - 1 := by
    rw [UInt64.toNat_sub_of_le]
    · rfl
    · exact UInt64.le_iff_toNat_le.mpr hpos
  rw [ge_iff_le, UInt64.le_iff_toNat_le, hsub, config.toNat_ofNat_of_le hi]
  omega

/-- An error that is not worth a retry counts as an exhausted call if it comes late. -/
theorem failedAfterMaxRetries_record (hmax : config.maxAttempts ≠ 0) {i : Nat}
    (hi : i ≤ config.maxAttempts.toNat) (r : Outcome) (m : RetryMetrics) :
    (config.record (.ofNat i) r m).failedAfterMaxRetries = m.failedAfterMaxRetries +
      .ofNat (config.refuses r && decide (config.maxAttempts.toNat ≤ i + 1)).toNat := by
  rcases r with e | resp
  · rw [record, refuses]
    cases config.isRetryable e with
    | true => exact (UInt64.add_zero _).symm
    | false =>
      rw [if_neg Bool.false_ne_true]
      by_cases hlate : config.maxAttempts.toNat ≤ i + 1
      · rw [if_pos ((config.le_ofNat_iff hmax hi).mpr hlate), decide_eq_true hlate]
        rfl
      · rw [if_neg (mt (config.le_ofNat_iff hmax hi).mp hlate), decide_eq_false hlate]
        exact (UInt64.add_zero _).symm
  · rw [record]
    split <;> exact (UInt64.add_zero _).symm

end RetryConfig

namespace RetryClient

variable {config : RetryConfig} {backon : Backon}

/-- The executions that failed with an error worth a retry. -/
def Call.failures (config : RetryConfig) (x : Call) : Nat :=
  match x.result with
  | none => x.executions
  | some r => x.executions - 1 + (!Retry.final config.isRetryable r).toNat

/-- The call ended with an error that is not worth a retry, in the last execution or the last but
one of those that it could make. -/
def Call.lateRefusal (config : RetryConfig) (x : Call) : Bool :=
  match x.result with
  | none => false
  | some r => config.refuses r && decide (config.maxAttempts.toNat ≤ x.executions)

theorem Call.Inv.failures_executed {x : Call} (hx : x.Inv config) (hr : x.result = none) :
    (x.executed config).failures config = x.failures config +
      (!Retry.final config.isRetryable (x.outcomes x.executions)).toNat := by
  have hnow : x.failures config = x.executions := by rw [Call.failures, hr]
  rw [hnow]
  rcases hnext : Retry.next config.isRetryable (x.outcomes x.executions) x.delays with _ | ds
  · rw [Call.executed_of_none hnext]
    rfl
  · rw [Call.executed_of_some hnext, ((hx.running hr).2.again hnext).2]
    simp only [Call.failures, hr]
    rfl

theorem Call.Inv.lateRefusal_executed {x : Call} (hx : x.Inv config) (hr : x.result = none) :
    (x.executed config).lateRefusal config = (config.refuses (x.outcomes x.executions) &&
      decide (config.maxAttempts.toNat ≤ x.executions + 1)) := by
  rcases hnext : Retry.next config.isRetryable (x.outcomes x.executions) x.delays with _ | ds
  · rw [Call.executed_of_none hnext]
    rfl
  · rw [Call.executed_of_some hnext,
      config.refuses_of_not_final ((hx.running hr).2.again hnext).2]
    simp only [Call.lateRefusal, hr]
    rfl

/-! ## What the counters are -/

/-- The calls, and the counters that they have left behind. -/
structure Inv (config : RetryConfig) (s : State) : Prop where
  calls : ∀ x ∈ s.calls, x.Inv config
  totalRetries : s.metrics.totalRetries = .ofNat (s.calls.map (Call.failures config)).sum
  failedAfterMaxRetries : config.maxAttempts ≠ 0 →
    s.metrics.failedAfterMaxRetries = .ofNat (s.calls.countP (Call.lateRefusal config))

theorem inv_init (config : RetryConfig) (backon : Backon) :
    Inv config (machine config backon).init :=
  ⟨by simp [machine], rfl, fun _ ↦ rfl⟩

theorem Inv.call {s : State} (hs : Inv config s) (outcomes : Nat → Outcome) (draw : Nat) :
    Inv config { s with
      calls := s.calls ++ [⟨outcomes, backon.delays config.policy draw, 0, 0, none⟩] } where
  calls x hx := by
    rcases List.mem_append.mp hx with hx | hx
    · exact hs.calls x hx
    · rw [List.mem_singleton.mp hx]
      exact Call.inv_new config backon outcomes draw
  totalRetries := by
    rw [List.map_append, List.sum_append]
    exact hs.totalRetries
  failedAfterMaxRetries hmax := by
    rw [List.countP_append]
    exact hs.failedAfterMaxRetries hmax

/-- One execution: the counters take up what the closure records of it. -/
theorem Inv.attempt {s : State} (hs : Inv config s) {c : Nat} {x : Call}
    (hc : s.calls[c]? = some x) (hr : x.result = none) :
    Inv config
      ⟨config.record x.attempt (x.outcomes x.executions) s.metrics,
        s.calls.set c (x.executed config)⟩ := by
  have hx := hs.calls x (List.mem_of_getElem? hc)
  obtain ⟨hattempt, hrunning⟩ := hx.running hr
  refine ⟨fun y hy ↦ ?_, ?_, fun hmax ↦ ?_⟩
  · rcases List.mem_or_eq_of_mem_set hy with hy | rfl
    · exact hs.calls y hy
    · exact hx.executed hr
  · have hsum := List.sum_map_set_add (a := x.executed config) hc (Call.failures config)
    rw [hx.failures_executed hr] at hsum
    have hnew : ((s.calls.set c (x.executed config)).map (Call.failures config)).sum =
        (s.calls.map (Call.failures config)).sum +
          (!Retry.final config.isRetryable (x.outcomes x.executions)).toNat := by
      omega
    rw [config.totalRetries_record, hs.totalRetries, ← UInt64.ofNat_add, hnew]
  · have hcount := List.countP_set_add (a := x.executed config)
      (p := Call.lateRefusal config) hc
    have hbefore : x.lateRefusal config = false := by rw [Call.lateRefusal, hr]
    have hle : x.executions ≤ config.maxAttempts.toNat := by
      rw [← hrunning.left]
      omega
    rw [hx.lateRefusal_executed hr, hbefore, Bool.toNat_false, Nat.add_zero] at hcount
    rw [hattempt, config.failedAfterMaxRetries_record hmax hle,
      hs.failedAfterMaxRetries hmax, ← UInt64.ofNat_add, hcount]

theorem inv_step {s t : State} {l : Label} (hs : Inv config s)
    (h : (machine config backon).step s l = some t) : Inv config t := by
  rcases l with ⟨outcomes, draw⟩ | c
  · cases h
    exact hs.call outcomes draw
  · simp only [machine, step] at h
    split at h
    · rename_i x hc
      split at h
      · rename_i hr
        cases h
        exact hs.attempt hc (Option.isNone_iff_eq_none.mp hr)
      · cases h
    · cases h

theorem inv_of_run {ls : List Label} {s : State} (h : (machine config backon).run ls = some s) :
    Inv config s := by
  have hreachable : (machine config backon).Reachable s := ⟨ls, h⟩
  exact hreachable.invariant (I := Inv config) (inv_init config backon)
    fun _ _ _ hs ht ↦ inv_step hs ht

/-- **A call ends as if it were alone**: with the result and after the executions of
`callWithRetry`. -/
theorem completed_alone {ls : List Label} {s : State}
    (h : (machine config backon).run ls = some s) {x : Call} (hx : x ∈ s.calls) {r : Outcome}
    (hr : x.result = some r) (draw : Nat) (metrics : Option RetryMetrics) :
    (callWithRetry backon draw config x.outcomes metrics).1 = r ∧
      (callWithRetry backon draw config x.outcomes metrics).2.executions = x.executions := by
  obtain ⟨k, hk, hexecutions, rfl⟩ := ((inv_of_run h).calls x hx).ended r hr
  obtain ⟨k', hk', hcall⟩ := callWithRetry_eq backon draw config x.outcomes metrics
  obtain rfl := hk.unique hk'
  rw [hcall, config.executions_after]
  exact ⟨rfl, hexecutions.symm⟩

end RetryClient

/-! ## Calls by their outcomes -/

namespace RetryConfig

/-- All the executions that the configuration allows fail with an error worth a retry. -/
def exhausts (config : RetryConfig) (outcomes : Nat → Outcome) : Bool :=
  decide (∀ i ≤ config.maxAttempts.toNat, Retry.final config.isRetryable (outcomes i) = false)

/-- The last or the last but one of these executions is the first that does not fail with an error
worth a retry, and it fails. -/
def refusesLate (config : RetryConfig) (outcomes : Nat → Outcome) : Bool :=
  decide (∃ k ≤ config.maxAttempts.toNat, config.maxAttempts.toNat ≤ k + 1 ∧
    (∀ i < k, Retry.final config.isRetryable (outcomes i) = false) ∧
      config.refuses (outcomes k) = true)

end RetryConfig

namespace RetryClient

variable {config : RetryConfig} {backon : Backon}

/-- The call returned an error that is worth a retry, after all retries were used up. -/
def Call.exhausted (config : RetryConfig) (x : Call) : Bool :=
  match x.result with
  | none => false
  | some r => !Retry.final config.isRetryable r &&
      decide (x.executions = config.maxAttempts.toNat + 1)

/-- A loop that stops with an error worth a retry was allowed no more executions. -/
theorem exhausts_of_stopsAt {outcomes : Nat → Outcome} {k : Nat}
    (hk : Retry.StopsAt config.isRetryable outcomes config.maxAttempts.toNat k) :
    config.exhausts outcomes = !Retry.final config.isRetryable (outcomes k) := by
  cases hfinal : Retry.final config.isRetryable (outcomes k) with
  | true =>
    refine decide_eq_false fun hall ↦ ?_
    rw [hall k hk.le] at hfinal
    cases hfinal
  | false =>
    refine decide_eq_true fun i hi ↦ ?_
    rw [← hk.eq_of_not_final hfinal] at hi
    rcases Nat.lt_or_eq_of_le hi with hlt | rfl
    · exact hk.not_final hlt
    · exact hfinal

/-- Whether a call that is over has used up its retries can be told from its outcomes. -/
theorem Call.Inv.exhausted_eq {x : Call} (hx : x.Inv config) (hr : x.result.isSome) :
    x.exhausted config = config.exhausts x.outcomes := by
  obtain ⟨r, hr⟩ := Option.isSome_iff_exists.mp hr
  obtain ⟨k, hk, hexecutions, rfl⟩ := hx.ended r hr
  rw [exhausts_of_stopsAt hk, Call.exhausted, hr]
  cases hfinal : Retry.final config.isRetryable (x.outcomes k) with
  | true => simp [hfinal]
  | false =>
    simp [hfinal, hexecutions, ← hk.eq_of_not_final hfinal]

/-- The last error of an exhausted call counts as well, although no retry follows it. -/
theorem Call.Inv.failures_eq {x : Call} (hx : x.Inv config) (hr : x.result.isSome) :
    x.failures config = x.executions - 1 + (config.exhausts x.outcomes).toNat := by
  obtain ⟨r, hr⟩ := Option.isSome_iff_exists.mp hr
  obtain ⟨k, hk, hexecutions, rfl⟩ := hx.ended r hr
  rw [exhausts_of_stopsAt hk, Call.failures, hr]

theorem Call.Inv.lateRefusal_eq {x : Call} (hx : x.Inv config) (hr : x.result.isSome) :
    x.lateRefusal config = config.refusesLate x.outcomes := by
  obtain ⟨r, hr⟩ := Option.isSome_iff_exists.mp hr
  obtain ⟨k, hk, hexecutions, rfl⟩ := hx.ended r hr
  rw [Call.lateRefusal, hr, hexecutions, RetryConfig.refusesLate, Bool.eq_iff_iff,
    Bool.and_eq_true, decide_eq_true_iff, decide_eq_true_iff]
  constructor
  · rintro ⟨hrefuses, hlate⟩
    exact ⟨k, hk.le, hlate, fun i hi ↦ hk.not_final hi, hrefuses⟩
  · rintro ⟨k', hk', hlate, hbefore, hrefuses⟩
    have hfinal : Retry.final config.isRetryable (x.outcomes k') = true := by
      by_contra hno
      rw [config.refuses_of_not_final (Bool.eq_false_of_not_eq_true hno)] at hrefuses
      cases hrefuses
    obtain rfl := hk.unique (Retry.stopsAt_of_forall (.inr hfinal) hk' hbefore)
    exact ⟨hrefuses, hlate⟩

/-- Two counts that agree as 64-bit numbers. -/
theorem ofNat_eq_iff {a b : Nat} : UInt64.ofNat a = UInt64.ofNat b ↔ a % 2 ^ 64 = b % 2 ^ 64 := by
  rw [← UInt64.toNat_inj, UInt64.toNat_ofNat', UInt64.toNat_ofNat']

/-! ## When the counters are right -/

/-- **When the retries are counted right.**  After any interleaving of any calls that are all over,
the counter is the number of executions beyond the first ones if and only if no call has used up
its retries; as the counter has 64 bits, the number of those that have may also be a multiple of
`2 ^ 64`. -/
theorem retry_count_iff (config : RetryConfig) (backon : Backon) (ls : List Label) (s : State)
    (hs : (machine config backon).run ls = some s) (hdone : s.Completed) :
    s.metrics.getTotalRetries = .ofNat (s.calls.map fun x ↦ x.executions - 1).sum ↔
      2 ^ 64 ∣ s.calls.countP fun x ↦ config.exhausts x.outcomes := by
  have hinv := inv_of_run hs
  have hsum : (s.calls.map (Call.failures config)).sum =
      (s.calls.map fun x ↦ x.executions - 1).sum +
        s.calls.countP fun x ↦ config.exhausts x.outcomes :=
    List.sum_map_eq_add_countP fun x hx ↦ (hinv.calls x hx).failures_eq (hdone x hx)
  rw [RetryMetrics.getTotalRetries, hinv.totalRetries, ofNat_eq_iff, hsum]
  omega

/-- One retry, without jitter. -/
def once : RetryConfigBuilder := RetryConfigBuilder.default.withoutJitter.maxAttempts 1

/-- The connection is lost, and there again. -/
def recovering : Nat → Outcome
  | 0 => .error (.connection "lost")
  | _ => .ok ⟨[]⟩

/-- Two calls that recover, one in the other. -/
def recoveringRun : List Label :=
  [.call recovering 0, .attempt 0, .call recovering 0, .attempt 1, .attempt 1, .attempt 0]

theorem retry_count_recovering : ∃ s,
    (machine once.config .doubling).run recoveringRun = some s ∧
      s.metrics.getTotalRetries = .ofNat (s.calls.map fun x ↦ x.executions - 1).sum :=
  ⟨_, rfl, (retry_count_iff once.config .doubling recoveringRun _ rfl (by decide)).mpr (by decide)⟩

/-- A call that never gets a connection. -/
def lostRun : List Label :=
  [.call (fun _ ↦ .error (.connection "lost")) 0, .attempt 0, .attempt 0]

/-- **A retry that is not made is counted**: of an exhausted call, which runs twice, there are two
retries. -/
theorem retry_counted_twice : once.build = .ok once.config ∧
    ∃ s, (machine once.config .doubling).run lostRun = some s ∧ s.Completed ∧
      (s.calls.map fun x ↦ x.executions - 1).sum = 1 ∧ s.metrics.getTotalRetries = 2 ∧
      s.metrics.getTotalRetries ≠ .ofNat (s.calls.map fun x ↦ x.executions - 1).sum :=
  ⟨rfl, _, rfl, by decide, rfl, rfl, by decide⟩

/-! ## Which calls are counted -/

/-- The call ended with an error that is not worth a retry. -/
def Call.Refused (config : RetryConfig) (x : Call) : Prop :=
  ∃ e, x.result = some (.error e) ∧ config.isRetryable e = false

/-- This is a step of call `c`, and it raises the counter of the exhausted calls. -/
def countsFor (c : Nat) (s : State) (l : Label) (t : State) : Bool :=
  match l with
  | .call _ _ => false
  | .attempt d =>
    d == c && t.metrics.failedAfterMaxRetries != s.metrics.failedAfterMaxRetries

/-- What call `c` has counted for so far. -/
def State.countedFor (config : RetryConfig) (c : Nat) (s : State) : Nat :=
  (s.calls[c]?.elim false (Call.lateRefusal config)).toNat

/-- Only a number that is added changes a counter. -/
theorem add_bool_ne (n : UInt64) (b : Bool) : (n + .ofNat b.toNat != n) = b := by
  cases b with
  | false => simp
  | true =>
    rw [bne_iff_ne]
    intro h
    have hone : UInt64.ofNat 1 = 0 := by
      rw [← UInt64.add_right_inj n, UInt64.add_zero]
      exact h
    cases hone

/-- **A call counts as exhausted when it is refused late**, and only then. -/
theorem countedFor_of_step (hmax : config.maxAttempts ≠ 0) (c : Nat) {s t : State} {l : Label}
    (hs : Inv config s) (h : (machine config backon).step s l = some t) :
    t.countedFor config c = s.countedFor config c + (countsFor c s l t).toNat := by
  rcases l with ⟨outcomes, draw⟩ | d
  · cases h
    rcases Nat.lt_trichotomy c s.calls.length with hlt | rfl | hgt
    · simp [State.countedFor, countsFor, List.getElem?_append_left hlt]
    · simp [State.countedFor, countsFor, Call.lateRefusal]
    · rw [State.countedFor, State.countedFor, List.getElem?_eq_none (by simp; omega),
        List.getElem?_eq_none (by omega)]
      rfl
  · simp only [machine, step] at h
    split at h
    · rename_i x hd
      split at h
      · rename_i hr
        cases h
        replace hr := Option.isNone_iff_eq_none.mp hr
        have hx := hs.calls x (List.mem_of_getElem? hd)
        obtain ⟨hattempt, hrunning⟩ := hx.running hr
        by_cases hdc : d = c
        · subst hdc
          have hle : x.executions ≤ config.maxAttempts.toNat := by
            rw [← hrunning.left]
            omega
          have hbefore : x.lateRefusal config = false := by rw [Call.lateRefusal, hr]
          simp only [State.countedFor, countsFor, List.getElem?_set_of_some hd, hd,
            Option.elim_some, beq_self_eq_true, Bool.true_and, hbefore, hattempt,
            config.failedAfterMaxRetries_record hmax hle, add_bool_ne, hx.lateRefusal_executed hr]
          simp
        · simp [State.countedFor, countsFor, List.getElem?_set_ne hdc, hdc]
      · cases h
    · cases h

theorem countSteps_eq (hmax : config.maxAttempts ≠ 0) {ls : List Label} {s : State}
    (h : (machine config backon).run ls = some s) (c : Nat) :
    (machine config backon).countSteps (countsFor c) (machine config backon).init ls =
      s.countedFor config c := by
  have hpotential := Machine.potential_of_run (M := machine config backon) (I := Inv config)
    (f := State.countedFor config c) (fun _ _ _ hs ht ↦ inv_step hs ht)
    (fun _ _ _ hs ht ↦ countedFor_of_step hmax c hs ht) (inv_init config backon) h
  have hstart : (machine config backon).init.countedFor config c = 0 := rfl
  rw [hpotential, hstart, Nat.zero_add]

theorem Call.refused_of_lateRefusal {x : Call} (h : x.lateRefusal config = true) :
    x.Refused config := by
  rw [Call.lateRefusal] at h
  split at h
  · cases h
  · rename_i r hr
    have hrefuses := (Bool.and_eq_true_iff.mp h).1
    rcases r with e | resp
    · exact ⟨e, hr, by simpa [RetryConfig.refuses] using hrefuses⟩
    · cases hrefuses

/-- **When the exhausted calls are counted right.**  After any interleaving of any calls that are
all over: the counter is the number of calls that returned an error worth a retry after all their
retries, and no call that ended with another error has counted, if and only if no call uses up its
retries, and none ends with an error that is not worth a retry in the last execution or the last but
one of those that it could make. -/
theorem exhaustion_count_iff (b : RetryConfigBuilder) (config : RetryConfig)
    (hb : b.build = .ok config) (backon : Backon) (ls : List Label) (s : State)
    (hs : (machine config backon).run ls = some s) (hdone : s.Completed) :
    (s.metrics.getFailedAfterMaxRetries.toNat = s.calls.countP (Call.exhausted config) ∧
      ∀ (c : Nat) x, s.calls[c]? = some x → x.Refused config →
        (machine config backon).countSteps (countsFor c) (machine config backon).init ls = 0) ↔
      ∀ x ∈ s.calls,
        config.exhausts x.outcomes = false ∧ config.refusesLate x.outcomes = false := by
  have hinv := inv_of_run hs
  have hmax := (RetryConfigBuilder.build_eq_ok hb).2
  have hlate : ∀ x ∈ s.calls, x.lateRefusal config = config.refusesLate x.outcomes :=
    fun x hx ↦ (hinv.calls x hx).lateRefusal_eq (hdone x hx)
  have hexhausted : ∀ x ∈ s.calls, x.exhausted config = config.exhausts x.outcomes :=
    fun x hx ↦ (hinv.calls x hx).exhausted_eq (hdone x hx)
  have hcounted : ∀ (c : Nat) x, s.calls[c]? = some x →
      (machine config backon).countSteps (countsFor c) (machine config backon).init ls =
        (x.lateRefusal config).toNat := by
    intro c x hx
    rw [countSteps_eq hmax hs, State.countedFor, hx, Option.elim_some]
  -- without late refusals the counter stays at zero
  have hzero : (∀ x ∈ s.calls, x.lateRefusal config = false) →
      s.metrics.getFailedAfterMaxRetries.toNat = 0 := by
    intro hnone
    rw [RetryMetrics.getFailedAfterMaxRetries, hinv.failedAfterMaxRetries hmax,
      List.countP_eq_zero.mpr fun x hx ↦ by simp [hnone x hx]]
    rfl
  constructor
  · rintro ⟨hcount, hnever⟩
    have hnone : ∀ x ∈ s.calls, x.lateRefusal config = false := by
      intro x hx
      by_contra hlateRefusal
      rw [Bool.not_eq_false] at hlateRefusal
      obtain ⟨c, hc⟩ := List.mem_iff_getElem?.mp hx
      have hnot := hnever c x hc (Call.refused_of_lateRefusal hlateRefusal)
      rw [hcounted c x hc, hlateRefusal] at hnot
      cases hnot
    rw [hzero hnone] at hcount
    intro x hx
    refine ⟨?_, hlate x hx ▸ hnone x hx⟩
    rw [← hexhausted x hx]
    exact Bool.eq_false_of_not_eq_true (List.countP_eq_zero.mp hcount.symm x hx)
  · intro h
    have hnone : ∀ x ∈ s.calls, x.lateRefusal config = false :=
      fun x hx ↦ (hlate x hx).trans (h x hx).2
    refine ⟨?_, fun c x hx _ ↦ ?_⟩
    · rw [hzero hnone, List.countP_eq_zero.mpr fun x hx ↦ ?_]
      rw [hexhausted x hx, (h x hx).1]
      exact Bool.false_ne_true
    · rw [hcounted c x hx, hnone x (List.mem_of_getElem? hx)]
      rfl

/-- Three retries, without jitter. -/
def thrice : RetryConfigBuilder := RetryConfigBuilder.default.withoutJitter.maxAttempts 3

/-- The connection is lost, and then the request is refused. -/
def lostThenRefused : Nat → Outcome
  | 0 => .error (.connection "lost")
  | _ => .error (.protocol "refused")

/-- A call that fails in its second execution, one that fails at once, and one that recovers. -/
def refusedEarlyRun : List Label :=
  [.call lostThenRefused 0, .attempt 0, .call (fun _ ↦ .error (.protocol "refused")) 0, .attempt 1,
    .call recovering 0, .attempt 2, .attempt 0, .attempt 2]

/-- Two calls have failed, and neither counts as exhausted. -/
theorem exhaustion_count_recovering : ∃ s,
    (machine thrice.config .doubling).run refusedEarlyRun = some s ∧
      (s.calls.map fun x ↦ x.executions) = [2, 1, 2] ∧
      s.metrics.getFailedAfterMaxRetries.toNat = s.calls.countP (Call.exhausted thrice.config) ∧
        ∀ (c : Nat) x, s.calls[c]? = some x → x.Refused thrice.config →
          (machine thrice.config .doubling).countSteps (countsFor c)
            (machine thrice.config .doubling).init refusedEarlyRun = 0 :=
  ⟨_, rfl, rfl, (exhaustion_count_iff thrice thrice.config rfl .doubling refusedEarlyRun _ rfl
    (by decide)).mpr (by decide)⟩

/-- A call whose request is refused at once. -/
def refusedRun : List Label := [.call (fun _ ↦ .error (.protocol "refused")) 0, .attempt 0]

/-- **The counter misses the exhausted calls and counts others**: a call that runs out of retries
leaves it at zero, and one that is refused without a single retry does not. -/
theorem exhausted_call_missed : once.build = .ok once.config ∧
    (∃ s, (machine once.config .doubling).run lostRun = some s ∧ s.Completed ∧
      s.calls.countP (Call.exhausted once.config) = 1 ∧
      s.metrics.getFailedAfterMaxRetries = 0 ∧
      s.metrics.getFailedAfterMaxRetries ≠
        .ofNat (s.calls.countP (Call.exhausted once.config))) ∧
    ∃ s, (machine once.config .doubling).run refusedRun = some s ∧ s.Completed ∧
      s.calls.countP (Call.exhausted once.config) = 0 ∧
      s.metrics.getFailedAfterMaxRetries = 1 :=
  ⟨rfl, ⟨_, rfl, by decide, rfl, rfl, by decide⟩, _, rfl, by decide, rfl, rfl⟩

end RetryClient

end Zel
