import Mathlib.Data.List.Iterate
import Zel.Lib.Binary32
import Zel.Lib.Retry
import Zel.Types

/-!
# Calls that are retried

`call_with_retry` (`client.rs`) runs `call_internal` in a closure that counts its executions and
keeps the metrics, and hands the closure to backon.  A `RetryConfig` says how often, with which
delays and after which errors; `max_attempts` is what backon calls `max_times`, the number of delays
and so of executions beyond the first one.

Neither backon's delays nor what a call of `call_internal` comes to is decided here: `Backon` has
the one property of the delays that matters, their number, and the outcomes are an arbitrary
sequence.

## What is here

* `RetryConfig`, `RetryConfigBuilder` — the configuration.
* `RetryMetrics` — the counters.
* `callWithRetry` — the function.
* `retry_loop` — **what it does.**
-/

set_option autoImplicit false

namespace Zel

/-! ## The configuration -/

/-- `ConfigError` -/
inductive ConfigError where
  | invalidMaxAttempts (got : UInt32)
  | invalidBackoffRange (initial max : Duration)
  | invalidMultiplier (got : Binary32)
  deriving DecidableEq

/-- `ErrorPredicate` -/
inductive ErrorPredicate where
  | networkOnly
  | networkAndTimeout
  | custom (predicate : ClientError → Bool)

/-- `RetryConfig` -/
structure RetryConfig where
  maxAttempts : UInt32
  initialBackoff : Duration
  maxBackoff : Duration
  backoffMultiplier : Binary32
  jitter : Bool
  retryableErrors : ErrorPredicate

namespace RetryConfig

/-- `Default`: three retries, from 100 milliseconds to 30 seconds. -/
def default : RetryConfig where
  maxAttempts := 3
  initialBackoff := 100 * 10 ^ 6
  maxBackoff := 30 * 10 ^ 9
  backoffMultiplier := .two
  jitter := true
  retryableErrors := .networkOnly

/-- `is_retryable` -/
def isRetryable (config : RetryConfig) (error : ClientError) : Bool :=
  match config.retryableErrors, error with
  | .networkOnly, .connection _ | .networkOnly, .io _ => true
  | .networkOnly, _ => false
  | .networkAndTimeout, .connection _ | .networkAndTimeout, .io _
  | .networkAndTimeout, .protocol _ => true
  | .networkAndTimeout, _ => false
  | .custom predicate, error => predicate error

end RetryConfig

/-- `RetryConfigBuilder` -/
structure RetryConfigBuilder where
  config : RetryConfig

namespace RetryConfigBuilder

/-- `RetryConfig::builder` -/
def default : RetryConfigBuilder := ⟨.default⟩

def maxAttempts (b : RetryConfigBuilder) (attempts : UInt32) : RetryConfigBuilder :=
  ⟨{ b.config with maxAttempts := attempts }⟩

def initialBackoff (b : RetryConfigBuilder) (duration : Duration) : RetryConfigBuilder :=
  ⟨{ b.config with initialBackoff := duration }⟩

def maxBackoff (b : RetryConfigBuilder) (duration : Duration) : RetryConfigBuilder :=
  ⟨{ b.config with maxBackoff := duration }⟩

def backoffMultiplier (b : RetryConfigBuilder) (multiplier : Binary32) : RetryConfigBuilder :=
  ⟨{ b.config with backoffMultiplier := multiplier }⟩

def withJitter (b : RetryConfigBuilder) : RetryConfigBuilder :=
  ⟨{ b.config with jitter := true }⟩

def withoutJitter (b : RetryConfigBuilder) : RetryConfigBuilder :=
  ⟨{ b.config with jitter := false }⟩

def retryNetworkErrorsOnly (b : RetryConfigBuilder) : RetryConfigBuilder :=
  ⟨{ b.config with retryableErrors := .networkOnly }⟩

def retryNetworkAndTimeout (b : RetryConfigBuilder) : RetryConfigBuilder :=
  ⟨{ b.config with retryableErrors := .networkAndTimeout }⟩

def withCustomPredicate (b : RetryConfigBuilder) (predicate : ClientError → Bool) :
    RetryConfigBuilder := ⟨{ b.config with retryableErrors := .custom predicate }⟩

/-- `build` -/
def build (b : RetryConfigBuilder) : Except ConfigError RetryConfig :=
  if b.config.maxAttempts = 0 then .error (.invalidMaxAttempts 0)
  else if b.config.initialBackoff ≥ b.config.maxBackoff then
    .error (.invalidBackoffRange b.config.initialBackoff b.config.maxBackoff)
  else if b.config.backoffMultiplier ≤ .one then
    .error (.invalidMultiplier b.config.backoffMultiplier)
  else .ok b.config

/-- What `build` lets through is what was set, and it allows a retry. -/
theorem build_eq_ok {b : RetryConfigBuilder} {config : RetryConfig} (h : b.build = .ok config) :
    config = b.config ∧ config.maxAttempts ≠ 0 := by
  rw [build] at h
  split at h
  · cases h
  · rename_i hmax
    split at h
    · cases h
    · split at h
      · cases h
      · cases h
        exact ⟨rfl, hmax⟩

end RetryConfigBuilder

/-! ## backon -/

/-- `backon::ExponentialBuilder`, as far as it is set. -/
structure ExponentialBuilder where
  maxTimes : Nat
  minDelay : Duration
  maxDelay : Duration
  factor : Binary32
  jitter : Bool

/-- The delays that backon makes of a builder; with jitter they differ from call to call. -/
structure Backon where
  delays : ExponentialBuilder → Nat → List Duration
  /-- `with_max_times(n)` yields `n` delays. -/
  length_delays : ∀ b draw, (delays b draw).length = b.maxTimes

/-- `as_secs_f32` -/
def asSecsF32 (d : Duration) : Rat :=
  let secs : Nat := d / 10 ^ 9
  let nanos : Nat := d % 10 ^ 9
  Binary32.nearest (Binary32.nearest secs + Binary32.nearest (Binary32.nearest nanos / 10 ^ 9))

/-- The delay after this one, with a factor of two. -/
def ExponentialBuilder.doubled (b : ExponentialBuilder) (d : Duration) : Duration :=
  if d < b.maxDelay then
    min b.maxDelay (Binary32.roundEven (2 * asSecsF32 d * 10 ^ 9)).toNat
  else b.maxDelay

/-- What backon does with a factor of two and without jitter. -/
def Backon.doubling : Backon where
  delays b _ := List.iterate b.doubled b.minDelay b.maxTimes
  length_delays _ _ := List.length_iterate ..

/-- The delays are single-precision numbers of seconds. -/
example : Backon.doubling.delays ⟨3, 100 * 10 ^ 6, 30 * 10 ^ 9, .two, false⟩ 0 =
    [100000000, 200000003, 400000006] := by decide +kernel

/-- The `retry_policy` of `call_with_retry`. -/
def RetryConfig.policy (config : RetryConfig) : ExponentialBuilder where
  maxTimes := config.maxAttempts.toNat
  minDelay := config.initialBackoff
  maxDelay := config.maxBackoff
  factor := config.backoffMultiplier
  jitter := config.jitter

/-! ## The metrics -/

/-- `RetryMetrics` -/
structure RetryMetrics where
  totalRetries : UInt64
  successfulAfterRetry : UInt64
  failedAfterMaxRetries : UInt64
  deriving DecidableEq

namespace RetryMetrics

/-- `RetryMetrics::new` -/
def new : RetryMetrics := ⟨0, 0, 0⟩

/-- `increment_total_retries` -/
def incrementTotalRetries (m : RetryMetrics) : RetryMetrics :=
  { m with totalRetries := m.totalRetries + 1 }

/-- `record_success_after_retry` -/
def recordSuccessAfterRetry (m : RetryMetrics) : RetryMetrics :=
  { m with successfulAfterRetry := m.successfulAfterRetry + 1 }

/-- `record_max_retries_exceeded` -/
def recordMaxRetriesExceeded (m : RetryMetrics) : RetryMetrics :=
  { m with failedAfterMaxRetries := m.failedAfterMaxRetries + 1 }

/-- `get_total_retries` -/
def getTotalRetries (m : RetryMetrics) : UInt64 := m.totalRetries

/-- `get_successful_after_retry` -/
def getSuccessfulAfterRetry (m : RetryMetrics) : UInt64 := m.successfulAfterRetry

/-- `get_failed_after_max_retries` -/
def getFailedAfterMaxRetries (m : RetryMetrics) : UInt64 := m.failedAfterMaxRetries

end RetryMetrics

/-! ## The loop -/

/-- What an execution of `call_internal` comes to. -/
abbrev Outcome := Except ClientError Response

/-- The `match` of the closure, on metrics.  The subtraction wraps around as in a release build. -/
def RetryConfig.record (config : RetryConfig) (currentAttempt : UInt64) (result : Outcome)
    (m : RetryMetrics) : RetryMetrics :=
  match result with
  | .ok _ => if currentAttempt > 0 then m.recordSuccessAfterRetry else m
  | .error e =>
    if config.isRetryable e then m.incrementTotalRetries
    else if currentAttempt ≥ config.maxAttempts.toUInt64 - 1 then m.recordMaxRetriesExceeded
    else m

/-- What the executions of the closure leave behind. -/
structure Attempts where
  /-- How often `call_internal` ran. -/
  executions : Nat
  /-- The attempt counter. -/
  attempt : UInt64
  metrics : Option RetryMetrics

/-- The closure of `call_with_retry`, with the outcomes of `call_internal` one after the other. -/
def RetryConfig.closure (config : RetryConfig) (outcomes : Nat → Outcome) (a : Attempts) :
    Outcome × Attempts :=
  let result := outcomes a.executions
  (result, ⟨a.executions + 1, a.attempt + 1, a.metrics.map (config.record a.attempt result)⟩)

/-- `call_with_retry` -/
def callWithRetry (backon : Backon) (draw : Nat) (config : RetryConfig)
    (outcomes : Nat → Outcome) (metrics : Option RetryMetrics) : Outcome × Attempts :=
  Retry.drive config.isRetryable (config.closure outcomes) (backon.delays config.policy draw)
    ⟨0, 0, metrics⟩

/-! ## What the loop does -/

namespace RetryConfig

/-- The closure counts a success that is not the first execution, and nothing else. -/
theorem getSuccessfulAfterRetry_record (config : RetryConfig) (currentAttempt : UInt64)
    (result : Outcome) (m : RetryMetrics) :
    (config.record currentAttempt result m).getSuccessfulAfterRetry =
      if result.isOk ∧ 0 < currentAttempt then m.getSuccessfulAfterRetry + 1
      else m.getSuccessfulAfterRetry := by
  cases result with
  | ok resp =>
    rw [record]
    by_cases h : 0 < currentAttempt
    · rw [if_pos h, if_pos ⟨rfl, h⟩]
      rfl
    · rw [if_neg h, if_neg fun hc ↦ h hc.2]
  | error e =>
    have hno : ¬((Except.error e : Outcome).isOk = true ∧ 0 < currentAttempt) :=
      fun hc ↦ Bool.noConfusion hc.1
    rw [if_neg hno, record]
    split
    · rfl
    · split <;> rfl

variable (config : RetryConfig) (outcomes : Nat → Outcome) (metrics : Option RetryMetrics)

/-- What `i` executions of the closure leave behind. -/
def after (i : Nat) : Attempts :=
  (fun a ↦ (config.closure outcomes a).2)^[i] ⟨0, 0, metrics⟩

theorem after_succ (i : Nat) :
    config.after outcomes metrics (i + 1) =
      (config.closure outcomes (config.after outcomes metrics i)).2 :=
  Function.iterate_succ_apply' ..

theorem executions_after (i : Nat) : (config.after outcomes metrics i).executions = i := by
  induction i with
  | zero => rfl
  | succ i ih =>
    rw [after_succ]
    exact congrArg Nat.succ ih

theorem attempt_after (i : Nat) : (config.after outcomes metrics i).attempt = .ofNat i := by
  induction i with
  | zero => rfl
  | succ i ih =>
    rw [after_succ, UInt64.ofNat_add]
    exact congrArg (· + 1) ih

/-- Executions that are all worth a retry do not count as successes. -/
theorem getSuccessfulAfterRetry_after {i : Nat}
    (h : ∀ j < i, Retry.final config.isRetryable (outcomes j) = false) :
    (config.after outcomes metrics i).metrics.map RetryMetrics.getSuccessfulAfterRetry =
      metrics.map RetryMetrics.getSuccessfulAfterRetry := by
  induction i with
  | zero => rfl
  | succ i ih =>
    have hfailed : (outcomes i).isOk = false := by
      have hlast := h i (Nat.lt_succ_self i)
      cases hi : outcomes i with
      | ok resp =>
        rw [hi] at hlast
        cases hlast
      | error e => rfl
    rw [← ih fun j hj ↦ h j (Nat.lt_succ_of_lt hj), after_succ, closure, executions_after,
      Option.map_map]
    refine Option.map_congr fun m _ ↦ ?_
    rw [Function.comp_apply, getSuccessfulAfterRetry_record, hfailed,
      if_neg fun h ↦ Bool.false_ne_true h.1]

/-- The attempt counter does not wrap around. -/
theorem toNat_ofNat_of_le {k : Nat} (hk : k ≤ config.maxAttempts.toNat) :
    (UInt64.ofNat k).toNat = k := by
  have hmax := config.maxAttempts.toNat_lt
  exact UInt64.toNat_ofNat_of_lt (Nat.lt_of_le_of_lt hk (Nat.lt_trans hmax (by decide)))

end RetryConfig

/-- The loop as a whole: the index at which it stops, and what is left behind. -/
theorem callWithRetry_eq (backon : Backon) (draw : Nat) (config : RetryConfig)
    (outcomes : Nat → Outcome) (metrics : Option RetryMetrics) :
    ∃ k, Retry.StopsAt config.isRetryable outcomes config.maxAttempts.toNat k ∧
      callWithRetry backon draw config outcomes metrics =
        (outcomes k, config.after outcomes metrics (k + 1)) := by
  obtain ⟨k, hk, hdrive⟩ := @Retry.drive_eq _ _ _ _ config.isRetryable (config.closure outcomes)
    (backon.delays config.policy draw) ⟨0, 0, metrics⟩
  have hresult : ∀ i, (config.closure outcomes (config.after outcomes metrics i)).1 = outcomes i :=
    fun i ↦ congrArg outcomes (config.executions_after outcomes metrics i)
  refine ⟨k, ?_, ?_⟩
  · rw [backon.length_delays] at hk
    exact funext hresult ▸ hk
  · rw [callWithRetry, hdrive, config.after_succ, ← hresult k]
    rfl

/-- **The retry loop.**  For every configuration, every error predicate and every sequence of
outcomes, `call_internal` runs up to the least index at which it succeeds or fails with an error
that is not retried, or else `max_attempts` times more than once; the last outcome is the result;
and the successes after a retry grow by one exactly if the last outcome is a success and not the
first. -/
theorem retry_loop (backon : Backon) (draw : Nat) (config : RetryConfig)
    (outcomes : Nat → Outcome) (metrics : Option RetryMetrics) :
    ∃ k, IsLeast {i | i = config.maxAttempts.toNat ∨
        Retry.final config.isRetryable (outcomes i) = true} k ∧
      (callWithRetry backon draw config outcomes metrics).1 = outcomes k ∧
      (callWithRetry backon draw config outcomes metrics).2.executions = k + 1 ∧
      (callWithRetry backon draw config outcomes metrics).2.metrics.map
          RetryMetrics.getSuccessfulAfterRetry =
        metrics.map fun m ↦
          if (outcomes k).isOk ∧ 0 < k then m.getSuccessfulAfterRetry + 1
          else m.getSuccessfulAfterRetry := by
  obtain ⟨k, hk, hcall⟩ := callWithRetry_eq backon draw config outcomes metrics
  refine ⟨k, hk, ?_, ?_, ?_⟩
  · rw [hcall]
  · rw [hcall, config.executions_after]
  · have hbefore := config.getSuccessfulAfterRetry_after outcomes metrics fun _ ↦ hk.not_final
    have hpos : 0 < UInt64.ofNat k ↔ 0 < k := by
      rw [UInt64.lt_iff_toNat_lt, config.toNat_ofNat_of_le hk.le]
      rfl
    have hlast : RetryMetrics.getSuccessfulAfterRetry ∘ config.record (.ofNat k) (outcomes k) =
        (fun n ↦ if (outcomes k).isOk ∧ 0 < k then n + 1 else n) ∘
          RetryMetrics.getSuccessfulAfterRetry := by
      funext m
      rw [Function.comp_apply, RetryConfig.getSuccessfulAfterRetry_record]
      simp only [hpos, Function.comp_apply]
    rw [hcall, config.after_succ, RetryConfig.closure, config.executions_after,
      config.attempt_after, Option.map_map, hlast, ← Option.map_map, hbefore, Option.map_map]
    rfl

end Zel
