import Zel.Retry

/-!
# Which retry configurations exist

A `RetryConfig` comes from `Default` or from the builder, whose setters take anything and whose
`build` is to reject what its documentation excludes: no attempts, a backoff that starts at or above
its maximum, a multiplier that is not greater than one.  `build` tests for the opposites, and for
the multiplier, which is an `f32`, the opposite of a comparison is not the opposite comparison: what
is no number is not less than or equal to one either.

## What is here

* `Setter`, `Origin` — the ways to a `RetryConfig`.
* `RetryConfig.Valid` — the documented constraints.
* `validated_iff` — **when they are enforced.**
-/

set_option autoImplicit false

namespace Zel

/-! ## The ways to a configuration -/

namespace RetryConfigBuilder

/-- A call of a setter. -/
inductive Setter where
  | maxAttempts (attempts : UInt32)
  | initialBackoff (duration : Duration)
  | maxBackoff (duration : Duration)
  | backoffMultiplier (multiplier : Binary32)
  | withJitter
  | withoutJitter
  | retryNetworkErrorsOnly
  | retryNetworkAndTimeout
  | withCustomPredicate (predicate : ClientError → Bool)

def set (b : RetryConfigBuilder) : Setter → RetryConfigBuilder
  | .maxAttempts attempts => b.maxAttempts attempts
  | .initialBackoff duration => b.initialBackoff duration
  | .maxBackoff duration => b.maxBackoff duration
  | .backoffMultiplier multiplier => b.backoffMultiplier multiplier
  | .withJitter => b.withJitter
  | .withoutJitter => b.withoutJitter
  | .retryNetworkErrorsOnly => b.retryNetworkErrorsOnly
  | .retryNetworkAndTimeout => b.retryNetworkAndTimeout
  | .withCustomPredicate predicate => b.withCustomPredicate predicate

end RetryConfigBuilder

open RetryConfigBuilder

/-- What the public API offers to get a `RetryConfig`. -/
inductive Origin where
  /-- `RetryConfig::default()` -/
  | default
  /-- `RetryConfig::builder()`, these setters one after the other, and `build()`. -/
  | builder (setters : List Setter)

namespace Origin

/-- The configuration as it was set, before it is validated. -/
def requested : Origin → RetryConfig
  | .default => .default
  | .builder setters => (setters.foldl set .default).config

def get : Origin → Except ConfigError RetryConfig
  | .default => .ok .default
  | .builder setters => (setters.foldl set .default).build

end Origin

/-! ## What is documented -/

namespace RetryConfig

/-- The constraints in the documentation of `build`. -/
structure Valid (config : RetryConfig) : Prop where
  attempts : 0 < config.maxAttempts
  backoff : config.initialBackoff < config.maxBackoff
  multiplier : .one < config.backoffMultiplier

theorem valid_default : Valid .default := by
  constructor <;> decide

/-- `max_attempts as u64 - 1` in the closure of `call_with_retry` does not underflow. -/
def NoUnderflow (config : RetryConfig) : Prop := 1 ≤ config.maxAttempts.toUInt64

theorem noUnderflow_of_pos {config : RetryConfig} (h : 0 < config.maxAttempts) :
    config.NoUnderflow := by
  rw [NoUnderflow, UInt64.le_iff_toNat_le, UInt32.toNat_toUInt64]
  exact UInt32.lt_iff_toNat_lt.mp h

/-- What `build` does not see: the multiplier is no number, and nothing else is wrong. -/
def OnlyNaN (config : RetryConfig) : Prop :=
  0 < config.maxAttempts ∧ config.initialBackoff < config.maxBackoff ∧
    config.backoffMultiplier.isNaN = true

theorem OnlyNaN.not_valid {config : RetryConfig} (h : config.OnlyNaN) : ¬ config.Valid :=
  fun hvalid ↦ Binary32.not_lt_of_isNaN h.2.2 hvalid.multiplier

end RetryConfig

/-! ## What is enforced -/

/-- **What `build` accepts**: the valid configurations, and those whose multiplier is no number. -/
theorem RetryConfigBuilder.build_eq_ok_iff {b : RetryConfigBuilder} {config : RetryConfig} :
    b.build = .ok config ↔ config = b.config ∧ (b.config.Valid ∨ b.config.OnlyNaN) := by
  refine ⟨fun h ↦ ?_, ?_⟩
  · obtain ⟨rfl, hmax⟩ := build_eq_ok h
    have hattempts : 0 < b.config.maxAttempts := UInt32.pos_iff_ne_zero.mpr hmax
    rw [build, if_neg hmax] at h
    split at h
    · cases h
    · rename_i hrange
      have hbackoff : b.config.initialBackoff < b.config.maxBackoff := Nat.not_le.mp hrange
      split at h
      · cases h
      · rename_i hle
        refine ⟨rfl, ?_⟩
        rcases Binary32.not_le_iff.mp hle with hnan | hone | hlt
        · exact Or.inr ⟨hattempts, hbackoff, hnan⟩
        · exact absurd hone (by decide)
        · exact Or.inl ⟨hattempts, hbackoff, hlt⟩
  · rintro ⟨rfl, h⟩
    have hle : ¬ b.config.backoffMultiplier ≤ .one := by
      rw [Binary32.not_le_iff]
      rcases h with h | h
      · exact Or.inr (Or.inr h.multiplier)
      · exact Or.inl h.2.2
    have hmax : b.config.maxAttempts ≠ 0 :=
      UInt32.pos_iff_ne_zero.mp (h.elim (·.attempts) (·.1))
    have hrange : ¬ b.config.initialBackoff ≥ b.config.maxBackoff :=
      Nat.not_le.mpr (h.elim (·.backoff) (·.2.1))
    rw [build, if_neg hmax, if_neg hrange, if_neg hle]

namespace Origin

theorem get_eq_ok_iff {o : Origin} {config : RetryConfig} :
    o.get = .ok config ↔ config = o.requested ∧ (o.requested.Valid ∨ o.requested.OnlyNaN) := by
  cases o with
  | default =>
    refine ⟨fun h ↦ ?_, ?_⟩
    · cases h
      exact ⟨rfl, Or.inl RetryConfig.valid_default⟩
    · rintro ⟨rfl, -⟩
      rfl
  | builder setters => exact build_eq_ok_iff

/-- The public API gives out no configuration that violates a constraint, and each one that would is
rejected; so the subtraction in `call_with_retry` is safe. -/
structure Validated (o : Origin) : Prop where
  valid : ∀ config, o.get = .ok config → config.Valid
  rejected : ¬ o.requested.Valid → ∃ e, o.get = .error e
  noUnderflow : ∀ config, o.get = .ok config → config.NoUnderflow

/-- Whatever the multiplier, there is an attempt. -/
theorem noUnderflow_of_get {o : Origin} {config : RetryConfig} (h : o.get = .ok config) :
    config.NoUnderflow := by
  obtain ⟨rfl, hok⟩ := get_eq_ok_iff.mp h
  exact RetryConfig.noUnderflow_of_pos (hok.elim (·.attempts) (·.1))

end Origin

/-- **When the constraints are enforced.**  `Default` and any sequence of setters with a `build` at
its end give out valid configurations only, and reject all others, if and only if the multiplier is
a number or there is something else to reject. -/
theorem validated_iff (o : Origin) : o.Validated ↔ ¬ o.requested.OnlyNaN := by
  refine ⟨fun h hnan ↦ ?_, fun hnan ↦ ?_⟩
  · have hget : o.get = .ok o.requested := Origin.get_eq_ok_iff.mpr ⟨rfl, Or.inr hnan⟩
    exact hnan.not_valid (h.valid _ hget)
  · refine ⟨fun config h ↦ ?_, fun hinvalid ↦ ?_, fun config h ↦ Origin.noUnderflow_of_get h⟩
    · obtain ⟨rfl, hok⟩ := Origin.get_eq_ok_iff.mp h
      exact hok.resolve_right hnan
    · cases h : o.get with
      | error e => exact ⟨e, rfl⟩
      | ok config =>
        obtain ⟨-, hok⟩ := Origin.get_eq_ok_iff.mp h
        exact absurd (hok.resolve_right hnan) hinvalid

/-- **A multiplier that is no number is accepted.** -/
theorem nan_multiplier_accepted : ∃ config,
    (Origin.builder [.backoffMultiplier .nan]).get = .ok config ∧
      ¬ .one < config.backoffMultiplier ∧
      ¬ (Origin.builder [.backoffMultiplier .nan]).Validated := by
  refine ⟨_, rfl, by decide, fun h ↦ ?_⟩
  exact absurd (h.valid _ rfl).multiplier (by decide)

end Zel
