import Mathlib.Logic.Function.Basic
import Zel.ErrorClassification
import Zel.Lib.Binary64
import Zel.Lib.Breaker
import Zel.Lib.Machine

/-!
# Per-peer circuit breakers

`protocol/circuit_breaker.rs`: one breaker for each peer, made when the peer's first call arrives.
The breakers themselves are `circuitbreaker-rs`'s and enter as a parameter: for the settings that
`create_circuit_breaker` hands to the builder, the operations on the breakers it builds.  A
`CircuitBreaker` value is a handle to shared state; the map holds one handle for each peer and
every call works on a clone of it.

## What is here

* `CircuitBreakerConfig`, `createCircuitBreaker` — the configuration and what the breaker is built
  from.
* `PeerCircuitBreakers`, `callAsync` — the map and one call, from the lookup to the unwrapped
  result.
* `Calls.machine` — any number of concurrent calls by any number of peers, each a step that obtains
  the breaker, a step that asks it, and a step that reports the outcome.
-/

set_option autoImplicit false

namespace Zel

/-! ## Errors -/

/-- `ServiceError` -/
inductive ServiceError where
  | application (message : String)
  | infrastructure (message : String)
  | systemFailure (message : String)
  deriving DecidableEq

namespace ServiceError

/-- `severity` -/
def severity : ServiceError → ErrorSeverity
  | .application _ => .application
  | .infrastructure _ => .infrastructure
  | .systemFailure _ => .systemFailure

/-- `from_severity_and_msg` -/
def fromSeverityAndMsg : ErrorSeverity → String → ServiceError
  | .application, message => .application message
  | .infrastructure, message => .infrastructure message
  | .systemFailure, message => .systemFailure message

/-- The text that `Display` shows. -/
def toString : ServiceError → String
  | .application message => "Application error: " ++ message
  | .infrastructure message => "Infrastructure error: " ++ message
  | .systemFailure message => "System failure: " ++ message

@[simp] theorem severity_fromSeverityAndMsg (s : ErrorSeverity) (m : String) :
    (fromSeverityAndMsg s m).severity = s := by cases s <;> rfl

end ServiceError

/-- `circuitbreaker_rs::BreakerError` -/
inductive BreakerError where
  /-- `Open` -/
  | opened
  /-- `Operation` -/
  | operation (e : ServiceError)
  /-- What else the breaker may fail with, by its text. -/
  | other (message : String)
  deriving DecidableEq

/-! ## Configuration -/

/-- `CircuitBreakerConfig` -/
structure CircuitBreakerConfig where
  failureRate : Binary64
  consecutiveFailures : Option Nat
  consecutiveSuccesses : Option Nat
  timeout : Duration
  probeInterval : Option Nat
  errorClassifier : ErrorClassifier

/-- `CircuitBreakerConfig::default` -/
def CircuitBreakerConfig.default : CircuitBreakerConfig where
  failureRate := .number (1 / 2)
  consecutiveFailures := some 5
  consecutiveSuccesses := some 2
  timeout := 30000000000
  probeInterval := some 3
  errorClassifier := .default

/-- What the builder of `circuitbreaker-rs` is given. -/
structure BreakerSettings where
  failureThreshold : Binary64
  cooldown : Duration
  consecutiveFailures : Option Nat
  consecutiveSuccesses : Option Nat
  probeInterval : Option Nat

/-- The builder calls of `create_circuit_breaker`. -/
def createCircuitBreaker (config : CircuitBreakerConfig) : BreakerSettings where
  failureThreshold := config.failureRate
  cooldown := config.timeout
  consecutiveFailures := config.consecutiveFailures
  consecutiveSuccesses := config.consecutiveSuccesses
  probeInterval := config.probeInterval

/-- The limits of standard breakers with these settings.  What the settings leave open, and how many
calls it takes for a rate to count, is as in `defaults`. -/
def BreakerSettings.limits (defaults : Breaker.Limits) (settings : BreakerSettings) :
    Breaker.Limits where
  rate := settings.failureThreshold.value
  throughput := defaults.throughput
  failures := settings.consecutiveFailures.or defaults.failures
  successes := settings.consecutiveSuccesses.getD defaults.successes
  cooldown := settings.cooldown
  probes := settings.probeInterval.getD defaults.probes

/-- A library for examples of runs: its breakers are standard ones. -/
def documented (defaults : Breaker.Limits) (config : CircuitBreakerConfig) :
    Breaker.Ops Breaker.Circuit :=
  Breaker.standard ((createCircuitBreaker config).limits defaults)

/-- The defaults of such a library. -/
def anyLimits : Breaker.Limits := ⟨none, 10, none, 1, 0, 0⟩

/-- A configuration that opens a circuit at the first failure. -/
def sensitive : CircuitBreakerConfig :=
  { CircuitBreakerConfig.default with consecutiveFailures := some 1 }

/-- Open circuits of this library are open as is to be expected. -/
theorem openBreakers_documented (defaults : Breaker.Limits) (config : CircuitBreakerConfig) :
    (documented defaults config).OpenBreakers config.timeout fun c since ↦ c = .opened since :=
  Breaker.openBreakers_standard

/-- `CircuitState` -/
inductive CircuitState where
  | closed
  | opened
  | halfOpen
  deriving DecidableEq

/-- The conversion in `get_stats`. -/
def CircuitState.ofMode : Breaker.Mode → CircuitState
  | .closed => .closed
  | .opened => .opened
  | .halfOpen => .halfOpen

/-! ## One call -/

section Results

variable {T : Type}

/-- What the operation's outcome becomes inside the breaker: application errors are passed as a
success. -/
def closureResult (classifier : ErrorClassifier) :
    Except AnyhowError T → Except ServiceError (Except ServiceError T)
  | .ok value => .ok (.ok value)
  | .error e =>
    let severity := classifier.classify e
    let serviceError := ServiceError.fromSeverityAndMsg severity e.toString
    match severity with
    | .application => .ok (.error serviceError)
    | .infrastructure | .systemFailure => .error serviceError

/-- The breaker's own `call_async` wraps the closure's error. -/
def breakerResult (r : Except ServiceError (Except ServiceError T)) :
    Except BreakerError (Except ServiceError T) := r.mapError .operation

/-- The double `Result` is unwrapped. -/
def unwrapResult : Except BreakerError (Except ServiceError T) → Except BreakerError T
  | .ok (.ok value) => .ok value
  | .ok (.error appError) => .error (.operation appError)
  | .error severeError => .error severeError

end Results

/-- The shared state of a `PeerCircuitBreakers`: the map, and the breakers that its handles lead
to.  Handles from `next` on are unused. -/
structure PeerCircuitBreakers (Peer B : Type) where
  breakers : Peer → Option Nat
  heap : Nat → B
  next : Nat

namespace PeerCircuitBreakers

variable {Peer B T : Type} [DecidableEq Peer] (ops : Breaker.Ops B)

/-- `PeerCircuitBreakers::new` -/
def new : PeerCircuitBreakers Peer B := ⟨fun _ ↦ none, fun _ ↦ ops.build, 0⟩

/-- `entry(peer).or_insert_with(create_circuit_breaker).clone()`, under the write lock. -/
def entry (s : PeerCircuitBreakers Peer B) (p : Peer) : Nat × PeerCircuitBreakers Peer B :=
  match s.breakers p with
  | some h => (h, s)
  | none => (s.next,
      { breakers := Function.update s.breakers p (some s.next)
        heap := Function.update s.heap s.next ops.build
        next := s.next + 1 })

/-- The breaker behind a handle changes. -/
def setBreaker (s : PeerCircuitBreakers Peer B) (h : Nat) (b : B) : PeerCircuitBreakers Peer B :=
  { s with heap := Function.update s.heap h b }

/-- The breaker that the peer's next call finds. -/
def breaker (s : PeerCircuitBreakers Peer B) (p : Peer) : B :=
  match s.breakers p with
  | some h => s.heap h
  | none => ops.build

/-- `get_stats`, at a given time. -/
def getStats (s : PeerCircuitBreakers Peer B) (now : Nat) (p : Peer) : Option CircuitState :=
  (s.breakers p).map fun h ↦ CircuitState.ofMode (ops.currentState (s.heap h) now)

/-- `call_async` without another call in between: it asks at `start` and, if the operation runs,
that is over at `done` with this outcome. -/
def callAsync (classifier : ErrorClassifier) (s : PeerCircuitBreakers Peer B) (p : Peer)
    (start done : Nat) (outcome : Except AnyhowError T) :
    Except BreakerError T × PeerCircuitBreakers Peer B :=
  let (h, s) := s.entry ops p
  let (admitted, b) := ops.allow (s.heap h) start
  if admitted then
    let r := closureResult classifier outcome
    (unwrapResult (breakerResult r), s.setBreaker h (ops.record b done r.toBool))
  else (.error .opened, s.setBreaker h b)

end PeerCircuitBreakers

/-! ## Concurrent calls -/

namespace Calls

/-- Where a call of `call_async` stands. -/
inductive Phase (T : Type) where
  /-- It has its clone of the breaker. -/
  | obtained
  /-- It was admitted, and its operation runs. -/
  | running
  | returned (r : Except BreakerError T)

/-- A call, with the handle it works on. -/
structure Call (T : Type) where
  handle : Nat
  phase : Phase T

/-- The breakers, and every call ever made. -/
structure State (Peer B T : Type) where
  shared : PeerCircuitBreakers Peer B
  calls : Peer → List (Call T)

/-- The steps of the calls; `k` counts the calls of a peer. -/
inductive Label (Peer T : Type) where
  | obtain (p : Peer)
  | allow (p : Peer) (k now : Nat)
  | finish (p : Peer) (k now : Nat) (outcome : Except AnyhowError T)

/-- The peer that a step belongs to. -/
def Label.peer {Peer T : Type} : Label Peer T → Peer
  | .obtain p => p
  | .allow p _ _ => p
  | .finish p _ _ _ => p

variable {Peer B T : Type} [DecidableEq Peer] (ops : Breaker.Ops B) (classifier : ErrorClassifier)

/-- Call `k` of peer `p`, which holds handle `h`, moves to another phase and leaves the breaker in
another state. -/
def State.setCall (s : State Peer B T) (p : Peer) (k h : Nat) (ph : Phase T) (b : B) :
    State Peer B T :=
  ⟨s.shared.setBreaker h b, Function.update s.calls p ((s.calls p).set k ⟨h, ph⟩)⟩

/-- The phase that admission leads to. -/
def Phase.ofAdmitted {T : Type} (admitted : Bool) : Phase T :=
  if admitted then .running else .returned (.error .opened)

/-- The phase that an outcome leads to. -/
def Phase.ofOutcome {T : Type} (classifier : ErrorClassifier) (outcome : Except AnyhowError T) :
    Phase T :=
  .returned (unwrapResult (breakerResult (closureResult classifier outcome)))

/-- One step of one call. -/
def step (s : State Peer B T) : Label Peer T → Option (State Peer B T)
  | .obtain p =>
    let (h, shared) := s.shared.entry ops p
    some ⟨shared, Function.update s.calls p (s.calls p ++ [⟨h, .obtained⟩])⟩
  | .allow p k now =>
    match (s.calls p)[k]? with
    | some ⟨h, .obtained⟩ =>
      let (admitted, b) := ops.allow (s.shared.heap h) now
      some (s.setCall p k h (.ofAdmitted admitted) b)
    | _ => none
  | .finish p k now outcome =>
    match (s.calls p)[k]? with
    | some ⟨h, .running⟩ =>
      some (s.setCall p k h (.ofOutcome classifier outcome)
        (ops.record (s.shared.heap h) now (closureResult classifier outcome).toBool))
    | _ => none

/-- All interleavings of any number of calls. -/
def machine : Machine (State Peer B T) (Label Peer T) where
  init := ⟨PeerCircuitBreakers.new ops, fun _ ↦ []⟩
  step := step ops classifier

/-- The steps, one constructor for each label. -/
inductive Moves (s : State Peer B T) : Label Peer T → State Peer B T → Prop
  | obtain {p : Peer} : Moves s (.obtain p) ⟨(s.shared.entry ops p).2,
      Function.update s.calls p (s.calls p ++ [⟨(s.shared.entry ops p).1, .obtained⟩])⟩
  | allow {p : Peer} {k now h : Nat} (hk : (s.calls p)[k]? = some ⟨h, .obtained⟩) :
      Moves s (.allow p k now) (s.setCall p k h
        (.ofAdmitted (ops.allow (s.shared.heap h) now).1) (ops.allow (s.shared.heap h) now).2)
  | finish {p : Peer} {k now h : Nat} {outcome : Except AnyhowError T}
      (hk : (s.calls p)[k]? = some ⟨h, .running⟩) :
      Moves s (.finish p k now outcome) (s.setCall p k h (.ofOutcome classifier outcome)
        (ops.record (s.shared.heap h) now (closureResult classifier outcome).toBool))

variable {ops classifier}

theorem moves_of_step {s t : State Peer B T} {l : Label Peer T}
    (h : step ops classifier s l = some t) : Moves ops classifier s l t := by
  cases l with
  | obtain p => cases h; exact .obtain
  | allow p k now =>
    simp only [step] at h
    split at h
    · rename_i h' hk; cases h; exact .allow hk
    · cases h
  | finish p k now outcome =>
    simp only [step] at h
    split at h
    · rename_i h' hk; cases h; exact .finish hk
    · cases h

end Calls

end Zel
