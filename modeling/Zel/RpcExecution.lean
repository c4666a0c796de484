import Zel.Handlers
import Zel.PeerIsolation
import Zel.ResponseCodec

/-!
# Rpc callbacks behind the breaker

`execute_rpc_with_circuit_breaker` (`protocol/handlers/rpc.rs`) runs an Rpc callback, through the
peer's circuit breaker if the server has them.  On that path an error crosses four representations:
the callback's `ResourceError`, an `anyhow::Error` marked with its severity, the `ServiceError` that
the breaker's double result carries, and a `ResourceError` again.  The severity arrives; the
variant, the context and the message as it was do not.

## What is here

* `executeRpcWithCircuitBreaker` — the function, with the breakers before and after.
* `passedOn` — what it makes of the callback's result; `executeRpc_ok`, `executeRpc_error` — what an
  admitted call returns, in closed form.
* `transparent_iff` — **an admitted call is answered as it would be without a breaker** if and only
  if the callback succeeds.
* `severity_preserved` — what the conversion does keep.
* `executeRpc_converted` — a callback that converts its error decides about the severity.
-/

set_option autoImplicit false

namespace Zel

/-! ## The function -/

/-- The conversion of the callback's error inside the closure. -/
def ResourceError.toAnyhow (e : ResourceError) : AnyhowError :=
  let err := AnyhowError.msg e.toString
  match e.severity with
  | .application => err.asApplication
  | .infrastructure => err.asInfrastructure
  | .systemFailure => err.asSystemFailure

/-- The `match` on the result of `call_async`. -/
def ResourceResponse.ofCall (peerId : String) : Except BreakerError Response → ResourceResponse
  | .ok resp => .ok resp
  | .error .opened => .error (.circuitBreakerOpen peerId)
  | .error (.operation e) => .error (.callbackError e.toString e.severity none)
  | .error (.other message) => .error (.callbackError message .application none)

/-- What becomes of the result of a callback behind a breaker that let it through. -/
def passedOn (classifier : ErrorClassifier) (peerId : String) (result : ResourceResponse) :
    ResourceResponse :=
  .ofCall peerId (unwrapResult (breakerResult
    (closureResult classifier (result.mapError ResourceError.toAnyhow))))

variable {Ctx Peer B : Type} [DecidableEq Peer] (ops : Breaker.Ops B)
  (classifier : ErrorClassifier) (callback : Ctx → Request → ResourceResponse) (ctx : Ctx)
  (request : Request)

/-- `execute_rpc_with_circuit_breaker`, with the breakers it leaves behind.  The breaker is asked at
`start` and, if the callback runs, told at `done`. -/
def executeRpcWithCircuitBreaker (circuitBreakers : Option (PeerCircuitBreakers Peer B)) (p : Peer)
    (peerId : String) (start done : Nat) :
    ResourceResponse × Option (PeerCircuitBreakers Peer B) :=
  match circuitBreakers with
  | some cb =>
    let (r, cb) := cb.callAsync ops classifier p start done
      ((callback ctx request).mapError ResourceError.toAnyhow)
    (.ofCall peerId r, some cb)
  | none => (callback ctx request, none)

/-! ## What an admitted call returns -/

/-- The error that the wrapper makes of the callback's, with any classifier. -/
def ResourceError.wrappedBy (classifier : ErrorClassifier) (e : ResourceError) : ResourceError :=
  let severity := classifier.classify e.toAnyhow
  .callbackError (ServiceError.fromSeverityAndMsg severity e.toAnyhow.toString).toString severity
    none

@[simp] theorem passedOn_ok (classifier : ErrorClassifier) (peerId : String) (resp : Response) :
    passedOn classifier peerId (.ok resp) = .ok resp := rfl

@[simp] theorem passedOn_error (classifier : ErrorClassifier) (peerId : String)
    (e : ResourceError) :
    passedOn classifier peerId (.error e) = .error (e.wrappedBy classifier) := by
  rw [passedOn, ResourceError.wrappedBy]
  simp only [Except.mapError, closureResult]
  cases classifier.classify e.toAnyhow <;> rfl

/-- What the two conversions put in front of an error's text, with the default classifier. -/
def ErrorSeverity.wrapping : ErrorSeverity → String
  | .application => "Application error: "
  | .infrastructure => "Infrastructure error: "
  | .systemFailure => "System failure: System failure: "

/-- The error that the wrapper makes of the callback's with the default classifier. -/
def ResourceError.wrapped (e : ResourceError) : ResourceError :=
  .callbackError (e.severity.wrapping ++ e.toString) e.severity none

/-- The breaker admits the peer's next call. -/
def PeerCircuitBreakers.Admits (cb : PeerCircuitBreakers Peer B) (p : Peer) (start : Nat) : Prop :=
  (ops.allow (cb.breaker ops p) start).1 = true

variable {ops classifier}

/-- The result of an admitted call is that of its operation, unwrapped. -/
theorem callAsync_of_admits {T : Type} {cb : PeerCircuitBreakers Peer B} {p : Peer} {start : Nat}
    (h : cb.Admits ops p start) (done : Nat) (outcome : Except AnyhowError T) :
    (cb.callAsync ops classifier p start done outcome).1 =
      unwrapResult (breakerResult (closureResult classifier outcome)) := by
  rw [PeerCircuitBreakers.Admits, ← PeerCircuitBreakers.entry_heap_self cb p] at h
  simp only [PeerCircuitBreakers.callAsync, h, if_true]

/-- An admitted call returns what the wrapper passes on. -/
theorem executeRpc_of_admits {cb : PeerCircuitBreakers Peer B} {p : Peer} {start : Nat}
    (h : cb.Admits ops p start) (peerId : String) (done : Nat) :
    (executeRpcWithCircuitBreaker ops classifier callback ctx request (some cb) p peerId start
      done).1 = passedOn classifier peerId (callback ctx request) := by
  simp only [executeRpcWithCircuitBreaker, callAsync_of_admits h]
  rfl

/-- The default classifier reads the mark of each severity back. -/
theorem wrappedBy_default (e : ResourceError) : e.wrappedBy .default = e.wrapped := by
  rw [ResourceError.wrappedBy, ResourceError.toAnyhow, ResourceError.wrapped]
  cases e.severity with
  | application => rfl
  | infrastructure => rfl
  | systemFailure =>
    have hmessage : "System failure: " ++ ("System failure: " ++ e.toString) =
        "System failure: System failure: " ++ e.toString := by
      rw [← String.append_assoc]
      rfl
    rw [ErrorSeverity.wrapping, ← hmessage]
    rfl

variable {callback ctx request}

/-- A success passes the breaker unchanged. -/
theorem executeRpc_ok {cb : PeerCircuitBreakers Peer B} {p : Peer} {start : Nat}
    (h : cb.Admits ops p start) (peerId : String) (done : Nat) {resp : Response}
    (hr : callback ctx request = .ok resp) :
    (executeRpcWithCircuitBreaker ops .default callback ctx request (some cb) p peerId start
      done).1 = .ok resp := by
  rw [executeRpc_of_admits _ _ _ h, hr, passedOn_ok]

/-- **An error comes out as a callback error** of the same severity, without its context and with a
longer message. -/
theorem executeRpc_error {cb : PeerCircuitBreakers Peer B} {p : Peer} {start : Nat}
    (h : cb.Admits ops p start) (peerId : String) (done : Nat) {e : ResourceError}
    (hr : callback ctx request = .error e) :
    (executeRpcWithCircuitBreaker ops .default callback ctx request (some cb) p peerId start
      done).1 = .error e.wrapped := by
  rw [executeRpc_of_admits _ _ _ h, hr, passedOn_error, wrappedBy_default]

/-! ## Transparency -/

/-- The message grows, so no error is its own image. -/
theorem ResourceError.wrapped_ne (e : ResourceError) : e.wrapped ≠ e := by
  intro h
  cases e with
  | callbackError message severity context =>
    have hm : severity.wrapping ++ ("Callback execution failed: " ++ message) = message := by
      rw [wrapped, callbackError.injEq] at h
      exact h.1
    have hlen := congrArg String.length hm
    rw [String.length_append, String.length_append] at hlen
    have hpos : 0 < "Callback execution failed: ".length := by decide
    omega
  | _ => cases h

/-- **When the breaker is transparent.**  A call that the breaker admits is answered as it would be
without a breaker if and only if the callback succeeds. -/
theorem transparent_iff (ops : Breaker.Ops B) (callback : Ctx → Request → ResourceResponse)
    (ctx : Ctx) (request : Request) (cb : PeerCircuitBreakers Peer B) (p : Peer) (peerId : String)
    (start done : Nat) (h : cb.Admits ops p start) :
    (executeRpcWithCircuitBreaker ops .default callback ctx request (some cb) p peerId start
        done).1 =
      (executeRpcWithCircuitBreaker ops .default callback ctx request none p peerId start
        done).1 ↔
      ∃ resp, callback ctx request = .ok resp := by
  have hnone : (executeRpcWithCircuitBreaker ops .default callback ctx request none p peerId
      start done).1 = callback ctx request := rfl
  rw [hnone]
  cases hr : callback ctx request with
  | ok resp =>
    rw [executeRpc_ok h peerId done hr]
    simp
  | error e =>
    rw [executeRpc_error h peerId done hr]
    simp [e.wrapped_ne]

/-- Breakers with the default settings. -/
def standardOps : Breaker.Ops Breaker.Circuit := documented anyLimits .default

/-- The breakers of a server that no peer has called yet. -/
def freshBreakers : PeerCircuitBreakers Unit Breaker.Circuit := .new standardOps

/-- The breakers of a server whose one peer has a half-open circuit, one probe of which has
succeeded. -/
def probingBreakers : PeerCircuitBreakers Unit Breaker.Circuit :=
  ⟨fun _ ↦ some 0, fun _ ↦ .halfOpen 1 1, 1⟩

theorem admits_probingBreakers : probingBreakers.Admits standardOps () 0 := rfl

/-- A probe that returns data. -/
theorem transparent_probe :
    (executeRpcWithCircuitBreaker standardOps .default (fun (_ : Unit) _ ↦ .ok ⟨[1, 2, 3]⟩) () ping
        (some probingBreakers) () "peer" 0 0).1 =
      (executeRpcWithCircuitBreaker standardOps .default (fun (_ : Unit) _ ↦ .ok ⟨[1, 2, 3]⟩) ()
        ping none () "peer" 0 0).1 :=
  (transparent_iff standardOps _ () ping probingBreakers () "peer" 0 0 admits_probingBreakers).mpr
    ⟨_, rfl⟩

/-- A callback that reports a missing user, with the details as a context. -/
def missingUser (_ : Unit) (_ : Request) : ResourceResponse :=
  .error (.callbackError "no such user" .application (some (.number 404)))

/-- **The breaker changes an error**: the first call of a peer gets another message and no
context. -/
theorem breaker_changes_error :
    freshBreakers.Admits standardOps () 0 ∧
      (executeRpcWithCircuitBreaker standardOps .default missingUser () ping (some freshBreakers)
          () "peer" 0 0).1 =
        .error (.callbackError "Application error: Callback execution failed: no such user"
          .application none) ∧
      (executeRpcWithCircuitBreaker standardOps .default missingUser () ping (some freshBreakers)
          () "peer" 0 0).1 ≠
        (executeRpcWithCircuitBreaker standardOps .default missingUser () ping none
          () "peer" 0 0).1 := by
  refine ⟨rfl, rfl, fun h ↦ ?_⟩
  have hcontext := congrArg ResourceResponse.context h
  cases hcontext

/-- **The severity is preserved.**  An admitted call that fails reports the severity of the
callback's error. -/
theorem severity_preserved {cb : PeerCircuitBreakers Peer B} {p : Peer} {start : Nat}
    (h : cb.Admits ops p start) (peerId : String) (done : Nat) {e : ResourceError}
    (hr : callback ctx request = .error e) :
    ∃ e', (executeRpcWithCircuitBreaker ops .default callback ctx request (some cb) p peerId start
      done).1 = .error e' ∧ e'.severity = e.severity :=
  ⟨e.wrapped, executeRpc_error h peerId done hr, rfl⟩

/-! ## What a callback makes of its errors -/

/-- `to_app_error` -/
def toAppError {T : Type} (r : Except AnyhowError T) : Except ResourceError T :=
  r.mapError fun e ↦ .app e.toString

/-- `to_infra_error` -/
def toInfraError {T : Type} (r : Except AnyhowError T) : Except ResourceError T :=
  r.mapError fun e ↦ .infra e.toString

/-- `to_system_error` -/
def toSystemError {T : Type} (r : Except AnyhowError T) : Except ResourceError T :=
  r.mapError fun e ↦ .system e.toString

/-- The method of `ResourceResultExt` that asks for this severity. -/
def ErrorSeverity.convert {T : Type} : ErrorSeverity → Except AnyhowError T → Except ResourceError T
  | .application => toAppError
  | .infrastructure => toInfraError
  | .systemFailure => toSystemError

/-- **The conversion decides**, whatever marks the error has: of the error nothing is kept but its
text. -/
theorem executeRpc_converted {cb : PeerCircuitBreakers Peer B} {p : Peer} {start : Nat}
    (h : cb.Admits ops p start) (peerId : String) (done : Nat) {e : AnyhowError}
    {severity : ErrorSeverity} (hr : callback ctx request = severity.convert (.error e)) :
    (executeRpcWithCircuitBreaker ops .default callback ctx request (some cb) p peerId start
      done).1 = .error (.callbackError
        (severity.wrapping ++ ("Callback execution failed: " ++ e.toString)) severity none) := by
  have hconvert : (severity.convert (.error e) : ResourceResponse) =
      .error (.callbackError e.toString severity none) := by
    cases severity <;> rfl
  exact executeRpc_error h peerId done (hr.trans hconvert)

end Zel
