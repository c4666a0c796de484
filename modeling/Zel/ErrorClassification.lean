import Zel.Types

/-!
# Error classification

`protocol/error_classification.rs`: which errors of an operation count against the circuit breaker.
An `anyhow::Error` is the chain of its layers, outermost first: attached contexts, the error they
are attached to, and the sources below it.  A layer keeps what the classifier and the messages look
at, its type, its text and whether it is an attached context.
-/

set_option autoImplicit false

namespace Zel

/-- The error types that the classifier tells apart. -/
inductive ErrorType where
  | systemFailureMarker
  /-- `std::io::Error` -/
  | io
  /-- `tokio::time::error::Elapsed` -/
  | elapsed
  /-- `iroh::endpoint::ConnectError` -/
  | connect
  /-- `iroh_quinn::ReadError` -/
  | read
  /-- `iroh_quinn::WriteError` -/
  | write
  /-- `iroh_quinn::ConnectionError` -/
  | connection
  | other
  deriving DecidableEq

/-- One layer of an error. -/
structure ErrorLayer where
  type : ErrorType
  /-- Attached with `.context(..)`. -/
  isContext : Bool
  message : String
  deriving DecidableEq

/-- `anyhow::Error` -/
structure AnyhowError where
  outer : ErrorLayer
  sources : List ErrorLayer
  deriving DecidableEq

namespace AnyhowError

/-- `anyhow!(message)` -/
def msg (message : String) : AnyhowError := ⟨⟨.other, false, message⟩, []⟩

/-- `Error::chain` -/
def chain (e : AnyhowError) : List ErrorLayer := e.outer :: e.sources

/-- `Display` shows the outermost layer. -/
def toString (e : AnyhowError) : String := e.outer.message

/-- `Error::is`: the outermost error below the attached contexts has this type. -/
def is (e : AnyhowError) (t : ErrorType) : Bool :=
  match e.chain.dropWhile ErrorLayer.isContext with
  | layer :: _ => layer.type == t
  | [] => false

/-- `.context(message)` -/
def context (e : AnyhowError) (message : String) : AnyhowError :=
  ⟨⟨.other, true, message⟩, e.chain⟩

/-- `as_system_failure` -/
def asSystemFailure (e : AnyhowError) : AnyhowError :=
  ⟨⟨.systemFailureMarker, false, "System failure: " ++ e.toString⟩, e.chain⟩

/-- `as_application_error` -/
def asApplicationError (e : AnyhowError) : AnyhowError := e

/-- `as_application` -/
def asApplication (e : AnyhowError) : AnyhowError := e

/-- `as_infrastructure` -/
def asInfrastructure (e : AnyhowError) : AnyhowError := ⟨⟨.io, false, e.toString⟩, []⟩

end AnyhowError

/-- The types that `is_infrastructure_error` looks for. -/
def ErrorType.isInfrastructure : ErrorType → Bool
  | .io | .elapsed | .connect | .read | .write | .connection => true
  | .systemFailureMarker | .other => false

/-- `ErrorClassifier` -/
inductive ErrorClassifier where
  | default
  | allErrors
  | custom (classifier : AnyhowError → ErrorSeverity)

namespace ErrorClassifier

/-- `is_infrastructure_error` -/
def isInfrastructureError (e : AnyhowError) : Bool := e.chain.any fun l ↦ l.type.isInfrastructure

/-- `default_classifier` -/
def defaultClassifier (e : AnyhowError) : ErrorSeverity :=
  if e.is .systemFailureMarker then .systemFailure
  else if isInfrastructureError e then .infrastructure
  else .application

/-- `classify` -/
def classify : ErrorClassifier → AnyhowError → ErrorSeverity
  | .default, e => defaultClassifier e
  | .allErrors, _ => .systemFailure
  | .custom classifier, e => classifier e

end ErrorClassifier

end Zel
