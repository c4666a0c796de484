import Zel.Lib.JsonText

/-!
# Wire types and errors

The types of `zel_types`: requests, responses, the messages of subscription and notification
streams, and the error that a resource returns.  The messages come with their JSON forms, which are
what the receiving side has to read back.
-/

set_option autoImplicit false

namespace Zel

/-- `std::time::Duration`, in nanoseconds. -/
abbrev Duration := Nat

/-- `ErrorSeverity` -/
inductive ErrorSeverity where
  | infrastructure
  | systemFailure
  | application
  deriving DecidableEq

/-- `ResourceError` -/
inductive ResourceError where
  | serviceNotFound (service : String)
  | resourceNotFound (service resource : String)
  | callbackError (message : String) (severity : ErrorSeverity) (context : Option Json)
  | serializationError (message : String)
  | circuitBreakerOpen (peerId : String)

namespace ResourceError

/-- `ResourceError::severity` -/
def severity : ResourceError → ErrorSeverity
  | .callbackError _ severity _ => severity
  | .circuitBreakerOpen _ => .infrastructure
  | .serviceNotFound _ | .resourceNotFound _ _ | .serializationError _ => .application

/-- The text that `Display` shows. -/
def toString : ResourceError → String
  | .serviceNotFound service => "Service '" ++ service ++ "' not found"
  | .resourceNotFound service resource =>
    "Resource '" ++ resource ++ "' not found in service '" ++ service ++ "'"
  | .callbackError message _ _ => "Callback execution failed: " ++ message
  | .serializationError message => "Serialization error: " ++ message
  | .circuitBreakerOpen peerId => "Circuit breaker open for peer " ++ peerId

/-- `ResourceError::app` -/
def app (message : String) : ResourceError := .callbackError message .application none

/-- `ResourceError::infra` -/
def infra (message : String) : ResourceError := .callbackError message .infrastructure none

/-- `ResourceError::system` -/
def system (message : String) : ResourceError := .callbackError message .systemFailure none

end ResourceError

/-- `Body` -/
inductive Body where
  | subscribe
  | rpc (data : Bytes)
  | stream (data : Bytes)
  | notify (data : Bytes)
  deriving DecidableEq

/-- `Request` -/
structure Request where
  service : String
  resource : String
  body : Body
  deriving DecidableEq

/-- `Response` -/
structure Response where
  data : Bytes
  deriving DecidableEq

/-- `ResourceResponse`, the frame that answers a request. -/
abbrev ResourceResponse := Except ResourceError Response

/-- `ClientError`; the texts of the I/O and serialisation errors are those of the libraries. -/
inductive ClientError where
  | io (message : String)
  | serialization (message : String)
  | resource (e : ResourceError)
  | connection (message : String)
  | protocol (message : String)

/-! ## Frames -/

/-- The longest frame that a `LengthDelimitedCodec::new()` writes or reads, in bytes. -/
def maxFrameLength : Nat := 8 * 1024 * 1024

/-- The codec takes the text of this value for a frame. -/
def FitsFrame (j : Json) : Prop := j.textLength ≤ maxFrameLength

instance (j : Json) : Decidable (FitsFrame j) := inferInstanceAs (Decidable (_ ≤ _))

/-- What the codec answers to a frame that is too long. -/
def frameTooBig : String := "frame size too big"

/-! ## Subscription messages -/

/-- `SubscriptionMsg` -/
inductive SubscriptionMsg where
  | established (service resource : String)
  | data (payload : Bytes)
  | stopped
  | serverShutdown
  deriving DecidableEq

namespace SubscriptionMsg

/-- The JSON that the derived `Serialize` writes. -/
def toJson : SubscriptionMsg → Json
  | .established s r =>
    .object [("Established", .object [("service", .string s), ("resource", .string r)])]
  | .data b => .object [("Data", .ofBytes b)]
  | .stopped => .string "Stopped"
  | .serverShutdown => .string "ServerShutdown"

/-- A variant without fields, by its name. -/
def unitVariant : String → Option SubscriptionMsg
  | "Stopped" => some .stopped
  | "ServerShutdown" => some .serverShutdown
  | _ => none

/-- What the derived `Deserialize` reads. -/
def fromJson : Json → Option SubscriptionMsg
  | .string name => unitVariant name
  | .object [("Established", v)] =>
    (v.fields₂ "service" "resource").bind fun (s, r) ↦
      s.asString.bind fun s ↦ r.asString.map fun r ↦ .established s r
  | .object [("Data", v)] => v.asBytes.map .data
  | .object [(name, .null)] => unitVariant name
  | _ => none

/-- **Round trip of the envelope.** -/
@[simp] theorem fromJson_toJson (m : SubscriptionMsg) : fromJson m.toJson = some m := by
  cases m with
  | established s r => simp [toJson, fromJson, Json.fields₂, Json.field]
  | data b => simp [toJson, fromJson]
  | stopped => rfl
  | serverShutdown => rfl

end SubscriptionMsg

/-! ## Notification messages -/

/-- `NotificationMsg` -/
inductive NotificationMsg where
  | established (service resource : String)
  | data (payload : Bytes)
  | ack
  | error (message : String)
  | completed
  | serverShutdown
  deriving DecidableEq

namespace NotificationMsg

/-- The JSON that the derived `Serialize` writes. -/
def toJson : NotificationMsg → Json
  | .established s r =>
    .object [("Established", .object [("service", .string s), ("resource", .string r)])]
  | .data b => .object [("Data", .ofBytes b)]
  | .ack => .string "Ack"
  | .error e => .object [("Error", .string e)]
  | .completed => .string "Completed"
  | .serverShutdown => .string "ServerShutdown"

/-- A variant without fields, by its name. -/
def unitVariant : String → Option NotificationMsg
  | "Ack" => some .ack
  | "Completed" => some .completed
  | "ServerShutdown" => some .serverShutdown
  | _ => none

/-- What the derived `Deserialize` reads. -/
def fromJson : Json → Option NotificationMsg
  | .string name => unitVariant name
  | .object [("Established", v)] =>
    (v.fields₂ "service" "resource").bind fun (s, r) ↦
      s.asString.bind fun s ↦ r.asString.map fun r ↦ .established s r
  | .object [("Data", v)] => v.asBytes.map .data
  | .object [("Error", v)] => v.asString.map .error
  | .object [(name, .null)] => unitVariant name
  | _ => none

/-- **Round trip of the envelope.** -/
@[simp] theorem fromJson_toJson (m : NotificationMsg) : fromJson m.toJson = some m := by
  cases m with
  | established s r => simp [toJson, fromJson, Json.fields₂, Json.field]
  | data b => simp [toJson, fromJson]
  | ack => rfl
  | error e => rfl
  | completed => rfl
  | serverShutdown => rfl

end NotificationMsg

end Zel
