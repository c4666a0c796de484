import Zel.Types

/-!
# The frame that answers a request

`send_response` and `send_error_response` write a `Result<Response, ResourceError>` as JSON, and the
client reads it back with `from_slice`.  The two directions are serde's derive: enums by the name of
the variant, structs by the names of their fields, and the context of a callback error left out when
there is none.

A context is arbitrary JSON, and two kinds of it do not survive.  A field that holds `null` is read
as `None`, just as one that is missing; and a context sits inside three objects already, so that a
deeply nested one runs into the reader's recursion limit.

## What is here

* `ErrorSeverity`, `Response`, `ResourceError`, `ResourceResponse`: `toJson` and `fromJson` of each.
* `ResourceResponse.fromJson_toJson` — what the client reads, for every response.
* `ResourceResponse.fromJson_toJson_iff` — **when the client reads what the server meant**.
-/

set_option autoImplicit false

namespace Zel

namespace ErrorSeverity

/-- What the derived `Serialize` writes. -/
def toJson : ErrorSeverity → Json
  | .infrastructure => .string "Infrastructure"
  | .systemFailure => .string "SystemFailure"
  | .application => .string "Application"

/-- A severity by its name. -/
def unitVariant : String → Option ErrorSeverity
  | "Infrastructure" => some .infrastructure
  | "SystemFailure" => some .systemFailure
  | "Application" => some .application
  | _ => none

/-- What the derived `Deserialize` reads. -/
def fromJson : Json → Option ErrorSeverity
  | .string name => unitVariant name
  | .object [(name, .null)] => unitVariant name
  | _ => none

@[simp] theorem fromJson_toJson (s : ErrorSeverity) : fromJson s.toJson = some s := by
  cases s <;> rfl

end ErrorSeverity

namespace Response

/-- What the derived `Serialize` writes. -/
def toJson (r : Response) : Json := .object [("data", .ofBytes r.data)]

/-- What the derived `Deserialize` reads. -/
def fromJson (j : Json) : Option Response :=
  (j.fields₁ "data").bind fun data ↦ data.asBytes.map fun data ↦ ⟨data⟩

@[simp] theorem fromJson_toJson (r : Response) : fromJson r.toJson = some r := by
  simp [toJson, fromJson, Json.fields₁, Json.field]

end Response

namespace ResourceError

/-- What the derived `Serialize` writes. -/
def toJson : ResourceError → Json
  | .serviceNotFound service =>
    .object [("ServiceNotFound", .object [("service", .string service)])]
  | .resourceNotFound service resource =>
    .object [("ResourceNotFound",
      .object [("service", .string service), ("resource", .string resource)])]
  | .callbackError message severity context =>
    .object [("CallbackError", .object ([("message", .string message),
      ("severity", severity.toJson)] ++ (context.map fun v ↦ ("context", v)).toList))]
  | .serializationError message => .object [("SerializationError", .string message)]
  | .circuitBreakerOpen peerId =>
    .object [("CircuitBreakerOpen", .object [("peer_id", .string peerId)])]

/-- The fields of a `CallbackError`; `context` may be missing from an object. -/
def callbackFields : Json → Option (Json × Json × Option Json)
  | .object fs =>
    (Json.field "message" fs).bind fun message ↦ (Json.field "severity" fs).bind fun severity ↦
      (Json.optionalField "context" fs).map fun context ↦ (message, severity, context)
  | .array [message, severity, context] => some (message, severity, some context)
  | _ => none

/-- The context of an error inside an `Err`: two enums and the fields of the variant are open. -/
def readContext : Option Json → Option (Option Json)
  | none => some none
  | some v => v.asOptionalValue 3

/-- What the derived `Deserialize` reads inside an `Err`. -/
def fromJson : Json → Option ResourceError
  | .object [("ServiceNotFound", v)] =>
    (v.fields₁ "service").bind fun s ↦ s.asString.map .serviceNotFound
  | .object [("ResourceNotFound", v)] =>
    (v.fields₂ "service" "resource").bind fun (s, r) ↦
      s.asString.bind fun s ↦ r.asString.map fun r ↦ .resourceNotFound s r
  | .object [("CallbackError", v)] =>
    (callbackFields v).bind fun (m, s, c) ↦
      m.asString.bind fun m ↦ (ErrorSeverity.fromJson s).bind fun s ↦
        (readContext c).map fun c ↦ .callbackError m s c
  | .object [("SerializationError", v)] => v.asString.map .serializationError
  | .object [("CircuitBreakerOpen", v)] =>
    (v.fields₁ "peer_id").bind fun s ↦ s.asString.map .circuitBreakerOpen
  | _ => none

/-- The structured context, if the error carries one. -/
def context : ResourceError → Option Json
  | .callbackError _ _ context => context
  | _ => none

/-- The error with another context. -/
def withContext : ResourceError → Option Json → ResourceError
  | .callbackError message severity _, context => .callbackError message severity context
  | e, _ => e

/-- **Everything but the context is read back.** -/
theorem fromJson_toJson (e : ResourceError) :
    fromJson e.toJson = (readContext e.context).map e.withContext := by
  cases e with
  | callbackError m s c =>
    cases c <;> simp [toJson, fromJson, callbackFields, Json.field, Json.optionalField, context] <;>
      rfl
  | _ => simp [toJson, fromJson, Json.fields₁, Json.fields₂, Json.field, context, readContext,
      withContext]

end ResourceError

namespace ResourceResponse

/-- What `to_vec` writes for a response. -/
def toJson : ResourceResponse → Json
  | .ok r => .object [("Ok", r.toJson)]
  | .error e => .object [("Err", e.toJson)]

/-- What the client's `from_slice` reads. -/
def fromJson : Json → Option ResourceResponse
  | .object [("Ok", v)] => (Response.fromJson v).map .ok
  | .object [("Err", v)] => (ResourceError.fromJson v).map .error
  | _ => none

/-- The context in a response, if there is one. -/
def context : ResourceResponse → Option Json
  | .ok _ => none
  | .error e => e.context

/-- The response with another context. -/
def withContext : ResourceResponse → Option Json → ResourceResponse
  | .ok r, _ => .ok r
  | .error e, context => .error (e.withContext context)

/-- **What the client reads**: the response, with whatever has become of its context. -/
theorem fromJson_toJson (r : ResourceResponse) :
    fromJson (toJson r) = (ResourceError.readContext (context r)).map (withContext r) := by
  cases r with
  | ok r => simp [toJson, fromJson, context, withContext, ResourceError.readContext]
  | error e =>
    rw [toJson, fromJson, ResourceError.fromJson_toJson, Option.map_map]
    rfl

/-! ## The context -/

/-- The context is not nested too deeply for the reader. -/
def Readable (r : ResourceResponse) : Prop := ∀ v, context r = some v → v.nesting < 125

/-- The context, if there is one, is a value of its own. -/
def NonNullContext (r : ResourceResponse) : Prop := context r ≠ some .null

theorem readContext_some {v : Json} (hv : v ≠ .null) :
    ResourceError.readContext (some v) = if v.nesting < 125 then some (some v) else none := by
  have hiff : 3 + v.nesting < Json.recursionLimit ↔ v.nesting < 125 := by
    simp only [Json.recursionLimit]
    omega
  have hread : ResourceError.readContext (some v) = (Json.asValue 3 v).map some := by
    cases v with
    | null => exact absurd rfl hv
    | _ => rfl
  rw [hread, Json.asValue]
  by_cases h : v.nesting < 125
  · rw [if_pos (hiff.mpr h), if_pos h, Option.map_some]
  · rw [if_neg (fun h' ↦ h (hiff.mp h')), if_neg h, Option.map_none]

/-- Replacing the context by itself changes nothing. -/
theorem withContext_context (r : ResourceResponse) : withContext r (context r) = r := by
  cases r with
  | ok => rfl
  | error e => cases e <;> rfl

theorem context_withContext {r : ResourceResponse} {v : Json} (h : context r = some v)
    (c : Option Json) : context (withContext r c) = c := by
  cases r with
  | ok => cases h
  | error e =>
    cases e with
    | callbackError => rfl
    | _ => cases h

/-- The client reads some response exactly if the context is not nested too deeply. -/
theorem isSome_fromJson_iff (r : ResourceResponse) :
    (fromJson (toJson r)).isSome ↔ Readable r := by
  rw [fromJson_toJson, Option.isSome_map, Readable]
  cases hc : context r with
  | none => simp [ResourceError.readContext]
  | some v =>
    by_cases hv : v = .null
    · subst hv
      simp [ResourceError.readContext, Json.asOptionalValue, Json.nesting]
    · rw [readContext_some hv]
      by_cases h : v.nesting < 125 <;> simp [h]

/-- **When the client reads what the server meant.**  The response is read back as it was if and
only if its context, if it has one, is not `null` and has fewer than 125 arrays and objects inside
one another. -/
theorem fromJson_toJson_iff (r : ResourceResponse) :
    fromJson (toJson r) = some r ↔ NonNullContext r ∧ Readable r := by
  rw [NonNullContext, Readable, fromJson_toJson]
  cases hc : context r with
  | none =>
    have hself : withContext r none = r := hc ▸ withContext_context r
    simp [ResourceError.readContext, hself]
  | some v =>
    have hself : withContext r (some v) = r := hc ▸ withContext_context r
    by_cases hv : v = .null
    · subst hv
      -- the reader drops it, and the response without it is another one
      have hne : withContext r none ≠ r := by
        intro he
        have hcon : context (withContext r none) = none := context_withContext hc none
        rw [he, hc] at hcon
        cases hcon
      simp [ResourceError.readContext, Json.asOptionalValue, hne]
    · rw [readContext_some hv]
      by_cases h : v.nesting < 125 <;> simp [h, hv, hself]

/-- **A context can be lost**: `Some(Value::Null)` is read as `None`. -/
theorem null_context_lost :
    fromJson (toJson (.error (.callbackError "invalid" .application (some .null)))) =
        some (.error (.callbackError "invalid" .application none)) ∧
      fromJson (toJson (.error (.callbackError "invalid" .application (some .null)))) ≠
        some (.error (.callbackError "invalid" .application (some .null))) := by
  have hread : fromJson (toJson (.error (.callbackError "invalid" .application (some .null)))) =
      some (.error (.callbackError "invalid" .application none)) := rfl
  rw [hread]
  simp

end ResourceResponse

end Zel
