import Zel.Handlers

/-!
# The frame that carries a request

Every operation of the `RpcClient` opens its stream with one frame, a `Request` as JSON
(`zel_types/protocol.rs`), and `handle_stream` reads it back with `read_and_deserialize_request`
(`protocol/handlers/helpers.rs`).  Service and resource are strings of the user's choosing and the
body is an enum of four variants, three of which carry bytes.

## What is here

* `Body.toJson`, `Request.toJson` and their readers — serde's derive.
* `Request.fromJson_toJson` — **a request is read back as it was sent.**
* `readAndDeserializeRequest`, `serve` — a request stream of the server, from the frame that arrives
  to the frames that are written.
-/

set_option autoImplicit false

namespace Zel

namespace Body

/-- What the derived `Serialize` writes. -/
def toJson : Body → Json
  | .subscribe => .string "Subscribe"
  | .rpc data => .object [("Rpc", .ofBytes data)]
  | .stream data => .object [("Stream", .ofBytes data)]
  | .notify data => .object [("Notify", .ofBytes data)]

/-- A variant without fields, by its name. -/
def unitVariant : String → Option Body
  | "Subscribe" => some .subscribe
  | _ => none

/-- What the derived `Deserialize` reads. -/
def fromJson : Json → Option Body
  | .string name => unitVariant name
  | .object [("Rpc", v)] => v.asBytes.map .rpc
  | .object [("Stream", v)] => v.asBytes.map .stream
  | .object [("Notify", v)] => v.asBytes.map .notify
  | .object [(name, .null)] => unitVariant name
  | _ => none

@[simp] theorem fromJson_toJson (b : Body) : fromJson b.toJson = some b := by
  cases b with
  | subscribe => rfl
  | _ => simp [toJson, fromJson]

end Body

namespace Request

/-- What the derived `Serialize` writes. -/
def toJson (r : Request) : Json :=
  .object [("service", .string r.service), ("resource", .string r.resource),
    ("body", r.body.toJson)]

/-- What the derived `Deserialize` reads. -/
def fromJson (j : Json) : Option Request :=
  (j.fields₃ "service" "resource" "body").bind fun (service, resource, body) ↦
    service.asString.bind fun service ↦ resource.asString.bind fun resource ↦
      (Body.fromJson body).map fun body ↦ ⟨service, resource, body⟩

/-- **A request is read back as it was sent.** -/
@[simp] theorem fromJson_toJson (r : Request) : fromJson r.toJson = some r := by
  simp [toJson, fromJson, Json.fields₃, Json.field]

/-- The codec takes the request for a frame. -/
def Fits (r : Request) : Prop := FitsFrame r.toJson

instance (r : Request) : Decidable r.Fits := inferInstanceAs (Decidable (FitsFrame _))

end Request

/-- What `FramedRead::next` finds on a request stream: a frame, an error or the end. -/
abbrev NextFrame := Option (Except String Json)

/-- `read_and_deserialize_request`; the texts of serde's errors are a parameter. -/
def readAndDeserializeRequest (malformed : Json → String) :
    NextFrame → Except String (Option Request)
  | some (.ok frame) =>
    match Request.fromJson frame with
    | some request => .ok (some request)
    | none => .error (malformed frame)
  | some (.error e) => .error e
  | none => .ok none

/-- The frames that the server writes on a request stream: none unless a request was read, and else
whatever `answered` makes of it. -/
def serve (malformed : Json → String) (answered : Request → List Json) (next : NextFrame) :
    List Json :=
  match readAndDeserializeRequest malformed next with
  | .ok (some request) => answered request
  | .ok none | .error _ => []

/-- A request that a client sent is answered. -/
theorem serve_toJson (malformed : Json → String) (answered : Request → List Json)
    (r : Request) : serve malformed answered (some (.ok r.toJson)) = answered r := by
  simp [serve, readAndDeserializeRequest]

end Zel
