import Zel.Endpoints
import Zel.Extensions
import Zel.Parameters
import Zel.RequestCodec
import Zel.ResponseFrame
import Zel.RpcExecution

/-!
# A method call, from one end to the other

The generated client writes the parameters of a method, `RpcClient::call` sends them in a request,
the server routes the request to the closure that `register_service` has made of the function, runs
it behind the breaker, if there is one, and sends its response, and the client reads the result back
(`render/client.rs`, `protocol/client.rs`, `protocol/server.rs`, `protocol/handlers/rpc.rs`,
`render/server.rs`).  This module puts the pieces together that the others look at one by one, and
asks what a caller wants to know: when does the call give what the function gives?

## What is here

* `MethodTypes` — what the types of a method mean, at both ends.
* `callInternal`, `clientMethod` — the client's side; `RpcSite.handle`, `methodCallback` — the
  server's.
* `remoteMethod` — both, connected by a `Link`.
* `callInternal_bind_eq_ok_iff`, `callInternal_bind_eq_error_iff` — the client hears what the
  server's side has come to, exactly if the link is up and the two frames can be carried.
* `remote_call_iff` — **when a remote call is a local call**, but for what the breaker does to it.
* `remote_ok_of_local` — a value that the client is given is one that the function returned.
-/

set_option autoImplicit false

namespace Zel

open SerdeJson

/-! ## The types of a method -/

/-- The type of the response that the generated client writes (`render_client_method`). -/
def MethodDescription.decodes (m : MethodDescription) : SynType := m.returnType.getD .unit

/-- What the types in a method mean where the names have this meaning: those of the parameters, of
which both ends make the same, the declared one, whose success the server sends, and the one that
the client decodes.  There is all of this if the generated code compiles. -/
structure MethodTypes (env : Env) (m : MethodDescription) where
  params : List Ty
  params_eq : m.params.map (fun p ↦ p.ty.resolve env) = params.map some
  success : Ty
  error : Ty
  declared_eq : m.signature.sig.declaredType.resolve env = some (.result success error)
  decoded : Ty
  decoded_eq : m.decodes.resolve env = some decoded

/-- The client's type is the server's exactly if the return type is written out. -/
theorem MethodTypes.decoded_eq_success_iff {env : Env} {m : MethodDescription}
    (t : MethodTypes env m) (h : m.returnType = extractReturnType m.signature.sig) :
    t.decoded = t.success ↔ m.signature.sig.declaredType.WritesOut env t.success := by
  rw [← clientDecodes_eq_iff t.declared_eq, ← Option.some_inj, ← t.decoded_eq,
    MethodDescription.decodes, h]
  rfl

variable {env : Env} {m : MethodDescription} (serde : Ty → SerdeType)

/-- The parameters, as they are written and read. -/
abbrev MethodTypes.paramTypes (t : MethodTypes env m) : List SerdeType := t.params.map serde

/-- A value together with its type. -/
def typed (ty : Ty) (v : (serde ty).Value) : Σ ty, (serde ty).Value := ⟨ty, v⟩

/-! ## The client -/

/-- What becomes of one request stream on its way. -/
structure Link where
  openBi : Except String Unit
  send : Except String Unit
  receive : Except String Unit

/-- Nothing fails. -/
def Link.up : Link := ⟨.ok (), .ok (), .ok ()⟩

/-- What `call_internal` makes of the frame of a response; the texts of serde's errors are a
parameter. -/
def readResponse (malformed : Json → String) (frame : Json) : Except ClientError Response :=
  match ResourceResponse.fromJson frame with
  | some (.ok resp) => .ok resp
  | some (.error e) => .error (.resource e)
  | none => .error (.serialization (malformed frame))

/-- The end of `call_internal`: the first frame on the request stream is the response. -/
def receiveResponse (malformed : Json → String) :
    List Json → Except ClientError Response
  | [] => .error (.protocol "No response received")
  | frame :: _ => readResponse malformed frame

/-- `call_internal`; `server` writes frames in answer to what arrives on the request stream. -/
def callInternal (malformed : Json → String) (link : Link) (server : NextFrame → List Json)
    (service resource : String) (body : Bytes) : Except ClientError Response := do
  link.openBi.mapError .connection
  let request : Request := ⟨service, resource, .rpc body⟩
  if request.Fits then
    link.send.mapError .connection
    let frames := server (some (.ok request.toJson))
    link.receive.mapError .connection
    receiveResponse malformed frames
  else .error (.connection frameTooBig)

/-- A method of the generated client (`render_client_method`). -/
def clientMethod (serviceName : String) (t : MethodTypes env m)
    (call : String → String → Bytes → Except ClientError Response)
    (vs : Values (t.paramTypes serde)) : Except ClientError (serde t.decoded).Value := do
  let body ← generateParamSerialization (t.paramTypes serde) vs
  let response ← call serviceName m.rpcName body
  ((serde t.decoded).fromSlice response.data).mapError .serialization

/-! ## The server -/

/-- What a closure makes of the result of its function. -/
def replyOf (ret : SerdeType) (r : Except ResourceError ret.Value) : ResourceResponse := do
  let result ← r
  let data ← (ret.toVec result).mapError .serializationError
  return ⟨data⟩

/-- The implementation of a method; it comes with the conversion of its error. -/
abbrev Implementation (Ctx : Type) (t : MethodTypes env m) : Type :=
  Ctx → Values (t.paramTypes serde) → Except ResourceError (serde t.success).Value

/-- The closure of a method (`render_method_registration`), which calls the implementation with what
it has received. -/
def methodCallback {Ctx : Type} (t : MethodTypes env m) (f : Implementation serde Ctx t) (ctx : Ctx)
    (request : Request) : ResourceResponse := do
  let vs ← (Description.method m).receive (t.paramTypes serde) request
  replyOf (serde t.success) (f ctx vs)

variable {Key : Type} {Val : Key → Type}

/-- What a server answers Rpc requests with, apart from its breakers. -/
structure RpcSite (Val : Key → Type) where
  services : ServiceMap
  /-- The closures of the Rpc resources. -/
  rpc : CallbackId → RequestContext Val → Request → ResourceResponse
  serverExtensions : Extensions Val
  connectionHook : Option (ConnectionHook Val)
  requestMiddleware : List (RequestMiddleware Val)

/-- The context of an Rpc callback. -/
def RpcSite.context (site : RpcSite Val) (cb : CallbackId) (request : Request) :
    RequestContext Val :=
  callbackContext site.serverExtensions site.connectionHook site.requestMiddleware (.rpc cb)
    request

variable (toUppercase : Char → List Char) in
/-- The server has `f` for the method: if the closure that is rendered calls the function as it is
meant, it is the one that calls `f`. -/
def RpcSite.Implements (site : RpcSite Val) (traitDef : ItemTrait) (t : MethodTypes env m)
    (f : Implementation serde (RequestContext Val) t) : Prop :=
  (Description.method m).CalledAsMeant toUppercase traitDef.ident →
    site.rpc (traitDef.callback m.signature.sig.ident) = methodCallback serde t f

/-- The state of the breakers of a server when a call arrives, if it has any, how they judge errors,
the peer that makes the call and the times of its start and of its end. -/
structure Guard (B : Type) where
  ops : Breaker.Ops B
  classifier : ErrorClassifier
  breakers : Option (PeerCircuitBreakers String B)
  peerId : String
  start : Nat
  done : Nat

variable {B : Type}

/-- The breaker, if there is one, lets the call through. -/
def Guard.admits (g : Guard B) : Bool :=
  match g.breakers with
  | some cb => (g.ops.allow (cb.breaker g.ops g.peerId) g.start).1
  | none => true

/-- What a call comes to, if this is what its function comes to: a breaker wraps the errors, and it
may turn the call down. -/
def Guard.outcome {α : Type} (g : Guard B) (out : Except ResourceError α) :
    Except ResourceError α :=
  match g.breakers with
  | some _ =>
    if g.admits then out.mapError (ResourceError.wrappedBy g.classifier)
    else .error (.circuitBreakerOpen g.peerId)
  | none => out

/-- `handle_rpc`, up to the response that it sends. -/
def RpcSite.handleRpc (site : RpcSite Val) (g : Guard B) (cb : CallbackId) (request : Request) :
    ResourceResponse :=
  (executeRpcWithCircuitBreaker g.ops g.classifier (site.rpc cb) (site.context cb request) request
    g.breakers g.peerId g.peerId g.start g.done).1

/-- What the handler of a request finds: of an Rpc, that the middleware returns, the breaker's
decision and what the callback returns. -/
def RpcSite.surroundings (site : RpcSite Val) (g : Guard B) (env : Surroundings)
    (request : Request) : Surroundings :=
  match route site.services request with
  | .ok (.rpc cb) => { env with
      prepared := true
      gate := g.breakers.map fun _ ↦ ⟨g.admits, g.classifier⟩
      result := site.rpc cb (site.context cb request) request }
  | _ => env

/-- The server on one request stream; `env` is for the kinds of resource that open a stream. -/
def RpcSite.handle (site : RpcSite Val) (g : Guard B) (env : Surroundings)
    (malformed : Json → String) : NextFrame → List Json :=
  serve malformed fun request ↦
    ((handleStream site.services g.peerId request (site.surroundings g env request)).map
      written).getD []

/-- A success has passed the breaker, and is the function's. -/
theorem Guard.ok_of_outcome {α : Type} {g : Guard B} {out : Except ResourceError α} {a : α}
    (h : g.outcome out = .ok a) : g.admits = true ∧ out = .ok a := by
  obtain ⟨ops, classifier, _ | breakers, peerId, start, done⟩ := g
  · exact ⟨rfl, h⟩
  · rw [Guard.outcome] at h
    dsimp only at h
    split at h
    · rename_i hadmits
      rcases out with e | a'
      · cases h
      · cases h
        exact ⟨hadmits, rfl⟩
    · cases h

/-! ## Both ends -/

/-- What the two ends have in common beside the service: the texts of serde's errors, the link, the
breakers and what the handlers of other kinds would find. -/
structure Wiring (B : Type) where
  malformed : Json → String
  link : Link
  guard : Guard B
  env : Surroundings

/-- A method of the generated client calls the generated server. -/
def remoteMethod (site : RpcSite Val) (w : Wiring B) (serviceName : String)
    (t : MethodTypes env m) (vs : Values (t.paramTypes serde)) :
    Except ClientError (serde t.decoded).Value :=
  clientMethod serde serviceName t
    (callInternal w.malformed w.link (site.handle w.guard w.env w.malformed)) vs

/-! ## What the client hears -/

/-- The frame of the response arrives and says what was meant. -/
structure Conveyed (r : ResourceResponse) : Prop where
  fits : r.Fits
  nonNullContext : r.NonNullContext
  readable : r.Readable

theorem conveyed_of_context_none {r : ResourceResponse} (h : r.context = none) :
    Conveyed r ↔ r.Fits :=
  ⟨Conveyed.fits, fun hfits ↦ ⟨hfits, by simp [ResourceResponse.NonNullContext, h],
    readable_of_context_none h⟩⟩

/-- The client's view of a response. -/
def ResourceResponse.seen (r : ResourceResponse) : Except ClientError Response :=
  r.mapError .resource

theorem readResponse_eq_seen_iff (malformed : Json → String) (frame : Json)
    (r : ResourceResponse) :
    readResponse malformed frame = r.seen ↔ ResourceResponse.fromJson frame = some r := by
  rw [readResponse]
  rcases ResourceResponse.fromJson frame with _ | _ | resp
  · rcases r with e | resp <;> simp [ResourceResponse.seen, Except.mapError]
  · rcases r with e | resp <;> simp [ResourceResponse.seen, Except.mapError]
  · rcases r with e | resp' <;> simp [ResourceResponse.seen, Except.mapError]

/-- **The client hears the response** exactly if it is conveyed. -/
theorem receiveResponse_attempt_iff (malformed : Json → String) (r : ResourceResponse) :
    receiveResponse malformed (attempt r) = r.seen ↔ Conveyed r := by
  rw [attempt]
  by_cases hfits : r.Fits
  · rw [if_pos hfits, receiveResponse, readResponse_eq_seen_iff,
      ResourceResponse.fromJson_toJson_iff]
    exact ⟨fun h ↦ ⟨hfits, h.1, h.2⟩, fun h ↦ ⟨h.nonNullContext, h.readable⟩⟩
  · rw [if_neg hfits]
    refine ⟨fun h ↦ ?_, fun h ↦ absurd h.fits hfits⟩
    rcases r with e | resp <;> simp [receiveResponse, ResourceResponse.seen, Except.mapError] at h

/-- An error is never heard as a success. -/
theorem receiveResponse_error (malformed : Json → String) (e : ResourceError) :
    ∃ err, receiveResponse malformed (attempt (.error e)) = .error err := by
  rw [attempt]
  split
  · rw [receiveResponse, readResponse, ResourceResponse.fromJson_toJson]
    cases ResourceError.readContext (ResourceResponse.context (.error e)) with
    | none => exact ⟨_, rfl⟩
    | some c => exact ⟨_, rfl⟩
  · exact ⟨_, rfl⟩

/-- What a client with an unreliable link is told has nothing to do with the resource. -/
theorem callInternal_of_broken {malformed : Json → String} {link : Link}
    {server : NextFrame → List Json} {service resource : String} {body : Bytes}
    (h : ¬ (link = .up ∧ (⟨service, resource, .rpc body⟩ : Request).Fits)) :
    ∃ e, callInternal malformed link server service resource body = .error (.connection e) := by
  obtain ⟨openBi, send, receive⟩ := link
  rcases openBi with e | _
  · exact ⟨e, rfl⟩
  by_cases hfits : (⟨service, resource, .rpc body⟩ : Request).Fits
  · rcases send with e | _
    · exact ⟨e, by simp [callInternal, hfits, Except.mapError, bind, Except.bind]⟩
    · rcases receive with e | _
      · exact ⟨e, by simp [callInternal, hfits, Except.mapError, bind, Except.bind]⟩
      · exact absurd ⟨rfl, hfits⟩ h
  · exact ⟨frameTooBig, by simp [callInternal, hfits, Except.mapError, bind, Except.bind]⟩

theorem callInternal_up {malformed : Json → String} {server : NextFrame → List Json}
    {service resource : String} {body : Bytes}
    (h : (⟨service, resource, .rpc body⟩ : Request).Fits) :
    callInternal malformed .up server service resource body =
      receiveResponse malformed
        (server (some (.ok (⟨service, resource, .rpc body⟩ : Request).toJson))) := by
  simp [callInternal, h, Link.up, Except.mapError, bind, Except.bind]

/-! ## What the server makes of the request -/

/-- A call that is turned down is answered as a call that the breaker rejects. -/
theorem handleRpc_of_rejected {site : RpcSite Val} {g : Guard B} (h : g.admits = false)
    (cb : CallbackId) (request : Request) :
    site.handleRpc g cb request = .error (.circuitBreakerOpen g.peerId) := by
  obtain ⟨ops, classifier, _ | breakers, peerId, start, done⟩ := g
  · cases h
  · change (ops.allow (breakers.breaker ops peerId) start).1 = false at h
    rw [← PeerCircuitBreakers.entry_heap_self breakers peerId] at h
    simp only [RpcSite.handleRpc, executeRpcWithCircuitBreaker, PeerCircuitBreakers.callAsync, h]
    rfl

/-- **The server attempts the response of `handle_rpc`.** -/
theorem handle_of_route {site : RpcSite Val} {g : Guard B} {request : Request} {cb : CallbackId}
    (hroute : route site.services request = .ok (.rpc cb)) (env : Surroundings)
    (malformed : Json → String) :
    site.handle g env malformed (some (.ok request.toJson)) =
      attempt (site.handleRpc g cb request) := by
  obtain ⟨effs, heffs, hwritten⟩ :=
    handleStream_eq site.services g.peerId request (site.surroundings g env request)
  have hanswer : answer site.services g.peerId request (site.surroundings g env request) =
      some (site.handleRpc g cb request) := by
    rw [answer, RpcSite.surroundings, hroute]
    dsimp only
    cases hg : g.admits with
    | false =>
      rw [handleRpc_of_rejected hg]
      obtain ⟨ops, classifier, _ | breakers, peerId, start, done⟩ := g
      · cases hg
      · rfl
    | true =>
      obtain ⟨ops, classifier, _ | breakers, peerId, start, done⟩ := g
      · rfl
      · exact congrArg some (executeRpc_of_admits _ _ _ hg peerId done).symm
  rw [RpcSite.handle, serve_toJson, heffs, Option.map_some, Option.getD_some, hwritten, hanswer]
  rfl

/-! ## The whole way -/

section Whole

variable {site : RpcSite Val} {w : Wiring B} {service resource : String} {body : Bytes}
  {cb : CallbackId} {γ : Type}

/-- What the client does next, `callInternal` does it for it. -/
theorem callInternal_of_route (hup : w.link = .up)
    (hfits : (⟨service, resource, .rpc body⟩ : Request).Fits)
    (hroute : route site.services ⟨service, resource, .rpc body⟩ = .ok (.rpc cb)) :
    callInternal w.malformed w.link (site.handle w.guard w.env w.malformed) service resource body =
      receiveResponse w.malformed
        (attempt (site.handleRpc w.guard cb ⟨service, resource, .rpc body⟩)) := by
  rw [hup, callInternal_up hfits, handle_of_route hroute]

/-- **An error is heard** exactly if the link is up and both frames can be carried. -/
theorem callInternal_bind_eq_error_iff {next : Response → Except ClientError γ} {e : ResourceError}
    (hroute : route site.services ⟨service, resource, .rpc body⟩ = .ok (.rpc cb))
    (hreply : site.handleRpc w.guard cb ⟨service, resource, .rpc body⟩ = .error e) :
    (callInternal w.malformed w.link (site.handle w.guard w.env w.malformed) service resource
        body).bind next = .error (.resource e) ↔
      w.link = .up ∧ (⟨service, resource, .rpc body⟩ : Request).Fits ∧ Conveyed (.error e) := by
  by_cases hlink : w.link = .up ∧ (⟨service, resource, .rpc body⟩ : Request).Fits
  · obtain ⟨hup, hfits⟩ := hlink
    obtain ⟨err, herr⟩ := receiveResponse_error w.malformed e
    rw [callInternal_of_route hup hfits hroute, hreply, ← receiveResponse_attempt_iff w.malformed,
      herr]
    simp [hup, hfits, ResourceResponse.seen, Except.mapError, Except.bind]
  · obtain ⟨err, herr⟩ := @callInternal_of_broken w.malformed w.link
      (site.handle w.guard w.env w.malformed) service resource body hlink
    rw [herr]
    constructor
    · intro h
      cases h
    · rintro ⟨hup, hfits, -⟩
      exact absurd ⟨hup, hfits⟩ hlink

/-- **A success is heard** exactly if the link is up and both frames can be carried. -/
theorem callInternal_bind_eq_ok_iff {next : Response → Except ClientError γ} {resp : Response}
    {x : γ} (hroute : route site.services ⟨service, resource, .rpc body⟩ = .ok (.rpc cb))
    (hreply : site.handleRpc w.guard cb ⟨service, resource, .rpc body⟩ = .ok resp) :
    (callInternal w.malformed w.link (site.handle w.guard w.env w.malformed) service resource
        body).bind next = .ok x ↔
      w.link = .up ∧ (⟨service, resource, .rpc body⟩ : Request).Fits ∧ Conveyed (.ok resp) ∧
        next resp = .ok x := by
  by_cases hlink : w.link = .up ∧ (⟨service, resource, .rpc body⟩ : Request).Fits
  · obtain ⟨hup, hfits⟩ := hlink
    rw [callInternal_of_route hup hfits hroute, hreply, conveyed_of_context_none rfl]
    by_cases hresponse : ResourceResponse.Fits (.ok resp)
    · have hseen := (receiveResponse_attempt_iff w.malformed (.ok resp)).mpr
        ((conveyed_of_context_none rfl).mpr hresponse)
      rw [hseen]
      simp [hup, hfits, hresponse, ResourceResponse.seen, Except.mapError, Except.bind]
    · rw [attempt, if_neg hresponse]
      simp [hresponse, receiveResponse, Except.bind]
  · obtain ⟨err, herr⟩ := @callInternal_of_broken w.malformed w.link
      (site.handle w.guard w.env w.malformed) service resource body hlink
    rw [herr]
    constructor
    · intro h
      cases h
    · rintro ⟨hup, hfits, -⟩
      exact absurd ⟨hup, hfits⟩ hlink

/-- A value is heard only if the server's side has come to a success. -/
theorem exists_reply_of_bind_eq_ok {next : Response → Except ClientError γ} {x : γ}
    (hroute : route site.services ⟨service, resource, .rpc body⟩ = .ok (.rpc cb))
    (h : (callInternal w.malformed w.link (site.handle w.guard w.env w.malformed) service resource
      body).bind next = .ok x) :
    ∃ resp, site.handleRpc w.guard cb ⟨service, resource, .rpc body⟩ = .ok resp := by
  rcases hreply : site.handleRpc w.guard cb ⟨service, resource, .rpc body⟩ with e | resp
  · by_cases hlink : w.link = .up ∧ (⟨service, resource, .rpc body⟩ : Request).Fits
    · obtain ⟨err, herr⟩ := receiveResponse_error w.malformed e
      rw [callInternal_of_route hlink.1 hlink.2 hroute, hreply, herr] at h
      cases h
    · obtain ⟨err, herr⟩ := @callInternal_of_broken w.malformed w.link
        (site.handle w.guard w.env w.malformed) service resource body hlink
      rw [herr] at h
      cases h
  · exact ⟨resp, rfl⟩

end Whole

/-! ## Generated ends -/

section Generated

variable {parseType : String → Except SynError SynType} {attr : ServiceAttr} {traitDef : ItemTrait}
  {d : ServiceDescription}

/-- The request of a method is routed to the closure of its function. -/
theorem route_method (hd : ServiceDescription.fromItem parseType attr traitDef = .ok d)
    (hnames : (traitDef.functions.map fun f ↦ rpcNameOf parseType f.attrs).Nodup)
    (hm : m ∈ d.methods) (body : Bytes) :
    route (d.registerService traitDef.callback .new).build
        ⟨d.serviceName, m.rpcName, .rpc body⟩ =
      .ok (.rpc (traitDef.callback m.signature.sig.ident)) := by
  have hmem : Description.method m ∈ d.descriptions := by
    simp [ServiceDescription.descriptions, hm]
  rw [route_registerService rfl]
  have hupdate := List.mem_map_of_mem
    (f := fun e ↦ (⟨e.rpcName, e.resource traitDef.callback⟩ :
      Sigma fun _ : String ↦ ResourceCallback)) hmem
  refine LastWins.lastOf_of_mem ?_ hupdate
  have hrpc := (ServiceDescription.perm_names hd).2.nodup_iff.mpr hnames
  rw [ServiceDescription.updates, List.map_map]
  exact List.Nodup.of_map some (by rwa [List.map_map])

/-- A method is described as the macro describes its function. -/
theorem exists_describe_method (hd : ServiceDescription.fromItem parseType attr traitDef = .ok d)
    (hm : m ∈ d.methods) : ∃ f, describe parseType f = .ok (.method m) := by
  have hmem : Description.method m ∈ d.descriptions := by
    simp [ServiceDescription.descriptions, hm]
  obtain ⟨f, -, he⟩ := ServiceDescription.exists_function hd hmem
  exact ⟨f, he⟩

/-- The type that the client writes is taken from the declared one. -/
theorem returnType_of_fromItem (hd : ServiceDescription.fromItem parseType attr traitDef = .ok d)
    (hm : m ∈ d.methods) : m.returnType = extractReturnType m.signature.sig := by
  obtain ⟨f, he⟩ := exists_describe_method hd hm
  obtain ⟨-, -, kind, name, item, -, heq⟩ := describe_eq_ok_iff.mp he
  cases kind <;> cases heq
  rfl

variable {serde} {t : MethodTypes env m}

/-- What is written of a value of the success type is read back. -/
theorem fromSlice_replyOf {ret : SerdeType} (hret : ret.RoundTrips) (v : ret.Value) :
    ∃ text, replyOf ret (.ok v) = .ok ⟨text⟩ ∧ ret.fromSlice text = .ok v := by
  obtain ⟨text, hwrite, hread⟩ := hret v
  refine ⟨text, ?_, hread⟩
  rw [replyOf]
  show ((ret.toVec v).mapError ResourceError.serializationError >>= _) = _
  rw [hwrite]
  rfl

/-- **What `handle_rpc` sends** is the result of the function, behind the breaker. -/
theorem handleRpc_eq (hret : (serde t.success).RoundTrips) {site : RpcSite Val} {g : Guard B}
    {cb : CallbackId} {f : Implementation serde (RequestContext Val) t}
    (hf : site.rpc cb = methodCallback serde t f) {request : Request}
    {vs : Values (t.paramTypes serde)}
    (hvs : (Description.method m).receive (t.paramTypes serde) request = .ok vs) :
    site.handleRpc g cb request =
      replyOf (serde t.success) (g.outcome (f (site.context cb request) vs)) := by
  have hcallback : site.rpc cb (site.context cb request) request =
      replyOf (serde t.success) (f (site.context cb request) vs) := by
    rw [hf, methodCallback, hvs]
    rfl
  cases hg : g.admits with
  | false =>
    rw [handleRpc_of_rejected hg]
    obtain ⟨ops, classifier, _ | breakers, peerId, start, done⟩ := g
    · cases hg
    · rw [Guard.outcome, hg]
      rfl
  | true =>
    obtain ⟨ops, classifier, _ | breakers, peerId, start, done⟩ := g
    · exact hcallback
    · rw [Guard.outcome, hg]
      refine (executeRpc_of_admits _ _ _ hg peerId done).trans ?_
      rw [hcallback]
      rcases f (site.context cb request) vs with e | v
      · exact passedOn_error classifier peerId e
      · obtain ⟨text, hreply, -⟩ := fromSlice_replyOf hret v
        rw [hreply]
        exact hreply.symm

/-- **The request of a call at the server**: it is routed to the closure of the function, and what
is sent for it is what the function comes to for these values, behind the breaker. -/
theorem reply_of_call (toUppercase : Char → List Char)
    (hd : ServiceDescription.fromItem parseType attr traitDef = .ok d)
    (hnames : (traitDef.functions.map fun f ↦ rpcNameOf parseType f.attrs).Nodup)
    (hm : m ∈ d.methods) (hhygienic : (Description.method m).Hygienic)
    (hparams : ∀ ty ∈ t.paramTypes serde, ty.RoundTripsAt (paramDepth (t.paramTypes serde)))
    (hret : (serde t.success).RoundTrips) {f : Implementation serde (RequestContext Val) t}
    {site : RpcSite Val}
    (hservices : site.services = (d.registerService traitDef.callback .new).build)
    (himplements : site.Implements serde toUppercase traitDef t f) (g : Guard B)
    (vs : Values (t.paramTypes serde)) :
    ∃ body, generateParamSerialization (t.paramTypes serde) vs = .ok body ∧
      let request : Request := ⟨d.serviceName, m.rpcName, .rpc body⟩
      let cb := traitDef.callback m.signature.sig.ident
      route site.services request = .ok (.rpc cb) ∧
        site.handleRpc g cb request =
          replyOf (serde t.success) (g.outcome (f (site.context cb request) vs)) := by
  obtain ⟨body, -, hbody, hread⟩ := params_bytes hparams vs
  have hreceive : (Description.method m).receive (t.paramTypes serde)
      ⟨d.serviceName, m.rpcName, .rpc (body.getD [])⟩ = .ok vs := hread
  obtain ⟨function, he⟩ := exists_describe_method hd hm
  have hmeant := (calledAsMeant_iff_hygienic toUppercase traitDef.ident he).mpr hhygienic
  exact ⟨body.getD [], hbody, hservices ▸ route_method hd hnames hm (body.getD []),
    handleRpc_eq hret (himplements hmeant) hreceive⟩

variable (serde) in
/-- What the client makes of the data of a response, with the type that it decodes. -/
def decodeAs (ty : Ty) (response : Response) : Except ClientError (Σ ty, (serde ty).Value) :=
  (((serde ty).fromSlice response.data).mapError .serialization).map (typed serde ty)

/-- The client decodes the response to its request. -/
theorem remoteMethod_eq_bind {site : RpcSite Val} {w : Wiring B} {serviceName : String}
    {vs : Values (t.paramTypes serde)} {body : Bytes}
    (hbody : generateParamSerialization (t.paramTypes serde) vs = .ok body) :
    (remoteMethod serde site w serviceName t vs).map (typed serde t.decoded) =
      (callInternal w.malformed w.link (site.handle w.guard w.env w.malformed) serviceName
        m.rpcName body).bind (decodeAs serde t.decoded) := by
  rw [remoteMethod, clientMethod, hbody]
  show Except.map _ ((callInternal w.malformed w.link (site.handle w.guard w.env w.malformed)
    serviceName m.rpcName body).bind _) = _
  rcases callInternal w.malformed w.link (site.handle w.guard w.env w.malformed) serviceName
    m.rpcName body with e | response <;> rfl

/-- A text of the success type is decoded to its value exactly by a client that knows the type. -/
theorem decodeAs_eq_ok_iff {text : Bytes} {v : (serde t.success).Value}
    (hread : (serde t.success).fromSlice text = .ok v) :
    decodeAs serde t.decoded ⟨text⟩ = .ok (typed serde t.success v) ↔ t.decoded = t.success := by
  constructor
  · intro h
    obtain ⟨u, -, hu⟩ := Except.map_eq_ok.mp h
    exact congrArg Sigma.fst hu
  · intro h
    rw [h, decodeAs, hread]
    rfl

end Generated

/-- `async fn touch(&self) -> Result<(), ResourceError>` -/
def touchStore : ItemTrait where
  ident := "Store"
  items := [.fn ⟨[.named "method" "touch"], ⟨"touch", true, [.receiver], some (.path [] "Result"
    (.angleBracketed [.type .unit, .type (.name "ResourceError")]))⟩⟩]
  nodup := by decide

/-- `touchStore` as the macro describes it. -/
def touchMethod : MethodDescription :=
  ⟨"touch", ⟨[], ⟨"touch", true, [.receiver], some (.path [] "Result"
    (.angleBracketed [.type .unit, .type (.name "ResourceError")]))⟩⟩, [], some .unit⟩

def touchService : ServiceDescription := ⟨"store", "Store", [touchMethod], [], [], []⟩

/-- The types of `touch` without any alias. -/
def touchTypes : MethodTypes .std touchMethod where
  params := []
  params_eq := rfl
  success := .con ["()"] []
  error := .con ["ResourceError"] []
  declared_eq := rfl
  decoded := .con ["()"] []
  decoded_eq := rfl

/-- The only type that is sent is the unit type. -/
def unitSerde : Ty → SerdeType := fun _ ↦ .unit

/-- A server without extensions, whose `touch` comes to this. -/
def touchSite (out : Except ResourceError Unit) : RpcSite fun _ : Empty ↦ Unit where
  services := (touchService.registerService touchStore.callback .new).build
  rpc _ := methodCallback unitSerde touchTypes fun _ _ ↦ out
  serverExtensions := .new
  connectionHook := none
  requestMiddleware := []

/-- Nothing fails on the way, and the breaker is asked for the first time. -/
def touchWiring (breakers : Option (PeerCircuitBreakers String Breaker.Circuit)) :
    Wiring Breaker.Circuit where
  malformed _ := "malformed"
  link := .up
  guard := ⟨standardOps, .default, breakers, "peer", 0, 0⟩
  env := ⟨true, .ok (), true, none, .ok ⟨[]⟩⟩

theorem touchMethod_hygienic : (Description.method touchMethod).Hygienic :=
  hygienic_of_params_nil rfl rfl

/-- **A remote call makes nothing up.**  However the link, the breaker and the frames turn out, a
value that the client is given is the one that the function returned for these very values, in a
call that the breaker let through, if the return type is written out as a `Result`. -/
theorem remote_ok_of_local (toUppercase : Char → List Char)
    (parseType : String → Except SynError SynType) (attr : ServiceAttr) (traitDef : ItemTrait)
    (d : ServiceDescription) (hd : ServiceDescription.fromItem parseType attr traitDef = .ok d)
    (hnames : (traitDef.functions.map fun f ↦ rpcNameOf parseType f.attrs).Nodup)
    (m : MethodDescription) (hm : m ∈ d.methods) (hhygienic : (Description.method m).Hygienic)
    (env : Env) (t : MethodTypes env m)
    (hwritten : m.signature.sig.declaredType.WritesOut env t.success) (serde : Ty → SerdeType)
    (hparams : ∀ ty ∈ t.paramTypes serde, ty.RoundTripsAt (paramDepth (t.paramTypes serde)))
    (hret : (serde t.success).RoundTrips) (f : Implementation serde (RequestContext Val) t)
    (site : RpcSite Val)
    (hservices : site.services = (d.registerService traitDef.callback .new).build)
    (himplements : site.Implements serde toUppercase traitDef t f)
    (w : Wiring B) (vs : Values (t.paramTypes serde)) (v : (serde t.decoded).Value)
    (h : remoteMethod serde site w d.serviceName t vs = .ok v) :
    w.guard.admits = true ∧ ∃ body, generateParamSerialization (t.paramTypes serde) vs = .ok body ∧
      (f (site.context (traitDef.callback m.signature.sig.ident)
        ⟨d.serviceName, m.rpcName, .rpc body⟩) vs).map (typed serde t.success) =
          .ok (typed serde t.decoded v) := by
  obtain ⟨body, hbody, hroute, hreply⟩ := reply_of_call toUppercase hd hnames hm hhygienic hparams
    hret hservices himplements w.guard vs
  have hbind := congrArg (Except.map (typed serde t.decoded)) h
  rw [remoteMethod_eq_bind hbody] at hbind
  obtain ⟨resp, hresp⟩ := exists_reply_of_bind_eq_ok hroute hbind
  rcases hout : w.guard.outcome (f _ vs) with e | u
  · rw [hout, hresp] at hreply
    cases hreply
  · rw [hout] at hreply
    obtain ⟨hadmits, hlocal⟩ := Guard.ok_of_outcome hout
    refine ⟨hadmits, body, hbody, ?_⟩
    obtain ⟨text, htext, hdecode⟩ := fromSlice_replyOf hret u
    rw [htext] at hreply
    -- the client has decoded this text, as the type that it was written as
    obtain ⟨-, -, -, hclient⟩ := (callInternal_bind_eq_ok_iff hroute hreply).mp hbind
    have hsame := (t.decoded_eq_success_iff (returnType_of_fromItem hd hm)).mpr hwritten
    have hserver := (decodeAs_eq_ok_iff hdecode).mpr hsame
    rw [hlocal]
    exact congrArg Except.ok (Except.ok.inj (hserver.symm.trans hclient))

/-- A value comes back, and it is the one that the function returned. -/
theorem remote_value_returned :
    (touchWiring none).guard.admits = true ∧
      ∃ body, generateParamSerialization [] () = .ok body ∧
        (Except.ok () : Except ResourceError Unit).map (typed unitSerde touchTypes.success) =
          .ok (typed unitSerde touchTypes.decoded ()) :=
  remote_ok_of_local asciiUppercase parseIdent ⟨"store"⟩ touchStore touchService rfl (by decide)
    touchMethod List.mem_cons_self touchMethod_hygienic .std touchTypes
    ⟨[], .unit, _, rfl, rfl⟩ unitSerde (by simp [touchTypes])
    (roundTrips_iff.mpr (unit_roundTripsAt _)) (fun _ _ ↦ .ok ()) (touchSite (.ok ())) rfl
    (fun _ ↦ rfl) (touchWiring none) () () rfl

end Zel
