import Zel.Types

/-!
# The handler of one request stream

`handle_stream` (`protocol/server.rs`) reads one request, routes it and hands it to the handler of
the resource's kind (`protocol/handlers/`).  Its control flow is the transducer `HandlePhase.step`:
a phase of the handler, the answer of the environment to what the handler is waiting for, the next
phase, and what became visible outside — a stream opened, a label or a response written, a callback
started.  The machines of the server and of a connection run it, one copy for each request stream.

The request middleware is awaited.  `handle_rpc` waits for it inside the request's task, before it
asks the breaker; the other handlers leave it to the task they spawn, where it runs in front of the
callback.

The three handlers that open a stream of their own differ only in which stream they open, what they
write on it first and the texts of their errors; `StreamSetup` holds these, and
`handleSubscription`, `handleNotification` and `handleStreamHandler` are its three values.
-/

set_option autoImplicit false

namespace Zel

/-! ## Routing -/

/-- A registered callback is known by its identity only. -/
abbrev CallbackId := Nat

/-- `ResourceCallback` -/
inductive ResourceCallback where
  | rpc (callback : CallbackId)
  | subscriptionProducer (callback : CallbackId)
  | notificationConsumer (callback : CallbackId)
  | streamHandler (callback : CallbackId)
  deriving DecidableEq

/-- `RpcService` -/
structure RpcService where
  service : String
  resources : String → Option ResourceCallback

/-- `ServiceMap` -/
abbrev ServiceMap := String → Option RpcService

/-- The two lookups of `handle_stream`. -/
def route (services : ServiceMap) (request : Request) : Except ResourceError ResourceCallback :=
  match services request.service with
  | none => .error (.serviceNotFound request.service)
  | some service =>
    match service.resources request.resource with
    | none => .error (.resourceNotFound request.service request.resource)
    | some resource => .ok resource

/-- The services of a server that has this resource under every name. -/
def oneResource (resource : ResourceCallback) : ServiceMap :=
  fun service ↦ some ⟨service, fun _ ↦ some resource⟩

/-- A request, for examples of runs. -/
def ping : Request := ⟨"demo", "ping", .rpc []⟩

/-! ## The streams a handler opens -/

/-- The client's two accept queues. -/
inductive Queue where
  | uni
  | bi
  deriving DecidableEq

/-- What the server writes first on a stream it opened. -/
inductive StreamLabel where
  /-- A framed `SubscriptionMsg::Established`. -/
  | subscriptionEstablished (service resource : String)
  /-- A framed `NotificationMsg::Established`. -/
  | notificationEstablished (service resource : String)
  /-- The two bytes `OK`, without a frame. -/
  | ok
  deriving DecidableEq

/-- What tells the three stream-opening handlers apart. -/
structure StreamSetup where
  queue : Queue
  /-- The error message when the stream cannot be opened. -/
  openError : String
  /-- The error message when the label cannot be written. -/
  ackError : String → String
  label : Request → StreamLabel

/-- `handle_subscription` -/
def handleSubscription : StreamSetup where
  queue := .uni
  openError := "Failed to establish stream"
  ackError e := "Failed to send ack: " ++ e
  label r := .subscriptionEstablished r.service r.resource

/-- `handle_notification` -/
def handleNotification : StreamSetup where
  queue := .bi
  openError := "Failed to establish notification stream"
  ackError e := "Failed to send ack: " ++ e
  label r := .notificationEstablished r.service r.resource

/-- `handle_stream_handler` -/
def handleStreamHandler : StreamSetup where
  queue := .bi
  openError := "Failed to open bidi stream"
  ackError e := "Failed to send stream ACK: " ++ e
  label _ := .ok

/-- The kinds of resource whose handler opens a stream. -/
inductive StreamKind where
  | subscription
  | notification
  | stream
  deriving DecidableEq

/-- The handler of a stream-opening resource. -/
def StreamKind.setup : StreamKind → StreamSetup
  | .subscription => handleSubscription
  | .notification => handleNotification
  | .stream => handleStreamHandler

/-- The kind of stream a resource's handler opens, if any. -/
def ResourceCallback.streamKind : ResourceCallback → Option StreamKind
  | .rpc _ => none
  | .subscriptionProducer _ => some .subscription
  | .notificationConsumer _ => some .notification
  | .streamHandler _ => some .stream

/-! ## The transducer -/

/-- Where `handle_stream` stands. -/
inductive HandlePhase where
  /-- In `read_and_deserialize_request`. -/
  | reading
  /-- The handler of a stream kind is about to open its stream. -/
  | opening (k : StreamKind) (callback : CallbackId)
  /-- The stream is open and its label is not yet written. -/
  | labelling (k : StreamKind) (callback : CallbackId)
  /-- The label is written and the success response is not yet sent. -/
  | accepting (k : StreamKind) (callback : CallbackId)
  /-- The response is sent and the callback's task is not yet spawned. -/
  | spawning (k : StreamKind) (callback : CallbackId)
  /-- `handle_rpc` has its context, and the request middleware is applied to it. -/
  | preparing (callback : CallbackId)
  /-- `handle_rpc` asks for admission to the callback. -/
  | admitting (callback : CallbackId)
  /-- The Rpc callback runs, inside this task. -/
  | running (callback : CallbackId)
  /-- The last response is to be sent. -/
  | responding (r : ResourceResponse)
  /-- `handle_stream` has returned. -/
  | done

/-- What the environment answers. -/
inductive HandleEvent where
  /-- The request frame is there and deserialises. -/
  | read
  /-- The request stream ends, fails or carries something else. -/
  | readFail
  /-- `open_uni` or `open_bi` succeeds, or not. -/
  | opened (ok : Bool)
  /-- The write of the label succeeds, or fails with this text. -/
  | labelled (r : Except String Unit)
  /-- The write on the request stream succeeds, or not. -/
  | sent (ok : Bool)
  /-- `tokio::spawn` of the callback's task. -/
  | spawn
  /-- The last middleware returns the context. -/
  | prepared
  /-- The circuit breaker, if there is one, lets the call through, or not. -/
  | admitted (ok : Bool)
  /-- The Rpc callback returns. -/
  | returned (r : ResourceResponse)
  /-- A middleware or the Rpc callback panics, which unwinds the task. -/
  | panicked

/-- What a step of the handler makes visible outside. -/
inductive HandleEffect where
  | openStream (q : Queue)
  | writeLabel (label : StreamLabel)
  | respond (r : ResourceResponse)
  /-- The Rpc callback starts, inside this task. -/
  | startCallback (callback : CallbackId)
  /-- The callback of a stream kind starts, in a task of its own. -/
  | spawnCallback (k : StreamKind) (callback : CallbackId)

/-- Where the handler goes once the request is routed. -/
def dispatch : Except ResourceError ResourceCallback → HandlePhase
  | .error e => .responding (.error e)
  | .ok (.rpc cb) => .preparing cb
  | .ok (.subscriptionProducer cb) => .opening .subscription cb
  | .ok (.notificationConsumer cb) => .opening .notification cb
  | .ok (.streamHandler cb) => .opening .stream cb

/-- `handle_stream`, one await at a time. -/
def HandlePhase.step (services : ServiceMap) (peerId : String) (request : Request) :
    HandlePhase → HandleEvent → Option (HandlePhase × Option HandleEffect)
  | .reading, .read => some (dispatch (route services request), none)
  | .reading, .readFail => some (.done, none)
  | .opening k cb, .opened true => some (.labelling k cb, some (.openStream k.setup.queue))
  | .opening k _, .opened false =>
    some (.responding (.error (.app k.setup.openError)), none)
  | .labelling k cb, .labelled (.ok ()) =>
    some (.accepting k cb, some (.writeLabel (k.setup.label request)))
  | .labelling k _, .labelled (.error e) =>
    some (.responding (.error (.app (k.setup.ackError e))), none)
  | .accepting k cb, .sent true => some (.spawning k cb, some (.respond (.ok ⟨[]⟩)))
  | .accepting _ _, .sent false => some (.done, none)
  | .spawning k cb, .spawn => some (.done, some (.spawnCallback k cb))
  | .preparing cb, .prepared => some (.admitting cb, none)
  | .preparing _, .panicked => some (.done, none)
  | .admitting cb, .admitted true => some (.running cb, some (.startCallback cb))
  | .admitting _, .admitted false =>
    some (.responding (.error (.circuitBreakerOpen peerId)), none)
  | .running _, .returned r => some (.responding r, none)
  | .running _, .panicked => some (.done, none)
  | .responding r, .sent true => some (.done, some (.respond r))
  | .responding _, .sent false => some (.done, none)
  | _, _ => none

/-- The steps of a handler, one constructor for each. -/
inductive HandleMoves (services : ServiceMap) (peerId : String) (request : Request) :
    HandlePhase → HandleEvent → HandlePhase → Option HandleEffect → Prop
  | read : HandleMoves services peerId request .reading .read
      (dispatch (route services request)) none
  | readFail : HandleMoves services peerId request .reading .readFail .done none
  | opened {k : StreamKind} {cb : CallbackId} :
      HandleMoves services peerId request (.opening k cb) (.opened true) (.labelling k cb)
        (some (.openStream k.setup.queue))
  | openFail {k : StreamKind} {cb : CallbackId} :
      HandleMoves services peerId request (.opening k cb) (.opened false)
        (.responding (.error (.app k.setup.openError))) none
  | labelled {k : StreamKind} {cb : CallbackId} :
      HandleMoves services peerId request (.labelling k cb) (.labelled (.ok ())) (.accepting k cb)
        (some (.writeLabel (k.setup.label request)))
  | labelFail {k : StreamKind} {cb : CallbackId} {e : String} :
      HandleMoves services peerId request (.labelling k cb) (.labelled (.error e))
        (.responding (.error (.app (k.setup.ackError e)))) none
  | accepted {k : StreamKind} {cb : CallbackId} :
      HandleMoves services peerId request (.accepting k cb) (.sent true) (.spawning k cb)
        (some (.respond (.ok ⟨[]⟩)))
  | acceptFail {k : StreamKind} {cb : CallbackId} :
      HandleMoves services peerId request (.accepting k cb) (.sent false) .done none
  | spawned {k : StreamKind} {cb : CallbackId} :
      HandleMoves services peerId request (.spawning k cb) .spawn .done
        (some (.spawnCallback k cb))
  | prepared {cb : CallbackId} :
      HandleMoves services peerId request (.preparing cb) .prepared (.admitting cb) none
  | prepareFail {cb : CallbackId} :
      HandleMoves services peerId request (.preparing cb) .panicked .done none
  | admitted {cb : CallbackId} :
      HandleMoves services peerId request (.admitting cb) (.admitted true) (.running cb)
        (some (.startCallback cb))
  | rejected {cb : CallbackId} :
      HandleMoves services peerId request (.admitting cb) (.admitted false)
        (.responding (.error (.circuitBreakerOpen peerId))) none
  | returned {cb : CallbackId} {r : ResourceResponse} :
      HandleMoves services peerId request (.running cb) (.returned r) (.responding r) none
  | panicked {cb : CallbackId} :
      HandleMoves services peerId request (.running cb) .panicked .done none
  | responded {r : ResourceResponse} :
      HandleMoves services peerId request (.responding r) (.sent true) .done (some (.respond r))
  | respondFail {r : ResourceResponse} :
      HandleMoves services peerId request (.responding r) (.sent false) .done none

theorem HandlePhase.moves_of_step {services : ServiceMap} {peerId : String} {request : Request}
    {p q : HandlePhase} {ev : HandleEvent} {eff : Option HandleEffect}
    (h : p.step services peerId request ev = some (q, eff)) :
    HandleMoves services peerId request p ev q eff := by
  unfold HandlePhase.step at h
  split at h <;> cases h <;> constructor

/-! ## Whole handlings -/

/-- The handler runs through these events, and these are its effects. -/
def HandlePhase.drive (services : ServiceMap) (peerId : String) (request : Request) :
    HandlePhase → List HandleEvent → Option (HandlePhase × List HandleEffect)
  | p, [] => some (p, [])
  | p, ev :: evs =>
    (p.step services peerId request ev).bind fun (q, eff) ↦
      (q.drive services peerId request evs).map fun (r, effs) ↦ (r, eff.toList ++ effs)

/-- From this phase the handler returns after these events, with these effects. -/
inductive Finishes (services : ServiceMap) (peerId : String) (request : Request) :
    HandlePhase → List HandleEvent → List HandleEffect → Prop
  | done : Finishes services peerId request .done [] []
  | step {p q : HandlePhase} {ev : HandleEvent} {eff : Option HandleEffect}
      {evs : List HandleEvent} {effs : List HandleEffect}
      (hmove : HandleMoves services peerId request p ev q eff)
      (hrest : Finishes services peerId request q evs effs) :
      Finishes services peerId request p (ev :: evs) (eff.toList ++ effs)

theorem HandlePhase.finishes_of_drive {services : ServiceMap} {peerId : String}
    {request : Request} {p : HandlePhase} {evs : List HandleEvent} {effs : List HandleEffect}
    (h : p.drive services peerId request evs = some (.done, effs)) :
    Finishes services peerId request p evs effs := by
  induction evs generalizing p effs with
  | nil =>
    cases h
    exact .done
  | cons ev evs ih =>
    obtain ⟨⟨q, eff⟩, hstep, hrest⟩ := Option.bind_eq_some_iff.mp h
    obtain ⟨⟨r, effs'⟩, hdrive, he⟩ := Option.map_eq_some_iff.mp hrest
    cases he
    exact .step (HandlePhase.moves_of_step hstep) (ih hdrive)

/-- A request that was read and routed to a registered resource, with everything that happened
until `handle_stream` returned. -/
structure Handling (services : ServiceMap) (peerId : String) where
  request : Request
  resource : ResourceCallback
  routed : route services request = .ok resource
  events : List HandleEvent
  effects : List HandleEffect
  complete : (dispatch (.ok resource)).drive services peerId request events =
    some (.done, effects)

namespace Handling

variable {services : ServiceMap} {peerId : String} (h : Handling services peerId)

/-- No resource callback was invoked. -/
def NoCallback : Prop :=
  (∀ cb, HandleEffect.startCallback cb ∉ h.effects) ∧
    ∀ k cb, HandleEffect.spawnCallback k cb ∉ h.effects

/-- The client received an error response. -/
def ErrorResponse : Prop := ∃ e, HandleEffect.respond (.error e) ∈ h.effects

/-- The stream that the resource needs could not be opened or labelled. -/
def StreamFailed : Prop :=
  HandleEvent.opened false ∈ h.events ∨ ∃ e, HandleEvent.labelled (.error e) ∈ h.events

/-- The response was written. -/
def Responded : Prop := HandleEvent.sent true ∈ h.events

theorem finishes : Finishes services peerId h.request (dispatch (.ok h.resource)) h.events
    h.effects :=
  HandlePhase.finishes_of_drive h.complete

end Handling

end Zel
