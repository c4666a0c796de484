import Mathlib.Logic.Function.Basic
import Zel.Handlers
import Zel.Lib.Machine
import Zel.Lib.Slots

/-!
# One connection, seen from both ends

The operations of `RpcClient` (`protocol/client.rs`) against the handlers of the server.  Every
operation has a request stream of its own, but the streams that the server opens in answer arrive in
two queues that the whole connection shares, and `accept_uni` and `accept_bi` take the oldest one,
whoever asked for it.

An *exchange* is one operation with the handler of its request; exchanges are numbered in the order
in which the operations start, and a stream that the server opened is known by the number of the
exchange it was opened for.  A `call` with retries is one operation for each attempt.

## What is here

* `Operation` — the four operations: what each sends, where it accepts, what it takes for a label.
* `Exchange`, `Connection`, `step`, `machine` — all interleavings of clients and handlers.
* `Moves` — the inversion of `step`.
-/

set_option autoImplicit false

namespace Zel

/-! ## The operations -/

/-- An operation of `RpcClient` with its arguments. -/
inductive Operation where
  | call (service resource : String) (body : Bytes)
  | subscribe (service resource : String) (body : Option Bytes)
  | notify (service resource : String) (params : Option Bytes)
  | openStream (service resource : String) (params : Option Bytes)
  deriving DecidableEq

/-- The names in an `Established` message; those of the two message types are one and the same
JSON. -/
def StreamLabel.established : StreamLabel → Option (String × String)
  | .subscriptionEstablished service resource => some (service, resource)
  | .notificationEstablished service resource => some (service, resource)
  | .ok => none

/-- The check of an `Established` message in `subscribe` and `notify`. -/
def checkEstablished (service resource : String) (got : String × String) :
    Except ClientError Unit :=
  if got.1 ≠ service ∨ got.2 ≠ resource then
    .error (.protocol ("Established message mismatch: expected " ++ service ++ "/" ++ resource ++
      ", got " ++ got.1 ++ "/" ++ got.2))
  else .ok ()

namespace Operation

/-- The request that the operation sends. -/
def request : Operation → Request
  | .call service resource body => ⟨service, resource, .rpc body⟩
  | .subscribe service resource (some data) => ⟨service, resource, .rpc data⟩
  | .subscribe service resource none => ⟨service, resource, .subscribe⟩
  | .notify service resource params => ⟨service, resource, .notify (params.getD [])⟩
  | .openStream service resource params => ⟨service, resource, .stream (params.getD [])⟩

/-- Where the operation accepts a stream once its request has succeeded. -/
def acceptsFrom : Operation → Option Queue
  | .call .. => none
  | .subscribe .. => some .uni
  | .notify .. | .openStream .. => some .bi

/-- What the operation makes of the first thing on the stream it accepted; `none` when it goes on
waiting.  The frame that `notify` wants never comes from the two bytes of a raw stream, whereas
`open_stream` takes the length of a frame for its two bytes. -/
def handshake : Operation → StreamLabel → Option (Except ClientError Unit)
  | .call .., _ => none
  | .subscribe service resource _, label | .notify service resource _, label =>
    label.established.map (checkEstablished service resource)
  | .openStream .., .ok => some (.ok ())
  | .openStream .., _ => some (.error (.protocol "Invalid stream ACK"))

/-- The operation reads its accepted stream through a codec. -/
def framed : Operation → Bool
  | .subscribe .. | .notify .. => true
  | .call .. | .openStream .. => false

/-- The two bytes of a raw stream are no label for an operation that reads frames. -/
theorem handshake_ok_of_framed {op : Operation} (h : op.framed = true) :
    op.handshake .ok = none := by
  cases op with
  | call => rfl
  | subscribe => rfl
  | notify => rfl
  | openStream => cases h

/-- The kind of resource that the operation is meant for. -/
def kind : Operation → Option StreamKind
  | .call .. => none
  | .subscribe .. => some .subscription
  | .notify .. => some .notification
  | .openStream .. => some .stream

/-- **A resource of the operation's own kind** opens its stream where the operation accepts one, and
labels it as the operation wants. -/
theorem handshake_of_kind {op : Operation} {k : StreamKind} (h : op.kind = some k) :
    op.acceptsFrom = some k.setup.queue ∧
      op.handshake (k.setup.label op.request) = some (.ok ()) := by
  cases op with
  | call => cases h
  | subscribe _ _ body =>
    cases h
    refine ⟨rfl, ?_⟩
    cases body <;>
      simp [handshake, request, StreamKind.setup, handleSubscription, StreamLabel.established,
        checkEstablished]
  | notify =>
    cases h
    refine ⟨rfl, ?_⟩
    simp [handshake, request, StreamKind.setup, handleNotification, StreamLabel.established,
      checkEstablished]
  | openStream =>
    cases h
    exact ⟨rfl, rfl⟩

/-- **Only a resource of the operation's own kind** passes the handshake of an operation that
accepts from the same queue. -/
theorem kind_of_handshake {op : Operation} {k : StreamKind}
    (hq : op.acceptsFrom = some k.setup.queue)
    (h : op.handshake (k.setup.label op.request) = some (.ok ())) : op.kind = some k := by
  cases op with
  | call => cases hq
  | subscribe =>
    cases k with
    | subscription => rfl
    | notification => cases hq
    | stream => cases hq
  | notify =>
    cases k with
    | subscription => cases hq
    | notification => rfl
    | stream =>
      simp [handshake, StreamKind.setup, handleStreamHandler, StreamLabel.established] at h
  | openStream =>
    cases k with
    | subscription => cases hq
    | notification => simp [handshake, StreamKind.setup, handleNotification] at h
    | stream => rfl

example : (Operation.notify "a" "b" none).handshake (.notificationEstablished "a" "c") =
    some (.error (.protocol "Established message mismatch: expected a/b, got a/c")) := rfl

/-- A subscription to one and the same resource, by its parameter, for examples of runs. -/
def counter (b : UInt8) : Operation := .subscribe "demo" "counter" (some [b])

end Operation

/-! ## The state -/

/-- What an operation that succeeds returns. -/
inductive Success where
  | response (r : Response)
  /-- The stream that the server opened for this exchange. -/
  | stream (owner : Nat)
  deriving DecidableEq

/-- Where an operation stands. -/
inductive OperationPhase where
  /-- It opens its request stream and sends the request. -/
  | sending
  | awaitingResponse
  /-- In `accept_uni` or `accept_bi`. -/
  | accepting (q : Queue)
  /-- It accepted the stream of this exchange and reads what is first on it. -/
  | awaitingLabel (owner : Nat)
  | returned (r : Except ClientError Success)

/-- An operation and the handler of its request. -/
structure Exchange where
  operation : Operation
  client : OperationPhase
  server : HandlePhase
  /-- What the server wrote first on the stream it opened. -/
  label : Option StreamLabel
  /-- What the server wrote on the request stream. -/
  response : Option ResourceResponse

/-- A connection. -/
structure Connection where
  exchanges : List Exchange
  /-- The streams that the server opened and nobody accepted yet, the oldest first. -/
  pending : Queue → List Nat

/-- The operation returned. -/
def Exchange.Returned (x : Exchange) : Prop := ∃ r, x.client = .returned r

/-- The handler has not answered. -/
def Unanswered : HandlePhase → Prop
  | .spawning _ _ | .done => False
  | _ => True

/-- What becomes of an operation that reads this response. -/
def Operation.answered (op : Operation) : ResourceResponse → OperationPhase
  | .error e => .returned (.error (.resource e))
  | .ok r =>
    match op.acceptsFrom with
    | none => .returned (.ok (.response r))
    | some q => .accepting q

namespace Connection

/-- A new connection. -/
def new : Connection := ⟨[], fun _ ↦ []⟩

/-- What is written first on the stream of this exchange. -/
def labelOf (s : Connection) (owner : Nat) : Option StreamLabel :=
  s.exchanges[owner]?.bind Exchange.label

/-- The stream of this exchange ended without a label: its handler gave up. -/
def unlabelled (s : Connection) (owner : Nat) : Bool :=
  match s.exchanges[owner]? with
  | some ⟨_, _, .labelling _ _, _, _⟩ => false
  | some ⟨_, _, _, none, _⟩ => true
  | _ => false

theorem label_of_unlabelled {s : Connection} {c : Nat} {x : Exchange}
    (hx : s.exchanges[c]? = some x) (h : s.unlabelled c = true) : x.label = none := by
  rw [unlabelled, hx] at h
  split at h
  · cases h
  · rename_i heq
    cases heq
    rfl
  · cases h

def setExchange (s : Connection) (c : Nat) (x : Exchange) : Connection :=
  { s with exchanges := s.exchanges.set c x }

def setPending (s : Connection) (q : Queue) (owners : List Nat) : Connection :=
  { s with pending := Function.update s.pending q owners }

def setClient (s : Connection) (c : Nat) (x : Exchange) (p : OperationPhase) : Connection :=
  s.setExchange c { x with client := p }

/-- What an effect of the handler does to the exchange and to the queues; callbacks are no concern
of the connection. -/
def apply (s : Connection) (c : Nat) (x : Exchange) : Option HandleEffect → Connection
  | some (.openStream q) => (s.setExchange c x).setPending q (s.pending q ++ [c])
  | some (.writeLabel label) => s.setExchange c { x with label := some label }
  | some (.respond r) => s.setExchange c { x with response := some r }
  | _ => s.setExchange c x

/-! ## The steps -/

/-- What the environment answers to an operation. -/
inductive ClientEvent where
  /-- What the operation waits for is there. -/
  | next
  /-- The stream it reads has ended. -/
  | ended
  /-- What is on the accepted stream is no frame. -/
  | undecodable (e : String)
  /-- The connection or the stream fails. -/
  | failed (e : String)

/-- The steps. -/
inductive Label where
  | start (op : Operation)
  | client (c : Nat) (ev : ClientEvent)
  | server (c : Nat) (ev : HandleEvent)

/-- A step of the operation of exchange `c`. -/
def clientStep (s : Connection) (c : Nat) (x : Exchange) :
    OperationPhase → ClientEvent → Option Connection
  | .returned _, _ => none
  | _, .failed e => some (s.setClient c x (.returned (.error (.connection e))))
  | .sending, .next => some (s.setClient c x .awaitingResponse)
  | .awaitingResponse, .next => x.response.map fun r ↦ s.setClient c x (x.operation.answered r)
  | .awaitingResponse, .ended =>
    match x.server, x.response with
    | .done, none => some (s.setClient c x (.returned (.error (.protocol "No response received"))))
    | _, _ => none
  | .accepting q, .next =>
    match s.pending q with
    | owner :: rest => some ((s.setClient c x (.awaitingLabel owner)).setPending q rest)
    | [] => none
  | .awaitingLabel owner, .next =>
    (s.labelOf owner).bind fun label ↦ (x.operation.handshake label).map fun r ↦
      s.setClient c x (.returned (r.map fun _ ↦ .stream owner))
  | .awaitingLabel owner, .ended =>
    if x.operation.framed && s.unlabelled owner then
      some (s.setClient c x (.returned (.error (.protocol "No established message received"))))
    else none
  | .awaitingLabel owner, .undecodable e =>
    if x.operation.framed && s.labelOf owner == some .ok then
      some (s.setClient c x (.returned (.error (.connection e))))
    else none
  | _, _ => none

variable (services : ServiceMap) (peerId : String)

/-- One step. -/
def step (s : Connection) : Label → Option Connection
  | .start op => some { s with exchanges := s.exchanges ++ [⟨op, .sending, .reading, none, none⟩] }
  | .client c ev => s.exchanges[c]?.bind fun x ↦ s.clientStep c x x.client ev
  | .server c ev =>
    s.exchanges[c]?.bind fun x ↦
      (x.server.step services peerId x.operation.request ev).map fun r ↦
        s.apply c { x with server := r.1 } r.2

/-- All interleavings of the operations of a client and the handlers of a server. -/
def machine : Machine Connection Label := ⟨new, step services peerId⟩

/-! ## What a step does -/

/-- The steps, one constructor for each way a label can move the connection. -/
inductive Moves (s : Connection) : Label → Connection → Prop
  | start (op : Operation) : Moves s (.start op)
      { s with exchanges := s.exchanges ++ [⟨op, .sending, .reading, none, none⟩] }
  | sent {c : Nat} {x : Exchange} (hx : s.exchanges[c]? = some x) (hp : x.client = .sending) :
      Moves s (.client c .next) (s.setClient c x .awaitingResponse)
  | answered {c : Nat} {x : Exchange} {r : ResourceResponse} (hx : s.exchanges[c]? = some x)
      (hp : x.client = .awaitingResponse) (hr : x.response = some r) :
      Moves s (.client c .next) (s.setClient c x (x.operation.answered r))
  | unanswered {c : Nat} {x : Exchange} (hx : s.exchanges[c]? = some x)
      (hp : x.client = .awaitingResponse) (hdone : x.server = .done) (hr : x.response = none) :
      Moves s (.client c .ended)
        (s.setClient c x (.returned (.error (.protocol "No response received"))))
  | accepted {c : Nat} {x : Exchange} {q : Queue} {owner : Nat} {rest : List Nat}
      (hx : s.exchanges[c]? = some x) (hp : x.client = .accepting q)
      (hq : s.pending q = owner :: rest) :
      Moves s (.client c .next) ((s.setClient c x (.awaitingLabel owner)).setPending q rest)
  | shaken {c : Nat} {x : Exchange} {owner : Nat} {label : StreamLabel}
      {r : Except ClientError Unit} (hx : s.exchanges[c]? = some x)
      (hp : x.client = .awaitingLabel owner) (hl : s.labelOf owner = some label)
      (hr : x.operation.handshake label = some r) :
      Moves s (.client c .next) (s.setClient c x (.returned (r.map fun _ ↦ .stream owner)))
  | unlabelled {c : Nat} {x : Exchange} {owner : Nat} (hx : s.exchanges[c]? = some x)
      (hp : x.client = .awaitingLabel owner) (hl : s.unlabelled owner = true) :
      Moves s (.client c .ended)
        (s.setClient c x (.returned (.error (.protocol "No established message received"))))
  | undecodable {c : Nat} {x : Exchange} {owner : Nat} {e : String}
      (hx : s.exchanges[c]? = some x) (hp : x.client = .awaitingLabel owner)
      (hf : x.operation.framed = true) (hl : s.labelOf owner = some .ok) :
      Moves s (.client c (.undecodable e)) (s.setClient c x (.returned (.error (.connection e))))
  | failed {c : Nat} {x : Exchange} {e : String} (hx : s.exchanges[c]? = some x)
      (hp : ¬ x.Returned) :
      Moves s (.client c (.failed e)) (s.setClient c x (.returned (.error (.connection e))))
  | server {c : Nat} {x : Exchange} {p : HandlePhase} {ev : HandleEvent}
      {eff : Option HandleEffect} (hx : s.exchanges[c]? = some x)
      (hp : HandleMoves services peerId x.operation.request x.server ev p eff) :
      Moves s (.server c ev) (s.apply c { x with server := p } eff)

variable {services : ServiceMap} {peerId : String}

theorem step_client {s : Connection} {c : Nat} {x : Exchange} (hx : s.exchanges[c]? = some x)
    (ev : ClientEvent) :
    (machine services peerId).step s (.client c ev) = s.clientStep c x x.client ev := by
  show s.exchanges[c]?.bind _ = _
  rw [hx]
  rfl

theorem step_server {s : Connection} {c : Nat} {x : Exchange} (hx : s.exchanges[c]? = some x)
    (ev : HandleEvent) :
    (machine services peerId).step s (.server c ev) =
      (x.server.step services peerId x.operation.request ev).map fun r ↦
        s.apply c { x with server := r.1 } r.2 := by
  show s.exchanges[c]?.bind _ = _
  rw [hx]
  rfl

theorem getElem?_setExchange {s : Connection} {c : Nat} {x : Exchange}
    (hx : s.exchanges[c]? = some x) (y : Exchange) : (s.setExchange c y).exchanges[c]? = some y :=
  List.getElem?_set_of_some hx

theorem getElem?_setClient {s : Connection} {c : Nat} {x : Exchange}
    (hx : s.exchanges[c]? = some x) (p : OperationPhase) :
    (s.setClient c x p).exchanges[c]? = some { x with client := p } :=
  List.getElem?_set_of_some hx

theorem moves_of_clientStep {s t : Connection} {c : Nat} {x : Exchange} {ev : ClientEvent}
    (hx : s.exchanges[c]? = some x) (h : s.clientStep c x x.client ev = some t) :
    Moves services peerId s (.client c ev) t := by
  generalize hp : x.client = p at h
  unfold clientStep at h
  split at h
  · cases h
  · rename_i hne
    cases h
    refine .failed hx ?_
    rintro ⟨r, hr⟩
    exact hne r (hp.symm.trans hr)
  · cases h
    exact .sent hx hp
  · obtain ⟨r, hr, rfl⟩ := Option.map_eq_some_iff.mp h
    exact .answered hx hp hr
  · split at h
    · cases h
      exact .unanswered hx hp ‹_› ‹_›
    · cases h
  · split at h
    · cases h
      exact .accepted hx hp ‹_›
    · cases h
  · obtain ⟨label, hl, h⟩ := Option.bind_eq_some_iff.mp h
    obtain ⟨r, hr, rfl⟩ := Option.map_eq_some_iff.mp h
    exact .shaken hx hp hl hr
  · split at h
    · rename_i hif
      cases h
      exact .unlabelled hx hp (Bool.and_eq_true_iff.mp hif).2
    · cases h
  · split at h
    · rename_i hif
      cases h
      obtain ⟨hf, hl⟩ := Bool.and_eq_true_iff.mp hif
      exact .undecodable hx hp hf (by simpa using hl)
    · cases h
  · cases h

theorem moves_of_step {s t : Connection} {l : Label} (h : step services peerId s l = some t) :
    Moves services peerId s l t := by
  cases l with
  | start op =>
    cases h
    exact .start op
  | client c ev =>
    obtain ⟨x, hx, h⟩ := Option.bind_eq_some_iff.mp h
    exact moves_of_clientStep hx h
  | server c ev =>
    obtain ⟨x, hx, h⟩ := Option.bind_eq_some_iff.mp h
    obtain ⟨⟨p, eff⟩, hp, rfl⟩ := Option.map_eq_some_iff.mp h
    exact .server hx (HandlePhase.moves_of_step hp)

end Connection

end Zel
