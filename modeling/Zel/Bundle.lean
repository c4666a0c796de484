import Zel.Server

/-!
# The bundle: subscribers, router and coordinated shutdown

`iroh_helpers.rs` as a machine over the one of the server.  An `IrohBundle` owns the router and the
senders of its shutdown subscribers; `shutdown` consumes it, sends each subscriber a
`ShutdownReplier`, waits for the replies under a timeout and shuts the router down, and
`shutdown_with_handle` shuts the RPC server down first, under a timeout of its own.

Two one-shot channels belong to a subscriber, the one on which it gets its replier and the one
inside the replier.  `SubscriberPhase` is the joint state of both: a listener can be dropped before
or after its turn, and a replier can be completed or dropped.

## What is here

* `SubscriberPhase`, `Reply`, `RouterPhase`, `BundlePhase` — the parties and where they stand.
* `step`, `machine` — the runs of a bundle: its subscribers and the server move at any time.
* `Moves` — the inversion of `step`, one constructor for each way a label can move the bundle.
-/

set_option autoImplicit false

namespace Zel

/-- `tokio::task::JoinError`, as the router's task may end. -/
inductive JoinError where
  | cancelled
  | panicked
  deriving DecidableEq

/-- What `shutdown` and `shutdown_with_handle` fail with, the latter as an `anyhow::Error`. -/
inductive BundleError where
  | rpc (e : ShutdownError)
  | router (e : JoinError)
  deriving DecidableEq

namespace IrohBundle

/-! ## The parties -/

/-- The two channels of a subscriber, and the `ShutdownListener` at their other end. -/
inductive SubscriberPhase where
  /-- The listener waits and nothing was sent. -/
  | listening
  /-- The listener was dropped before anything was sent. -/
  | gone
  /-- The sender was dropped before anything was sent. -/
  | abandoned
  /-- The replier is in the channel. -/
  | notified
  /-- The listener was dropped with the replier in the channel. -/
  | discarded
  /-- The subscriber received the replier. -/
  | holding
  /-- `ShutdownReplier::complete` -/
  | completed
  /-- The replier was dropped after it was received. -/
  | released
  deriving DecidableEq

namespace SubscriberPhase

/-- A replier was sent. -/
def sent : SubscriberPhase → Bool
  | .listening | .gone | .abandoned => false
  | .notified | .discarded | .holding | .completed | .released => true

/-- The sender inside the replier is used or dropped, so the receiver at `shutdown` resolves. -/
def answered : SubscriberPhase → Bool
  | .completed | .released | .discarded => true
  | .listening | .gone | .abandoned | .notified | .holding => false

/-- `sub.send(replier)`, which gives the replier back when the listener is gone. -/
def send : SubscriberPhase → Option SubscriberPhase
  | .listening => some .notified
  | _ => none

/-- The sender is dropped. -/
def abandon : SubscriberPhase → SubscriberPhase
  | .listening => .abandoned
  | p => p

end SubscriberPhase

/-- What the owner of a listener does. -/
inductive ListenerEvent where
  | recv
  | dropListener
  | complete
  | dropReplier
  deriving DecidableEq

/-- The listener's side of the two channels. -/
def SubscriberPhase.step : SubscriberPhase → ListenerEvent → Option SubscriberPhase
  | .listening, .dropListener => some .gone
  | .notified, .dropListener => some .discarded
  | .notified, .recv => some .holding
  | .holding, .complete => some .completed
  | .holding, .dropReplier => some .released
  | _, _ => none

/-- One future of `shutdown_replies`, the wait for the reply of a subscriber. -/
structure Reply where
  subscriber : Nat
  /-- The future is ready. -/
  resolved : Bool
  deriving DecidableEq

/-- The router of the bundle. -/
inductive RouterPhase where
  | notSpawned
  | running
  /-- In `Router::shutdown`. -/
  | closing
  /-- `Router::shutdown` returned. -/
  | closed
  /-- Dropped without a shutdown. -/
  | dropped
  deriving DecidableEq

/-- Where the owner of the bundle stands. -/
inductive BundlePhase where
  /-- The bundle is a `Builder` still. -/
  | building
  | idle
  /-- In the first phase of `shutdown_with_handle`, which is call `k` of the server's shutdown. -/
  | rpc (k : Nat) (bundleTimeout : Duration)
  /-- In the loop of `shutdown`, before the turn of subscriber `i`. -/
  | notifying (timeoutAfter : Duration) (i : Nat)
  /-- Suspended in `timeout(timeout_after, joined)`. -/
  | joining (timeoutAfter : Duration)
  /-- Suspended in `router.shutdown()`. -/
  | closing
  | returned (r : Except BundleError Unit)
  deriving DecidableEq

end IrohBundle

open IrohBundle in
/-- A bundle, its subscribers, and the server that its router serves. -/
structure IrohBundle where
  server : Server
  router : RouterPhase
  /-- The subscribers, in the order of their senders. -/
  shutdownSubscribers : List SubscriberPhase
  /-- The futures that `shutdown` joins. -/
  shutdownReplies : List Reply
  phase : BundlePhase

namespace IrohBundle

/-- `IrohBundle::builder` -/
def builder : IrohBundle := ⟨Server.new, .notSpawned, [], [], .building⟩

/-! ## The steps -/

/-- The atomic steps. -/
inductive Label where
  /-- A step of the server. -/
  | server (l : Server.Label)
  /-- `Builder::subscribe_shutdown` -/
  | subscribeShutdown
  /-- `Builder::finish` -/
  | finish
  /-- The owner of listener `i` moves. -/
  | listener (i : Nat) (ev : ListenerEvent)
  /-- A call of `shutdown_with_handle`. -/
  | shutdownWithHandle (rpcTimeout bundleTimeout : Duration)
  /-- The `?` behind `shutdown_handle.shutdown(rpc_timeout).await`. -/
  | rpcReturned
  /-- A call of `shutdown` on its own. -/
  | shutdown (timeoutAfter : Duration)
  /-- The next turn of the loop over the subscribers, or its end. -/
  | next
  /-- Future `i` of `join_all` is polled and is ready. -/
  | reply (i : Nat)
  /-- `join_all` is ready. -/
  | joined
  /-- The timeout ends the wait for the replies. -/
  | timeout
  /-- `router.shutdown()` returns. -/
  | routerReturned (r : Except JoinError Unit)

/-- The server gets no connection before its router is spawned. -/
def connected (s : IrohBundle) : Server.Label → Bool
  | .accept => s.router != .notSpawned
  | _ => true

def setSubscriber (s : IrohBundle) (i : Nat) (p : SubscriberPhase) : IrohBundle :=
  { s with shutdownSubscribers := s.shutdownSubscribers.set i p }

/-- A turn of the loop over the subscribers in which `send` succeeds. -/
def notifySubscriber (s : IrohBundle) (timeoutAfter : Duration) (i : Nat) (q : SubscriberPhase) :
    IrohBundle :=
  { s.setSubscriber i q with
    shutdownReplies := s.shutdownReplies ++ [⟨i, false⟩]
    phase := .notifying timeoutAfter (i + 1) }

/-- `shutdown_with_handle` returns with the bundle still in hand, which drops it. -/
def dropWith (s : IrohBundle) (e : BundleError) : IrohBundle :=
  { s with
    router := .dropped
    shutdownSubscribers := s.shutdownSubscribers.map SubscriberPhase.abandon
    phase := .returned (.error e) }

variable (services : ServiceMap) (remoteId : Nat → String)

/-- One atomic step. -/
def step (s : IrohBundle) : Label → Option IrohBundle
  | .server l =>
    if s.connected l then
      (s.server.step services remoteId l).map fun t ↦ { s with server := t }
    else none
  | .subscribeShutdown =>
    match s.phase with
    | .building => some { s with shutdownSubscribers := s.shutdownSubscribers ++ [.listening] }
    | _ => none
  | .finish =>
    match s.phase with
    | .building => some { s with router := .running, phase := .idle }
    | _ => none
  | .listener i ev =>
    match s.shutdownSubscribers[i]? with
    | some p => (p.step ev).map (s.setSubscriber i)
    | none => none
  | .shutdownWithHandle rpcTimeout bundleTimeout =>
    match s.phase with
    | .idle => (s.server.step services remoteId (.shutdown rpcTimeout)).map fun t ↦
        { s with server := t, phase := .rpc s.server.shutdowns.length bundleTimeout }
    | _ => none
  | .rpcReturned =>
    match s.phase with
    | .rpc k bundleTimeout =>
      match s.server.shutdowns[k]? with
      | some ⟨_, .returned (.ok ())⟩ => some { s with phase := .notifying bundleTimeout 0 }
      | some ⟨_, .returned (.error e)⟩ => some (s.dropWith (.rpc e))
      | _ => none
    | _ => none
  | .shutdown timeoutAfter =>
    match s.phase with
    | .idle => some { s with phase := .notifying timeoutAfter 0 }
    | _ => none
  | .next =>
    match s.phase with
    | .notifying timeoutAfter i =>
      match s.shutdownSubscribers[i]? with
      | some p =>
        match p.send with
        | some q => some (s.notifySubscriber timeoutAfter i q)
        | none => some { s with phase := .notifying timeoutAfter (i + 1) }
      | none => some { s with phase := .joining timeoutAfter }
    | _ => none
  | .reply i =>
    match s.phase, s.shutdownReplies[i]? with
    | .joining _, some ⟨j, false⟩ =>
      match s.shutdownSubscribers[j]? with
      | some p =>
        if p.answered then
          some { s with shutdownReplies := s.shutdownReplies.set i ⟨j, true⟩ }
        else none
      | none => none
    | _, _ => none
  | .joined =>
    match s.phase with
    | .joining _ =>
      if s.shutdownReplies.all Reply.resolved then
        some { s with router := .closing, phase := .closing }
      else none
    | _ => none
  | .timeout =>
    match s.phase with
    | .joining _ =>
      -- the timeout polls `join_all` first, so it only ends one that is still pending
      if s.shutdownReplies.all Reply.resolved then none
      else some { s with router := .closing, phase := .closing }
    | _ => none
  | .routerReturned r =>
    match s.phase with
    | .closing =>
      some { s with router := .closed, phase := .returned (r.mapError BundleError.router) }
    | _ => none

/-- All interleavings of a bundle, its subscribers and its server. -/
def machine : Machine IrohBundle Label := ⟨builder, step services remoteId⟩

/-! ## What a step does -/

/-- The steps, one constructor for each way a label can move the bundle. -/
inductive Moves (s : IrohBundle) : Label → IrohBundle → Prop
  | server {l : Server.Label} {t : Server} (hc : s.connected l = true)
      (ht : s.server.step services remoteId l = some t) :
      Moves s (.server l) { s with server := t }
  | subscribeShutdown (hp : s.phase = .building) :
      Moves s .subscribeShutdown
        { s with shutdownSubscribers := s.shutdownSubscribers ++ [.listening] }
  | finish (hp : s.phase = .building) :
      Moves s .finish { s with router := .running, phase := .idle }
  | listener {i : Nat} {ev : ListenerEvent} {p q : SubscriberPhase}
      (hi : s.shutdownSubscribers[i]? = some p) (hq : p.step ev = some q) :
      Moves s (.listener i ev) (s.setSubscriber i q)
  | shutdownWithHandle {rpcTimeout bundleTimeout : Duration} {t : Server} (hp : s.phase = .idle)
      (ht : s.server.step services remoteId (.shutdown rpcTimeout) = some t) :
      Moves s (.shutdownWithHandle rpcTimeout bundleTimeout)
        { s with server := t, phase := .rpc s.server.shutdowns.length bundleTimeout }
  | rpcOk {k : Nat} {d bundleTimeout : Duration} (hp : s.phase = .rpc k bundleTimeout)
      (hk : s.server.shutdowns[k]? = some ⟨d, .returned (.ok ())⟩) :
      Moves s .rpcReturned { s with phase := .notifying bundleTimeout 0 }
  | rpcFailed {k : Nat} {d bundleTimeout : Duration} {e : ShutdownError}
      (hp : s.phase = .rpc k bundleTimeout)
      (hk : s.server.shutdowns[k]? = some ⟨d, .returned (.error e)⟩) :
      Moves s .rpcReturned (s.dropWith (.rpc e))
  | shutdown {timeoutAfter : Duration} (hp : s.phase = .idle) :
      Moves s (.shutdown timeoutAfter) { s with phase := .notifying timeoutAfter 0 }
  | sent {timeoutAfter : Duration} {i : Nat} {p q : SubscriberPhase}
      (hp : s.phase = .notifying timeoutAfter i) (hi : s.shutdownSubscribers[i]? = some p)
      (hq : p.send = some q) : Moves s .next (s.notifySubscriber timeoutAfter i q)
  | refused {timeoutAfter : Duration} {i : Nat} {p : SubscriberPhase}
      (hp : s.phase = .notifying timeoutAfter i) (hi : s.shutdownSubscribers[i]? = some p)
      (hq : p.send = none) : Moves s .next { s with phase := .notifying timeoutAfter (i + 1) }
  | join {timeoutAfter : Duration} {i : Nat} (hp : s.phase = .notifying timeoutAfter i)
      (hi : s.shutdownSubscribers[i]? = none) :
      Moves s .next { s with phase := .joining timeoutAfter }
  | reply {timeoutAfter : Duration} {i j : Nat} {p : SubscriberPhase}
      (hp : s.phase = .joining timeoutAfter) (hi : s.shutdownReplies[i]? = some ⟨j, false⟩)
      (hj : s.shutdownSubscribers[j]? = some p) (ha : p.answered = true) :
      Moves s (.reply i) { s with shutdownReplies := s.shutdownReplies.set i ⟨j, true⟩ }
  | joined {timeoutAfter : Duration} (hp : s.phase = .joining timeoutAfter)
      (hr : s.shutdownReplies.all Reply.resolved = true) :
      Moves s .joined { s with router := .closing, phase := .closing }
  | timeout {timeoutAfter : Duration} (hp : s.phase = .joining timeoutAfter)
      (hr : ¬ s.shutdownReplies.all Reply.resolved = true) :
      Moves s .timeout { s with router := .closing, phase := .closing }
  | routerReturned {r : Except JoinError Unit} (hp : s.phase = .closing) :
      Moves s (.routerReturned r)
        { s with router := .closed, phase := .returned (r.mapError BundleError.router) }

variable {services remoteId}

theorem moves_of_step {s t : IrohBundle} {l : Label} (h : s.step services remoteId l = some t) :
    Moves services remoteId s l t := by
  cases l with
  | server l =>
    simp only [step] at h
    split at h
    · rename_i hc
      obtain ⟨u, hu, rfl⟩ := Option.map_eq_some_iff.mp h
      exact .server hc hu
    · cases h
  | subscribeShutdown =>
    simp only [step] at h
    split at h
    · rename_i hp; cases h; exact .subscribeShutdown hp
    · cases h
  | finish =>
    simp only [step] at h
    split at h
    · rename_i hp; cases h; exact .finish hp
    · cases h
  | listener i ev =>
    simp only [step] at h
    split at h
    · rename_i p hi
      obtain ⟨q, hq, rfl⟩ := Option.map_eq_some_iff.mp h
      exact .listener hi hq
    · cases h
  | shutdownWithHandle rpcTimeout bundleTimeout =>
    simp only [step] at h
    split at h
    · rename_i hp
      obtain ⟨u, hu, rfl⟩ := Option.map_eq_some_iff.mp h
      exact .shutdownWithHandle hp hu
    · cases h
  | rpcReturned =>
    simp only [step] at h
    split at h
    · rename_i k bundleTimeout hp
      split at h
      · rename_i d hk; cases h; exact .rpcOk hp hk
      · rename_i d e hk; cases h; exact .rpcFailed hp hk
      · cases h
    · cases h
  | shutdown timeoutAfter =>
    simp only [step] at h
    split at h
    · rename_i hp; cases h; exact .shutdown hp
    · cases h
  | next =>
    simp only [step] at h
    split at h
    · rename_i timeoutAfter i hp
      split at h
      · rename_i p hi
        split at h
        · rename_i q hq; cases h; exact .sent hp hi hq
        · rename_i hq; cases h; exact .refused hp hi hq
      · rename_i hi; cases h; exact .join hp hi
    · cases h
  | reply i =>
    simp only [step] at h
    split at h
    · rename_i timeoutAfter j hp hi
      split at h
      · rename_i p hj
        split at h
        · rename_i ha; cases h; exact .reply hp hi hj ha
        · cases h
      · cases h
    · cases h
  | joined =>
    simp only [step] at h
    split at h
    · rename_i timeoutAfter hp
      split at h
      · rename_i hr; cases h; exact .joined hp hr
      · cases h
    · cases h
  | timeout =>
    simp only [step] at h
    split at h
    · rename_i timeoutAfter hp
      split at h
      · cases h
      · rename_i hr; cases h; exact .timeout hp hr
    · cases h
  | routerReturned r =>
    simp only [step] at h
    split at h
    · rename_i hp; cases h; exact .routerReturned hp
    · cases h

end IrohBundle

end Zel
