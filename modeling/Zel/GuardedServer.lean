import Zel.OpenCircuit
import Zel.RequestLifecycle
import Zel.SeverityAccounting

/-!
# A server with circuit breakers

A server and its breakers have been two machines so far: for `Zel.Server` the breaker's decision is
an event, and for `Zel.CircuitBreaker` the operations are.  `with_circuit_breaker` puts them
together.  A stream task that gets to `execute_rpc_with_circuit_breaker` looks up the breaker of its
peer, asks it, runs the callback if it may, and tells the breaker how that went; the breaker is the
same for all tasks of all connections of the peer (`protocol/handlers/rpc.rs`,
`protocol/circuit_breaker.rs`).

## What is here

* `GuardedServer.machine` — the composition: what a breaker decides is the event of the task.
* `breaker_accounts` — **what a breaker knows is what happened**: every callback that has started
  for a peer was reported, or runs, or has panicked.
* `open_circuit_silences` — **an open circuit holds everywhere**: before the end of the cooldown no
  callback starts for the peer, on any of its connections.
-/

set_option autoImplicit false

namespace Zel

/-- How the breaker is told that a callback went: a success, also if the classifier takes its error
for the application's. -/
def ResourceResponse.succeedsFor (classifier : ErrorClassifier) (result : ResourceResponse) :
    Bool :=
  (closureResult classifier (result.mapError ResourceError.toAnyhow)).toBool

/-- A server, its breakers, and which call of the breakers each stream task makes. -/
structure GuardedServer (Peer B : Type) where
  server : Server
  calls : Calls.State Peer B Response
  /-- The number of the task's call, among those of its peer. -/
  callOf : Nat → Option Nat

namespace GuardedServer

open Breaker

/-! ## The machine -/

inductive Label where
  /-- A step that has nothing to do with the breakers. -/
  | server (l : Server.Label)
  /-- Task `i` gets its clone of the peer's breaker. -/
  | obtain (i : Nat)
  /-- Task `i` asks it, and this is the answer. -/
  | allow (i now : Nat) (ok : Bool)
  /-- The callback of task `i` returns, and the breaker is told. -/
  | finish (i now : Nat) (result : ResourceResponse)

/-- The events of a task that the breakers decide. -/
def guarded : Server.Label → Bool
  | .task _ (.admitted _) | .task _ (.returned _) => true
  | _ => false

/-- The call runs its operation. -/
def runs {Peer B : Type} (calls : Calls.State Peer B Response) (p : Peer) (k : Nat) : Bool :=
  match (calls.calls p)[k]? with
  | some ⟨_, .running⟩ => true
  | _ => false

variable {Peer B : Type} [DecidableEq Peer]

/-- A server without connections. -/
def new (ops : Ops B) : GuardedServer Peer B :=
  ⟨.new, ⟨PeerCircuitBreakers.new ops, fun _ ↦ []⟩, fun _ ↦ none⟩

variable (services : ServiceMap) (peer : Nat → Peer) (peerId : Peer → String) (ops : Ops B)
  (classifier : ErrorClassifier)

/-- The name of the peer of each connection. -/
def remoteId (h : Nat) : String := peerId (peer h)

def step (s : GuardedServer Peer B) : Label → Option (GuardedServer Peer B)
  | .server l =>
    if guarded l then none
    else (s.server.step services (remoteId peer peerId) l).map fun server ↦ { s with server }
  | .obtain i =>
    match s.server.tasks[i]?, s.callOf i with
    | some ⟨h, _, .running (.admitting _)⟩, none =>
      (Calls.step ops classifier s.calls (.obtain (peer h))).map fun calls ↦
        { s with
          calls
          callOf := Function.update s.callOf i (some (s.calls.calls (peer h)).length) }
    | _, _ => none
  | .allow i now ok =>
    match s.server.tasks[i]?, s.callOf i with
    | some ⟨h, _, .running (.admitting _)⟩, some k =>
      (Calls.step ops classifier s.calls (.allow (peer h) k now)).bind fun calls ↦
        if runs calls (peer h) k = ok then
          (s.server.step services (remoteId peer peerId) (.task i (.admitted ok))).map
            fun server ↦ { s with server, calls }
        else none
    | _, _ => none
  | .finish i now result =>
    match s.server.tasks[i]?, s.callOf i with
    | some ⟨h, _, .running (.running _)⟩, some k =>
      (Calls.step ops classifier s.calls
        (.finish (peer h) k now (result.mapError ResourceError.toAnyhow))).bind fun calls ↦
          (s.server.step services (remoteId peer peerId)
            (.task i (.returned (passedOn classifier (peerId (peer h)) result)))).map
              fun server ↦ { s with server, calls }
    | _, _ => none

/-- All runs of a server with circuit breakers. -/
def machine : Machine (GuardedServer Peer B) Label :=
  ⟨new ops, step services peer peerId ops classifier⟩

/-- The steps, one constructor for each. -/
inductive Moves (s : GuardedServer Peer B) : Label → GuardedServer Peer B → Prop
  | server {l : Server.Label} {server : Server} (hl : guarded l = false)
      (hm : Server.Moves services (remoteId peer peerId) s.server l server) :
      Moves s (.server l) { s with server }
  | obtain {i h : Nat} {request : Request} {cb : CallbackId} {calls : Calls.State Peer B Response}
      (hi : s.server.tasks[i]? = some ⟨h, request, .running (.admitting cb)⟩)
      (hc : Calls.step ops classifier s.calls (.obtain (peer h)) = some calls) :
      Moves s (.obtain i) { s with
        calls
        callOf := Function.update s.callOf i (some (s.calls.calls (peer h)).length) }
  | allow {i h k now : Nat} {request : Request} {cb : CallbackId}
      {calls : Calls.State Peer B Response} {ok : Bool} {q : HandlePhase}
      {eff : Option HandleEffect}
      (hi : s.server.tasks[i]? = some ⟨h, request, .running (.admitting cb)⟩)
      (hc : Calls.step ops classifier s.calls (.allow (peer h) k now) = some calls)
      (hok : runs calls (peer h) k = ok)
      (hm : HandleMoves services (remoteId peer peerId h) request (.admitting cb)
        (.admitted ok) q eff) :
      Moves s (.allow i now ok) { s with
        server := { s.server with
          tasks := s.server.tasks.set i ⟨h, request, .running q⟩
          callbacks := s.server.callbacks ++ Server.spawned h eff }
        calls }
  | finish {i h k now : Nat} {request : Request} {cb : CallbackId}
      {calls : Calls.State Peer B Response} {result : ResourceResponse}
      (hi : s.server.tasks[i]? = some ⟨h, request, .running (.running cb)⟩)
      (hc : Calls.step ops classifier s.calls
        (.finish (peer h) k now (result.mapError ResourceError.toAnyhow)) = some calls) :
      Moves s (.finish i now result) { s with
        server := { s.server with
          tasks := s.server.tasks.set i
            ⟨h, request, .running (.responding (passedOn classifier (peerId (peer h)) result))⟩
          callbacks := s.server.callbacks ++ [] }
        calls }

variable {services peer peerId ops classifier}

theorem moves_of_step {s t : GuardedServer Peer B} {l : Label}
    (h : step services peer peerId ops classifier s l = some t) :
    Moves services peer peerId ops classifier s l t := by
  rcases l with l | i | ⟨i, now, ok⟩ | ⟨i, now, result⟩
  · simp only [step] at h
    split at h
    · cases h
    · rename_i hl
      obtain ⟨server, hserver, rfl⟩ := Option.map_eq_some_iff.mp h
      exact .server (by simpa using hl) (Server.moves_of_step hserver)
  · simp only [step] at h
    split at h
    · rename_i hi hk
      obtain ⟨calls, hc, rfl⟩ := Option.map_eq_some_iff.mp h
      exact .obtain hi hc
    · cases h
  · simp only [step] at h
    split at h
    · rename_i hi hk
      obtain ⟨calls, hc, h⟩ := Option.bind_eq_some_iff.mp h
      split at h
      · rename_i hok
        obtain ⟨server, hserver, rfl⟩ := Option.map_eq_some_iff.mp h
        simp only [Server.step, hi] at hserver
        obtain ⟨⟨q, eff⟩, hq, rfl⟩ := Option.map_eq_some_iff.mp hserver
        exact .allow hi hc hok (HandlePhase.moves_of_step hq)
      · cases h
    · cases h
  · simp only [step] at h
    split at h
    · rename_i hi hk
      obtain ⟨calls, hc, h⟩ := Option.bind_eq_some_iff.mp h
      obtain ⟨server, hserver, rfl⟩ := Option.map_eq_some_iff.mp h
      simp only [Server.step, hi] at hserver
      obtain ⟨⟨q, eff⟩, hq, rfl⟩ := Option.map_eq_some_iff.mp hserver
      cases hq
      exact .finish hi hc
    · cases h

/-! ## The two halves -/

variable (peer peerId classifier) in
/-- The step that the server takes. -/
def serverLabel (s : GuardedServer Peer B) : Label → Option Server.Label
  | .server l => some l
  | .obtain _ => none
  | .allow i _ ok => some (.task i (.admitted ok))
  | .finish i _ result =>
    s.server.tasks[i]?.map fun t ↦
      .task i (.returned (passedOn classifier (peerId (peer t.handler)) result))

/-- **The server takes its own steps**, or none. -/
theorem Moves.server_cases {s t : GuardedServer Peer B} {l : Label}
    (hm : Moves services peer peerId ops classifier s l t) :
    (serverLabel peer peerId classifier s l = none ∧ t.server = s.server) ∨
      ∃ l', serverLabel peer peerId classifier s l = some l' ∧
        Server.Moves services (remoteId peer peerId) s.server l' t.server := by
  rcases hm with ⟨hl, hm⟩ | ⟨hi, hc⟩ | ⟨hi, hc, hok, hm⟩ | ⟨hi, hc⟩
  · exact .inr ⟨_, rfl, hm⟩
  · exact .inl ⟨rfl, rfl⟩
  · exact .inr ⟨_, rfl, .task hi hm⟩
  · refine .inr ⟨_, ?_, .task hi .returned⟩
    rw [serverLabel, hi]
    rfl

/-- The breakers are asked and told before this time. -/
def Label.Before (end_ : Nat) : Label → Prop
  | .allow _ now _ | .finish _ now _ => now < end_
  | _ => True

/-- The breakers take their own steps, or none. -/
theorem Moves.calls_cases {s t : GuardedServer Peer B} {l : Label}
    (hm : Moves services peer peerId ops classifier s l t) :
    t.calls = s.calls ∨ ∃ l', Calls.Moves ops classifier s.calls l' t.calls ∧
      ∀ end_, l.Before end_ → l'.Before end_ := by
  rcases hm with ⟨hl, hm⟩ | ⟨hi, hc⟩ | ⟨hi, hc, hok, hm⟩ | ⟨hi, hc⟩
  · exact .inl rfl
  · exact .inr ⟨_, Calls.moves_of_step hc, fun _ h ↦ h⟩
  · exact .inr ⟨_, Calls.moves_of_step hc, fun _ h ↦ h⟩
  · exact .inr ⟨_, Calls.moves_of_step hc, fun _ h ↦ h⟩

/-- What holds of a server, and what holds of breakers. -/
structure Inv (s : GuardedServer Peer B) : Prop where
  server : Server.Inv s.server
  calls : Calls.Inv s.calls

theorem inv_new : Inv (new ops : GuardedServer Peer B) :=
  ⟨Server.inv_new, @Calls.inv_init Peer B Response _ ops .default⟩

theorem Moves.inv {s t : GuardedServer Peer B} {l : Label}
    (hm : Moves services peer peerId ops classifier s l t) (hs : Inv s) : Inv t := by
  constructor
  · rcases hm.server_cases with ⟨-, he⟩ | ⟨l', -, hm'⟩
    · exact he ▸ hs.server
    · exact hm'.inv hs.server
  · rcases hm.calls_cases with he | ⟨l', hm', -⟩
    · exact he ▸ hs.calls
    · exact hm'.inv hs.calls

theorem inv_of_reachable {s : GuardedServer Peer B}
    (hs : (machine services peer peerId ops classifier).Reachable s) : Inv s :=
  hs.invariant (I := Inv) inv_new fun _ _ _ hs ht ↦ (moves_of_step ht).inv hs

/-! ## What happens to the callbacks of a peer -/

/-- What happens to an Rpc callback. -/
inductive Event where
  | started
  /-- It returns this, and the breaker is told. -/
  | reported (result : ResourceResponse)
  | panicked

namespace Event

def isStarted : Event → Bool
  | .started => true
  | _ => false

def isPanicked : Event → Bool
  | .panicked => true
  | _ => false

def result? : Event → Option ResourceResponse
  | .reported result => some result
  | _ => none

end Event

/-- The task is in its callback. -/
def running : Server.TaskPhase → Bool
  | .running (.running _) => true
  | _ => false

/-- A request that was just routed is not in its callback. -/
@[simp] theorem running_dispatch (r : Except ResourceError ResourceCallback) :
    running (.running (dispatch r)) = false := by
  rcases r with e | resource
  · rfl
  · cases resource <;> rfl

section Accounts

variable (peer) (p : Peer)

/-- The task is on a connection of the peer. -/
def concerns (s : Server) (i : Nat) : Bool :=
  s.tasks[i]?.any fun t ↦ decide (peer t.handler = p)

/-- The task runs a callback for the peer. -/
def inCallback (t : Server.StreamTask) : Bool := decide (peer t.handler = p) && running t.phase

/-- The callback of a task of the peer panics. -/
def panics (s : Server) : Server.Label → Bool
  | .task i .panicked => s.tasks[i]?.any (inCallback peer p)
  | _ => false

/-- What happens in a step to the callbacks of the peer. -/
def eventsOf (s : GuardedServer Peer B) : Label → List Event
  | .server l => if panics peer p s.server l then [.panicked] else []
  | .obtain _ => []
  | .allow i _ ok => if ok && concerns peer p s.server i then [.started] else []
  | .finish i _ result => if concerns peer p s.server i then [.reported result] else []

/-- The callbacks that run for the peer. -/
def inFlight (s : Server) : Nat := s.tasks.countP (inCallback peer p)

theorem concerns_eq {s : Server} {i h : Nat} {request : Request} {ph : Server.TaskPhase}
    (hi : s.tasks[i]? = some ⟨h, request, ph⟩) : concerns peer p s i = decide (peer h = p) := by
  rw [concerns, hi]
  rfl

/-- A task moves in `handle_stream`. -/
theorem inFlight_task {s t : Server} {i h : Nat} {request : Request} {q q' : HandlePhase}
    (hi : s.tasks[i]? = some ⟨h, request, .running q⟩)
    (ht : t.tasks = s.tasks.set i ⟨h, request, .running q'⟩) :
    inFlight peer p t + (inCallback peer p ⟨h, request, .running q⟩).toNat =
      inFlight peer p s + (inCallback peer p ⟨h, request, .running q'⟩).toNat := by
  rw [inFlight, ht]
  exact List.countP_set_add hi

/-- **A callback ends without the breaker** only by a panic, and starts with it only. -/
theorem inFlight_server {s t : Server} {l : Server.Label} (hs : Server.Inv s)
    (hm : Server.Moves services (remoteId peer peerId) s l t) (hl : guarded l = false) :
    inFlight peer p t + (panics peer p s l).toNat = inFlight peer p s := by
  cases hm with
  | @increment h request u hh hu =>
    simp [inFlight, panics, List.countP_append, inCallback, running]
  | @spawn h i u hh hi =>
    obtain ⟨request, hpend⟩ := hs.counted h i hh
    obtain rfl : u = ⟨h, request, .pending⟩ := Option.some_inj.mp (hi.symm.trans hpend)
    have hset := List.countP_set_add (p := inCallback peer p)
      (a := ⟨h, request, .running .reading⟩) hi
    simpa [inFlight, panics, inCallback, running, Server.setTask, Server.setHandler] using hset
  | @task i h request q q' ev eff hi hq =>
    have hset := inFlight_task peer p (t := { s with
      tasks := s.tasks.set i ⟨h, request, .running q'⟩
      callbacks := s.callbacks ++ Server.spawned h eff }) hi rfl
    have hpanics : s.tasks[i]?.any (inCallback peer p) =
        inCallback peer p ⟨h, request, .running q⟩ := by
      rw [hi]
      rfl
    cases hq with
    | admitted => cases hl
    | rejected => cases hl
    | returned => cases hl
    | read =>
      rw [inCallback, inCallback, running_dispatch] at hset
      simpa [panics, running] using hset
    | panicked | prepareFail => simpa [panics, hpanics, inCallback, running] using hset
    | _ => simpa [panics, inCallback, running] using hset
  | @dropGuard i h request u hi hu =>
    have hset := List.countP_set_add (p := inCallback peer p) (a := ⟨h, request, .ended⟩) hi
    simpa [inFlight, panics, inCallback, running] using hset
  | _ => rfl

variable (classifier) in
/-- The breaker of a peer, against what has happened to the callbacks of the peer. -/
structure Accounts (ops : Ops B) (events : List Event) (s : GuardedServer Peer (B × List Bool)) :
    Prop where
  /-- The breaker was told how each callback has returned, as the classifier judges it. -/
  told : RpcCalls.told ops p s.calls =
    (events.filterMap Event.result?).map (ResourceResponse.succeedsFor classifier)
  /-- A callback that has started was reported, or runs, or has panicked. -/
  started : events.countP Event.isStarted =
    (RpcCalls.told ops p s.calls).length + inFlight peer p s.server +
      events.countP Event.isPanicked

variable {peer p}

/-- More has happened. -/
theorem Accounts.append {events new : List Event} {s t : GuardedServer Peer (B × List Bool)}
    (h : Accounts peer classifier p ops events s)
    (htold : RpcCalls.told ops p t.calls = RpcCalls.told ops p s.calls ++
      (new.filterMap Event.result?).map (ResourceResponse.succeedsFor classifier))
    (hflight : inFlight peer p t.server +
        ((new.filterMap Event.result?).length + new.countP Event.isPanicked) =
      inFlight peer p s.server + new.countP Event.isStarted) :
    Accounts peer classifier p ops (events ++ new) t := by
  have hstarted := h.started
  refine ⟨?_, ?_⟩
  · rw [htold, h.told, List.filterMap_append, List.map_append]
  · rw [htold, List.countP_append, List.countP_append, List.length_append, List.length_map]
    omega

/-- **Every step is accounted for.** -/
theorem Accounts.step {events : List Event} {s t : GuardedServer Peer (B × List Bool)} {l : Label}
    (h : Accounts peer classifier p ops events s) (hs : Inv s)
    (hm : Moves services peer peerId ops.recording classifier s l t) :
    Accounts peer classifier p ops (events ++ eventsOf peer p s l) t := by
  cases hm with
  | @server l server hl hm =>
    have hflight := inFlight_server peer p hs.server hm hl
    rw [eventsOf]
    by_cases hpanics : panics peer p s.server l = true
    · rw [hpanics] at hflight ⊢
      exact h.append (List.append_nil _).symm hflight
    · rw [Bool.eq_false_iff.mpr hpanics] at hflight ⊢
      exact h.append (List.append_nil _).symm hflight
  | @obtain i handler request cb calls hi hc =>
    have hsame := RpcCalls.told_of_moves ops p hs.calls (Calls.moves_of_step hc)
    exact h.append hsame rfl
  | @allow i handler k now request cb calls ok q eff hi hc hok hq =>
    have hsame := RpcCalls.told_of_moves ops p hs.calls (Calls.moves_of_step hc)
    have hset := inFlight_task peer p (t := { s.server with
      tasks := s.server.tasks.set i ⟨handler, request, .running q⟩
      callbacks := s.server.callbacks ++ Server.spawned handler eff }) hi rfl
    rw [eventsOf, concerns_eq peer p hi]
    simp only [inCallback] at hset
    rcases Bool.eq_false_or_eq_true (decide (peer handler = p)) with hp | hp
    · rw [hp] at hset ⊢
      cases hq
      · exact h.append hsame hset
      · exact h.append hsame hset
    · rw [hp] at hset ⊢
      cases hq
      · exact h.append hsame hset
      · exact h.append hsame hset
  | @finish i handler k now request cb calls result hi hc =>
    have hreport := RpcCalls.told_of_moves ops p hs.calls (Calls.moves_of_step hc)
    have hset := inFlight_task peer p (t := { s.server with
      tasks := s.server.tasks.set i ⟨handler, request,
        .running (.responding (passedOn classifier (peerId (peer handler)) result))⟩
      callbacks := s.server.callbacks ++ [] }) hi rfl
    rw [eventsOf, concerns_eq peer p hi]
    rw [RpcCalls.reportOf] at hreport
    simp only [inCallback] at hset
    by_cases hp : peer handler = p
    · rw [if_pos hp] at hreport
      rw [decide_eq_true hp] at hset ⊢
      exact h.append hreport hset
    · rw [if_neg hp] at hreport
      rw [decide_eq_false hp] at hset ⊢
      exact h.append hreport hset

end Accounts

/-- A connection, and a task for a request on it, up to its handler. -/
def requested (h : Nat) : List Label :=
  [.server .accept, .server (.hookDone h), .server (.select h), .server (.stream h (some ping)),
    .server (.loadFlag h), .server (.increment h), .server (.spawn h), .server (.task h .read)]

/-- A callback fails, so that the circuit of the peer opens. -/
def trippingRun : List Label :=
  requested 0 ++ [.server (.task 0 .prepared), .obtain 0, .allow 0 0 true,
    .finish 0 1 (.error (.callbackError "db" .systemFailure none)), .server (.task 0 (.sent true))]

/-- The peer is refused on another connection. -/
def refusedRun : List Label :=
  requested 1 ++ [.server (.task 1 .prepared), .obtain 1, .allow 1 2 false,
    .server (.task 1 (.sent true)), .server (.dropGuard 1)]

variable (services peer peerId classifier) in
/-- What task `i` makes visible in a step. -/
def effectsOf (i : Nat) (s : GuardedServer Peer B) (l : Label) : List HandleEffect :=
  match serverLabel peer peerId classifier s l with
  | none => []
  | some l' => Server.effectsOf services (remoteId peer peerId) i s.server l'

/-- A task in a step. -/
theorem Moves.taskMoves {s t : GuardedServer Peer B} {l : Label}
    (hm : Moves services peer peerId ops classifier s l t) (hs : Inv s) (i : Nat) :
    (effectsOf services peer peerId classifier i s l = [] ∧
        t.server.tasks[i]? = s.server.tasks[i]?) ∨
      ∃ l', serverLabel peer peerId classifier s l = some l' ∧
        Server.TaskMoves services (remoteId peer peerId) i l' s.server.tasks[i]?
          (effectsOf services peer peerId classifier i s l) t.server.tasks[i]? := by
  rcases hm.server_cases with ⟨hl, he⟩ | ⟨l', hl, hm'⟩
  · exact .inl ⟨by rw [effectsOf, hl], by rw [he]⟩
  · refine .inr ⟨l', hl, ?_⟩
    rw [effectsOf, hl]
    exact hm'.taskMoves hs.server i

omit [DecidableEq Peer] in
/-- The breakers cut nobody short. -/
theorem eq_server_of_cutsShort {s : GuardedServer Peer B} {l : Label} {i : Nat} {ev : HandleEvent}
    (hl : serverLabel peer peerId classifier s l = some (.task i ev))
    (hcut : ev.cutsShort = true) : l = .server (.task i ev) := by
  rcases l with l | j | ⟨j, now, ok⟩ | ⟨j, now, result⟩
  · cases hl
    rfl
  · cases hl
  · cases hl
    cases hcut
  · obtain ⟨t, -, ht⟩ := Option.map_eq_some_iff.mp hl
    cases ht
    cases hcut

/-- A task that begins in a run is on its way through a transcript, here as in a server without
breakers. -/
theorem shown_of_run {s t : GuardedServer Peer B} {ls : List Label} (hs : Inv s)
    (hls : (machine services peer peerId ops classifier).runFrom s ls = some t) {i : Nat}
    (hi : s.server.tasks[i]? = none) :
    Server.Shown services (remoteId peer peerId)
      (∃ ev, Label.server (.task i ev) ∈ ls ∧ ev.cutsShort = true)
      ((machine services peer peerId ops classifier).outputs
        (effectsOf services peer peerId classifier i) s ls) t.server.tasks[i]? := by
  have hstart : Inv s ∧ Server.Shown services (remoteId peer peerId)
      (∃ ev, Label.server (.task i ev) ∈ ls ∧ ev.cutsShort = true) [] s.server.tasks[i]? := by
    rw [hi]
    exact ⟨hs, rfl⟩
  refine (Machine.history_of_meets (M := machine services peer peerId ops classifier)
    (R := fun effs s ↦ Inv s ∧ Server.Shown services (remoteId peer peerId)
      (∃ ev, Label.server (.task i ev) ∈ ls ∧ ev.cutsShort = true) effs s.server.tasks[i]?)
    (C := fun _ l ↦ l ∈ ls) (fun effs s l t hR hl ht ↦ ?_) hstart
    (Machine.meets_of_forall fun l hl ↦ hl) hls).2
  have hm := moves_of_step ht
  refine ⟨hm.inv hR.1, ?_⟩
  rcases hm.taskMoves hR.1 i with ⟨hnone, he⟩ | ⟨l', hl', hmoves⟩
  · rw [hnone, he, List.append_nil]
    exact hR.2
  · refine hR.2.step hmoves fun ev hev hcut ↦ ⟨ev, ?_, hcut⟩
    exact eq_server_of_cutsShort (hev ▸ hl') hcut ▸ hl

/-! ## An open circuit -/

/-- A conversation about an Rpc request in which no callback has started. -/
theorem transcript_of_silent {services : ServiceMap} {peerId : String} {request : Request}
    {effs rest : List HandleEffect} {cb : CallbackId}
    (h : Transcript services peerId request (effs ++ rest))
    (hroute : route services request = .ok (.rpc cb))
    (hno : ∀ cb, .startCallback cb ∉ effs) :
    effs = [] ∧ rest ≠ [] ∨
      effs = [.respond (.error (.circuitBreakerOpen peerId))] ∧ rest = [] := by
  have hkind : ∀ {k : StreamKind} {cb' : CallbackId}, ¬ route services request =
      .ok (k.resource cb') := by
    intro k cb' h
    rw [hroute] at h
    cases k <;> cases h
  generalize hall : effs ++ rest = all at h
  rcases effs with _ | ⟨eff, effs⟩
  · refine .inl ⟨rfl, ?_⟩
    rw [List.nil_append] at hall
    subst hall
    rintro rfl
    cases h
  · refine .inr ?_
    cases h with
    | unrouted h =>
      rw [hroute] at h
      cases h
    | rejected => simpa [and_assoc] using hall
    | called h r =>
      obtain ⟨rfl, -⟩ := List.cons_eq_cons.mp hall
      exact absurd List.mem_cons_self (hno _)
    | notOpened h => exact absurd h hkind
    | notLabelled h => exact absurd h hkind
    | established h => exact absurd h hkind

section OpenCircuit

variable {openSince : B → Nat → Prop} {cooldown end_ : Nat} {p : Peer} {since : Nat}

/-- **An open circuit admits nobody** before the end of the cooldown. -/
theorem runs_of_openSince (ho : ops.OpenBreakers cooldown openSince)
    {s t : Calls.State Peer B Response} (hs : Calls.Inv s)
    (hopen : Calls.OpenSince openSince p since s) {k now : Nat} (hnow : now < since + cooldown)
    (hc : Calls.step ops classifier s (.allow p k now) = some t) :
    runs t p k = false := by
  cases Calls.moves_of_step hc with
  | @allow _ _ _ h hk =>
    have hp := hs.handle p _ (List.mem_of_getElem? hk)
    obtain ⟨b, hb, hopen⟩ := hopen
    rw [Calls.view_breaker hp, Option.some_inj] at hb
    have hphase : ((s.setCall p k h (.ofAdmitted (ops.allow (s.shared.heap h) now).1)
        (ops.allow (s.shared.heap h) now).2).calls p)[k]? =
          some ⟨h, .returned (.error .opened)⟩ := by
      rw [hb, ho.rejects hopen hnow]
      simp only [Calls.State.setCall, Function.update_self]
      exact List.getElem?_set_of_some hk
    rw [runs, hphase]

variable (peer p) in
/-- No callback of the task has started, if it is the peer's. -/
def Silent (effs : List HandleEffect) : Option Server.StreamTask → Prop
  | none => effs = []
  | some t => peer t.handler = p → ∀ cb, .startCallback cb ∉ effs

omit [DecidableEq Peer] in
/-- **Nothing starts a callback but the breaker's permission.** -/
theorem Silent.step {i : Nat} {lab : Server.Label} {effs new : List HandleEffect}
    {t u : Option Server.StreamTask} (h : Silent peer p effs t)
    (hm : Server.TaskMoves services (remoteId peer peerId) i lab t new u)
    (hno : ∀ task, t = some task → peer task.handler = p → lab ≠ .task i (.admitted true)) :
    Silent peer p (effs ++ new) u := by
  cases hm with
  | stays => rwa [List.append_nil]
  | counted =>
    obtain rfl : effs = [] := h
    exact fun _ _ hmem ↦ by cases hmem
  | spawned => rwa [List.append_nil]
  | @handles handler request q q' ev eff hl hm =>
    intro hp cb hmem
    rcases List.mem_append.mp hmem with hmem | hmem
    · exact h hp cb hmem
    · cases hm with
      | admitted => exact hno _ rfl hp hl
      | _ => simp at hmem
  | ended => rwa [List.append_nil]

/-- A step of the server, when the circuit of the peer is open. -/
theorem Moves.silent (ho : ops.OpenBreakers cooldown openSince) {s t : GuardedServer Peer B}
    {lab : Label} (hm : Moves services peer peerId ops classifier s lab t) (hs : Inv s)
    (hopen : Calls.OpenSince openSince p since s.calls) (hb : lab.Before end_)
    (hend : end_ ≤ since + cooldown) {i : Nat} {effs : List HandleEffect}
    (h : Silent peer p effs s.server.tasks[i]?) :
    Silent peer p (effs ++ effectsOf services peer peerId classifier i s lab)
      t.server.tasks[i]? := by
  rcases hm.taskMoves hs i with ⟨hnone, he⟩ | ⟨l', hl', hmoves⟩
  · rw [hnone, he, List.append_nil]
    exact h
  · refine h.step hmoves fun task htask hp hl ↦ ?_
    subst hl
    cases hm with
    | server hl =>
      cases hl'
      cases hl
    | obtain => cases hl'
    | @allow j handler k now request cb calls ok q eff hi hc hok hm =>
      cases hl'
      obtain rfl : _ = task := Option.some_inj.mp (hi.symm.trans htask)
      have hp' : peer handler = p := hp
      rw [hp'] at hc hok
      rw [runs_of_openSince ho hs.calls hopen (Nat.lt_of_lt_of_le hb hend) hc] at hok
      cases hok
    | finish hi =>
      rw [serverLabel, hi] at hl'
      cases hl'

theorem Moves.stays_open (ho : ops.OpenBreakers cooldown openSince) {s t : GuardedServer Peer B}
    {lab : Label} (hm : Moves services peer peerId ops classifier s lab t) (hs : Inv s)
    (hopen : Calls.OpenSince openSince p since s.calls) (hb : lab.Before end_)
    (hend : end_ ≤ since + cooldown) :
    ∃ since', since ≤ since' ∧ Calls.OpenSince openSince p since' t.calls := by
  rcases hm.calls_cases with he | ⟨l', hm', hb'⟩
  · exact ⟨since, Nat.le_refl since, he ▸ hopen⟩
  · exact hm'.stays_open ho hs.calls hopen (hb' _ hb) hend

/-- In a run that begins with an open circuit no callback starts. -/
theorem silent_of_run (ho : ops.OpenBreakers cooldown openSince) {s t : GuardedServer Peer B}
    {ls : List Label} (hs : Inv s) (hopen : Calls.OpenSince openSince p since s.calls)
    (hls : (machine services peer peerId ops classifier).runFrom s ls = some t)
    (hclock : ∀ lab ∈ ls, lab.Before (since + cooldown)) (i : Nat) :
    Silent peer p ((machine services peer peerId ops classifier).outputs
      (effectsOf services peer peerId classifier i) s ls) t.server.tasks[i]? := by
  have hstart : (Inv s ∧ ∃ since', since ≤ since' ∧ Calls.OpenSince openSince p since' s.calls) ∧
      Silent peer p [] s.server.tasks[i]? := by
    refine ⟨⟨hs, since, Nat.le_refl since, hopen⟩, ?_⟩
    rcases s.server.tasks[i]? with _ | t
    · rfl
    · exact fun _ _ hmem ↦ by cases hmem
  refine (Machine.history_of_meets (M := machine services peer peerId ops classifier)
    (R := fun effs s ↦
      (Inv s ∧ ∃ since', since ≤ since' ∧ Calls.OpenSince openSince p since' s.calls) ∧
        Silent peer p effs s.server.tasks[i]?)
    (C := fun _ lab ↦ lab.Before (since + cooldown)) (fun effs s lab t hR hb ht ↦ ?_) hstart
    (Machine.meets_of_forall hclock) hls).2
  obtain ⟨⟨hinv, since', hle, hopen'⟩, hsilent⟩ := hR
  have hm := moves_of_step ht
  -- the cooldown may have begun anew, but no earlier
  have hend : since + cooldown ≤ since' + cooldown := Nat.add_le_add_right hle cooldown
  obtain ⟨since'', hle', hopen''⟩ := hm.stays_open ho hinv hopen' hb hend
  exact ⟨⟨hm.inv hinv, since'', Nat.le_trans hle hle', hopen''⟩,
    hm.silent ho hinv hopen' hb hend hsilent⟩

end OpenCircuit

variable (services peer peerId) in
/-- **An open circuit holds everywhere.**  A peer's circuit is open, and the server goes on in any
way, with any number of connections of this and other peers; the breakers are asked and told before
the cooldown is over.  Then no Rpc callback starts for the peer, on any of its connections; and of a
task of the peer that begins meanwhile, for an Rpc request, nothing is visible but that the circuit
is open.  If such a task has ended it has said so, unless it was cut short. -/
theorem open_circuit_silences (ops : Ops B) (config : CircuitBreakerConfig)
    {openSince : B → Nat → Prop} (ho : ops.OpenBreakers config.timeout openSince)
    {s t : GuardedServer Peer B} {ls : List Label} {p : Peer} {since : Nat}
    (hs : (machine services peer peerId ops config.errorClassifier).Reachable s)
    (hopen : Calls.OpenSince openSince p since s.calls)
    (hls : (machine services peer peerId ops config.errorClassifier).runFrom s ls = some t)
    (hclock : ∀ lab ∈ ls, lab.Before (since + config.timeout)) (i : Nat) (task : Server.StreamTask)
    (hi : t.server.tasks[i]? = some task) (hp : peer task.handler = p) :
    let shown := (machine services peer peerId ops config.errorClassifier).outputs
      (effectsOf services peer peerId config.errorClassifier i) s ls
    (∀ cb, .startCallback cb ∉ shown) ∧
      (s.server.tasks.length ≤ i → ∀ cb, route services task.request = .ok (.rpc cb) →
        shown <+: [.respond (.error (.circuitBreakerOpen (peerId p)))] ∧
          (task.phase = .ended →
            shown = [.respond (.error (.circuitBreakerOpen (peerId p)))] ∨
              ∃ ev, .server (.task i ev) ∈ ls ∧ ev.cutsShort = true)) := by
  intro shown
  have hinv := inv_of_reachable hs
  have hsilent : ∀ cb, .startCallback cb ∉ shown := by
    have h := silent_of_run ho hinv hopen hls hclock i
    rw [hi] at h
    exact h hp
  refine ⟨hsilent, fun hnew cb hroute ↦ ?_⟩
  have hshown := shown_of_run hinv hls (List.getElem?_eq_none hnew)
  rw [hi] at hshown
  obtain ⟨rest, hrest, hended⟩ := hshown.transcript
  rw [remoteId, hp] at hrest
  rcases transcript_of_silent hrest hroute hsilent with ⟨hnil, hne⟩ | ⟨hall, -⟩
  · refine ⟨hnil ▸ List.nil_prefix, fun he ↦ .inr ?_⟩
    exact (hended he).resolve_left hne
  · exact ⟨hall ▸ List.prefix_rfl, fun _ ↦ .inl hall⟩

/-- A server with one Rpc, whose circuits open at the first failure. -/
abbrev sensitiveServer : Machine (GuardedServer Unit Circuit) Label :=
  machine (oneResource (.rpc 0)) (fun _ ↦ ()) (fun _ ↦ "peer") (documented anyLimits sensitive)
    sensitive.errorClassifier

/-- The server after a failure of its only peer. -/
def afterFailure : GuardedServer Unit Circuit :=
  (sensitiveServer.run trippingRun).getD (new (documented anyLimits sensitive))

theorem openSince_afterFailure :
    Calls.OpenSince (fun c since ↦ c = .opened since) () 1 afterFailure.calls :=
  ⟨.opened 1, rfl, rfl⟩

/-- The failure was on one connection, and the refusal is on the other. -/
theorem open_circuit_silences_refusedRun : ∃ t,
    sensitiveServer.runFrom afterFailure refusedRun = some t ∧
      ∀ cb, .startCallback cb ∉ sensitiveServer.outputs
        (effectsOf (oneResource (.rpc 0)) (fun _ ↦ ()) (fun _ ↦ "peer") sensitive.errorClassifier 1)
        afterFailure refusedRun := by
  have hreachable : sensitiveServer.Reachable afterFailure := ⟨trippingRun, rfl⟩
  have hclock : ∀ lab ∈ refusedRun, lab.Before (1 + sensitive.timeout) := by
    simp [refusedRun, requested, Label.Before, sensitive, CircuitBreakerConfig.default]
  exact ⟨_, rfl, (open_circuit_silences (oneResource (.rpc 0)) (fun _ ↦ ()) (fun _ ↦ "peer")
    (documented anyLimits sensitive) sensitive (openBreakers_documented anyLimits sensitive)
    hreachable openSince_afterFailure rfl hclock 1 _ rfl rfl).1⟩

end GuardedServer

end Zel
