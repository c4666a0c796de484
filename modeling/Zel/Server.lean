import Zel.Handlers
import Zel.Shutdown

/-!
# The server: connections, stream tasks and shutdown

The machine of a running `RpcServer` (`protocol/server.rs`, `protocol/builder.rs`).  Its parties are
the connection handlers, the stream tasks they spawn, the callback tasks that three of the four
resource kinds spawn in turn, and the calls of `shutdown`; they share the flag `is_shutting_down`,
the signal `shutdown_signal` and the task tracker.  The steps are the atomic ones: in the accept
loop the creation of the two `select!` futures, the branch that is taken, the load of the flag, the
increment of the tracker and the spawn; in `shutdown` the store of the flag, `notify_waiters` and
the steps of `wait_for_completion`.

A stream task and its guard are created together by `increment`, so task `i` holds guard `i`.

## What is here

* `HandlerPhase`, `StreamTask`, `CallbackTask`, `ShutdownCall` — the parties and where they stand.
* `step`, `machine` — the runs of a server with given services.
* `Moves` — the inversion of `step`, one constructor for each way a label can move the server.
-/

set_option autoImplicit false

namespace Zel

/-- `ShutdownError`; nothing in the repository produces its other variant, `TaskJoinError`. -/
inductive ShutdownError where
  | timeout (remainingTasks : Nat) (timeout : Duration)
  deriving DecidableEq

namespace Server

/-! ## The parties -/

/-- Where a `connection_handler` stands. -/
inductive HandlerPhase where
  /-- The connection hook runs. -/
  | hook
  /-- At the top of the accept loop. -/
  | looping
  /-- Suspended in `select!`, with this future of the shutdown signal. -/
  | selecting (f : Notified)
  /-- `accept_bi` yielded a stream, which carries this request, or an error. -/
  | accepted (stream : Option Request)
  /-- The flag was read as `false`; `increment` is next. -/
  | checked (request : Request)
  /-- The guard of task `i` is taken; `tokio::spawn` is next. -/
  | counted (i : Nat)
  /-- Out of the loop. -/
  | exited
  deriving DecidableEq

/-- Where a stream task stands. -/
inductive TaskPhase where
  /-- The guard exists and the task does not run yet. -/
  | pending
  /-- In `handle_stream`. -/
  | running (p : HandlePhase)
  /-- Gone, its guard dropped. -/
  | ended

/-- The task of one request stream. -/
structure StreamTask where
  /-- The connection handler that spawned it. -/
  handler : Nat
  /-- What the peer wrote on the stream. -/
  request : Request
  phase : TaskPhase

/-- Where the callback of a stream-opening resource stands, in its own task. -/
inductive CallbackPhase where
  /-- The context and the middleware come first. -/
  | spawned
  | running
  | finished
  deriving DecidableEq

/-- A task spawned by `spawn_subscription_task` or one of its two siblings. -/
structure CallbackTask where
  handler : Nat
  kind : StreamKind
  callback : CallbackId
  phase : CallbackPhase
  deriving DecidableEq

/-- Where a call of `ShutdownHandle::shutdown` or `RpcServer::shutdown` stands. -/
inductive ShutdownPhase where
  | called
  /-- The flag is stored. -/
  | flagged
  /-- `notify_waiters` was called. -/
  | signalled
  /-- In `wait_for_completion`, as waiter `w` of the tracker. -/
  | waiting (w : Nat)
  | returned (r : Except ShutdownError Unit)
  deriving DecidableEq

/-- A call of `shutdown`. -/
structure ShutdownCall where
  timeout : Duration
  phase : ShutdownPhase
  deriving DecidableEq

end Server

open Server in
/-- A running server. -/
structure Server where
  isShuttingDown : Bool
  shutdownSignal : Notify
  taskTracker : TaskTracker
  handlers : List HandlerPhase
  tasks : List StreamTask
  callbacks : List CallbackTask
  shutdowns : List ShutdownCall

namespace Server

/-- The server as `build` leaves it. -/
def new : Server := ⟨false, Notify.new, TaskTracker.new, [], [], [], []⟩

/-! ## The steps -/

/-- What a callback task does. -/
inductive CallbackEvent where
  | start
  /-- Returns, fails or panics. -/
  | finish
  deriving DecidableEq

/-- The atomic steps. -/
inductive Label where
  /-- `ProtocolHandler::accept` spawns a connection handler. -/
  | accept
  | hookDone (h : Nat)
  /-- Handler `h` creates the futures of its `select!`. -/
  | select (h : Nat)
  /-- The shutdown branch of `select!`. -/
  | signalled (h : Nat)
  /-- The `accept_bi` branch of `select!`. -/
  | stream (h : Nat) (stream : Option Request)
  | loadFlag (h : Nat)
  | increment (h : Nat)
  | spawn (h : Nat)
  /-- Task `i` moves in `handle_stream`. -/
  | task (i : Nat) (ev : HandleEvent)
  /-- Task `i` is over and drops its guard: `fetch_sub`. -/
  | dropGuard (i : Nat)
  /-- `notify_waiters` of the guard of task `i`. -/
  | notifyGuard (i : Nat)
  | callback (j : Nat) (ev : CallbackEvent)
  | shutdown (timeout : Duration)
  | storeFlag (k : Nat)
  | notify (k : Nat)
  | wait (k : Nat)
  | load (k : Nat)
  | create (k : Nat)
  | wake (k : Nat)
  | timeout (k : Nat)
  /-- Call `k` of `shutdown` returns. -/
  | ret (k : Nat)

def setHandler (s : Server) (h : Nat) (p : HandlerPhase) : Server :=
  { s with handlers := s.handlers.set h p }

def setTask (s : Server) (i : Nat) (t : StreamTask) (p : TaskPhase) : Server :=
  { s with tasks := s.tasks.set i { t with phase := p } }

def setShutdown (s : Server) (k : Nat) (c : ShutdownCall) (p : ShutdownPhase) : Server :=
  { s with shutdowns := s.shutdowns.set k { c with phase := p } }

/-- A step that only moves the tracker. -/
def trackerStep (s : Server) (l : TaskTracker.Label) : Option Server :=
  (s.taskTracker.step l).map fun t ↦ { s with taskTracker := t }

/-- The task that an effect of `handle_stream` spawns. -/
def spawned (handler : Nat) : Option HandleEffect → List CallbackTask
  | some (.spawnCallback k cb) => [⟨handler, k, cb, .spawned⟩]
  | _ => []

/-- A callback task moves on. -/
def CallbackPhase.step : CallbackPhase → CallbackEvent → Option CallbackPhase
  | .spawned, .start => some .running
  | .running, .finish => some .finished
  | _, _ => none

/-- What `shutdown` makes of the result of `wait_for_completion`; the tasks that remain are counted
after a timeout. -/
def ShutdownCall.result (c : ShutdownCall) (count : Nat) :
    Except Unit Unit → Except ShutdownError Unit
  | .ok () => .ok ()
  | .error () => .error (.timeout count c.timeout)

/-- The number that the tracker's waiter of call `k` has, while the call waits. -/
def waiterOf (s : Server) (k : Nat) : Option Nat :=
  match s.shutdowns[k]? with
  | some ⟨_, .waiting w⟩ => some w
  | _ => none

/-- A step of the wait of call `k`. -/
def waitStep (s : Server) (k : Nat) (l : Nat → TaskTracker.Label) : Option Server :=
  (s.waiterOf k).bind fun w ↦ s.trackerStep (l w)

variable (services : ServiceMap) (remoteId : Nat → String)

/-- One atomic step. -/
def step (s : Server) : Label → Option Server
  | .accept => some { s with handlers := s.handlers ++ [.hook] }
  | .hookDone h =>
    if s.handlers[h]? = some .hook then some (s.setHandler h .looping) else none
  | .select h =>
    if s.handlers[h]? = some .looping then
      some (s.setHandler h (.selecting s.shutdownSignal.notified))
    else none
  | .signalled h =>
    match s.handlers[h]? with
    | some (.selecting f) =>
      if f.Ready s.shutdownSignal then some (s.setHandler h .exited) else none
    | _ => none
  | .stream h stream =>
    match s.handlers[h]? with
    | some (.selecting _) => some (s.setHandler h (.accepted stream))
    | _ => none
  | .loadFlag h =>
    match s.handlers[h]? with
    | some (.accepted stream) =>
      some (s.setHandler h
        (if s.isShuttingDown then .exited else (stream.map HandlerPhase.checked).getD .exited))
    | _ => none
  | .increment h =>
    match s.handlers[h]? with
    | some (.checked request) =>
      (s.trackerStep .increment).map fun s ↦
        { s.setHandler h (.counted s.tasks.length) with
          tasks := s.tasks ++ [⟨h, request, .pending⟩] }
    | _ => none
  | .spawn h =>
    match s.handlers[h]? with
    | some (.counted i) =>
      s.tasks[i]?.map fun t ↦ (s.setTask i t (.running .reading)).setHandler h .looping
    | _ => none
  | .task i ev =>
    match s.tasks[i]? with
    | some ⟨h, request, .running p⟩ =>
      (p.step services (remoteId h) request ev).map fun (p', eff) ↦
        { s.setTask i ⟨h, request, .running p⟩ (.running p') with
          callbacks := s.callbacks ++ spawned h eff }
    | _ => none
  | .dropGuard i =>
    match s.tasks[i]? with
    | some ⟨h, request, .running .done⟩ =>
      (s.trackerStep (.fetchSub i)).map fun s ↦ s.setTask i ⟨h, request, .running .done⟩ .ended
    | _ => none
  | .notifyGuard i => s.trackerStep (.notifyWaiters i)
  | .callback j ev =>
    match s.callbacks[j]? with
    | some c => (c.phase.step ev).map fun p ↦
        { s with callbacks := s.callbacks.set j { c with phase := p } }
    | none => none
  | .shutdown timeout => some { s with shutdowns := s.shutdowns ++ [⟨timeout, .called⟩] }
  | .storeFlag k =>
    match s.shutdowns[k]? with
    | some ⟨d, .called⟩ =>
      some { s.setShutdown k ⟨d, .called⟩ .flagged with isShuttingDown := true }
    | _ => none
  | .notify k =>
    match s.shutdowns[k]? with
    | some ⟨d, .flagged⟩ =>
      some { s.setShutdown k ⟨d, .flagged⟩ .signalled with
        shutdownSignal := s.shutdownSignal.notifyWaiters }
    | _ => none
  | .wait k =>
    match s.shutdowns[k]? with
    | some ⟨d, .signalled⟩ =>
      (s.trackerStep .wait).map fun t ↦
        t.setShutdown k ⟨d, .signalled⟩ (.waiting s.taskTracker.waiters.length)
    | _ => none
  | .load k => s.waitStep k .load
  | .create k => s.waitStep k .create
  | .wake k => s.waitStep k .wake
  | .timeout k => s.waitStep k .timeout
  | .ret k =>
    match s.shutdowns[k]? with
    | some ⟨d, .waiting w⟩ =>
      match s.taskTracker.waiters[w]? with
      | some (.returned r) =>
        some (s.setShutdown k ⟨d, .waiting w⟩
          (.returned (ShutdownCall.result ⟨d, .waiting w⟩ s.taskTracker.activeTasks r)))
      | _ => none
    | _ => none

/-- All runs of a server with these services; `remoteId` names the peer of each connection. -/
def machine : Machine Server Label := ⟨new, step services remoteId⟩

/-! ## What a step does -/

/-- The steps, one constructor for each way a label can move the server. -/
inductive Moves (s : Server) : Label → Server → Prop
  | accept : Moves s .accept { s with handlers := s.handlers ++ [.hook] }
  | hookDone {h : Nat} (hh : s.handlers[h]? = some .hook) :
      Moves s (.hookDone h) (s.setHandler h .looping)
  | select {h : Nat} (hh : s.handlers[h]? = some .looping) :
      Moves s (.select h) (s.setHandler h (.selecting s.shutdownSignal.notified))
  | signalled {h : Nat} {f : Notified} (hh : s.handlers[h]? = some (.selecting f))
      (hf : f.Ready s.shutdownSignal) : Moves s (.signalled h) (s.setHandler h .exited)
  | stream {h : Nat} {f : Notified} {stream : Option Request}
      (hh : s.handlers[h]? = some (.selecting f)) :
      Moves s (.stream h stream) (s.setHandler h (.accepted stream))
  | loadFlag {h : Nat} {stream : Option Request}
      (hh : s.handlers[h]? = some (.accepted stream)) :
      Moves s (.loadFlag h) (s.setHandler h
        (if s.isShuttingDown then .exited else (stream.map HandlerPhase.checked).getD .exited))
  | increment {h : Nat} {request : Request} {t : TaskTracker}
      (hh : s.handlers[h]? = some (.checked request))
      (ht : s.taskTracker.step .increment = some t) :
      Moves s (.increment h) { s with
        taskTracker := t
        handlers := s.handlers.set h (.counted s.tasks.length)
        tasks := s.tasks ++ [⟨h, request, .pending⟩] }
  | spawn {h i : Nat} {t : StreamTask} (hh : s.handlers[h]? = some (.counted i))
      (hi : s.tasks[i]? = some t) :
      Moves s (.spawn h) ((s.setTask i t (.running .reading)).setHandler h .looping)
  | task {i h : Nat} {request : Request} {p p' : HandlePhase} {ev : HandleEvent}
      {eff : Option HandleEffect} (hi : s.tasks[i]? = some ⟨h, request, .running p⟩)
      (hp : HandleMoves services (remoteId h) request p ev p' eff) :
      Moves s (.task i ev) { s with
        tasks := s.tasks.set i ⟨h, request, .running p'⟩
        callbacks := s.callbacks ++ spawned h eff }
  | dropGuard {i h : Nat} {request : Request} {t : TaskTracker}
      (hi : s.tasks[i]? = some ⟨h, request, .running .done⟩)
      (ht : s.taskTracker.step (.fetchSub i) = some t) :
      Moves s (.dropGuard i) { s with
        taskTracker := t, tasks := s.tasks.set i ⟨h, request, .ended⟩ }
  | notifyGuard {i : Nat} {t : TaskTracker}
      (ht : s.taskTracker.step (.notifyWaiters i) = some t) :
      Moves s (.notifyGuard i) { s with taskTracker := t }
  | callback {j : Nat} {c : CallbackTask} {ev : CallbackEvent} {p : CallbackPhase}
      (hj : s.callbacks[j]? = some c) (hp : c.phase.step ev = some p) :
      Moves s (.callback j ev) { s with callbacks := s.callbacks.set j { c with phase := p } }
  | shutdown {d : Duration} :
      Moves s (.shutdown d) { s with shutdowns := s.shutdowns ++ [⟨d, .called⟩] }
  | storeFlag {k : Nat} {d : Duration} (hk : s.shutdowns[k]? = some ⟨d, .called⟩) :
      Moves s (.storeFlag k) { s.setShutdown k ⟨d, .called⟩ .flagged with isShuttingDown := true }
  | notify {k : Nat} {d : Duration} (hk : s.shutdowns[k]? = some ⟨d, .flagged⟩) :
      Moves s (.notify k) { s.setShutdown k ⟨d, .flagged⟩ .signalled with
        shutdownSignal := s.shutdownSignal.notifyWaiters }
  | wait {k : Nat} {d : Duration} {t : TaskTracker}
      (hk : s.shutdowns[k]? = some ⟨d, .signalled⟩) (ht : s.taskTracker.step .wait = some t) :
      Moves s (.wait k) { s with
        taskTracker := t
        shutdowns := s.shutdowns.set k ⟨d, .waiting s.taskTracker.waiters.length⟩ }
  | load {k w : Nat} {t : TaskTracker} (hw : s.waiterOf k = some w)
      (ht : s.taskTracker.step (.load w) = some t) : Moves s (.load k) { s with taskTracker := t }
  | create {k w : Nat} {t : TaskTracker} (hw : s.waiterOf k = some w)
      (ht : s.taskTracker.step (.create w) = some t) :
      Moves s (.create k) { s with taskTracker := t }
  | wake {k w : Nat} {t : TaskTracker} (hw : s.waiterOf k = some w)
      (ht : s.taskTracker.step (.wake w) = some t) : Moves s (.wake k) { s with taskTracker := t }
  | timeout {k w : Nat} {t : TaskTracker} (hw : s.waiterOf k = some w)
      (ht : s.taskTracker.step (.timeout w) = some t) :
      Moves s (.timeout k) { s with taskTracker := t }
  | ret {k w : Nat} {d : Duration} {r : Except Unit Unit}
      (hk : s.shutdowns[k]? = some ⟨d, .waiting w⟩)
      (hw : s.taskTracker.waiters[w]? = some (.returned r)) :
      Moves s (.ret k) (s.setShutdown k ⟨d, .waiting w⟩
        (.returned (ShutdownCall.result ⟨d, .waiting w⟩ s.taskTracker.activeTasks r)))

theorem trackerStep_eq_some {s t : Server} {l : TaskTracker.Label} :
    s.trackerStep l = some t ↔
      ∃ u, s.taskTracker.step l = some u ∧ { s with taskTracker := u } = t := by
  rw [trackerStep, Option.map_eq_some_iff]

theorem waitStep_eq_some {s t : Server} {k : Nat} {l : Nat → TaskTracker.Label} :
    s.waitStep k l = some t ↔ ∃ w u, s.waiterOf k = some w ∧
      s.taskTracker.step (l w) = some u ∧ { s with taskTracker := u } = t := by
  simp only [waitStep, Option.bind_eq_some_iff, trackerStep_eq_some, exists_and_left]

/-- A callback task starts, and ends. -/
theorem CallbackPhase.step_eq_some {p q : CallbackPhase} {ev : CallbackEvent}
    (h : p.step ev = some q) :
    p = .spawned ∧ ev = .start ∧ q = .running ∨ p = .running ∧ ev = .finish ∧ q = .finished := by
  cases p <;> cases ev <;> cases h
  · exact Or.inl ⟨rfl, rfl, rfl⟩
  · exact Or.inr ⟨rfl, rfl, rfl⟩

variable {services remoteId}

theorem moves_of_step {s t : Server} {l : Label} (h : s.step services remoteId l = some t) :
    Moves services remoteId s l t := by
  cases l with
  | accept => cases h; exact .accept
  | hookDone h' =>
    simp only [step] at h
    split at h
    · rename_i hh; cases h; exact .hookDone hh
    · cases h
  | select h' =>
    simp only [step] at h
    split at h
    · rename_i hh; cases h; exact .select hh
    · cases h
  | signalled h' =>
    simp only [step] at h
    split at h
    · rename_i f hh
      split at h
      · rename_i hf; cases h; exact .signalled hh hf
      · cases h
    · cases h
  | stream h' stream =>
    simp only [step] at h
    split at h
    · rename_i f hh; cases h; exact .stream hh
    · cases h
  | loadFlag h' =>
    simp only [step] at h
    split at h
    · rename_i stream hh; cases h; exact .loadFlag hh
    · cases h
  | increment h' =>
    simp only [step] at h
    split at h
    · rename_i request hh
      obtain ⟨u, hu, rfl⟩ := Option.map_eq_some_iff.mp h
      obtain ⟨t, ht, rfl⟩ := trackerStep_eq_some.mp hu
      exact .increment hh ht
    · cases h
  | spawn h' =>
    simp only [step] at h
    split at h
    · rename_i i hh
      obtain ⟨t, hi, rfl⟩ := Option.map_eq_some_iff.mp h
      exact .spawn hh hi
    · cases h
  | task i ev =>
    simp only [step] at h
    split at h
    · rename_i h' request p hi
      obtain ⟨⟨p', eff⟩, hp, rfl⟩ := Option.map_eq_some_iff.mp h
      exact .task hi (HandlePhase.moves_of_step hp)
    · cases h
  | dropGuard i =>
    simp only [step] at h
    split at h
    · rename_i h' request hi
      obtain ⟨u, hu, rfl⟩ := Option.map_eq_some_iff.mp h
      obtain ⟨t, ht, rfl⟩ := trackerStep_eq_some.mp hu
      exact .dropGuard hi ht
    · cases h
  | notifyGuard i =>
    obtain ⟨t, ht, rfl⟩ := trackerStep_eq_some.mp h
    exact .notifyGuard ht
  | callback j ev =>
    simp only [step] at h
    split at h
    · rename_i c hj
      obtain ⟨p, hp, rfl⟩ := Option.map_eq_some_iff.mp h
      exact .callback hj hp
    · cases h
  | shutdown d => cases h; exact .shutdown
  | storeFlag k =>
    simp only [step] at h
    split at h
    · rename_i d hk; cases h; exact .storeFlag hk
    · cases h
  | notify k =>
    simp only [step] at h
    split at h
    · rename_i d hk; cases h; exact .notify hk
    · cases h
  | wait k =>
    simp only [step] at h
    split at h
    · rename_i d hk
      obtain ⟨u, hu, rfl⟩ := Option.map_eq_some_iff.mp h
      obtain ⟨t, ht, rfl⟩ := trackerStep_eq_some.mp hu
      exact .wait hk ht
    · cases h
  | load k =>
    obtain ⟨w, t, hw, ht, rfl⟩ := waitStep_eq_some.mp h
    exact .load hw ht
  | create k =>
    obtain ⟨w, t, hw, ht, rfl⟩ := waitStep_eq_some.mp h
    exact .create hw ht
  | wake k =>
    obtain ⟨w, t, hw, ht, rfl⟩ := waitStep_eq_some.mp h
    exact .wake hw ht
  | timeout k =>
    obtain ⟨w, t, hw, ht, rfl⟩ := waitStep_eq_some.mp h
    exact .timeout hw ht
  | ret k =>
    simp only [step] at h
    split at h
    · rename_i d w hk
      split at h
      · rename_i r hw; cases h; exact .ret hk hw
      · cases h
    · cases h

end Server

end Zel
