import Zel.AcceptLoops
import Zel.CoordinatedShutdown
import Zel.Lib.Termination

/-!
# A server that shuts down comes to rest

Once the flag `is_shutting_down` is stored, an accept loop takes no further stream, and everything
that the server still does was begun before: each task has a bounded number of awaits left, each
callback ends once, and each call of `shutdown` waits for a signal that comes at most once for each
guard.  So the server comes to rest, however its parties are scheduled.

At rest means that no step is left which the server takes by itself.  What is still there then
waits for somebody else: a hook, the middleware or a callback of the application, or the peer at the
other end of a stream.  An accept loop may be left as well, suspended in a `select!` that it entered
after the signal; one that was suspended when the signal came has exited.

## What is here

* `remaining` — how many steps the server can still take, for a number of calls of `shutdown`.
* `Moves.remaining_lt` — every step takes one of them.
* `Resting`, `AtRest`, `atRest_of_resting` — what is left when the server takes no step by itself.
* `Hearing`, `Moves.hearing` — the handlers that the signal reaches.
* `shutdown_comes_to_rest` — **the server comes to rest**, after boundedly many steps.
-/

set_option autoImplicit false

namespace Zel

/-! ## What the tracker has left to do -/

/-- A guard that notifies can wake each of `k` waiters, which then takes three more steps. -/
def GuardPhase.remaining (k : Nat) : GuardPhase → Nat
  | .live | .notifying => 1 + 3 * k
  | .dropped => 0

/-- How many steps a waiter takes until it returns, if it is not woken again. -/
def WaitPhase.remaining (n : Notify) : WaitPhase → Nat
  | .entered => 4
  | .looping => 3
  | .registering => 2
  | .awaiting f => if f.Ready n then 4 else 1
  | .returned _ => 0

/-- A signal gives a waiter at most three more steps. -/
theorem WaitPhase.remaining_notifyWaiters (n : Notify) (p : WaitPhase) :
    p.remaining n.notifyWaiters ≤ p.remaining n + 3 := by
  cases p with
  | awaiting f => simp only [remaining]; split <;> split <;> omega
  | _ => exact Nat.le_add_right _ 3

theorem WaitPhase.remaining_afterLoad {n : Nat} {m : Notify} {p q : WaitPhase}
    (h : TaskTracker.afterLoad n p = some q) : q.remaining m < p.remaining m := by
  cases p <;> simp only [TaskTracker.afterLoad, Option.some_inj, reduceCtorEq] at h <;>
    subst h <;> split <;> simp [remaining]

namespace TaskTracker

/-- How many steps the tracker can still take, with at most `k` waiters. -/
def remaining (k : Nat) (s : TaskTracker) : Nat :=
  (s.guards.map (GuardPhase.remaining k)).sum +
    (s.waiters.map (WaitPhase.remaining s.completionNotify)).sum

/-- What a step of the tracker may add to that, and the step itself. -/
def Label.cost (k : Nat) : Label → Nat
  | .increment => 2 + 3 * k
  | .fetchSub _ => 1
  | .wait => 5
  | _ => 0

/-- One waiter moves on. -/
theorem remaining_setWaiter {k w : Nat} {s : TaskTracker} {p q : WaitPhase}
    (hw : s.waiters[w]? = some p)
    (hq : q.remaining s.completionNotify < p.remaining s.completionNotify) :
    remaining k (s.setWaiter w q) < remaining k s := by
  have hsum := List.sum_map_set_add (a := q) hw (WaitPhase.remaining s.completionNotify)
  simp only [remaining, setWaiter]
  omega

theorem Moves.remaining_lt {k : Nat} {s t : TaskTracker} {l : Label} (h : Moves s l t)
    (hk : s.waiters.length ≤ k) : remaining k t < remaining k s + l.cost k := by
  cases h with
  | increment =>
    simp only [remaining, Label.cost, List.map_append, List.sum_append, List.map_singleton,
      List.sum_singleton, GuardPhase.remaining]
    omega
  | @fetchSub g hg =>
    have hsum := List.sum_map_set_add (a := if s.activeTasks = 1 then .notifying else .dropped)
      hg (GuardPhase.remaining k)
    have hle : GuardPhase.remaining k (if s.activeTasks = 1 then .notifying else .dropped) ≤
        GuardPhase.remaining k .live := by
      split
      · exact Nat.le_refl _
      · exact Nat.zero_le _
    simp only [remaining, Label.cost]
    omega
  | @notifyWaiters g hg =>
    have hsum := List.sum_map_set_add (a := .dropped) hg (GuardPhase.remaining k)
    have hwoken : (s.waiters.map (WaitPhase.remaining s.completionNotify.notifyWaiters)).sum ≤
        (s.waiters.map (WaitPhase.remaining s.completionNotify)).sum + 3 * s.waiters.length :=
      List.sum_map_le_add fun p _ ↦ WaitPhase.remaining_notifyWaiters _ p
    simp only [remaining, Label.cost, GuardPhase.remaining] at hsum ⊢
    omega
  | wait =>
    simp only [remaining, Label.cost, List.map_append, List.sum_append, List.map_singleton,
      List.sum_singleton, WaitPhase.remaining]
    omega
  | load hw hq => exact remaining_setWaiter hw (WaitPhase.remaining_afterLoad hq)
  | create hw =>
    refine remaining_setWaiter hw ?_
    have hf := Notified.not_ready_notified s.completionNotify
    simp [WaitPhase.remaining, hf]
  | wake hw hf =>
    refine remaining_setWaiter hw ?_
    simp [WaitPhase.remaining, hf]
  | timeout hw hf =>
    refine remaining_setWaiter hw ?_
    simp [WaitPhase.remaining, hf]

/-- Nothing but `increment` makes a guard live. -/
theorem Moves.live_of_live {s t : TaskTracker} {l : Label} (h : Moves s l t) (hl : l ≠ .increment)
    {g : Nat} (hg : t.guards[g]? = some .live) : s.guards[g]? = some .live := by
  cases h with
  | increment => exact absurd rfl hl
  | fetchSub =>
    rcases List.getElem?_set_cases hg with ⟨-, he⟩ | ⟨-, hg⟩
    · split at he <;> cases he
    · exact hg
  | notifyWaiters =>
    rcases List.getElem?_set_cases hg with ⟨-, he⟩ | ⟨-, hg⟩
    · cases he
    · exact hg
  | _ => exact hg

theorem Moves.waiters_length_eq {s t : TaskTracker} {l : Label} (h : Moves s l t)
    (hl : l ≠ .wait) : t.waiters.length = s.waiters.length := by
  cases h with
  | wait => exact absurd rfl hl
  | load | create | wake | timeout => exact List.length_set
  | _ => rfl

end TaskTracker

namespace Server

variable {services : ServiceMap} {remoteId : Nat → String}

/-! ## What the parties have left to do -/

/-- A stream that passed the check brings a task and its guard. -/
def HandlerPhase.remaining (k : Nat) : HandlerPhase → Nat
  | .hook => 4
  | .looping => 3
  | .selecting _ => 2
  | .accepted _ => 1
  | .checked _ => 14 + 3 * k
  | .counted _ => 4
  | .exited => 0

def CallbackTask.remaining (c : CallbackTask) : Nat :=
  match c.phase with
  | .spawned => 2
  | .running => 1
  | .finished => 0

end Server

/-- How many awaits `handle_stream` has left, with those of the callback that it may spawn. -/
def HandlePhase.remaining : HandlePhase → Nat
  | .reading => 7
  | .opening _ _ => 6
  | .labelling _ _ => 5
  | .accepting _ _ | .preparing _ => 4
  | .spawning _ _ | .admitting _ => 3
  | .running _ => 2
  | .responding _ => 1
  | .done => 0

theorem HandleMoves.remaining_lt {services : ServiceMap} {peerId : String} {request : Request}
    {p q : HandlePhase} {ev : HandleEvent} {eff : Option HandleEffect}
    (h : HandleMoves services peerId request p ev q eff) (handler : Nat) :
    q.remaining + ((Server.spawned handler eff).map Server.CallbackTask.remaining).sum <
      p.remaining := by
  cases h with
  | read =>
    rcases route services request with e | (cb | cb | cb | cb) <;>
      simp [dispatch, HandlePhase.remaining, Server.spawned]
  | _ => simp [HandlePhase.remaining, Server.spawned, Server.CallbackTask.remaining]

namespace Server

variable {services : ServiceMap} {remoteId : Nat → String}

def StreamTask.remaining (t : StreamTask) : Nat :=
  match t.phase with
  | .pending => 8
  | .running p => p.remaining + 1
  | .ended => 0

/-- A call of `shutdown` adds a waiter to the tracker on its way. -/
def ShutdownCall.remaining (c : ShutdownCall) : Nat :=
  match c.phase with
  | .called => 8
  | .flagged => 7
  | .signalled => 6
  | .waiting _ => 1
  | .returned _ => 0

/-- How many steps a server that shuts down can still take, with at most `k` calls of `shutdown`. -/
def remaining (k : Nat) (s : Server) : Nat :=
  (s.handlers.map (HandlerPhase.remaining k)).sum + (s.tasks.map StreamTask.remaining).sum +
    (s.callbacks.map CallbackTask.remaining).sum +
    (s.shutdowns.map ShutdownCall.remaining).sum + s.taskTracker.remaining k

/-- What a connection or a call of `shutdown` brings, and the step itself. -/
def Label.cost : Label → Nat
  | .accept => 5
  | .shutdown _ => 9
  | _ => 0

/-- One handler moves on. -/
theorem remaining_setHandler {k h : Nat} {s : Server} {p q : HandlerPhase}
    (hh : s.handlers[h]? = some p) (hq : q.remaining k < p.remaining k) :
    remaining k (s.setHandler h q) < remaining k s := by
  have hsum := List.sum_map_set_add (a := q) hh (HandlerPhase.remaining k)
  simp only [remaining, setHandler]
  omega

/-- One call of `shutdown` moves on. -/
theorem remaining_setShutdown {k j : Nat} {s : Server} {c : ShutdownCall} {p : ShutdownPhase}
    (hj : s.shutdowns[j]? = some c)
    (hp : ShutdownCall.remaining { c with phase := p } < c.remaining) :
    remaining k (s.setShutdown j c p) < remaining k s := by
  have hsum := List.sum_map_set_add (a := { c with phase := p }) hj ShutdownCall.remaining
  simp only [remaining, setShutdown]
  omega

/-- Only the tracker moves. -/
theorem remaining_taskTracker {k : Nat} {s : Server} {l : TaskTracker.Label} {t : TaskTracker}
    (ht : s.taskTracker.step l = some t) (hk : s.taskTracker.waiters.length ≤ k)
    (hl : l.cost k = 0) : remaining k { s with taskTracker := t } < remaining k s := by
  have hlt := (TaskTracker.moves_of_step ht).remaining_lt hk
  simp only [remaining]
  omega

/-- **Every step takes one of the steps that remain.** -/
theorem Moves.remaining_lt {k : Nat} {s t : Server} {l : Label}
    (h : Moves services remoteId s l t) (hs : Inv s) (hflag : s.isShuttingDown = true)
    (hk : s.taskTracker.waiters.length ≤ k) : remaining k t < remaining k s + l.cost := by
  cases h with
  | accept =>
    simp only [remaining, Label.cost, List.map_append, List.sum_append, List.map_singleton,
      List.sum_singleton, HandlerPhase.remaining]
    omega
  | hookDone hh => exact remaining_setHandler hh (by simp [HandlerPhase.remaining])
  | select hh => exact remaining_setHandler hh (by simp [HandlerPhase.remaining])
  | signalled hh => exact remaining_setHandler hh (by simp [HandlerPhase.remaining])
  | stream hh => exact remaining_setHandler hh (by simp [HandlerPhase.remaining])
  | loadFlag hh =>
    rw [if_pos hflag]
    exact remaining_setHandler hh (by simp [HandlerPhase.remaining])
  | @increment h request t hh ht =>
    have hlt := (TaskTracker.moves_of_step ht).remaining_lt hk
    have hsum := List.sum_map_set_add (a := .counted s.tasks.length) hh (HandlerPhase.remaining k)
    simp only [remaining, Label.cost, TaskTracker.Label.cost, List.map_append, List.sum_append,
      List.map_singleton, List.sum_singleton, HandlerPhase.remaining, StreamTask.remaining]
      at hlt hsum ⊢
    omega
  | @spawn h i t hh hi =>
    -- the task is the handler's own, which has only been counted so far
    obtain ⟨request, hpend⟩ := hs.counted h i hh
    obtain rfl : t = ⟨h, request, .pending⟩ := Option.some_inj.mp (hi.symm.trans hpend)
    have htask := List.sum_map_set_add (a := ⟨h, request, .running .reading⟩) hi
      StreamTask.remaining
    have hsum := List.sum_map_set_add (a := .looping) hh (HandlerPhase.remaining k)
    simp only [remaining, Label.cost, setTask, setHandler, HandlerPhase.remaining,
      StreamTask.remaining, HandlePhase.remaining] at htask hsum ⊢
    omega
  | @task i h request p q ev eff hi hp =>
    have hlt := hp.remaining_lt h
    have htask := List.sum_map_set_add (a := ⟨h, request, .running q⟩) hi StreamTask.remaining
    simp only [remaining, Label.cost, List.map_append, List.sum_append, StreamTask.remaining]
      at htask ⊢
    omega
  | @dropGuard i h request t hi ht =>
    have hlt := (TaskTracker.moves_of_step ht).remaining_lt hk
    have htask := List.sum_map_set_add (a := ⟨h, request, .ended⟩) hi StreamTask.remaining
    simp only [remaining, Label.cost, TaskTracker.Label.cost, StreamTask.remaining,
      HandlePhase.remaining] at hlt htask ⊢
    omega
  | notifyGuard ht => exact remaining_taskTracker ht hk rfl
  | @callback j c ev p hj hp =>
    have hsum := List.sum_map_set_add (a := { c with phase := p }) hj CallbackTask.remaining
    obtain ⟨handler, kind, cb, phase⟩ := c
    rcases CallbackPhase.step_eq_some hp with ⟨rfl, -, rfl⟩ | ⟨rfl, -, rfl⟩ <;>
      simp only [remaining, Label.cost, CallbackTask.remaining] at hsum ⊢ <;> omega
  | shutdown =>
    simp only [remaining, Label.cost, List.map_append, List.sum_append, List.map_singleton,
      List.sum_singleton, ShutdownCall.remaining]
    omega
  | storeFlag hj => exact remaining_setShutdown hj (by simp [ShutdownCall.remaining])
  | notify hj => exact remaining_setShutdown hj (by simp [ShutdownCall.remaining])
  | @wait j d t hj ht =>
    have hlt := (TaskTracker.moves_of_step ht).remaining_lt hk
    have hsum := List.sum_map_set_add (a := ⟨d, .waiting s.taskTracker.waiters.length⟩) hj
      ShutdownCall.remaining
    simp only [remaining, Label.cost, TaskTracker.Label.cost, ShutdownCall.remaining]
      at hlt hsum ⊢
    omega
  | load _ ht | create _ ht | wake _ ht | timeout _ ht => exact remaining_taskTracker ht hk rfl
  | ret hj => exact remaining_setShutdown hj (by simp [ShutdownCall.remaining])

/-! ## What is at rest is over -/

/-- The call has a waiter of its own. -/
def ShutdownCall.waits (c : ShutdownCall) : Bool :=
  match c.phase with
  | .waiting _ | .returned _ => true
  | _ => false

/-- Who is responsible for what is still there. -/
structure Owned (s : Server) : Prop where
  /-- A task that does not run yet is about to be spawned. -/
  pending : ∀ (i h : Nat) (request : Request), s.tasks[i]? = some ⟨h, request, .pending⟩ →
    s.handlers[h]? = some (.counted i)
  /-- A task that has ended has given its guard back. -/
  ended : ∀ (i h : Nat) (request : Request), s.tasks[i]? = some ⟨h, request, .ended⟩ →
    s.taskTracker.guards[i]? ≠ some .live
  waiters : s.taskTracker.waiters.length = s.shutdowns.countP ShutdownCall.waits

theorem owned_new : Owned new := by
  constructor <;> simp [new, TaskTracker.new]

/-- A handler moves that has no task to spawn. -/
theorem Owned.setHandler {s : Server} (hs : Owned s) {h : Nat} {p q : HandlerPhase}
    (hh : s.handlers[h]? = some p) (hp : ∀ i, p ≠ .counted i) : Owned (s.setHandler h q) where
  pending i h' request hi :=
    List.getElem?_set_other (hs.pending i h' request hi) hh (hp i)
  ended := hs.ended
  waiters := hs.waiters

/-- A running task moves, or ends without its guard. -/
theorem Owned.setTask {s : Server} (hs : Owned s) {i h : Nat} {request : Request} {p : TaskPhase}
    {callbacks : List CallbackTask} (hp : p ≠ .pending)
    (hg : p = .ended → s.taskTracker.guards[i]? ≠ some .live) :
    Owned { s with tasks := s.tasks.set i ⟨h, request, p⟩, callbacks := callbacks } where
  pending j h' request' hj := by
    rcases List.getElem?_set_cases hj with ⟨-, he⟩ | ⟨-, hj⟩
    · cases he
      exact absurd rfl hp
    · exact hs.pending j h' request' hj
  ended j h' request' hj := by
    rcases List.getElem?_set_cases hj with ⟨rfl, he⟩ | ⟨-, hj⟩
    · cases he
      exact hg rfl
    · exact hs.ended j h' request' hj
  waiters := hs.waiters

/-- A call of `shutdown` moves on, and waits no more than before. -/
theorem Owned.setShutdown {s : Server} (hs : Owned s) {k : Nat} {c d : ShutdownCall}
    (hk : s.shutdowns[k]? = some c) (hw : d.waits = c.waits) :
    Owned { s with shutdowns := s.shutdowns.set k d } where
  pending := hs.pending
  ended := hs.ended
  waiters := by
    have hcount := List.countP_set_add (p := ShutdownCall.waits) (a := d) hk
    have hlen := hs.waiters
    rw [hw] at hcount
    show s.taskTracker.waiters.length = (s.shutdowns.set k d).countP ShutdownCall.waits
    omega

/-- The tracker moves, without a new guard and without a new waiter. -/
theorem Owned.tracker {s : Server} (hs : Owned s) {l : TaskTracker.Label} {t : TaskTracker}
    (ht : s.taskTracker.step l = some t) (hi : l ≠ .increment) (hw : l ≠ .wait) :
    Owned { s with taskTracker := t } := by
  have hm := TaskTracker.moves_of_step ht
  refine ⟨hs.pending, fun i h request hi' hg ↦ hs.ended i h request hi' (hm.live_of_live hi hg),
    (hm.waiters_length_eq hw).trans hs.waiters⟩

theorem Moves.owned {s t : Server} {l : Label} (h : Moves services remoteId s l t) (hinv : Inv s)
    (hs : Owned s) : Owned t := by
  cases h with
  | accept =>
    exact ⟨fun i h request hi ↦ List.getElem?_concat_of_some (hs.pending i h request hi),
      hs.ended, hs.waiters⟩
  | hookDone hh | select hh | signalled hh | stream hh | loadFlag hh =>
    exact hs.setHandler hh (by simp)
  | @increment h request t hh ht =>
    cases ht
    refine ⟨fun i h' request' hi ↦ ?_, fun i h' request' hi ↦ ?_, hs.waiters⟩
    · rcases List.getElem?_concat_cases hi with ⟨rfl, he⟩ | hi
      · cases he
        exact List.getElem?_set_of_some hh
      · exact List.getElem?_set_other (hs.pending i h' request' hi) hh (by simp)
    · rcases List.getElem?_concat_cases hi with ⟨-, he⟩ | hi
      · cases he
      · have hlt : i < s.taskTracker.guards.length :=
          hinv.aligned ▸ (List.getElem?_eq_some_iff.mp hi).1
        show (s.taskTracker.guards ++ [GuardPhase.live])[i]? ≠ _
        rw [List.getElem?_append_left hlt]
        exact hs.ended i h' request' hi
  | @spawn h i t hh hi =>
    obtain ⟨request, hpend⟩ := hinv.counted h i hh
    obtain rfl : t = ⟨h, request, .pending⟩ := Option.some_inj.mp (hi.symm.trans hpend)
    refine ⟨fun j h' request' hj ↦ ?_, fun j h' request' hj ↦ ?_, hs.waiters⟩
    · rcases List.getElem?_set_cases hj with ⟨-, he⟩ | ⟨hne, hj⟩
      · cases he
      · exact List.getElem?_set_other (hs.pending j h' request' hj) hh (by simpa using Ne.symm hne)
    · rcases List.getElem?_set_cases hj with ⟨-, he⟩ | ⟨-, hj⟩
      · cases he
      · exact hs.ended j h' request' hj
  | task => exact hs.setTask (by simp) (by simp)
  | @dropGuard i h request t hi ht =>
    refine (hs.tracker ht (by simp) (by simp)).setTask (by simp) fun _ hg ↦ ?_
    cases TaskTracker.moves_of_step ht with
    | fetchSub =>
      rcases List.getElem?_set_cases hg with ⟨-, he⟩ | ⟨hne, -⟩
      · split at he <;> cases he
      · exact hne rfl
  | notifyGuard ht => exact hs.tracker ht (by simp) (by simp)
  | callback => exact ⟨hs.pending, hs.ended, hs.waiters⟩
  | shutdown =>
    refine ⟨hs.pending, hs.ended, ?_⟩
    simp only [List.countP_append, hs.waiters]
    rfl
  | storeFlag hk =>
    have hset : Owned { s with isShuttingDown := true } := ⟨hs.pending, hs.ended, hs.waiters⟩
    exact hset.setShutdown hk rfl
  | notify hk =>
    have hset : Owned { s with shutdownSignal := s.shutdownSignal.notifyWaiters } :=
      ⟨hs.pending, hs.ended, hs.waiters⟩
    exact hset.setShutdown hk rfl
  | @wait k d t hk ht =>
    cases ht
    refine ⟨hs.pending, hs.ended, ?_⟩
    have hcount := List.countP_set_add (p := ShutdownCall.waits)
      (a := ⟨d, .waiting s.taskTracker.waiters.length⟩) hk
    have hlen := hs.waiters
    simp only [ShutdownCall.waits, Bool.toNat_true, Bool.toNat_false] at hcount
    simp only [List.length_append, List.length_singleton]
    omega
  | load _ ht | create _ ht | wake _ ht | timeout _ ht =>
    exact hs.tracker ht (by simp) (by simp)
  | ret hk => exact hs.setShutdown hk rfl

end Server

/-- The event comes from the peer, from the network or from the application's middleware and
callbacks. -/
def HandleEvent.external : HandleEvent → Bool
  | .spawn | .admitted _ => false
  | _ => true

/-- The handler waits for such an event. -/
def HandlePhase.Waits : HandlePhase → Prop
  | .spawning _ _ | .admitting _ | .done => False
  | _ => True

namespace Server

variable {services : ServiceMap} {remoteId : Nat → String}

/-- The step is not the server's own: a connection or a call of `shutdown` comes in, a hook, the
middleware or a callback of the application returns, or a stream of the peer moves. -/
def Label.external : Label → Bool
  | .accept | .hookDone _ | .stream _ _ | .callback _ _ | .shutdown _ => true
  | .task _ ev => ev.external
  | _ => false

variable (services remoteId) in
/-- There is no step that the server takes by itself. -/
def Resting (s : Server) : Prop :=
  ∀ l : Label, l.external = false → s.step services remoteId l = none

/-- The task is counted: its guard exists. -/
def StreamTask.holdsGuard (t : StreamTask) : Bool :=
  match t.phase with
  | .ended => false
  | _ => true

/-- What is left waits for somebody else. -/
structure AtRest (s : Server) : Prop where
  /-- A connection is closed, in its hook, or suspended where no signal has reached it. -/
  handlers : ∀ (h : Nat) (p : HandlerPhase), s.handlers[h]? = some p →
    p = .exited ∨ p = .hook ∨ ∃ f, p = .selecting f ∧ ¬ f.Ready s.shutdownSignal
  tasks : ∀ (i : Nat) (t : StreamTask), s.tasks[i]? = some t →
    t.phase = .ended ∨ ∃ p, t.phase = .running p ∧ p.Waits
  /-- Every call of `shutdown` has returned. -/
  shutdowns : ∀ (k : Nat) (c : ShutdownCall), s.shutdowns[k]? = some c →
    ∃ r, c.phase = .returned r
  activeTasks : s.taskTracker.activeTasks = s.tasks.countP StreamTask.holdsGuard

/-- Some step of the server's own can be taken. -/
def CanMove (services : ServiceMap) (remoteId : Nat → String) (s : Server) : Prop :=
  ∃ l : Label, l.external = false ∧ (s.step services remoteId l).isSome = true

/-- A connection handler that does not wait can move. -/
theorem canMove_of_handler {s : Server} (hs : Inv s) {h : Nat} {p : HandlerPhase}
    (hh : s.handlers[h]? = some p) (hexited : p ≠ .exited) (hhook : p ≠ .hook)
    (hselect : ∀ f, p = .selecting f → f.Ready s.shutdownSignal) :
    CanMove services remoteId s := by
  cases p with
  | hook => exact absurd rfl hhook
  | looping => exact ⟨.select h, rfl, by simp [step, hh]⟩
  | selecting f => exact ⟨.signalled h, rfl, by simp [step, hh, hselect f rfl]⟩
  | accepted stream => exact ⟨.loadFlag h, rfl, by simp [step, hh]⟩
  | checked request =>
    exact ⟨.increment h, rfl, by simp [step, hh, trackerStep, TaskTracker.step]⟩
  | counted i =>
    obtain ⟨request, hi⟩ := hs.counted h i hh
    exact ⟨.spawn h, rfl, by simp [step, hh, hi]⟩
  | exited => exact absurd rfl hexited

/-- A running task that does not wait can move, and returns its guard in the end. -/
theorem canMove_of_task {s : Server} (hs : Inv s) {i h : Nat} {request : Request}
    {p : HandlePhase} (hi : s.tasks[i]? = some ⟨h, request, .running p⟩) (hp : ¬ p.Waits) :
    CanMove services remoteId s := by
  cases p with
  | spawning k cb => exact ⟨.task i .spawn, rfl, by simp [step, hi, HandlePhase.step]⟩
  | admitting cb =>
    exact ⟨.task i (.admitted false), rfl, by simp [step, hi, HandlePhase.step]⟩
  | done =>
    have hg := hs.live i _ hi (by simp)
    exact ⟨.dropGuard i, rfl, by simp [step, hi, trackerStep, TaskTracker.step, hg]⟩
  | _ => exact absurd trivial hp

/-- The guards that are held are those of the tasks that have not ended. -/
theorem activeTasks_eq_holdsGuard {s : Server} (hinv : Inv s) (hs : Owned s) :
    s.taskTracker.activeTasks = s.tasks.countP StreamTask.holdsGuard := by
  rw [hinv.counter, TaskTracker.liveGuards]
  refine List.countP_congr_getElem? hinv.aligned fun i g t hg ht ↦ ?_
  obtain ⟨h, request, phase⟩ := t
  cases phase with
  | ended =>
    have hlive := hs.ended i h request ht
    rw [hg] at hlive
    exact beq_eq_false_iff_ne.mpr fun he ↦ hlive (congrArg some he)
  | _ =>
    have hlive := hinv.live i _ ht (by simp)
    rw [hg, Option.some_inj] at hlive
    exact beq_iff_eq.mpr hlive

/-- **At rest what is left waits for somebody else.** -/
theorem atRest_of_resting {s : Server} (hinv : Inv s) (hreg : Registered s) (hs : Owned s)
    (hrest : Resting services remoteId s) : AtRest s := by
  have hstuck : ¬ CanMove services remoteId s := by
    rintro ⟨l, hl, hsome⟩
    rw [hrest l hl] at hsome
    cases hsome
  refine ⟨fun h p hh ↦ ?_, fun i t hi ↦ ?_, fun k c hk ↦ ?_, activeTasks_eq_holdsGuard hinv hs⟩
  · by_contra hno
    simp only [not_or, not_exists, not_and, not_not] at hno
    exact hstuck (canMove_of_handler hinv hh hno.1 hno.2.1 hno.2.2)
  · rcases t with ⟨h, request, _ | p | _⟩
    · -- the handler that is to spawn it can move
      exact absurd (canMove_of_handler hinv (hs.pending i h request hi) (by simp) (by simp)
        (by simp)) hstuck
    · refine Or.inr ⟨p, rfl, ?_⟩
      by_contra hp
      exact hstuck (canMove_of_task hinv hi hp)
    · exact Or.inl rfl
  · refine Classical.byContradiction fun hr ↦ hstuck ?_
    obtain ⟨l, hcall, hstep⟩ :
        ∃ l, Label.call l = some k ∧ (s.step services remoteId l).isSome = true :=
      exists_step_of_call hreg hk fun r he ↦ hr ⟨r, he⟩
    refine ⟨l, ?_, hstep⟩
    cases l <;> first | rfl | cases hcall

/-! ## The signal reaches whoever waits for it -/

/-- Some call of `shutdown` has stored the flag and is about to signal. -/
def AboutToSignal (s : Server) : Prop :=
  ∃ (k : Nat) (d : Duration), s.shutdowns[k]? = some ⟨d, .flagged⟩

/-- The handler has entered its last `select!`: it has left it, or the signal has reached it or will
do so. -/
def Hearing (h : Nat) (s : Server) : Prop :=
  ∃ p, s.handlers[h]? = some p ∧ match p with
    | .exited | .accepted _ => True
    | .selecting f => f.Ready s.shutdownSignal ∨
        f.CreatedBy s.shutdownSignal ∧ AboutToSignal s
    | _ => False

/-- Another handler moves, or this one out of its `select!`. -/
theorem Hearing.setHandler {s : Server} {h h' : Nat} {p q : HandlerPhase} (hs : Hearing h s)
    (hh : s.handlers[h']? = some p) (hp : (∃ f, p = .selecting f) ∨ (∃ r, p = .accepted r) →
      q = .exited ∨ ∃ r, q = .accepted r) (hq : p ≠ .exited) :
    Hearing h { s with handlers := s.handlers.set h' q } := by
  obtain ⟨p₀, hp₀, hear⟩ := hs
  by_cases he : h' = h
  · subst he
    obtain rfl : p = p₀ := Option.some_inj.mp (hh.symm.trans hp₀)
    refine ⟨q, List.getElem?_set_of_some hh, ?_⟩
    have hmoved : q = .exited ∨ ∃ r, q = .accepted r := by
      cases p with
      | exited => exact absurd rfl hq
      | accepted r => exact hp (Or.inr ⟨r, rfl⟩)
      | selecting f => exact hp (Or.inl ⟨f, rfl⟩)
      | _ => exact hear.elim
    rcases hmoved with rfl | ⟨r, rfl⟩ <;> trivial
  · exact ⟨p₀, (List.getElem?_set_ne he).trans hp₀, hear⟩

/-- A call of `shutdown` moves that is not about to signal. -/
theorem Hearing.setShutdown {s : Server} {h k : Nat} {c d : ShutdownCall} (hs : Hearing h s)
    (hk : s.shutdowns[k]? = some c) (hc : c.phase ≠ .flagged) :
    Hearing h { s with shutdowns := s.shutdowns.set k d } := by
  obtain ⟨p, hp, hear⟩ := hs
  refine ⟨p, hp, ?_⟩
  cases p with
  | selecting f =>
    refine hear.imp_right fun ⟨hcreated, k', d', hk'⟩ ↦ ⟨hcreated, k', d', ?_⟩
    exact List.getElem?_set_other hk' hk fun he ↦ hc (by rw [he])
  | _ => exact hear

/-- **No step makes the signal miss a handler.** -/
theorem Moves.hearing {s t : Server} {l : Label} (h : Moves services remoteId s l t)
    (hflag : s.isShuttingDown = true) {h₀ : Nat} (hs : Hearing h₀ s) : Hearing h₀ t := by
  cases h with
  | accept =>
    obtain ⟨p, hp, hear⟩ := hs
    exact ⟨p, List.getElem?_concat_of_some hp, hear⟩
  | hookDone hh | select hh | increment hh | spawn hh =>
    exact hs.setHandler hh (by simp) (by simp)
  | signalled hh => exact hs.setHandler hh (by simp) (by simp)
  | stream hh => exact hs.setHandler hh (fun _ ↦ Or.inr ⟨_, rfl⟩) (by simp)
  | loadFlag hh =>
    rw [if_pos hflag]
    exact hs.setHandler hh (by simp) (by simp)
  | notify hk =>
    obtain ⟨p, hp, hear⟩ := hs
    refine ⟨p, hp, ?_⟩
    cases p with
    | selecting f =>
      exact Or.inl (hear.elim Notified.Ready.notifyWaiters fun hc ↦ hc.1.ready_notifyWaiters)
    | _ => exact hear
  | storeFlag hk | wait hk | ret hk => exact hs.setShutdown hk (by simp)
  | shutdown =>
    obtain ⟨p, hp, hear⟩ := hs
    refine ⟨p, hp, ?_⟩
    cases p with
    | selecting f =>
      exact hear.imp_right fun ⟨hc, k, d, hk⟩ ↦ ⟨hc, k, d, List.getElem?_concat_of_some hk⟩
    | _ => exact hear
  | _ => exact hs

/-- A handler that the signal reaches has exited when the server is at rest. -/
theorem exited_of_hearing {s : Server} (hrest : AtRest s) {h : Nat} (hs : Hearing h s) :
    s.handlers[h]? = some .exited := by
  obtain ⟨p, hp, hear⟩ := hs
  rcases hrest.handlers h p hp with rfl | rfl | ⟨f, rfl, hf⟩
  · exact hp
  · exact hear.elim
  · obtain ⟨k, d, hk⟩ := (hear.resolve_left hf).2
    obtain ⟨r, hr⟩ := hrest.shutdowns k _ hk
    cases hr

/-- The flag stays set. -/
theorem Moves.flag {s t : Server} {l : Label} (h : Moves services remoteId s l t)
    (hs : s.isShuttingDown = true) : t.isShuttingDown = true := by
  cases h with
  | storeFlag => rfl
  | _ => exact hs

/-- The handler is suspended in its `select!`, or has left it. -/
def HandlerPhase.Selected : HandlerPhase → Prop
  | .selecting _ | .accepted _ | .exited => True
  | _ => False

/-- Two connections, one with a request in hand, the other one suspended, when `shutdown` is
called. -/
def windingDown : List Label :=
  [.accept, .accept, .hookDone 0, .hookDone 1, .select 0, .select 1, .stream 0 (some ping),
    .loadFlag 0, .increment 0, .spawn 0, .shutdown 5, .storeFlag 0]

/-- The rest of that run: the first connection enters its `select!` after the signal. -/
def windDown : List Label :=
  [.task 0 .read, .notify 0, .task 0 .prepared, .task 0 (.admitted true),
    .task 0 (.returned (.ok ⟨[]⟩)), .wait 0, .task 0 (.sent true), .signalled 1, .select 0,
    .dropGuard 0, .notifyGuard 0, .load 0, .ret 0]

/-- The server when the flag is stored. -/
def windingServer : Server :=
  ((machine (oneResource (.rpc 0)) fun _ ↦ "peer").run windingDown).getD new

/-- The server after the rest of the run. -/
def restingServer : Server :=
  ((machine (oneResource (.rpc 0)) fun _ ↦ "peer").runFrom windingServer windDown).getD new

theorem resting_restingServer :
    Resting (oneResource (.rpc 0)) (fun _ ↦ "peer") restingServer := by
  intro l hl
  cases l with
  | accept | shutdown | stream | hookDone | callback => cases hl
  | task h => cases h <;> rfl
  | select h | signalled h | loadFlag h | increment h | spawn h | dropGuard h
  | notifyGuard h | storeFlag h | notify h | wait h | load h | create h | wake h | timeout h
  | ret h => rcases h with _ | _ | h <;> rfl

end Server

end Zel
