import Zel.GracefulShutdown
import Zel.Lib.Handles

/-!
# Responses and the last handle of a connection

A connection is kept open by its handles: the one of its accept loop, the one and the two streams
of every stream task, those of every callback task, and the clones that the application keeps.
`shutdown` makes the accept loops drop theirs first.  The stream tasks drop theirs when
`handle_stream` returns, which for an Rpc is right after the response is written, and before the
task guard is dropped.  The task of a callback hands the context and the streams to the callback,
which may drop them long before it ends.  The one that is last closes the connection, and a response
that the peer has not acknowledged by then may be discarded.

The machine adds to the server what it does not show: the moments at which a stream task and a
callback drop their handles, the clones that hooks, middleware and callbacks take and give up, and
the delivery of a response, which needs an open connection.

## What is here

* `Handle`, `Delivery.holds` — who keeps a connection open.
* `Delivery.step`, `Delivery.machine` — the server with its connections.
* `Delivery.NothingLost` — a response that was written before a `shutdown` returned `Ok(())` is
  delivered, or its connection is open.
* `Delivery.responses_survive_iff` — **when the responses survive a shutdown**: if and only if no
  connection loses its last handle while such a response is under way.
-/

set_option autoImplicit false

namespace Zel

/-- The handler of the connection that a stream task belongs to. -/
def Server.connectionOf (s : Server) (i : Nat) : Option Nat := s.tasks[i]?.map StreamTask.handler

/-- Who holds handles of a connection. -/
inductive Handle where
  | acceptLoop
  /-- Stream task `i`: its clone of the connection, and its two streams. -/
  | task (i : Nat)
  /-- Callback task `j`: its context, and the streams of its own. -/
  | callback (j : Nat)
  /-- Clone `k` of the application. -/
  | application (k : Nat)
  deriving DecidableEq

/-- A server and the fate of its Rpc responses. -/
structure Delivery where
  server : Server
  /-- The stream tasks that have dropped their handles. -/
  released : List Nat
  /-- The callback tasks whose callbacks have dropped what they were given. -/
  abandoned : List Nat
  /-- The clones that the application has ever taken, with the handlers of their connections, and
  whether it still has them. -/
  clones : List (Nat × Bool)
  /-- The tasks whose Rpc response was written before a `shutdown` returned `Ok(())`. -/
  written : List Nat
  /-- The tasks whose response has reached the client. -/
  delivered : List Nat

namespace Delivery

/-- Before the first connection. -/
def new : Delivery := ⟨Server.new, [], [], [], [], []⟩

inductive Label where
  /-- A step of the server. -/
  | server (l : Server.Label)
  /-- `handle_stream` of task `i` has returned and drops the connection and its streams. -/
  | release (i : Nat)
  /-- The callback of task `j` drops its context and its streams. -/
  | abandon (j : Nat)
  /-- The application clones the connection of handler `h`. -/
  | clone (h : Nat)
  /-- The application drops its clone `k`. -/
  | forget (k : Nat)
  /-- The response of task `i` reaches the client. -/
  | deliver (i : Nat)

/-- This holder has a handle of the connection of handler `h`. -/
def holds (s : Delivery) (h : Nat) : Handle → Bool
  | .acceptLoop =>
    match s.server.handlers[h]? with
    | some p => p != .exited
    | none => false
  | .task i => s.server.connectionOf i == some h && !s.released.contains i
  | .callback j =>
    match s.server.callbacks[j]? with
    | some c => c.handler == h && c.phase != .finished && !s.abandoned.contains j
    | none => false
  | .application k => s.clones[k]? == some (h, true)

/-- All possible holders. -/
def holders (s : Delivery) : List Handle :=
  .acceptLoop :: (List.range s.server.tasks.length).map .task ++
    (List.range s.server.callbacks.length).map .callback ++
    (List.range s.clones.length).map .application

/-- The connection of handler `h` is open. -/
def isOpen (s : Delivery) (h : Nat) : Bool := s.holders.any (s.holds h)

/-- The server's step writes the response of an Rpc. -/
def writesResponse (services : ServiceMap) (s : Server) : Server.Label → Option Nat
  | .task i (.sent true) =>
    match s.tasks[i]? with
    | some ⟨_, request, .running (.responding _)⟩ =>
      match route services request with
      | .ok (.rpc _) => some i
      | _ => none
    | _ => none
  | _ => none

instance (s : Server) : Decidable s.Succeeded :=
  inferInstanceAs (Decidable (∃ c ∈ s.shutdowns, _))

/-- The responses that a step of the server adds to those written in time. -/
def newlyWritten (services : ServiceMap) (s : Server) (l : Server.Label) : List Nat :=
  if s.Succeeded then [] else (writesResponse services s l).toList

/-- A stream task drops its guard after its handles. -/
def inOrder (s : Delivery) : Server.Label → Bool
  | .dropGuard i => s.released.contains i
  | _ => true

variable (services : ServiceMap) (remoteId : Nat → String)

/-- One atomic step. -/
def step (s : Delivery) : Label → Option Delivery
  | .server l =>
    if s.inOrder l then
      (s.server.step services remoteId l).map fun t ↦
        { s with server := t, written := s.written ++ newlyWritten services s.server l }
    else none
  | .release i =>
    match s.server.tasks[i]? with
    | some ⟨_, _, .running .done⟩ =>
      if s.released.contains i then none else some { s with released := s.released ++ [i] }
    | _ => none
  | .abandon j =>
    match s.server.callbacks[j]? with
    | some ⟨_, _, _, .running⟩ =>
      if s.abandoned.contains j then none else some { s with abandoned := s.abandoned ++ [j] }
    | _ => none
  | .clone h => if s.isOpen h then some { s with clones := s.clones ++ [(h, true)] } else none
  | .forget k =>
    match s.clones[k]? with
    | some (h, true) => some { s with clones := s.clones.set k (h, false) }
    | _ => none
  | .deliver i =>
    match s.server.connectionOf i with
    | some h =>
      if s.written.contains i && s.isOpen h then some { s with delivered := s.delivered ++ [i] }
      else none
    | none => none

/-- All interleavings of a server, the drops of its tasks, the application and the network. -/
def machine : Machine Delivery Label := ⟨new, step services remoteId⟩

/-! ## What a step does -/

/-- The steps, one constructor for each kind. -/
inductive Moves (s : Delivery) : Label → Delivery → Prop
  | server {l : Server.Label} {t : Server} (hord : s.inOrder l = true)
      (ht : s.server.step services remoteId l = some t) :
      Moves s (.server l)
        { s with server := t, written := s.written ++ newlyWritten services s.server l }
  | release {i h : Nat} {request : Request}
      (hi : s.server.tasks[i]? = some ⟨h, request, .running .done⟩) (hnew : i ∉ s.released) :
      Moves s (.release i) { s with released := s.released ++ [i] }
  | abandon {j h : Nat} {k : StreamKind} {cb : CallbackId}
      (hj : s.server.callbacks[j]? = some ⟨h, k, cb, .running⟩) (hnew : j ∉ s.abandoned) :
      Moves s (.abandon j) { s with abandoned := s.abandoned ++ [j] }
  | clone {h : Nat} (hopen : s.isOpen h = true) :
      Moves s (.clone h) { s with clones := s.clones ++ [(h, true)] }
  | forget {k h : Nat} (hk : s.clones[k]? = some (h, true)) :
      Moves s (.forget k) { s with clones := s.clones.set k (h, false) }
  | deliver {i h : Nat} (hi : s.server.connectionOf i = some h) (hw : i ∈ s.written)
      (hopen : s.isOpen h = true) :
      Moves s (.deliver i) { s with delivered := s.delivered ++ [i] }

variable {services remoteId}

theorem moves_of_step {s t : Delivery} {l : Label} (h : s.step services remoteId l = some t) :
    Moves services remoteId s l t := by
  cases l with
  | server l =>
    simp only [step] at h
    split at h
    · rename_i hord
      obtain ⟨u, hu, rfl⟩ := Option.map_eq_some_iff.mp h
      exact .server hord hu
    · cases h
  | release i =>
    simp only [step] at h
    split at h
    · rename_i hd request hi
      split at h
      · cases h
      · rename_i hnew
        cases h
        exact .release hi (by simpa using hnew)
    · cases h
  | abandon j =>
    simp only [step] at h
    split at h
    · rename_i hd k cb hj
      split at h
      · cases h
      · rename_i hnew
        cases h
        exact .abandon hj (by simpa using hnew)
    · cases h
  | clone hd =>
    simp only [step] at h
    split at h
    · rename_i hopen
      cases h
      exact .clone hopen
    · cases h
  | forget k =>
    simp only [step] at h
    split at h
    · rename_i hd hk
      cases h
      exact .forget hk
    · cases h
  | deliver i =>
    simp only [step] at h
    split at h
    · rename_i hd hi
      split at h
      · rename_i hw
        rw [Bool.and_eq_true] at hw
        cases h
        exact .deliver hi (by simpa using hw.1) hw.2
      · cases h
    · cases h

/-! ## Who holds a connection -/

theorem holds_acceptLoop {s : Delivery} {h : Nat} :
    s.holds h .acceptLoop = true ↔ ∃ p, s.server.handlers[h]? = some p ∧ p ≠ .exited := by
  cases hh : s.server.handlers[h]? <;> simp [holds, hh]

theorem holds_task {s : Delivery} {h i : Nat} :
    s.holds h (.task i) = true ↔ s.server.connectionOf i = some h ∧ i ∉ s.released := by
  simp [holds]

theorem holds_callback {s : Delivery} {h j : Nat} :
    s.holds h (.callback j) = true ↔
      ∃ c, s.server.callbacks[j]? = some c ∧ c.handler = h ∧ c.phase ≠ .finished ∧
        j ∉ s.abandoned := by
  cases hj : s.server.callbacks[j]? <;> simp [holds, hj, and_assoc]

theorem holds_application {s : Delivery} {h k : Nat} :
    s.holds h (.application k) = true ↔ s.clones[k]? = some (h, true) := by
  simp [holds]

/-- A connection is open as long as anybody holds it. -/
theorem isOpen_iff {s : Delivery} {h : Nat} :
    s.isOpen h = true ↔ ∃ hd, s.holds h hd = true := by
  rw [isOpen, List.any_eq_true]
  constructor
  · rintro ⟨hd, -, hh⟩
    exact ⟨hd, hh⟩
  · rintro ⟨hd, hh⟩
    refine ⟨hd, ?_, hh⟩
    cases hd with
    | acceptLoop => simp [holders]
    | task i =>
      obtain ⟨t, ht, -⟩ := Option.map_eq_some_iff.mp (holds_task.mp hh).1
      simp [holders, (List.getElem?_eq_some_iff.mp ht).1]
    | callback j =>
      obtain ⟨c, hc, -⟩ := holds_callback.mp hh
      simp [holders, (List.getElem?_eq_some_iff.mp hc).1]
    | application k =>
      have hk := holds_application.mp hh
      simp [holders, (List.getElem?_eq_some_iff.mp hk).1]

/-- The handle that a step of the server drops unless it was dropped before, and the handler of its
connection. -/
def serverDrops (s : Server) : Server.Label → Option (Nat × Handle)
  | .signalled h => some (h, .acceptLoop)
  | .loadFlag h =>
    if s.isShuttingDown || s.handlers[h]? == some (.accepted none) then some (h, .acceptLoop)
    else none
  | .callback j .finish => s.callbacks[j]?.map fun c ↦ (c.handler, .callback j)
  | _ => none

/-- The handle that a step drops. -/
def drops (s : Delivery) : Label → Option (Nat × Handle)
  | .server l => (serverDrops s.server l).filter fun d ↦ s.holds d.1 d.2
  | .release i => (s.server.connectionOf i).map fun h ↦ (h, .task i)
  | .abandon j => s.server.callbacks[j]?.map fun c ↦ (c.handler, .callback j)
  | .forget k => s.clones[k]?.map fun c ↦ (c.1, .application k)
  | .clone _ | .deliver _ => none

end Delivery

namespace Server

variable {services : ServiceMap} {remoteId : Nat → String}

open Delivery (serverDrops)

/-- A stream task stays on its connection. -/
theorem Moves.connectionOf {s t : Server} {l : Label} (hm : Moves services remoteId s l t)
    {i h : Nat} (hi : s.connectionOf i = some h) : t.connectionOf i = some h := by
  obtain ⟨u, hu, rfl⟩ := Option.map_eq_some_iff.mp hi
  have keep : ∀ (i' : Nat) (v : StreamTask) (p : TaskPhase), s.tasks[i']? = some v →
      (s.setTask i' v p).connectionOf i = some u.handler := by
    intro i' v p hv
    by_cases he : i' = i
    · subst he
      rw [hu, Option.some_inj] at hv
      subst hv
      exact Option.map_eq_some_iff.mpr ⟨_, List.getElem?_set_of_some hu, rfl⟩
    · exact Option.map_eq_some_iff.mpr ⟨u, (List.getElem?_set_ne he).trans hu, rfl⟩
  cases hm with
  | increment => exact Option.map_eq_some_iff.mpr ⟨u, List.getElem?_concat_of_some hu, rfl⟩
  | spawn _ hv => exact keep _ _ (.running .reading) hv
  | @task i' h' request p p' ev eff hv => exact keep i' _ (.running p') hv
  | dropGuard hv => exact keep _ _ .ended hv
  | _ => exact hi

/-- An accept loop keeps its handle until it exits. -/
theorem Moves.acceptLoop {s t : Server} {l : Label} (hm : Moves services remoteId s l t) {h : Nat}
    {p : HandlerPhase} (hh : s.handlers[h]? = some p) (hp : p ≠ .exited) :
    (∃ q, t.handlers[h]? = some q ∧ q ≠ .exited) ∨ serverDrops s l = some (h, .acceptLoop) := by
  cases hm with
  | accept => exact Or.inl ⟨p, List.getElem?_concat_of_some hh, hp⟩
  | @signalled h' f hh' hf =>
    by_cases he : h' = h
    · exact Or.inr (by rw [he]; rfl)
    · exact Or.inl ⟨p, (List.getElem?_set_ne he).trans hh, hp⟩
  | @loadFlag h' stream hh' =>
    by_cases he : h' = h
    · subst he
      cases stream <;> cases hflag : s.isShuttingDown
      · exact Or.inr (by simp [serverDrops, hh'])
      · exact Or.inr (by simp [serverDrops, hflag])
      · exact Or.inl ⟨_, List.getElem?_set_of_some hh', by simp⟩
      · exact Or.inr (by simp [serverDrops, hflag])
    · exact Or.inl ⟨p, (List.getElem?_set_ne he).trans hh, hp⟩
  | hookDone | select | stream | increment | spawn =>
    exact Or.inl (List.exists_getElem?_set (P := (· ≠ HandlerPhase.exited)) hh hp (by simp))
  | _ => exact Or.inl ⟨p, hh, hp⟩

/-- A callback task keeps its handle until it is over. -/
theorem Moves.callbackHandle {s t : Server} {l : Label} (hm : Moves services remoteId s l t)
    {j : Nat} {c : CallbackTask} (hj : s.callbacks[j]? = some c) (hc : c.phase ≠ .finished) :
    (∃ d, t.callbacks[j]? = some d ∧ d.handler = c.handler ∧ d.phase ≠ .finished) ∨
      serverDrops s l = some (c.handler, .callback j) := by
  cases hm with
  | @task i h request p p' ev eff =>
    refine Or.inl ⟨c, ?_, rfl, hc⟩
    show (s.callbacks ++ _)[j]? = some c
    rw [List.getElem?_append_left (List.getElem?_eq_some_iff.mp hj).1, hj]
  | @callback j' c' ev p hj' hp =>
    by_cases he : j' = j
    · subst he
      rw [hj, Option.some_inj] at hj'
      subst hj'
      rcases CallbackPhase.step_eq_some hp with ⟨-, rfl, rfl⟩ | ⟨-, rfl, rfl⟩
      · exact Or.inl ⟨_, List.getElem?_set_of_some hj, rfl, nofun⟩
      · exact Or.inr (by simp [serverDrops, hj])
    · exact Or.inl ⟨c, (List.getElem?_set_ne he).trans hj, rfl, hc⟩
  | _ => exact Or.inl ⟨c, hj, rfl, hc⟩

/-- Who drops a handle in a step holds it no more, and nobody else takes one. -/
theorem Moves.drop {s t : Server} {l : Label} (hm : Moves services remoteId s l t) {h : Nat}
    {hd : Handle} (hdrop : serverDrops s l = some (h, hd)) :
    t.tasks = s.tasks ∧
      (hd = .acceptLoop ∧ t.handlers[h]? = some .exited ∧ t.callbacks = s.callbacks ∨
      ∃ j c, hd = .callback j ∧ s.callbacks[j]? = some c ∧ t.handlers = s.handlers ∧
        t.callbacks = s.callbacks.set j { c with phase := .finished }) := by
  cases hm with
  | signalled hh =>
    cases hdrop
    exact ⟨rfl, Or.inl ⟨rfl, List.getElem?_set_of_some hh, rfl⟩⟩
  | @loadFlag h' stream hh =>
    simp only [serverDrops] at hdrop
    split at hdrop
    · rename_i hexit
      cases hdrop
      refine ⟨rfl, Or.inl ⟨rfl, ?_, rfl⟩⟩
      rw [Bool.or_eq_true, hh, beq_iff_eq, Option.some_inj] at hexit
      refine (List.getElem?_set_of_some hh).trans (congrArg some ?_)
      rcases hexit with hflag | hstream
      · rw [if_pos hflag]
      · cases hstream
        exact ite_self _
    · cases hdrop
  | @callback j c ev p hj hp =>
    rcases CallbackPhase.step_eq_some hp with ⟨-, rfl, rfl⟩ | ⟨-, rfl, rfl⟩
    · cases hdrop
    · rw [serverDrops, hj] at hdrop
      cases hdrop
      exact ⟨rfl, Or.inr ⟨j, c, rfl, hj, rfl, rfl⟩⟩
  | _ => cases hdrop

/-- Task `i` has returned from `handle_stream`. -/
def Returned (s : Server) (i : Nat) : Prop :=
  ∃ h request p, s.tasks[i]? = some ⟨h, request, p⟩ ∧ (p = .running .done ∨ p = .ended)

/-- A task that has returned is not pending, so nobody spawns it, and it does not run again. -/
theorem Moves.returned {s t : Server} {l : Label} (hm : Moves services remoteId s l t)
    (hs : Inv s) {i : Nat} (hi : s.Returned i) : t.Returned i := by
  obtain ⟨h, request, p, hi, hp⟩ := hi
  have keep : ∀ (i' : Nat) (u v : StreamTask), s.tasks[i']? = some u → u.phase ≠ p →
      ∃ h request p, (s.tasks.set i' v)[i]? = some ⟨h, request, p⟩ ∧
        (p = .running .done ∨ p = .ended) := by
    intro i' u v hu hne
    have hphase : u ≠ ⟨h, request, p⟩ := fun he ↦ hne (he ▸ rfl)
    exact ⟨h, request, p, List.getElem?_set_other hi hu hphase, hp⟩
  cases hm with
  | increment => exact ⟨h, request, p, List.getElem?_concat_of_some hi, hp⟩
  | @spawn h' i' t hh hi' =>
    obtain ⟨request', hpend⟩ := hs.counted h' i' hh
    rw [hi', Option.some_inj] at hpend
    refine keep i' t _ hi' ?_
    rw [hpend]
    rcases hp with rfl | rfl <;> simp
  | @task i' h' request' q q' ev eff hi' hq =>
    refine keep i' _ _ hi' ?_
    rcases hp with rfl | rfl
    · cases hq <;> simp
    · simp
  | @dropGuard i' h' request' u hi' =>
    by_cases he : i' = i
    · subst he
      exact ⟨h', request', .ended, List.getElem?_set_of_some hi', Or.inr rfl⟩
    · exact ⟨h, request, p, (List.getElem?_set_ne he).trans hi, hp⟩
  | _ => exact ⟨h, request, p, hi, hp⟩

end Server

namespace Delivery

variable {services : ServiceMap} {remoteId : Nat → String}

/-! ## The invariant -/

/-- The response of task `i`, on the connection of handler `h`, is written and under way. -/
def UnderWay (s : Delivery) (h : Nat) : Prop :=
  ∃ i ∈ s.written, i ∉ s.delivered ∧ s.server.connectionOf i = some h

/-- What holds in every state. -/
structure Inv (s : Delivery) : Prop where
  server : Server.Inv s.server
  /-- A task drops its handles when it has returned from `handle_stream`. -/
  returned : ∀ i ∈ s.released, s.server.Returned i
  /-- A response belongs to a task. -/
  writer : ∀ i ∈ s.written, ∃ h, s.server.connectionOf i = some h

theorem inv_new : Inv new where
  server := Server.inv_new
  returned i hi := by cases hi
  writer i hi := by cases hi

/-- The writer of a response is in the middle of `handle_stream`. -/
theorem mem_newlyWritten {s : Server} {l : Server.Label} {i : Nat}
    (hi : i ∈ newlyWritten services s l) :
    ∃ h request r, s.tasks[i]? = some ⟨h, request, .running (.responding r)⟩ := by
  unfold newlyWritten at hi
  split at hi
  · cases hi
  · rw [Option.mem_toList] at hi
    unfold writesResponse at hi
    split at hi
    · split at hi
      · rename_i h request r hi'
        split at hi
        · cases hi
          exact ⟨h, request, r, hi'⟩
        · cases hi
      · cases hi
    · cases hi

theorem Moves.inv {s t : Delivery} {l : Label} (hm : Moves services remoteId s l t)
    (hs : Inv s) : Inv t := by
  cases hm with
  | server _ ht =>
    have hmove := Server.moves_of_step ht
    refine ⟨hmove.inv hs.server, fun i hi ↦ hmove.returned hs.server (hs.returned i hi),
      fun i hi ↦ ?_⟩
    rcases List.mem_append.mp hi with hi | hi
    · obtain ⟨h, hh⟩ := hs.writer i hi
      exact ⟨h, hmove.connectionOf hh⟩
    · obtain ⟨h, request, r, hi'⟩ := mem_newlyWritten hi
      exact ⟨h, hmove.connectionOf (Option.map_eq_some_iff.mpr ⟨_, hi', rfl⟩)⟩
  | @release i h request hi =>
    refine ⟨hs.server, fun j hj ↦ ?_, hs.writer⟩
    rcases List.mem_append.mp hj with hj | hj
    · exact hs.returned j hj
    · rw [List.mem_singleton.mp hj]
      exact ⟨h, request, _, hi, Or.inl rfl⟩
  | abandon | clone | forget | deliver => exact ⟨hs.server, hs.returned, hs.writer⟩

/-- A response is written while its task holds the connection. -/
theorem Inv.holds_of_written {s : Delivery} (hs : Inv s) {l : Server.Label} {i : Nat}
    (hi : i ∈ newlyWritten services s.server l) : i ∉ s.released := by
  intro hrel
  obtain ⟨h, request, r, hi⟩ := mem_newlyWritten hi
  obtain ⟨h', request', p, hi', hp⟩ := hs.returned i hrel
  rw [hi, Option.some_inj] at hi'
  cases hi'
  rcases hp with hp | hp <;> cases hp

/-! ## The connections as resources -/

/-- A handle is kept until it is dropped. -/
theorem Moves.kept {s t : Delivery} {l : Label} (hm : Moves services remoteId s l t) {h : Nat}
    {hd : Handle} (hh : s.holds h hd = true) : t.holds h hd = true ∨ s.drops l = some (h, hd) := by
  cases hm with
  | @server l _ _ ht =>
    have hmove := Server.moves_of_step ht
    have hdrop (h' : serverDrops s.server l = some (h, hd)) :
        s.drops (.server l) = some (h, hd) := by
      rw [drops, h', Option.filter_some, if_pos hh]
    cases hd with
    | acceptLoop =>
      obtain ⟨p, hp, hne⟩ := holds_acceptLoop.mp hh
      exact (hmove.acceptLoop hp hne).imp holds_acceptLoop.mpr hdrop
    | task i =>
      obtain ⟨hi, hrel⟩ := holds_task.mp hh
      exact Or.inl (holds_task.mpr ⟨hmove.connectionOf hi, hrel⟩)
    | callback j =>
      obtain ⟨c, hc, rfl, hne, hab⟩ := holds_callback.mp hh
      refine (hmove.callbackHandle hc hne).imp (fun ⟨d, hd, hdh, hdne⟩ ↦ ?_) hdrop
      exact holds_callback.mpr ⟨d, hd, hdh, hdne, hab⟩
    | application k => exact Or.inl (holds_application.mpr (holds_application.mp hh))
  | @release i =>
    cases hd with
    | task j =>
      obtain ⟨hj, hrel⟩ := holds_task.mp hh
      by_cases he : j = i
      · subst he
        exact Or.inr (by simp [drops, hj])
      · exact Or.inl (holds_task.mpr ⟨hj, by simp [hrel, he]⟩)
    | _ => exact Or.inl hh
  | @abandon j =>
    cases hd with
    | callback j' =>
      obtain ⟨c, hc, hch, hne, hab⟩ := holds_callback.mp hh
      by_cases he : j' = j
      · subst he
        exact Or.inr (by simp [drops, hc, hch])
      · exact Or.inl (holds_callback.mpr ⟨c, hc, hch, hne, by simp [hab, he]⟩)
    | _ => exact Or.inl hh
  | clone =>
    cases hd with
    | application k =>
      exact Or.inl (holds_application.mpr (List.getElem?_concat_of_some (holds_application.mp hh)))
    | _ => exact Or.inl hh
  | @forget k h' hk =>
    cases hd with
    | application k' =>
      by_cases he : k' = k
      · subst he
        exact Or.inr (by simp [drops, holds_application.mp hh])
      · refine Or.inl (holds_application.mpr ?_)
        exact (List.getElem?_set_ne (Ne.symm he)).trans (holds_application.mp hh)
    | _ => exact Or.inl hh
  | deliver => exact Or.inl (by cases hd <;> exact hh)

/-- A drop of the server takes one handle away and gives none. -/
theorem serverDropped {s : Delivery} {l : Server.Label} {t : Server} {written : List Nat}
    (ht : s.server.step services remoteId l = some t) {h : Nat} {hd : Handle}
    (hdrop : serverDrops s.server l = some (h, hd)) {hd' : Handle}
    (hh : holds { s with server := t, written := written } h hd' = true) :
    hd' ≠ hd ∧ s.holds h hd' = true := by
  obtain ⟨htasks, ⟨rfl, hexit, hcb⟩ | ⟨j, c, rfl, hj, hhandlers, hcb⟩⟩ :=
    (Server.moves_of_step ht).drop hdrop
  · cases hd' with
    | acceptLoop =>
      obtain ⟨p, hp, hne⟩ := holds_acceptLoop.mp hh
      rw [hexit, Option.some_inj] at hp
      exact absurd hp.symm hne
    | task i =>
      rw [holds_task, Server.connectionOf, htasks] at hh
      exact ⟨by simp, holds_task.mpr hh⟩
    | callback j =>
      rw [holds_callback, hcb] at hh
      exact ⟨by simp, holds_callback.mpr hh⟩
    | application k => exact ⟨by simp, holds_application.mpr (holds_application.mp hh)⟩
  · cases hd' with
    | acceptLoop =>
      rw [holds_acceptLoop, hhandlers] at hh
      exact ⟨by simp, holds_acceptLoop.mpr hh⟩
    | task i =>
      rw [holds_task, Server.connectionOf, htasks] at hh
      exact ⟨by simp, holds_task.mpr hh⟩
    | callback j' =>
      obtain ⟨c', hc', heq, hne, hab⟩ := holds_callback.mp hh
      rw [hcb] at hc'
      rcases List.getElem?_set_cases hc' with ⟨-, rfl⟩ | ⟨hjj, hc'⟩
      · exact absurd rfl hne
      · exact ⟨by simpa using hjj, holds_callback.mpr ⟨c', hc', heq, hne, hab⟩⟩
    | application k => exact ⟨by simp, holds_application.mpr (holds_application.mp hh)⟩

/-- A drop takes one handle away and gives none. -/
theorem Moves.dropped {s t : Delivery} {l : Label} (hm : Moves services remoteId s l t) {h : Nat}
    {hd : Handle} (hdrop : s.drops l = some (h, hd)) {hd' : Handle}
    (hh : t.holds h hd' = true) : hd' ≠ hd ∧ s.holds h hd' = true := by
  cases hm with
  | server _ ht => exact serverDropped ht (Option.filter_eq_some_iff.mp hdrop).1 hh
  | @release i =>
    obtain ⟨h', hi, he⟩ := Option.map_eq_some_iff.mp hdrop
    cases he
    cases hd' with
    | task j =>
      obtain ⟨hj, hrel⟩ := holds_task.mp hh
      rw [List.mem_append, List.mem_singleton, not_or] at hrel
      exact ⟨by simpa using hrel.2, holds_task.mpr ⟨hj, hrel.1⟩⟩
    | _ => exact ⟨by simp, hh⟩
  | @abandon j =>
    obtain ⟨c, hc, he⟩ := Option.map_eq_some_iff.mp hdrop
    cases he
    cases hd' with
    | callback j' =>
      obtain ⟨c', hc', hch, hne, hab⟩ := holds_callback.mp hh
      rw [List.mem_append, List.mem_singleton, not_or] at hab
      exact ⟨by simpa using hab.2, holds_callback.mpr ⟨c', hc', hch, hne, hab.1⟩⟩
    | _ => exact ⟨by simp, hh⟩
  | @forget k h' hk =>
    obtain ⟨c, hc, he⟩ := Option.map_eq_some_iff.mp hdrop
    cases he
    cases hd' with
    | application k' =>
      rcases List.getElem?_set_cases (holds_application.mp hh) with ⟨-, he⟩ | ⟨hne, hk'⟩
      · cases he
      · exact ⟨by simpa using hne, holds_application.mpr hk'⟩
    | _ => exact ⟨by simp, hh⟩
  | clone | deliver => cases hdrop

/-- A drop delivers nothing. -/
theorem Moves.underWay_of_drop {s t : Delivery} {l : Label} (hm : Moves services remoteId s l t)
    {h : Nat} {hd : Handle} (hdrop : s.drops l = some (h, hd)) {h' : Nat} (hu : s.UnderWay h') :
    t.UnderWay h' := by
  obtain ⟨i, hw, hnd, hi⟩ := hu
  cases hm with
  | server _ ht =>
    exact ⟨i, List.mem_append_left _ hw, hnd, (Server.moves_of_step ht).connectionOf hi⟩
  | release | abandon | forget => exact ⟨i, hw, hnd, hi⟩
  | clone | deliver => cases hdrop

/-- A response comes under way on a connection that its task holds. -/
theorem Moves.underWay {s t : Delivery} {l : Label} (hm : Moves services remoteId s l t)
    (hs : Inv s) {h : Nat} (hu : t.UnderWay h) :
    s.UnderWay h ∨ ∃ hd, t.holds h hd = true := by
  obtain ⟨i, hw, hnd, hi⟩ := hu
  cases hm with
  | server _ ht =>
    rcases List.mem_append.mp hw with hw | hw
    · obtain ⟨h', hi'⟩ := hs.writer i hw
      have hsame := hi.symm.trans ((Server.moves_of_step ht).connectionOf hi')
      rw [Option.some_inj] at hsame
      exact Or.inl ⟨i, hw, hnd, hsame ▸ hi'⟩
    · exact Or.inr ⟨.task i, holds_task.mpr ⟨hi, hs.holds_of_written hw⟩⟩
  | release | abandon | clone | forget => exact Or.inl ⟨i, hw, hnd, hi⟩
  | deliver => exact Or.inl ⟨i, hw, fun hd ↦ hnd (List.mem_append_left _ hd), hi⟩

variable (services remoteId)

/-- Connections, kept open for the responses under way on them. -/
def connections : Handles (machine services remoteId) Nat Handle where
  Inv := Inv
  Holds s h hd := s.holds h hd = true
  Drops s l h hd := s.drops l = some (h, hd)
  Pending := UnderWay
  inv_step _ _ _ hs ht := (moves_of_step ht).inv hs
  kept _ _ _ _ ht _ _ hh := (moves_of_step ht).kept hh
  dropped _ _ _ _ ht _ _ hdrop _ hh := (moves_of_step ht).dropped hdrop hh
  still_pending _ _ _ _ ht _ _ hdrop hu := (moves_of_step ht).underWay_of_drop hdrop hu
  new_pending _ _ _ hs ht _ hu := (moves_of_step ht).underWay hs hu
  drops_unique s l h hd hd' hdrop hdrop' := by
    rw [hdrop] at hdrop'
    cases hdrop'
    rfl

variable {services remoteId}

/-! ## When the responses survive -/

/-- Every Rpc response that was written before a `shutdown` returned `Ok(())` has been delivered, or
its connection is still open. -/
def NothingLost (s : Delivery) : Prop :=
  ∀ i ∈ s.written, i ∉ s.delivered → ∃ h, s.server.connectionOf i = some h ∧ s.isOpen h = true

/-- The last handle of a connection is dropped only when no response is under way on it. -/
def DropsInTime (s : Delivery) (l : Label) : Prop :=
  ∀ h hd, s.drops l = some (h, hd) → s.UnderWay h → ∃ hd', hd' ≠ hd ∧ s.holds h hd' = true

theorem Inv.safe_iff {s : Delivery} (hs : Inv s) :
    (connections services remoteId).Safe s ↔ s.NothingLost := by
  constructor
  · intro hsafe i hw hnd
    obtain ⟨h, hi⟩ := hs.writer i hw
    exact ⟨h, hi, isOpen_iff.mpr (hsafe h ⟨i, hw, hnd, hi⟩)⟩
  · rintro hlost h ⟨i, hw, hnd, hi⟩
    obtain ⟨h', hi', hopen⟩ := hlost i hw hnd
    rw [hi, Option.some_inj] at hi'
    exact isOpen_iff.mp (hi' ▸ hopen)

/-- **When the responses survive a shutdown.**  In a run no Rpc response that was written before a
`shutdown` returned `Ok(())` is lost, if and only if no connection loses its last handle, be it the
one of its accept loop, of a stream task, of a callback or of the application, while such a response
is under way on it. -/
theorem responses_survive_iff (services : ServiceMap) (remoteId : Nat → String)
    (ls : List Label) :
    (machine services remoteId).Along NothingLost new ls ↔
      (machine services remoteId).Meets DropsInTime new ls := by
  have h := (connections services remoteId).safe_iff inv_new
    (by rintro h ⟨i, hw, -⟩; cases hw) ls
  refine Iff.trans ?_ h
  exact Machine.along_congr (I := Inv) (fun _ _ _ hs ht ↦ (moves_of_step ht).inv hs)
    (fun _ hs ↦ hs.safe_iff.symm) inv_new ls

/-- One Rpc is in flight when a `shutdown` gives its signal.  The accept loop exits; the response is
written, and its task drops the last handle before the response is acknowledged. -/
def lastHandleRun : List Label :=
  (([.accept, .hookDone 0, .select 0, .stream 0 (some ping), .loadFlag 0, .increment 0, .spawn 0,
    .task 0 .read, .task 0 .prepared, .task 0 (.admitted true), .select 0, .shutdown 5,
    .storeFlag 0, .notify 0, .wait 0, .load 0, .load 0, .create 0, .signalled 0,
    .task 0 (.returned (.ok ⟨[]⟩)), .task 0 (.sent true)] : List Server.Label).map Label.server) ++
  [.release 0, .server (.dropGuard 0), .server (.notifyGuard 0), .server (.wake 0),
    .server (.load 0), .server (.ret 0)]

/-- **A `shutdown` can return `Ok(())` after it has lost a response.** -/
theorem response_lost_at_shutdown :
    ∃ s, (machine (oneResource (.rpc 0)) fun _ ↦ "peer").run lastHandleRun = some s ∧
      s.server.Succeeded ∧ ¬ s.NothingLost := by
  refine ⟨_, rfl, ⟨_, List.mem_singleton_self _, rfl⟩, fun h ↦ ?_⟩
  obtain ⟨h', hi, hopen⟩ := h 0 (List.mem_singleton_self 0) (List.not_mem_nil)
  cases hi
  exact absurd hopen (by decide)

end Delivery

end Zel
