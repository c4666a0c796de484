import Zel.Server
import Zel.Lib.Listeners

/-!
# Handlers that listen for the shutdown

The loop that the documentation of `RequestContext::shutdown_notified` gives: a callback selects
between its own work and `ctx.shutdown_notified()`, and calls `shutdown_notified` anew in each
iteration.  The call creates a `notified()` future of the shutdown signal when it is first polled,
which is when the `select!` suspends.  While the callback works on a tick or a send it holds no
future, and a callback that starts later held none when the signal was given.

The machine runs these loops beside the server: a loop belongs to a callback that runs, in a stream
task for an Rpc or in a task of its own for the other kinds, and a callback returns only when it has
left its loops.

## What is here

* `LoopOwner`, `HandlerLoop` — the loops, and the callbacks that run them.
* `Listening.step`, `Listening.machine` — the server and its handlers' loops.
* `Listening.Woken` — once the signal was given, no handler sleeps in `shutdown_notified()`.
* `Listening.signal_reaches_handlers_iff` — **when the signal reaches every handler**: if and only
  if every future of a loop is created before the signal.
-/

set_option autoImplicit false

namespace Zel

/-- Whose callback runs the loop. -/
inductive LoopOwner where
  /-- The Rpc callback in stream task `i`. -/
  | task (i : Nat)
  /-- The callback in callback task `j`. -/
  | callback (j : Nat)
  deriving DecidableEq

/-- Where a documented loop stands. -/
inductive LoopPhase where
  /-- Outside the `select!`: before the first iteration, or working on a tick or a send. -/
  | working
  /-- Suspended in the `select!`, with this future of the shutdown signal. -/
  | selecting (f : Notified)
  | exited
  deriving DecidableEq

/-- A loop that selects between work and `ctx.shutdown_notified()`. -/
structure HandlerLoop where
  owner : LoopOwner
  phase : LoopPhase
  deriving DecidableEq

/-- A running server and the loops of its handlers. -/
structure Listening where
  server : Server
  loops : List HandlerLoop

namespace Listening

/-- Before the first connection. -/
def new : Listening := ⟨Server.new, []⟩

/-! ## The steps -/

inductive Label where
  /-- A step of the server. -/
  | server (l : Server.Label)
  /-- A running callback starts a loop. -/
  | start (owner : LoopOwner)
  /-- Loop `i` enters its `select!`, which suspends. -/
  | select (i : Nat)
  /-- The other branch of the `select!`: a tick or a value to send. -/
  | work (i : Nat)
  /-- The `shutdown_notified()` branch, which breaks. -/
  | signalled (i : Nat)
  /-- The loop ends for a reason of its own. -/
  | leave (i : Nat)

/-- The owner's callback runs. -/
def running (s : Server) : LoopOwner → Bool
  | .task i =>
    match s.tasks[i]? with
    | some ⟨_, _, .running (.running _)⟩ => true
    | _ => false
  | .callback j =>
    match s.callbacks[j]? with
    | some ⟨_, _, _, .running⟩ => true
    | _ => false

/-- The owner whose callback ends in this step of the server. -/
def endsCallback : Server.Label → Option LoopOwner
  | .task i (.returned _) => some (.task i)
  | .task i .panicked => some (.task i)
  | .callback j .finish => some (.callback j)
  | _ => none

/-- A callback does not end while it is in one of its loops. -/
def LoopsLeft (s : Listening) (l : Server.Label) : Prop :=
  ∀ lp ∈ s.loops, endsCallback l = some lp.owner → lp.phase = .exited

instance (s : Listening) (l : Server.Label) : Decidable (s.LoopsLeft l) :=
  inferInstanceAs (Decidable (∀ lp ∈ s.loops, _))

def setLoop (s : Listening) (i : Nat) (owner : LoopOwner) (p : LoopPhase) : Listening :=
  { s with loops := s.loops.set i ⟨owner, p⟩ }

variable (services : ServiceMap) (remoteId : Nat → String)

/-- One atomic step. -/
def step (s : Listening) : Label → Option Listening
  | .server l =>
    if s.LoopsLeft l then
      (s.server.step services remoteId l).map fun t ↦ { s with server := t }
    else none
  | .start owner =>
    if running s.server owner then some { s with loops := s.loops ++ [⟨owner, .working⟩] } else none
  | .select i =>
    match s.loops[i]? with
    | some ⟨owner, .working⟩ =>
      some (s.setLoop i owner (.selecting s.server.shutdownSignal.notified))
    | _ => none
  | .work i =>
    match s.loops[i]? with
    | some ⟨owner, .selecting _⟩ => some (s.setLoop i owner .working)
    | _ => none
  | .signalled i =>
    match s.loops[i]? with
    | some ⟨owner, .selecting f⟩ =>
      if f.Ready s.server.shutdownSignal then some (s.setLoop i owner .exited) else none
    | _ => none
  | .leave i =>
    match s.loops[i]? with
    | some ⟨owner, .working⟩ => some (s.setLoop i owner .exited)
    | _ => none

/-- All interleavings of a server and the loops of its handlers. -/
def machine : Machine Listening Label := ⟨new, step services remoteId⟩

/-! ## What a step does -/

/-- The steps, one constructor for each way a label can move the loops. -/
inductive Moves (s : Listening) : Label → Listening → Prop
  | server {l : Server.Label} {t : Server} (hleft : s.LoopsLeft l)
      (ht : s.server.step services remoteId l = some t) :
      Moves s (.server l) { s with server := t }
  | start {owner : LoopOwner} (hrun : running s.server owner = true) :
      Moves s (.start owner) { s with loops := s.loops ++ [⟨owner, .working⟩] }
  | select {i : Nat} {owner : LoopOwner} (hi : s.loops[i]? = some ⟨owner, .working⟩) :
      Moves s (.select i) (s.setLoop i owner (.selecting s.server.shutdownSignal.notified))
  | work {i : Nat} {owner : LoopOwner} {f : Notified}
      (hi : s.loops[i]? = some ⟨owner, .selecting f⟩) :
      Moves s (.work i) (s.setLoop i owner .working)
  | signalled {i : Nat} {owner : LoopOwner} {f : Notified}
      (hi : s.loops[i]? = some ⟨owner, .selecting f⟩) (hf : f.Ready s.server.shutdownSignal) :
      Moves s (.signalled i) (s.setLoop i owner .exited)
  | leave {i : Nat} {owner : LoopOwner} (hi : s.loops[i]? = some ⟨owner, .working⟩) :
      Moves s (.leave i) (s.setLoop i owner .exited)

variable {services remoteId}

theorem moves_of_step {s t : Listening} {l : Label} (h : s.step services remoteId l = some t) :
    Moves services remoteId s l t := by
  cases l with
  | server l =>
    simp only [step] at h
    split at h
    · rename_i hleft
      obtain ⟨u, hu, rfl⟩ := Option.map_eq_some_iff.mp h
      exact .server hleft hu
    · cases h
  | start owner =>
    simp only [step] at h
    split at h
    · rename_i hrun; cases h; exact .start hrun
    · cases h
  | select i =>
    simp only [step] at h
    split at h
    · rename_i owner hi; cases h; exact .select hi
    · cases h
  | work i =>
    simp only [step] at h
    split at h
    · rename_i owner f hi; cases h; exact .work hi
    · cases h
  | signalled i =>
    simp only [step] at h
    split at h
    · rename_i owner f hi
      split at h
      · rename_i hf; cases h; exact .signalled hi hf
      · cases h
    · cases h
  | leave i =>
    simp only [step] at h
    split at h
    · rename_i owner hi; cases h; exact .leave hi
    · cases h

/-! ## The loops as listeners -/

variable (services remoteId)

/-- The documented loops, suspended in their `select!`. -/
def handlerLoops : Listeners (machine services remoteId) where
  signal s := s.server.shutdownSignal
  asleep s f := ∃ (i : Nat) (owner : LoopOwner), s.loops[i]? = some ⟨owner, .selecting f⟩
  creates _ l := ∃ i : Nat, l = .select i
  signal_step s l t h := by
    cases moves_of_step h with
    | server _ ht =>
      cases Server.moves_of_step ht with
      | notify => exact Or.inr rfl
      | _ => exact Or.inl rfl
    | _ => exact Or.inl rfl
  asleep_step s l t h f hf := by
    obtain ⟨i, owner, hi⟩ := hf
    cases moves_of_step h with
    | server => exact Or.inl ⟨i, owner, hi⟩
    | start =>
      rcases List.getElem?_concat_cases hi with ⟨-, hp⟩ | hi
      · cases hp
      · exact Or.inl ⟨i, owner, hi⟩
    | select =>
      rcases List.getElem?_set_cases hi with ⟨-, hp⟩ | ⟨-, hi⟩
      · cases hp
        exact Or.inr ⟨⟨_, rfl⟩, rfl⟩
      · exact Or.inl ⟨i, owner, hi⟩
    | work | signalled | leave =>
      rcases List.getElem?_set_cases hi with ⟨-, hp⟩ | ⟨-, hi⟩
      · cases hp
      · exact Or.inl ⟨i, owner, hi⟩
  creates_step s l t h hl := by
    obtain ⟨i, rfl⟩ := hl
    have hm : Moves services remoteId s (.select i) t := moves_of_step h
    cases hm with
    | @select _ owner hi => exact ⟨rfl, i, owner, List.getElem?_set_of_some hi⟩

variable {services remoteId}

/-! ## When the signal reaches every handler -/

/-- After `notify_waiters` every handler that is suspended in `shutdown_notified()` has been
woken. -/
def Woken (s : Listening) : Prop :=
  0 < s.server.shutdownSignal.calls →
    ∀ (i : Nat) (owner : LoopOwner) (f : Notified), s.loops[i]? = some ⟨owner, .selecting f⟩ →
      f.Ready s.server.shutdownSignal

/-- A loop enters its `select!` only before the signal. -/
def SelectsInTime (s : Listening) : Label → Prop
  | .select _ => s.server.shutdownSignal.calls = 0
  | _ => True

theorem heard_iff_woken {s : Listening} : (handlerLoops services remoteId).Heard s ↔ s.Woken := by
  constructor
  · intro h hcalls i owner f hi
    exact h hcalls f ⟨i, owner, hi⟩
  · rintro h hcalls f ⟨i, owner, hi⟩
    exact h hcalls i owner f hi

theorem createsInTime_iff {s : Listening} {l : Label} :
    (handlerLoops services remoteId).CreatesInTime s l ↔ SelectsInTime s l := by
  cases l <;> simp [SelectsInTime, Listeners.CreatesInTime, handlerLoops]

/-- **When the shutdown signal reaches every handler.**  In a run of any number of documented loops
no handler sleeps in `shutdown_notified()` after the signal was given, if and only if every
`select!` of a loop is entered before. -/
theorem signal_reaches_handlers_iff (services : ServiceMap) (remoteId : Nat → String)
    (ls : List Label) :
    (machine services remoteId).Along Woken new ls ↔
      (machine services remoteId).Meets SelectsInTime new ls := by
  have h := (handlerLoops services remoteId).heard_iff (s := new)
    (by simp [handlerLoops, new]) ls
  rw [Machine.meets_congr fun _ _ ↦ createsInTime_iff] at h
  rw [← h]
  exact Machine.along_congr (I := fun _ ↦ True) (fun _ _ _ _ _ ↦ trivial)
    (fun _ _ ↦ heard_iff_woken.symm) trivial ls

/-- A subscription's callback works on a tick while a `shutdown` gives its signal, and then enters
its `select!` again. -/
def busyRun : List Label :=
  (([.accept, .hookDone 0, .select 0, .stream 0 (some ping), .loadFlag 0, .increment 0, .spawn 0,
    .task 0 .read, .task 0 (.opened true), .task 0 (.labelled (.ok ())), .task 0 (.sent true),
    .task 0 .spawn, .callback 0 .start] : List Server.Label).map Label.server) ++
  [.start (.callback 0), .select 0, .work 0, .server (.shutdown 5), .server (.storeFlag 0),
    .server (.notify 0), .select 0]

/-- **A handler can sleep through the shutdown it listens for.** -/
theorem signal_misses_busy_handler :
    ¬ (machine (oneResource (.subscriptionProducer 0)) fun _ ↦ "peer").Along Woken new busyRun := by
  intro h
  exact absurd (h.last (rfl : _ = some _) Nat.one_pos 0 (.callback 0) ⟨1⟩ rfl) (by decide)

end Listening

end Zel
