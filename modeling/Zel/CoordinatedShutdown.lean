import Zel.Bundle
import Zel.GracefulShutdown

/-!
# Coordinated shutdown

What `IrohBundle::shutdown` and `shutdown_with_handle` have done when they return.  `shutdown`
itself goes through its loop and comes to the router whatever its subscribers do.  Before it,
`shutdown_with_handle` puts a `?` behind the shutdown of the RPC server: when that ends with a
timeout the bundle is dropped on the spot, with its router and the senders of its subscribers.

## What is here

* `Coordinated` — when the call has returned, every subscriber was served and the router was shut
  down.
* `Inv` — the turns of the loop so far, kept by every step that does not drop the bundle.
* `coordinated_iff` — **when a shutdown is coordinated**: if and only if the shutdown of the RPC
  server does not end with a timeout.
* `stuck_task_skips_bundle` — a run in which it does.
* `exists_step_of_inShutdown` — a call of either function is never blocked for good: in every state
  before its return one of its own steps is possible.
-/

set_option autoImplicit false

namespace Zel

/-! ## The shutdown of the RPC server goes on -/

/-- A wait that has not returned has a step. -/
theorem TaskTracker.exists_step_of_waiting {s : TaskTracker} {w : Nat} {p : WaitPhase}
    (hw : s.waiters[w]? = some p) (hp : ∀ r, p ≠ .returned r) :
    ∃ l ∈ [Label.load, .create, .wake, .timeout], (s.step (l w)).isSome = true := by
  cases p with
  | entered => exact ⟨.load, by simp, by simp [step, hw, afterLoad]⟩
  | looping => exact ⟨.load, by simp, by simp [step, hw, afterLoad]⟩
  | registering => exact ⟨.create, by simp, by simp [step, hw]⟩
  | awaiting f =>
    by_cases hf : f.Ready s.completionNotify
    · exact ⟨.wake, by simp, by simp [step, hw, hf]⟩
    · exact ⟨.timeout, by simp, by simp [step, hw, hf]⟩
  | returned r => exact absurd rfl (hp r)

theorem TaskTracker.Moves.waiters_length {s t : TaskTracker} {l : Label} (h : Moves s l t) :
    s.waiters.length ≤ t.waiters.length := by
  cases h <;> simp [setWaiter]

namespace Server

variable {services : ServiceMap} {remoteId : Nat → String}

/-- The call of `shutdown` that a step belongs to. -/
def Label.call : Label → Option Nat
  | .storeFlag k | .notify k | .wait k | .load k | .create k | .wake k | .timeout k | .ret k =>
    some k
  | _ => none

/-- The waiters of the calls are there. -/
def Registered (s : Server) : Prop :=
  ∀ (k w : Nat) (d : Duration), s.shutdowns[k]? = some ⟨d, .waiting w⟩ →
    w < s.taskTracker.waiters.length

theorem Moves.shutdowns_length {s t : Server} {l : Label} (h : Moves services remoteId s l t) :
    s.shutdowns.length ≤ t.shutdowns.length := by
  cases h <;> simp [setHandler, setTask, setShutdown]

theorem Moves.waiters_length {s t : Server} {l : Label} (h : Moves services remoteId s l t) :
    s.taskTracker.waiters.length ≤ t.taskTracker.waiters.length := by
  rcases h.taskTracker with he | ⟨l', hl'⟩
  · rw [he]
  · exact (TaskTracker.moves_of_step hl').waiters_length

theorem Moves.registered {s t : Server} {l : Label} (h : Moves services remoteId s l t)
    (hs : Registered s) : Registered t := by
  intro k w d hk
  have hlen := h.waiters_length
  suffices hsk : s.shutdowns[k]? = some ⟨d, .waiting w⟩ ∨ w < t.taskTracker.waiters.length by
    rcases hsk with hsk | hw
    · exact Nat.lt_of_lt_of_le (hs k w d hsk) hlen
    · exact hw
  cases h with
  | shutdown =>
    rcases List.getElem?_concat_cases hk with ⟨-, hc⟩ | hk
    · cases hc
    · exact Or.inl hk
  | storeFlag | notify | ret =>
    rcases List.getElem?_set_cases hk with ⟨-, hc⟩ | ⟨-, hk⟩
    · cases hc
    · exact Or.inl hk
  | wait _ ht =>
    rcases List.getElem?_set_cases hk with ⟨-, hc⟩ | ⟨-, hk⟩
    · cases hc
      cases ht
      exact Or.inr (by simp)
    · exact Or.inl hk
  | _ => exact Or.inl hk

/-- A step of the wait is a step of its call. -/
theorem isSome_waitStep {s : Server} {k w : Nat} {l : Nat → TaskTracker.Label}
    (hw : s.waiterOf k = some w) : (s.waitStep k l).isSome = (s.taskTracker.step (l w)).isSome := by
  simp [waitStep, trackerStep, hw]

/-- A call of `shutdown` that has not returned has a step of its own. -/
theorem exists_step_of_call {s : Server} (hs : Registered s) {k : Nat} {c : ShutdownCall}
    (hk : s.shutdowns[k]? = some c) (hc : ∀ r, c.phase ≠ .returned r) :
    ∃ l, Label.call l = some k ∧ (s.step services remoteId l).isSome = true := by
  obtain ⟨d, p⟩ := c
  cases p with
  | called => exact ⟨.storeFlag k, rfl, by simp [step, hk]⟩
  | flagged => exact ⟨.notify k, rfl, by simp [step, hk]⟩
  | signalled => exact ⟨.wait k, rfl, by simp [step, hk, trackerStep, TaskTracker.step]⟩
  | waiting w =>
    have hwait : s.waiterOf k = some w := waiterOf_eq_some.mpr ⟨d, hk⟩
    obtain ⟨p, hw⟩ : ∃ p, s.taskTracker.waiters[w]? = some p :=
      ⟨_, List.getElem?_eq_getElem (hs k w d hk)⟩
    by_cases hp : ∃ r, p = .returned r
    · obtain ⟨r, rfl⟩ := hp
      exact ⟨.ret k, rfl, by simp [step, hk, hw]⟩
    · obtain ⟨l, hl, hstep⟩ := TaskTracker.exists_step_of_waiting hw fun r he ↦ hp ⟨r, he⟩
      rw [← isSome_waitStep hwait] at hstep
      simp only [List.mem_cons, List.not_mem_nil, or_false] at hl
      rcases hl with rfl | rfl | rfl | rfl
      · exact ⟨.load k, rfl, hstep⟩
      · exact ⟨.create k, rfl, hstep⟩
      · exact ⟨.wake k, rfl, hstep⟩
      · exact ⟨.timeout k, rfl, hstep⟩
  | returned r => exact absurd rfl (hc r)

end Server

namespace IrohBundle

variable {services : ServiceMap} {remoteId : Nat → String}

/-! ## What one subscriber goes through -/

namespace SubscriberPhase

/-- A replier was sent to the subscriber, or its listener was dropped before. -/
def Served (p : SubscriberPhase) : Prop := p.sent = true ∨ p = .gone

/-- A listener moves when it has its replier, or leaves. -/
theorem served_of_step {p q : SubscriberPhase} {ev : ListenerEvent} (h : p.step ev = some q) :
    q.Served := by
  cases p <;> cases ev <;> cases h
  · exact Or.inr rfl
  all_goals exact Or.inl rfl

theorem Served.ne_abandoned {p : SubscriberPhase} (h : p.Served) : p ≠ .abandoned := by
  rintro rfl
  rcases h with h | h <;> cases h

theorem send_eq_some {p q : SubscriberPhase} (h : p.send = some q) :
    p = .listening ∧ q = .notified := by
  cases p <;> cases h
  exact ⟨rfl, rfl⟩

/-- `send` fails when there is no listener any more, or when it has succeeded before. -/
theorem served_of_send_eq_none {p : SubscriberPhase} (h : p.send = none) (hp : p ≠ .abandoned) :
    p.Served := by
  cases p with
  | listening => cases h
  | gone => exact Or.inr rfl
  | abandoned => exact absurd rfl hp
  | notified | discarded | holding | completed | released => exact Or.inl rfl

end SubscriberPhase

/-! ## When a shutdown is coordinated -/

/-- When the call has returned, every subscriber whose listener was alive at its turn was sent a
replier, and the router was shut down. -/
def Coordinated (s : IrohBundle) : Prop :=
  ∀ r, s.phase = .returned r →
    (∀ p ∈ s.shutdownSubscribers, p.Served) ∧ s.router = .closed

/-- The shutdown of the RPC server, which the step takes the result of, ended with `Ok(())`. -/
def RpcCompletes (s : IrohBundle) : Label → Prop
  | .rpcReturned => ∀ k bundleTimeout, s.phase = .rpc k bundleTimeout →
      ∃ d, s.server.shutdowns[k]? = some ⟨d, .returned (.ok ())⟩
  | _ => True

/-- The number of subscribers, of `n`, whose turn is over. -/
def BundlePhase.turns (n : Nat) : BundlePhase → Nat
  | .building | .idle | .rpc _ _ => 0
  | .notifying _ i => i
  | .joining _ | .closing | .returned _ => n

/-- What holds in every state of a bundle that is not dropped on the way. -/
structure Inv (s : IrohBundle) : Prop where
  /-- Whose turn is over is served. -/
  served : ∀ (j : Nat) (p : SubscriberPhase), s.shutdownSubscribers[j]? = some p →
    j < s.phase.turns s.shutdownSubscribers.length → p.Served
  kept : ∀ (j : Nat) (p : SubscriberPhase), s.shutdownSubscribers[j]? = some p → p ≠ .abandoned
  closed : ∀ r, s.phase = .returned r → s.router = .closed

theorem inv_builder : Inv builder := by
  constructor <;> simp [builder]

/-- The invariant with all its turns over. -/
theorem Inv.coordinated {s : IrohBundle} (hs : Inv s) : s.Coordinated := by
  intro r hr
  refine ⟨fun p hp ↦ ?_, hs.closed r hr⟩
  obtain ⟨j, hj⟩ := List.mem_iff_getElem?.mp hp
  refine hs.served j p hj ?_
  rw [hr]
  exact (List.getElem?_eq_some_iff.mp hj).1

/-- The call moves on, and no turn is given out. -/
theorem Inv.setPhase {s t : IrohBundle} (hs : Inv s)
    (hsubs : t.shutdownSubscribers = s.shutdownSubscribers)
    (hturns : t.phase.turns t.shutdownSubscribers.length ≤
      s.phase.turns s.shutdownSubscribers.length)
    (hclosed : ∀ r, t.phase = .returned r → t.router = .closed) : Inv t where
  served j p hj hlt := hs.served j p (hsubs ▸ hj) (Nat.lt_of_lt_of_le hlt hturns)
  kept j p hj := hs.kept j p (hsubs ▸ hj)
  closed := hclosed

/-- One subscriber is served; the turns of the others are what they were. -/
theorem Inv.setServed {s t : IrohBundle} (hs : Inv s) {i : Nat} {q : SubscriberPhase}
    (hsubs : t.shutdownSubscribers = s.shutdownSubscribers.set i q) (hq : q.Served)
    (hturns : ∀ j, j ≠ i → j < t.phase.turns s.shutdownSubscribers.length →
      j < s.phase.turns s.shutdownSubscribers.length)
    (hclosed : ∀ r, t.phase = .returned r → t.router = .closed) : Inv t where
  served j p hj hlt := by
    rw [hsubs] at hj
    rw [hsubs, List.length_set] at hlt
    rcases List.getElem?_set_cases hj with ⟨-, rfl⟩ | ⟨hne, hj⟩
    · exact hq
    · exact hs.served j p hj (hturns j hne hlt)
  kept j p hj := by
    rw [hsubs] at hj
    rcases List.getElem?_set_cases hj with ⟨-, rfl⟩ | ⟨-, hj⟩
    · exact hq.ne_abandoned
    · exact hs.kept j p hj
  closed := hclosed

theorem Moves.inv {s t : IrohBundle} {l : Label} (h : Moves services remoteId s l t) (hs : Inv s)
    (hc : RpcCompletes s l) : Inv t := by
  cases h with
  | server => exact hs.setPhase rfl (Nat.le_refl _) hs.closed
  | subscribeShutdown hp =>
    refine ⟨fun j p _ hlt ↦ ?_, fun j p hj ↦ ?_, hs.closed⟩
    · simp only [hp, BundlePhase.turns, Nat.not_lt_zero] at hlt
    · rcases List.getElem?_concat_cases hj with ⟨-, rfl⟩ | hj
      · decide
      · exact hs.kept j p hj
  | finish | shutdown | shutdownWithHandle =>
    exact hs.setPhase rfl (Nat.zero_le _) (by simp)
  | listener hi hq =>
    exact hs.setServed rfl (SubscriberPhase.served_of_step hq) (fun _ _ hlt ↦ hlt) hs.closed
  | rpcOk => exact hs.setPhase rfl (Nat.zero_le _) (by simp)
  | rpcFailed hp hk =>
    obtain ⟨d, hok⟩ := hc _ _ hp
    rw [hk] at hok
    cases hok
  | @sent timeoutAfter i p q hp hi hq =>
    obtain ⟨rfl, rfl⟩ := SubscriberPhase.send_eq_some hq
    refine hs.setServed rfl (Or.inl rfl) (fun j hne hlt ↦ ?_) (by simp [notifySubscriber])
    simp only [notifySubscriber, BundlePhase.turns] at hlt
    rw [hp, BundlePhase.turns]
    omega
  | @refused timeoutAfter i p hp hi hq =>
    refine ⟨fun j p' hj hlt ↦ ?_, hs.kept, by simp⟩
    rcases Nat.lt_succ_iff_lt_or_eq.mp hlt with hlt | rfl
    · exact hs.served j p' hj (by rwa [hp, BundlePhase.turns])
    · rw [hi, Option.some_inj] at hj
      subst hj
      exact SubscriberPhase.served_of_send_eq_none hq (hs.kept j p hi)
  | @join timeoutAfter i hp hi =>
    refine hs.setPhase rfl ?_ (by simp)
    rw [hp]
    exact List.getElem?_eq_none_iff.mp hi
  | reply => exact hs.setPhase rfl (Nat.le_refl _) hs.closed
  | joined hp | timeout hp =>
    exact hs.setPhase rfl (by rw [hp]; exact Nat.le_refl _) (by simp)
  | routerReturned hp =>
    exact hs.setPhase rfl (by rw [hp]; exact Nat.le_refl _) fun _ _ ↦ rfl

/-- A step that takes up a timeout of the RPC server drops the bundle. -/
theorem Moves.not_coordinated {s t : IrohBundle} {l : Label} (h : Moves services remoteId s l t)
    (hc : ¬ RpcCompletes s l) : ¬ t.Coordinated := by
  cases h with
  | @rpcOk k d bundleTimeout hp hk =>
    refine absurd (fun k' bundleTimeout' hp' ↦ ?_) hc
    rw [hp] at hp'
    cases hp'
    exact ⟨d, hk⟩
  | rpcFailed hp hk =>
    intro ht
    cases (ht _ rfl).2
  | _ => exact absurd trivial hc

/-- **When a shutdown is coordinated.**  For any number of subscribers, whatever they and the tasks
of the server do, `shutdown` and `shutdown_with_handle` return with every subscriber served and the
router shut down, if and only if the shutdown of the RPC server never ends with a timeout. -/
theorem coordinated_iff (services : ServiceMap) (remoteId : Nat → String) (ls : List Label) :
    (machine services remoteId).Along Coordinated builder ls ↔
      (machine services remoteId).Meets RpcCompletes builder ls :=
  Machine.along_iff_meets (M := machine services remoteId)
    (fun _ _ _ hs hc h ↦ (moves_of_step h).inv hs hc) (fun _ hs ↦ hs.coordinated)
    (fun _ _ _ _ hc h ↦ (moves_of_step h).not_coordinated hc) inv_builder ls

/-- A subscriber listens, a request is being handled, and the shutdown of the RPC server times
out. -/
def stuckRun : List Label :=
  [.subscribeShutdown, .finish] ++
  ([.accept, .hookDone 0, .select 0, .stream 0 (some ping), .loadFlag 0, .increment 0,
    .spawn 0] : List Server.Label).map Label.server ++
  [.shutdownWithHandle 30 10] ++
  ([.storeFlag 0, .notify 0, .wait 0, .load 0, .load 0, .create 0, .timeout 0,
    .ret 0] : List Server.Label).map Label.server ++
  [.rpcReturned]

/-- **A stuck task takes the rest of the shutdown away**: the call returns, and the listener is
still there and gets nothing. -/
theorem stuck_task_skips_bundle :
    ∃ s, (machine (oneResource (.rpc 0)) fun _ ↦ "peer").run stuckRun = some s ∧
      s.shutdownSubscribers = [.abandoned] ∧ s.router = .dropped ∧ ¬ s.Coordinated := by
  refine ⟨_, rfl, rfl, rfl, fun h ↦ ?_⟩
  cases (h _ rfl).2

/-! ## A shutdown goes on -/

/-- The step `l` is one of the call of `shutdown` or `shutdown_with_handle` that stands at this
phase, not one of its subscribers or of another party of the server. -/
def BundlePhase.Own : BundlePhase → Label → Prop
  | .rpc k _, .server l => l.call = some k
  | .rpc _ _, .rpcReturned => True
  | .notifying _ _, .next => True
  | .joining _, .joined | .joining _, .timeout => True
  | .closing, .routerReturned _ => True
  | _, _ => False

/-- A call of `shutdown` or `shutdown_with_handle` is under way. -/
def BundlePhase.inShutdown : BundlePhase → Bool
  | .building | .idle | .returned _ => false
  | .rpc _ _ | .notifying _ _ | .joining _ | .closing => true

/-- The server knows the call of its shutdown, and its waiter. -/
structure Linked (s : IrohBundle) : Prop where
  registered : s.server.Registered
  call : ∀ k bundleTimeout, s.phase = .rpc k bundleTimeout → k < s.server.shutdowns.length

theorem Moves.linked {s t : IrohBundle} {l : Label} (h : Moves services remoteId s l t)
    (hs : Linked s) : Linked t := by
  cases h with
  | server _ ht =>
    have hm := Server.moves_of_step ht
    exact ⟨hm.registered hs.registered, fun k bundleTimeout hp ↦
      Nat.lt_of_lt_of_le (hs.call k bundleTimeout hp) hm.shutdowns_length⟩
  | shutdownWithHandle _ ht =>
    refine ⟨(Server.moves_of_step ht).registered hs.registered, fun k bundleTimeout hp ↦ ?_⟩
    cases hp
    cases ht
    simp
  | subscribeShutdown | listener | reply => exact ⟨hs.registered, hs.call⟩
  | finish | rpcOk | rpcFailed | shutdown | sent | refused | join | joined | timeout
  | routerReturned => exact ⟨hs.registered, by simp [dropWith, notifySubscriber]⟩

theorem linked_builder : Linked builder := by
  constructor <;> simp [builder, Server.Registered, Server.new]

/-- **A shutdown is never blocked for good.**  Until it returns, it has a step of its own: whatever
the subscribers and the tasks do not do, a timeout stands in for. -/
theorem exists_step_of_inShutdown {s : IrohBundle} (hs : (machine services remoteId).Reachable s)
    (hp : s.phase.inShutdown = true) :
    ∃ l, s.phase.Own l ∧ (s.step services remoteId l).isSome = true := by
  have hl : Linked s := hs.invariant (M := machine services remoteId) linked_builder
    fun _ _ _ hi h ↦ (moves_of_step h).linked hi
  cases hphase : s.phase with
  | building | idle | returned => rw [hphase] at hp; cases hp
  | rpc k bundleTimeout =>
    obtain ⟨⟨d, p⟩, hk⟩ : ∃ c, s.server.shutdowns[k]? = some c :=
      ⟨_, List.getElem?_eq_getElem (hl.call k bundleTimeout hphase)⟩
    by_cases hr : ∃ r, p = .returned r
    · obtain ⟨r, rfl⟩ := hr
      refine ⟨.rpcReturned, trivial, ?_⟩
      cases r <;> simp [step, hphase, hk]
    · obtain ⟨l, hcall, hstep⟩ : ∃ l, Server.Label.call l = some k ∧
          (s.server.step services remoteId l).isSome = true :=
        Server.exists_step_of_call hl.registered hk fun r he ↦ hr ⟨r, he⟩
      refine ⟨.server l, hcall, ?_⟩
      have hc : s.connected l = true := by
        cases l <;> first | rfl | cases hcall
      simpa [step, hc] using hstep
  | notifying timeoutAfter i =>
    refine ⟨.next, trivial, ?_⟩
    simp only [step, hphase]
    split
    · split <;> rfl
    · rfl
  | joining timeoutAfter =>
    by_cases hr : s.shutdownReplies.all Reply.resolved = true
    · exact ⟨.joined, trivial, by simp only [step, hphase, if_pos hr, Option.isSome_some]⟩
    · exact ⟨.timeout, trivial, by simp only [step, hphase, if_neg hr, Option.isSome_some]⟩
  | closing => exact ⟨.routerReturned (.ok ()), trivial, by simp [step, hphase]⟩

end IrohBundle

end Zel
