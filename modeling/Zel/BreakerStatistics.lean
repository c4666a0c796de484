import Mathlib.Data.List.Nodup
import Mathlib.Data.Set.List
import Zel.GuardedServer

/-!
# What the statistics of the breakers say

`CircuitBreakerStats` (`protocol/circuit_breaker_stats.rs`) reads the breakers of a running server.
It is put into the server's extensions when the server is built, and it holds the very map that the
stream tasks work on, which changes under its feet: the answers are about the moment of the read.

The map has an entry for each peer, and each entry a breaker of its own.  So the values of the map,
which `open_circuit_count` goes through, are those of different peers.

## What is here

* `CircuitBreakerStats` — the accessors.
* `PeerCircuitBreakers.Onto` — every breaker in use is some peer's.
* `Linked` — a peer is in the map when a task of it has looked up its breaker.
* `statistics_exact` — **what the statistics say is so**, at every moment of every run.
-/

set_option autoImplicit false

namespace Zel

/-! ## The accessors -/

/-- `CircuitBreakerStats` -/
structure CircuitBreakerStats (Peer B : Type) where
  breakers : PeerCircuitBreakers Peer B

namespace CircuitBreakerStats

variable {Peer B : Type} (ops : Breaker.Ops B) (stats : CircuitBreakerStats Peer B) (now : Nat)

/-- `peer_states` -/
def peerStates (p : Peer) : Option CircuitState := stats.breakers.getStats ops now p

/-- `is_open` -/
def isOpen (p : Peer) : Bool :=
  match stats.peerStates ops now p with
  | some .opened => true
  | _ => false

/-- `is_half_open` -/
def isHalfOpen (p : Peer) : Bool :=
  match stats.peerStates ops now p with
  | some .halfOpen => true
  | _ => false

/-- The values of the map that `get_stats` makes, by the breakers they come from. -/
def values : List CircuitState :=
  (List.range stats.breakers.next).map fun h ↦
    CircuitState.ofMode (ops.currentState (stats.breakers.heap h) now)

/-- `open_circuit_count` -/
def openCircuitCount : Nat :=
  (stats.values ops now).countP fun state ↦ decide (state = .opened)

end CircuitBreakerStats

/-! ## Peers and their breakers -/

namespace PeerCircuitBreakers

variable {Peer B : Type} {ops : Breaker.Ops B}

/-- Every breaker that is in use is some peer's. -/
def Onto (s : PeerCircuitBreakers Peer B) : Prop := ∀ h < s.next, ∃ p, s.breakers p = some h

theorem onto_new : Onto (new ops : PeerCircuitBreakers Peer B) :=
  fun _ hh ↦ absurd hh (Nat.not_lt_zero _)

theorem Onto.entry [DecidableEq Peer] {s : PeerCircuitBreakers Peer B} (hs : Onto s) (p : Peer) :
    Onto (s.entry ops p).2 := by
  rcases hp : s.breakers p with _ | h
  · rw [entry_of_none hp]
    intro h hh
    rcases Nat.lt_succ_iff_lt_or_eq.mp hh with hlt | rfl
    · obtain ⟨q, hq⟩ := hs h hlt
      have hne : q ≠ p := by
        rintro rfl
        rw [hp] at hq
        cases hq
      exact ⟨q, (Function.update_of_ne hne ..).trans hq⟩
    · exact ⟨p, Function.update_self ..⟩
  · rw [entry_of_some hp]
    exact hs

/-- The peers of the map, one for each breaker. -/
theorem exists_peers {s : PeerCircuitBreakers Peer B} (hs : WellFormed s) (honto : Onto s) :
    ∃ peers : List Peer, peers.map s.breakers = (List.range s.next).map some ∧ peers.Nodup ∧
      ∀ p, p ∈ peers ↔ (s.breakers p).isSome = true := by
  have hrange : (List.range s.next).map some ∈ Set.range (List.map s.breakers) := by
    rw [Set.range_list_map]
    intro b hb
    obtain ⟨h, hh, rfl⟩ := List.mem_map.mp hb
    exact honto h (List.mem_range.mp hh)
  obtain ⟨peers, hpeers⟩ := hrange
  have hnodup : ((List.range s.next).map some).Nodup :=
    List.nodup_range.map (Option.some_injective _)
  refine ⟨peers, hpeers, List.Nodup.of_map s.breakers (hpeers ▸ hnodup), fun p ↦ ?_⟩
  constructor
  · intro hp
    have hmem : s.breakers p ∈ peers.map s.breakers := List.mem_map_of_mem hp
    rw [hpeers] at hmem
    obtain ⟨h, -, hh⟩ := List.mem_map.mp hmem
    rw [← hh]
    rfl
  · intro hp
    obtain ⟨h, hh⟩ := Option.isSome_iff_exists.mp hp
    have hmem : some h ∈ peers.map s.breakers := by
      rw [hpeers]
      exact List.mem_map_of_mem (List.mem_range.mpr (hs.fresh p h hh))
    obtain ⟨q, hq, hqh⟩ := List.mem_map.mp hmem
    rwa [hs.injective p q h hh hqh]

end PeerCircuitBreakers

namespace CircuitBreakerStats

variable {Peer B : Type} {ops : Breaker.Ops B}

/-- **The open circuits are counted by their peers.** -/
theorem openCircuitCount_eq {stats : CircuitBreakerStats Peer B}
    (hs : stats.breakers.WellFormed) (honto : stats.breakers.Onto) (now : Nat) :
    ∃ peers : List Peer, peers.Nodup ∧ (∀ p, p ∈ peers ↔ stats.isOpen ops now p = true) ∧
      stats.openCircuitCount ops now = peers.length := by
  obtain ⟨peers, hpeers, hnodup, hmem⟩ := PeerCircuitBreakers.exists_peers hs honto
  refine ⟨peers.filter (stats.isOpen ops now), hnodup.filter _, fun p ↦ ?_, ?_⟩
  · rw [List.mem_filter, hmem, and_iff_right_of_imp]
    intro hopen
    rcases hp : stats.breakers.breakers p with _ | h
    · simp [isOpen, peerStates, PeerCircuitBreakers.getStats, hp] at hopen
    · rfl
  · have hstates : peers.map (stats.peerStates ops now) = (stats.values ops now).map some := by
      have hmap := congrArg (List.map (Option.map fun h ↦
        CircuitState.ofMode (ops.currentState (stats.breakers.heap h) now))) hpeers
      rw [List.map_map, List.map_map] at hmap
      rw [values, List.map_map]
      exact hmap
    have hopen : stats.isOpen ops now =
        (fun state ↦ decide (state = some .opened)) ∘ stats.peerStates ops now := by
      funext p
      rw [isOpen, Function.comp_apply]
      rcases stats.peerStates ops now p with _ | _ | _ | _ <;> rfl
    rw [← List.countP_eq_length_filter, hopen, ← List.countP_map, hstates, List.countP_map,
      openCircuitCount]
    simp [Function.comp_def]

end CircuitBreakerStats

namespace GuardedServer

variable {Peer B : Type} [DecidableEq Peer] {services : ServiceMap} {peer : Nat → Peer}
  {peerId : Peer → String} {ops : Breaker.Ops B} {classifier : ErrorClassifier}

/-! ## Tasks and the map -/

variable (peer) in
/-- A task of the peer has looked up its breaker. -/
def HasAsked (s : GuardedServer Peer B) (p : Peer) : Prop :=
  ∃ (i : Nat) (t : Server.StreamTask), s.server.tasks[i]? = some t ∧ peer t.handler = p ∧
    (s.callOf i).isSome = true

variable (peer) in
structure Linked (s : GuardedServer Peer B) : Prop where
  onto : s.calls.shared.Onto
  /-- Only tasks make calls. -/
  tasks : ∀ i : Nat, (s.callOf i).isSome = true → (s.server.tasks[i]?).isSome = true
  asked : ∀ p, s.calls.calls p ≠ [] ↔ HasAsked peer s p

omit [DecidableEq Peer] in
theorem linked_new : Linked peer (new ops : GuardedServer Peer B) where
  onto := PeerCircuitBreakers.onto_new
  tasks i hi := by cases hi
  asked p := by simp [new, Server.new, HasAsked]

end GuardedServer

namespace Server

/-- A task stays on its connection. -/
theorem TaskMoves.handler {services : ServiceMap} {remoteId : Nat → String} {i : Nat} {l : Label}
    {t : StreamTask} {new : List HandleEffect} {u : Option StreamTask}
    (hm : TaskMoves services remoteId i l (some t) new u) :
    ∃ u', u = some u' ∧ u'.handler = t.handler := by
  cases hm <;> exact ⟨_, rfl, rfl⟩

end Server

namespace GuardedServer

variable {Peer B : Type} [DecidableEq Peer] {services : ServiceMap} {peer : Nat → Peer}
  {peerId : Peer → String} {ops : Breaker.Ops B} {classifier : ErrorClassifier}

/-- In every step a task stays on its connection. -/
theorem Moves.handler {s t : GuardedServer Peer B} {l : Label}
    (hm : Moves services peer peerId ops classifier s l t) (hs : Inv s) {i : Nat}
    {task : Server.StreamTask} (hi : s.server.tasks[i]? = some task) :
    ∃ task', t.server.tasks[i]? = some task' ∧ task'.handler = task.handler := by
  rcases hm.taskMoves hs i with ⟨-, he⟩ | ⟨l', -, hmoves⟩
  · exact ⟨task, he.trans hi, rfl⟩
  · rw [hi] at hmoves
    exact hmoves.handler

omit [DecidableEq Peer] in
/-- The tasks that have asked are the same when no task asks anew. -/
theorem hasAsked_iff {s t : GuardedServer Peer B} (hs : Linked peer s)
    (hcallOf : t.callOf = s.callOf)
    (hhandler : ∀ (i : Nat) task, s.server.tasks[i]? = some task →
      ∃ task', t.server.tasks[i]? = some task' ∧ task'.handler = task.handler) (p : Peer) :
    HasAsked peer t p ↔ HasAsked peer s p := by
  constructor
  · rintro ⟨i, task', hi', hp, hsome⟩
    rw [hcallOf] at hsome
    obtain ⟨task, hi⟩ := Option.isSome_iff_exists.mp (hs.tasks i hsome)
    obtain ⟨task'', hi'', he⟩ := hhandler i task hi
    obtain rfl : task' = task'' := Option.some_inj.mp (hi'.symm.trans hi'')
    exact ⟨i, task, hi, he ▸ hp, hsome⟩
  · rintro ⟨i, task, hi, hp, hsome⟩
    obtain ⟨task', hi', he⟩ := hhandler i task hi
    exact ⟨i, task', hi', he.symm ▸ hp, hcallOf ▸ hsome⟩

omit [DecidableEq Peer] in
/-- A step in which no task looks up its breaker. -/
theorem Linked.keep {s t : GuardedServer Peer B} (hs : Linked peer s)
    (hcallOf : t.callOf = s.callOf) (honto : t.calls.shared.Onto)
    (hcalls : ∀ p, t.calls.calls p = [] ↔ s.calls.calls p = [])
    (hhandler : ∀ (i : Nat) task, s.server.tasks[i]? = some task →
      ∃ task', t.server.tasks[i]? = some task' ∧ task'.handler = task.handler) :
    Linked peer t where
  onto := honto
  tasks i hi := by
    rw [hcallOf] at hi
    obtain ⟨task, htask⟩ := Option.isSome_iff_exists.mp (hs.tasks i hi)
    obtain ⟨task', htask', -⟩ := hhandler i task htask
    exact Option.isSome_iff_exists.mpr ⟨task', htask'⟩
  asked p := by
    rw [hasAsked_iff hs hcallOf hhandler, ← hs.asked p, not_iff_not]
    exact hcalls p

/-- A call that moves is not a new one. -/
theorem setCall_eq_nil {s : Calls.State Peer B Response} {p q : Peer} {k h : Nat}
    {ph : Calls.Phase Response} {b : B} :
    (s.setCall p k h ph b).calls q = [] ↔ s.calls q = [] := by
  by_cases hq : q = p
  · subst hq
    simp [Calls.State.setCall]
  · simp [Calls.State.setCall, Function.update_of_ne hq]

/-- **Every step keeps tasks and map together.** -/
theorem Moves.linked {s t : GuardedServer Peer B} {l : Label}
    (hm : Moves services peer peerId ops classifier s l t) (hinv : Inv s) (hs : Linked peer s) :
    Linked peer t := by
  have hhandler := fun (i : Nat) task (hi : s.server.tasks[i]? = some task) ↦ hm.handler hinv hi
  cases hm with
  | server hl hm => exact hs.keep rfl hs.onto (fun _ ↦ Iff.rfl) hhandler
  | @obtain i handler request cb calls hi hc =>
    cases hc
    refine ⟨hs.onto.entry _, fun j hj ↦ ?_, fun p ↦ ?_⟩
    · by_cases hji : j = i
      · rw [hji, hi]
        rfl
      · exact hs.tasks j (by simpa [Function.update_of_ne hji] using hj)
    · by_cases hp : p = peer handler
      · subst hp
        refine iff_of_true (by simp) ⟨i, _, hi, rfl, by simp⟩
      · have hsame : Function.update s.calls.calls (peer handler)
            (s.calls.calls (peer handler) ++ [⟨(s.calls.shared.entry ops (peer handler)).1,
              .obtained⟩]) p = s.calls.calls p := Function.update_of_ne hp ..
        refine (not_congr (Eq.congr_left hsame)).trans ((hs.asked p).trans ?_)
        constructor
        · rintro ⟨j, task, hj, hpj, hsome⟩
          refine ⟨j, task, hj, hpj, ?_⟩
          by_cases hji : j = i
          · simp [hji]
          · simpa [Function.update_of_ne hji] using hsome
        · rintro ⟨j, task, hj, hpj, hsome⟩
          have hji : j ≠ i := by
            rintro rfl
            obtain rfl : _ = task := Option.some_inj.mp (hi.symm.trans hj)
            exact hp hpj.symm
          exact ⟨j, task, hj, hpj, by simpa [Function.update_of_ne hji] using hsome⟩
  | allow hi hc hok hm =>
    cases Calls.moves_of_step hc with
    | allow hk => exact hs.keep rfl hs.onto (fun _ ↦ setCall_eq_nil) hhandler
  | finish hi hc =>
    cases Calls.moves_of_step hc with
    | finish hk => exact hs.keep rfl hs.onto (fun _ ↦ setCall_eq_nil) hhandler

/-- **What the statistics say is so.**  At every moment of every run of a server with circuit
breakers: the peers with a state are those of which some stream task has looked up its breaker, on
any connection; those that are neither open nor half-open are closed; and the number of open
circuits is the number of different peers whose circuit `is_open`. -/
theorem statistics_exact (services : ServiceMap) (peer : Nat → Peer) (peerId : Peer → String)
    (ops : Breaker.Ops B) (classifier : ErrorClassifier) (s : GuardedServer Peer B)
    (hs : (machine services peer peerId ops classifier).Reachable s) (now : Nat) :
    let stats : CircuitBreakerStats Peer B := ⟨s.calls.shared⟩
    (∀ p, (stats.peerStates ops now p).isSome = true ↔ HasAsked peer s p) ∧
      (∀ p, stats.peerStates ops now p = some .closed ↔ HasAsked peer s p ∧
        stats.isOpen ops now p = false ∧ stats.isHalfOpen ops now p = false) ∧
      ∃ peers : List Peer, peers.Nodup ∧ (∀ p, p ∈ peers ↔ stats.isOpen ops now p = true) ∧
        stats.openCircuitCount ops now = peers.length := by
  intro stats
  have hall : Inv s ∧ Linked peer s := by
    refine hs.invariant (I := fun s ↦ Inv s ∧ Linked peer s) ⟨inv_new, linked_new⟩ ?_
    rintro s l t ⟨hinv, hlinked⟩ ht
    exact ⟨(moves_of_step ht).inv hinv, (moves_of_step ht).linked hinv hlinked⟩
  obtain ⟨hinv, hlinked⟩ := hall
  have hlisted : ∀ p, (stats.peerStates ops now p).isSome = true ↔ HasAsked peer s p :=
    fun p ↦ (hinv.calls.isSome_getStats now p).trans (hlinked.asked p)
  refine ⟨hlisted, fun p ↦ ?_,
    CircuitBreakerStats.openCircuitCount_eq hinv.calls.wellFormed hlinked.onto now⟩
  rw [← hlisted p, CircuitBreakerStats.isOpen, CircuitBreakerStats.isHalfOpen]
  rcases stats.peerStates ops now p with _ | _ | _ | _ <;> simp

/-- One peer, and its circuit is open. -/
theorem statistics_exact_afterFailure :
    CircuitBreakerStats.openCircuitCount (documented anyLimits sensitive)
        (⟨afterFailure.calls.shared⟩ : CircuitBreakerStats Unit Breaker.Circuit) 2 = 1 ∧
      HasAsked (fun _ ↦ ()) afterFailure () := by
  have hreachable : sensitiveServer.Reachable afterFailure := ⟨trippingRun, rfl⟩
  exact ⟨rfl, ((statistics_exact (oneResource (.rpc 0)) (fun _ ↦ ()) (fun _ ↦ "peer")
    (documented anyLimits sensitive) sensitive.errorClassifier afterFailure hreachable 2).1 ()).mp
    rfl⟩

end GuardedServer

end Zel
