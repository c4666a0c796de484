import Zel.CircuitBreaker

/-!
# Peers do not interfere

Every peer of a `PeerCircuitBreakers` acts as if it had the breakers to itself.  `Alone` is that
other system, one breaker that one peer's calls share; `view` is what a state of the shared system
looks like to a peer, its breaker and the phases of its calls.  A step of the peer moves the view
as it moves `Alone`, and a step of anybody else leaves it.

## What is here

* `Inv` — handles are never shared by peers, every call holds its peer's handle, and a peer is in
  the map exactly when it has called.
* `view_own`, `view_other` — the two halves of the simulation.
* `per_peer_isolation` — **isolation**: two runs with the same steps of a peer give it the same
  results and the same reported state.
-/

set_option autoImplicit false

namespace Zel

/-! ## The map -/

namespace PeerCircuitBreakers

variable {Peer B : Type} {ops : Breaker.Ops B}

/-- Every handle in the map leads to a breaker, and no breaker serves two peers. -/
structure WellFormed (s : PeerCircuitBreakers Peer B) : Prop where
  fresh : ∀ p h, s.breakers p = some h → h < s.next
  injective : ∀ p q h, s.breakers p = some h → s.breakers q = some h → p = q

theorem wellFormed_new : WellFormed (new ops : PeerCircuitBreakers Peer B) := by
  constructor <;> simp [new]

variable [DecidableEq Peer]

theorem entry_of_some {s : PeerCircuitBreakers Peer B} {p : Peer} {h : Nat}
    (hp : s.breakers p = some h) : s.entry ops p = (h, s) := by
  rw [entry, hp]

theorem entry_of_none {s : PeerCircuitBreakers Peer B} {p : Peer} (hp : s.breakers p = none) :
    s.entry ops p = (s.next,
      { breakers := Function.update s.breakers p (some s.next)
        heap := Function.update s.heap s.next ops.build
        next := s.next + 1 }) := by
  rw [entry, hp]

/-- The handle that a call works on is its peer's. -/
theorem entry_breakers_self (s : PeerCircuitBreakers Peer B) (p : Peer) :
    (s.entry ops p).2.breakers p = some (s.entry ops p).1 := by
  rcases hp : s.breakers p with _ | h
  · rw [entry_of_none hp]
    exact Function.update_self ..
  · rw [entry_of_some hp]
    exact hp

theorem entry_breakers_of_ne (s : PeerCircuitBreakers Peer B) {p q : Peer} (hq : q ≠ p) :
    (s.entry ops p).2.breakers q = s.breakers q := by
  rcases hp : s.breakers p with _ | h
  · rw [entry_of_none hp]
    exact Function.update_of_ne hq ..
  · rw [entry_of_some hp]

/-- A lookup leaves the breakers that exist as they are. -/
theorem entry_heap {s : PeerCircuitBreakers Peer B} (p : Peer) {h : Nat} (hh : h < s.next) :
    (s.entry ops p).2.heap h = s.heap h := by
  rcases hp : s.breakers p with _ | h'
  · rw [entry_of_none hp]
    exact Function.update_of_ne (Nat.ne_of_lt hh) ..
  · rw [entry_of_some hp]

/-- The breaker that a call works on: the peer's, or a fresh one. -/
theorem entry_heap_self (s : PeerCircuitBreakers Peer B) (p : Peer) :
    (s.entry ops p).2.heap (s.entry ops p).1 = s.breaker ops p := by
  rcases hp : s.breakers p with _ | h
  · rw [entry_of_none hp, breaker, hp]
    exact Function.update_self ..
  · rw [entry_of_some hp, breaker, hp]

theorem WellFormed.entry {s : PeerCircuitBreakers Peer B} (hs : WellFormed s) (p : Peer) :
    WellFormed (s.entry ops p).2 := by
  rcases hp : s.breakers p with _ | h
  · rw [entry_of_none hp]
    have old : ∀ q h', Function.update s.breakers p (some s.next) q = some h' → q ≠ p →
        s.breakers q = some h' := by
      intro q h' hq' hq
      rwa [Function.update_of_ne hq] at hq'
    have new : ∀ h', Function.update s.breakers p (some s.next) p = some h' → h' = s.next := by
      intro h' hp'
      rw [Function.update_self, Option.some_inj] at hp'
      exact hp'.symm
    refine ⟨fun q h' hq' ↦ ?_, fun q r h' hq' hr' ↦ ?_⟩
    · by_cases hq : q = p
      · subst hq
        exact new h' hq' ▸ Nat.lt_succ_self _
      · exact Nat.lt_succ_of_lt (hs.fresh q h' (old q h' hq' hq))
    · -- a fresh handle is nobody else's
      by_cases hq : q = p <;> by_cases hr : r = p
      · rw [hq, hr]
      · subst hq
        have hlt := hs.fresh r h' (old r h' hr' hr)
        rw [new h' hq'] at hlt
        exact absurd hlt (Nat.lt_irrefl _)
      · subst hr
        have hlt := hs.fresh q h' (old q h' hq' hq)
        rw [new h' hr'] at hlt
        exact absurd hlt (Nat.lt_irrefl _)
      · exact hs.injective q r h' (old q h' hq' hq) (old r h' hr' hr)
  · rw [entry_of_some hp]
    exact hs

end PeerCircuitBreakers

namespace Calls

open PeerCircuitBreakers

variable {Peer B T : Type} [DecidableEq Peer] {ops : Breaker.Ops B} {classifier : ErrorClassifier}

/-! ## Calls and their handles -/

/-- The map, and the handles that the calls hold. -/
structure Inv (s : State Peer B T) : Prop where
  wellFormed : s.shared.WellFormed
  /-- All calls of a peer act on one breaker. -/
  handle : ∀ p, ∀ c ∈ s.calls p, s.shared.breakers p = some c.handle
  called : ∀ p h, s.shared.breakers p = some h → s.calls p ≠ []

theorem inv_init :
    Inv (machine ops classifier : Machine (State Peer B T) (Label Peer T)).init :=
  ⟨wellFormed_new, by simp [machine], by simp [machine, PeerCircuitBreakers.new]⟩

/-- A call of the peer moves, with its handle. -/
theorem Inv.setCall {s : State Peer B T} (hs : Inv s) {p : Peer} {k h : Nat} {ph : Phase T}
    (hk : (s.calls p)[k]? = some ⟨h, ph⟩) (ph' : Phase T) (b : B) :
    Inv (s.setCall p k h ph' b) := by
  refine ⟨⟨hs.wellFormed.fresh, hs.wellFormed.injective⟩, fun q c hc ↦ ?_, fun q h' hq' ↦ ?_⟩
  · by_cases hq : q = p
    · subst hq
      simp only [State.setCall, Function.update_self] at hc
      rcases List.mem_or_eq_of_mem_set hc with hc | rfl
      · exact hs.handle q c hc
      · exact hs.handle q ⟨h, ph⟩ (List.mem_of_getElem? hk)
    · simp only [State.setCall, Function.update_of_ne hq] at hc
      exact hs.handle q c hc
  · by_cases hq : q = p
    · subst hq
      have hne := hs.called q h' hq'
      simpa [State.setCall] using hne
    · simp only [State.setCall, Function.update_of_ne hq]
      exact hs.called q h' hq'

theorem Moves.inv {s t : State Peer B T} {l : Label Peer T} (hm : Moves ops classifier s l t)
    (hs : Inv s) : Inv t := by
  cases hm with
  | @obtain p =>
    refine ⟨hs.wellFormed.entry p, fun q c hc ↦ ?_, fun q h hq' ↦ ?_⟩
    · by_cases hq : q = p
      · subst hq
        simp only [Function.update_self, List.mem_append, List.mem_singleton] at hc
        rcases hc with hc | rfl
        · have hold := hs.handle q c hc
          rw [entry_of_some hold]
          exact hold
        · exact entry_breakers_self s.shared q
      · simp only [Function.update_of_ne hq] at hc
        exact (entry_breakers_of_ne s.shared hq).trans (hs.handle q c hc)
    · by_cases hq : q = p
      · subst hq
        simp
      · simp only [Function.update_of_ne hq]
        exact hs.called q h ((entry_breakers_of_ne s.shared hq).symm.trans hq')
  | allow hk => exact hs.setCall hk _ _
  | finish hk => exact hs.setCall hk _ _

theorem inv_of_reachable {s : State Peer B T} (hs : (machine ops classifier).Reachable s) :
    Inv s :=
  hs.invariant (I := Inv) inv_init fun _ _ _ h ht ↦ (moves_of_step ht).inv h

/-! ## One peer alone -/

/-- One breaker, if a call was made, and the calls that share it. -/
structure Alone (B T : Type) where
  breaker : Option B
  phases : List (Phase T)

/-- The steps of the one peer. -/
def Alone.step (ops : Breaker.Ops B) (classifier : ErrorClassifier) (v : Alone B T) :
    Label Peer T → Option (Alone B T)
  | .obtain _ => some ⟨some (v.breaker.getD ops.build), v.phases ++ [.obtained]⟩
  | .allow _ k now =>
    match v.phases[k]?, v.breaker with
    | some .obtained, some b =>
      some ⟨some (ops.allow b now).2, v.phases.set k (.ofAdmitted (ops.allow b now).1)⟩
    | _, _ => none
  | .finish _ k now outcome =>
    match v.phases[k]?, v.breaker with
    | some .running, some b =>
      some ⟨some (ops.record b now (closureResult classifier outcome).toBool),
        v.phases.set k (.ofOutcome classifier outcome)⟩
    | _, _ => none

/-- The runs of one peer alone. -/
def Alone.machine (ops : Breaker.Ops B) (classifier : ErrorClassifier) :
    Machine (Alone B T) (Label Peer T) := ⟨⟨none, []⟩, Alone.step ops classifier⟩

section View

omit [DecidableEq Peer]

/-- The results of a peer's calls so far, and where the unfinished ones stand. -/
def State.results (s : State Peer B T) (p : Peer) : List (Phase T) := (s.calls p).map Call.phase

/-- What a peer sees of the shared system. -/
def view (p : Peer) (s : State Peer B T) : Alone B T :=
  ⟨(s.shared.breakers p).map s.shared.heap, s.results p⟩

theorem getStats_eq (s : State Peer B T) (now : Nat) (p : Peer) :
    s.shared.getStats ops now p =
      (view p s).breaker.map fun b ↦ CircuitState.ofMode (ops.currentState b now) := by
  rw [getStats, view, Option.map_map]
  rfl

theorem view_phases_getElem? {s : State Peer B T} {p : Peer} {k h : Nat} {ph : Phase T}
    (hk : (s.calls p)[k]? = some ⟨h, ph⟩) : (view p s).phases[k]? = some ph := by
  rw [view, State.results, List.getElem?_map, hk]
  rfl

/-- The breaker of a peer that has called. -/
theorem view_breaker {s : State Peer B T} {p : Peer} {h : Nat}
    (hp : s.shared.breakers p = some h) : (view p s).breaker = some (s.shared.heap h) := by
  rw [view, hp]
  rfl

/-- All calls of a peer act on one breaker, and no other peer's calls do. -/
theorem Inv.one_breaker {s : State Peer B T} (hs : Inv s) (p : Peer) :
    ∃ h, (∀ c ∈ s.calls p, c.handle = h) ∧ ∀ q, q ≠ p → ∀ c ∈ s.calls q, c.handle ≠ h := by
  rcases hp : s.shared.breakers p with _ | h
  · -- a peer without calls: any unused handle will do
    refine ⟨s.shared.next, fun c hc ↦ ?_, fun q _ c hc he ↦ ?_⟩
    · rw [hs.handle p c hc] at hp
      cases hp
    · exact absurd (he ▸ hs.wellFormed.fresh q _ (hs.handle q c hc)) (Nat.lt_irrefl _)
  · refine ⟨h, fun c hc ↦ ?_, fun q hq c hc he ↦ ?_⟩
    · rw [hs.handle p c hc, Option.some_inj] at hp
      exact hp
    · subst he
      exact hq (hs.wellFormed.injective q p _ (hs.handle q c hc) hp)

/-- `get_stats` lists the peers that have called. -/
theorem Inv.isSome_getStats {s : State Peer B T} (hs : Inv s) (now : Nat) (p : Peer) :
    (s.shared.getStats ops now p).isSome ↔ s.calls p ≠ [] := by
  rw [getStats, Option.isSome_map]
  constructor
  · intro hsome
    obtain ⟨h, hp⟩ := Option.isSome_iff_exists.mp hsome
    exact hs.called p h hp
  · intro hne
    obtain ⟨c, hc⟩ := List.exists_mem_of_ne_nil _ hne
    rw [hs.handle p c hc]
    rfl

end View

/-- A call of the peer, as the peer sees it. -/
theorem view_setCall {s : State Peer B T} {p : Peer} {h : Nat}
    (hp : s.shared.breakers p = some h) (k : Nat) (ph : Phase T) (b : B) :
    view p (s.setCall p k h ph b) = ⟨some b, (view p s).phases.set k ph⟩ := by
  simp [view, State.setCall, setBreaker, State.results, hp, List.map_set]

/-- A call of another peer, as the peer sees it. -/
theorem view_setCall_of_ne {s : State Peer B T} (hs : Inv s) {p q : Peer} {h : Nat}
    (hqh : s.shared.breakers q = some h) (hq : q ≠ p) (k : Nat) (ph : Phase T) (b : B) :
    view p (s.setCall q k h ph b) = view p s := by
  have hresults : (s.setCall q k h ph b).results p = s.results p := by
    simp only [State.results, State.setCall, Function.update_of_ne hq.symm]
  have hsame : (s.setCall q k h ph b).shared.breakers p = s.shared.breakers p := rfl
  rw [view, view, hresults, hsame]
  rcases hp : s.shared.breakers p with _ | h'
  · rfl
  · have hne : h' ≠ h := by
      rintro rfl
      exact hq (hs.wellFormed.injective q p h' hqh hp)
    have hheap : (s.setCall q k h ph b).shared.heap h' = s.shared.heap h' :=
      Function.update_of_ne hne ..
    rw [Option.map_some, Option.map_some, hheap]

/-- **A peer's own step** moves its view as it would move the peer alone. -/
theorem view_own {s t : State Peer B T} {l : Label Peer T} (hm : Moves ops classifier s l t)
    (hs : Inv s) : Alone.step ops classifier (view l.peer s) l = some (view l.peer t) := by
  cases hm with
  | @obtain p =>
    have hfound : ((s.shared.entry ops p).2.breakers p).map (s.shared.entry ops p).2.heap =
        some ((view p s).breaker.getD ops.build) := by
      rw [entry_breakers_self, Option.map_some, entry_heap_self, breaker, view]
      cases s.shared.breakers p <;> rfl
    simp only [Alone.step, Label.peer]
    rw [← hfound]
    simp [view, State.results]
  | @allow p k now h hk =>
    have hp : s.shared.breakers p = some h := hs.handle p _ (List.mem_of_getElem? hk)
    simp only [Alone.step, Label.peer, view_phases_getElem? hk, view_breaker hp, view_setCall hp]
  | @finish p k now h outcome hk =>
    have hp : s.shared.breakers p = some h := hs.handle p _ (List.mem_of_getElem? hk)
    simp only [Alone.step, Label.peer, view_phases_getElem? hk, view_breaker hp, view_setCall hp]

/-- **Another peer's step** leaves the view. -/
theorem view_other {s t : State Peer B T} {l : Label Peer T} (hm : Moves ops classifier s l t)
    (hs : Inv s) {p : Peer} (hl : l.peer ≠ p) : view p t = view p s := by
  cases hm with
  | @obtain q =>
    have hq : p ≠ q := fun h ↦ hl h.symm
    simp only [view, State.results, Function.update_of_ne hq, entry_breakers_of_ne s.shared hq,
      Alone.mk.injEq, and_true]
    rcases hp : s.shared.breakers p with _ | h
    · rfl
    · rw [Option.map_some, Option.map_some, entry_heap q (hs.wellFormed.fresh p h hp)]
  | allow hk =>
    exact view_setCall_of_ne hs (hs.handle _ _ (List.mem_of_getElem? hk)) hl _ _ _
  | finish hk =>
    exact view_setCall_of_ne hs (hs.handle _ _ (List.mem_of_getElem? hk)) hl _ _ _

/-! ## Isolation -/

/-- **Two runs with the same steps of a peer** look the same to it. -/
theorem view_eq {ls ms : List (Label Peer T)} {s t : State Peer B T} {p : Peer}
    (hls : (machine ops classifier).run ls = some s)
    (hms : (machine ops classifier).run ms = some t)
    (hf : ls.filter (fun l ↦ l.peer = p) = ms.filter (fun l ↦ l.peer = p)) :
    view p s = view p t :=
  Machine.view_eq_of_filter_eq (V := Alone.machine ops classifier) (I := Inv)
    (fun _ _ _ hs ht ↦ (moves_of_step ht).inv hs)
    (fun _ l _ hs ht hl ↦ by
      have hp : l.peer = p := of_decide_eq_true hl
      exact hp ▸ view_own (moves_of_step ht) hs)
    (fun _ _ _ hs ht hl ↦ view_other (moves_of_step ht) hs (of_decide_eq_false hl))
    inv_init hls hms hf

/-- **Per-peer isolation.**  Two runs with the same steps of a peer, outcomes and times included,
give the same results to its calls and report the same state for it; in every reachable state all
calls of a peer act on one breaker, which no other peer's calls act on, and `get_stats` lists
exactly the peers that have called. -/
theorem per_peer_isolation (ops : Breaker.Ops B) (classifier : ErrorClassifier) (p : Peer) :
    (∀ (ls ms : List (Label Peer T)) (s t : State Peer B T),
      (machine ops classifier).run ls = some s → (machine ops classifier).run ms = some t →
      ls.filter (fun l ↦ l.peer = p) = ms.filter (fun l ↦ l.peer = p) →
      s.results p = t.results p ∧
        ∀ now, s.shared.getStats ops now p = t.shared.getStats ops now p) ∧
    ∀ s : State Peer B T, (machine ops classifier).Reachable s →
      (∃ h, (∀ c ∈ s.calls p, c.handle = h) ∧ ∀ q, q ≠ p → ∀ c ∈ s.calls q, c.handle ≠ h) ∧
      ∀ now, (s.shared.getStats ops now p).isSome ↔ s.calls p ≠ [] := by
  constructor
  · intro ls ms s t hls hms hf
    have hv := view_eq hls hms hf
    refine ⟨congrArg Alone.phases hv, fun now ↦ ?_⟩
    rw [getStats_eq, getStats_eq, hv]
  · intro s hs
    have hinv := inv_of_reachable hs
    exact ⟨hinv.one_breaker p, fun now ↦ hinv.isSome_getStats now p⟩

/-- A call of the first peer, which succeeds. -/
def quietRun : List (Label Bool Nat) :=
  [.obtain false, .allow false 0 0, .finish false 0 3 (.ok 5)]

/-- The same call, while one of the other peer fails. -/
def crowdedRun : List (Label Bool Nat) :=
  [.obtain true, .obtain false, .allow true 0 0, .allow false 0 0,
    .finish true 0 1 (.error (AnyhowError.msg "db").asSystemFailure), .finish false 0 3 (.ok 5)]

/-- Where such a run leads. -/
def after (ls : List (Label Bool Nat)) : State Bool Breaker.Circuit Nat :=
  ((machine (documented anyLimits sensitive) .default).run ls).getD
    ⟨PeerCircuitBreakers.new (documented anyLimits sensitive), fun _ ↦ []⟩

/-- The failure opens the other peer's circuit, and the first peer notices nothing of it. -/
theorem per_peer_isolation_crowdedRun :
    (after crowdedRun).shared.getStats (documented anyLimits sensitive) 3 true = some .opened ∧
      (after quietRun).shared.getStats (documented anyLimits sensitive) 3 true = none ∧
      (after crowdedRun).results false = (after quietRun).results false ∧
      ∀ now, (after crowdedRun).shared.getStats (documented anyLimits sensitive) now false =
        (after quietRun).shared.getStats (documented anyLimits sensitive) now false :=
  ⟨rfl, rfl, (per_peer_isolation (documented anyLimits sensitive) .default false).1
    crowdedRun quietRun (after crowdedRun) (after quietRun) rfl rfl rfl⟩

end Calls

end Zel
