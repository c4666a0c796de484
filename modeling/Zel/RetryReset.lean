import Zel.RetryAccounting

/-!
# Metrics that are reset while calls are retried

`RetryMetrics::reset` (`protocol/retry_metrics.rs`) is three stores, one after the other, and it may
be called at any time and by several threads; the calls of the client go on.  The counters are
therefore never zero together for sure.  Each of them counts on its own: from the last store to it,
and all that the executions of any call add to it.

## What is here

* `Counter` — the three counters, in the order in which `reset` stores.
* `machine` — the calls of a client together with calls of `reset`, in all interleavings.
* `Call.tally` — what a call has added to a counter, by what it has gone through.
* `counter_since_store` — **what a counter says**: what the calls have added since the last store.
-/

set_option autoImplicit false

namespace Zel

/-- The counters of `RetryMetrics`. -/
inductive Counter where
  | totalRetries
  | successfulAfterRetry
  | failedAfterMaxRetries
  deriving DecidableEq

namespace RetryMetrics

/-- The three getters. -/
def get (m : RetryMetrics) : Counter → UInt64
  | .totalRetries => m.getTotalRetries
  | .successfulAfterRetry => m.getSuccessfulAfterRetry
  | .failedAfterMaxRetries => m.getFailedAfterMaxRetries

/-- `store(0)` on a counter. -/
def store (m : RetryMetrics) : Counter → RetryMetrics
  | .totalRetries => { m with totalRetries := 0 }
  | .successfulAfterRetry => { m with successfulAfterRetry := 0 }
  | .failedAfterMaxRetries => { m with failedAfterMaxRetries := 0 }

/-- The stores of `reset`, in order. -/
def stores : List Counter := [.totalRetries, .successfulAfterRetry, .failedAfterMaxRetries]

/-- `reset`, when nothing comes in between. -/
def reset (m : RetryMetrics) : RetryMetrics := stores.foldl store m

theorem get_store_self (m : RetryMetrics) (k : Counter) : (m.store k).get k = 0 := by
  cases k <;> rfl

theorem get_store_of_ne (m : RetryMetrics) {k k' : Counter} (h : k' ≠ k) :
    (m.store k').get k = m.get k := by
  cases k <;> cases k' <;> first | rfl | exact absurd rfl h

example (m : RetryMetrics) : m.reset = .new := rfl

end RetryMetrics

/-! ## What an execution adds -/

/-- An execution of the closure, the `i`-th one of its call, adds one to this counter. -/
def RetryConfig.adds (config : RetryConfig) (i : Nat) (r : Outcome) : Counter → Bool
  | .totalRetries => !Retry.final config.isRetryable r
  | .successfulAfterRetry => r.isOk && decide (0 < i)
  | .failedAfterMaxRetries => config.refuses r && decide (config.maxAttempts.toNat ≤ i + 1)

theorem RetryConfig.get_record (config : RetryConfig) (hmax : config.maxAttempts ≠ 0) {i : Nat}
    (hi : i ≤ config.maxAttempts.toNat) (r : Outcome) (m : RetryMetrics) (k : Counter) :
    (config.record (.ofNat i) r m).get k = m.get k + .ofNat (config.adds i r k).toNat := by
  cases k with
  | totalRetries => exact config.totalRetries_record _ r m
  | failedAfterMaxRetries => exact config.failedAfterMaxRetries_record hmax hi r m
  | successfulAfterRetry =>
    have hpos : 0 < UInt64.ofNat i ↔ 0 < i := by
      rw [UInt64.lt_iff_toNat_lt, config.toNat_ofNat_of_le hi]
      rfl
    show (config.record (.ofNat i) r m).getSuccessfulAfterRetry = _
    rw [RetryConfig.getSuccessfulAfterRetry_record]
    simp only [hpos, adds]
    by_cases h : r.isOk = true ∧ 0 < i
    · rw [if_pos h, h.1, decide_eq_true h.2]
      rfl
    · have hno : (r.isOk && decide (0 < i)) = false := by simpa using h
      rw [if_neg h, hno]
      exact (UInt64.add_zero _).symm

namespace RetryClient

variable {config : RetryConfig} {backon : Backon}

/-- The call came back with a success after a retry. -/
def Call.recovered (x : Call) : Bool :=
  match x.result with
  | none => false
  | some r => r.isOk && decide (1 < x.executions)

/-- What a call has added to a counter. -/
def Call.tally (config : RetryConfig) (k : Counter) (x : Call) : Nat :=
  match k with
  | .totalRetries => x.failures config
  | .successfulAfterRetry => x.recovered.toNat
  | .failedAfterMaxRetries => (x.lateRefusal config).toNat

/-- **What an execution adds to a counter is in the tally** of its call. -/
theorem Call.Inv.tally_executed {x : Call} (hx : x.Inv config) (hr : x.result = none)
    (k : Counter) : (x.executed config).tally config k =
      x.tally config k + (config.adds x.executions (x.outcomes x.executions) k).toNat := by
  cases k with
  | totalRetries => exact hx.failures_executed hr
  | failedAfterMaxRetries =>
    have hbefore : x.lateRefusal config = false := by rw [Call.lateRefusal, hr]
    show ((x.executed config).lateRefusal config).toNat = (x.lateRefusal config).toNat + _
    rw [hx.lateRefusal_executed hr, hbefore, Bool.toNat_false, Nat.zero_add]
    rfl
  | successfulAfterRetry =>
    have hbefore : x.recovered = false := by rw [Call.recovered, hr]
    show (x.executed config).recovered.toNat = x.recovered.toNat + _
    rw [hbefore, Bool.toNat_false, Nat.zero_add, RetryConfig.adds]
    rcases hnext : Retry.next config.isRetryable (x.outcomes x.executions) x.delays with _ | ds
    · rw [Call.executed_of_none hnext, Call.recovered]
      simp
    · -- a success is final
      have hfinal := ((hx.running hr).2.again hnext).2
      have hfailed : (x.outcomes x.executions).isOk = false := by
        rcases hout : x.outcomes x.executions with e | resp
        · rfl
        · rw [hout] at hfinal
          cases hfinal
      rw [Call.executed_of_some hnext, hfailed, Call.recovered, hr]
      rfl

/-- The steps of the calls, one constructor for each label. -/
inductive Moves (config : RetryConfig) (backon : Backon) (s : State) : Label → State → Prop
  | call (outcomes : Nat → Outcome) (draw : Nat) : Moves config backon s (.call outcomes draw)
      { s with calls := s.calls ++ [⟨outcomes, backon.delays config.policy draw, 0, 0, none⟩] }
  | attempt {c : Nat} {x : Call} (hc : s.calls[c]? = some x) (hr : x.result = none) :
      Moves config backon s (.attempt c)
        ⟨config.record x.attempt (x.outcomes x.executions) s.metrics,
          s.calls.set c (x.executed config)⟩

theorem moves_of_step {s t : State} {l : Label} (h : step config backon s l = some t) :
    Moves config backon s l t := by
  rcases l with ⟨outcomes, draw⟩ | c
  · cases h
    exact .call outcomes draw
  · simp only [step] at h
    split at h
    · rename_i x hc
      split at h
      · rename_i hr
        cases h
        exact .attempt hc (Option.isNone_iff_eq_none.mp hr)
      · cases h
    · cases h

theorem Moves.inv {s t : State} {l : Label} (hm : Moves config backon s l t)
    (hs : ∀ x ∈ s.calls, x.Inv config) : ∀ x ∈ t.calls, x.Inv config := by
  intro y hy
  cases hm with
  | call outcomes draw =>
    rcases List.mem_append.mp hy with hy | hy
    · exact hs y hy
    · rw [List.mem_singleton.mp hy]
      exact Call.inv_new config backon outcomes draw
  | @attempt c x hc hr =>
    rcases List.mem_or_eq_of_mem_set hy with hy | rfl
    · exact hs y hy
    · exact (hs x (List.mem_of_getElem? hc)).executed hr

/-- **A step of the calls** moves a counter and its tally by the same number. -/
theorem Moves.get_add {s t : State} {l : Label} (hm : Moves config backon s l t)
    (hmax : config.maxAttempts ≠ 0) (hs : ∀ x ∈ s.calls, x.Inv config) (k : Counter) :
    t.metrics.get k + .ofNat (s.calls.map (Call.tally config k)).sum =
      s.metrics.get k + .ofNat (t.calls.map (Call.tally config k)).sum := by
  cases hm with
  | call outcomes draw =>
    rw [List.map_append, List.sum_append]
    cases k <;> rfl
  | @attempt c x hc hr =>
    have hx := hs x (List.mem_of_getElem? hc)
    obtain ⟨hattempt, hrunning⟩ := hx.running hr
    have hle : x.executions ≤ config.maxAttempts.toNat := by
      rw [← hrunning.left]
      omega
    have hsum := List.sum_map_set_add (a := x.executed config) hc (Call.tally config k)
    rw [hx.tally_executed hr] at hsum
    have hnew : ((s.calls.set c (x.executed config)).map (Call.tally config k)).sum =
        (s.calls.map (Call.tally config k)).sum +
          (config.adds x.executions (x.outcomes x.executions) k).toNat := by
      omega
    rw [hattempt, config.get_record hmax hle, hnew, UInt64.ofNat_add, UInt64.add_assoc,
      UInt64.add_comm (.ofNat (Bool.toNat _))]

end RetryClient

/-! ## Calls and resets -/

/-- A client with metrics, and the calls of `reset`: how many of its stores each has made. -/
structure MeteredClient where
  client : RetryClient.State
  resets : List Nat

namespace MeteredClient

inductive Label where
  | client (l : RetryClient.Label)
  /-- `reset` is called. -/
  | reset
  /-- Call `r` of `reset` makes its next store. -/
  | store (r : Nat)

/-- The counter that a call of `reset` stores to next. -/
def nextStore (s : MeteredClient) (r : Nat) : Option Counter :=
  s.resets[r]?.bind fun i ↦ RetryMetrics.stores[i]?

variable (config : RetryConfig) (backon : Backon)

def step (s : MeteredClient) : Label → Option MeteredClient
  | .client l => (RetryClient.step config backon s.client l).map fun c ↦ { s with client := c }
  | .reset => some { s with resets := s.resets ++ [0] }
  | .store r =>
    (s.nextStore r).map fun k ↦
      { client := { s.client with metrics := s.client.metrics.store k }
        resets := s.resets.modify r (· + 1) }

/-- All interleavings of any number of calls, and of any number of calls of `reset`. -/
def machine : Machine MeteredClient Label := ⟨⟨⟨.new, []⟩, []⟩, step config backon⟩

/-- The step stores to this counter. -/
def Stores (k : Counter) (s : MeteredClient) : Label → Prop
  | .store r => s.nextStore r = some k
  | _ => False

/-- What all calls together have added to a counter. -/
def tally (config : RetryConfig) (k : Counter) (s : MeteredClient) : Nat :=
  (s.client.calls.map (RetryClient.Call.tally config k)).sum

variable {config backon}

/-- The calls are as they always are. -/
def Inv (config : RetryConfig) (s : MeteredClient) : Prop :=
  ∀ x ∈ s.client.calls, x.Inv config

theorem inv_step {s t : MeteredClient} {l : Label} (hs : Inv config s)
    (h : (machine config backon).step s l = some t) : Inv config t := by
  rcases l with l | _ | r
  · obtain ⟨c, hc, rfl⟩ := Option.map_eq_some_iff.mp h
    exact (RetryClient.moves_of_step hc).inv hs
  · cases h
    exact hs
  · obtain ⟨k, -, rfl⟩ := Option.map_eq_some_iff.mp h
    exact hs

theorem inv_of_run {ls : List Label} {s : MeteredClient}
    (hs : (machine config backon).run ls = some s) : Inv config s := by
  have hreachable : (machine config backon).Reachable s := ⟨ls, hs⟩
  refine hreachable.invariant (I := Inv config) ?_ fun _ _ _ hs ht ↦ inv_step hs ht
  intro x hx
  cases hx

/-- A step that does not store to a counter moves it together with its tally. -/
theorem get_add_step {s t : MeteredClient} {l : Label} (hmax : config.maxAttempts ≠ 0)
    (hs : Inv config s) {k : Counter} (hl : ¬ Stores k s l)
    (h : (machine config backon).step s l = some t) :
    t.client.metrics.get k + .ofNat (tally config k s) =
      s.client.metrics.get k + .ofNat (tally config k t) := by
  rcases l with l | _ | r
  · obtain ⟨c, hc, rfl⟩ := Option.map_eq_some_iff.mp h
    exact (RetryClient.moves_of_step hc).get_add hmax hs k
  · cases h
    rfl
  · obtain ⟨k', hk', rfl⟩ := Option.map_eq_some_iff.mp h
    have hne : k' ≠ k := fun he ↦ hl (he ▸ hk')
    rw [← s.client.metrics.get_store_of_ne hne]
    rfl

/-- A counter is zero when it has been stored to. -/
theorem get_of_stores {s t : MeteredClient} {l : Label} {k : Counter} (hl : Stores k s l)
    (h : (machine config backon).step s l = some t) : t.client.metrics.get k = 0 := by
  rcases l with l | _ | r
  · cases hl
  · cases hl
  · obtain ⟨k', hk', rfl⟩ := Option.map_eq_some_iff.mp h
    obtain rfl : k' = k := Option.some_inj.mp (hk'.symm.trans hl)
    exact s.client.metrics.get_store_self k'

/-- A run without a store to a counter. -/
theorem get_add_of_run {s t : MeteredClient} (hmax : config.maxAttempts ≠ 0) {k : Counter}
    (hs : Inv config s) {ls : List Label}
    (hquiet : (machine config backon).Meets (fun s l ↦ ¬ Stores k s l) s ls)
    (hr : (machine config backon).runFrom s ls = some t) :
    t.client.metrics.get k + .ofNat (tally config k s) =
      s.client.metrics.get k + .ofNat (tally config k t) := by
  have hall := Machine.along_of_meets (M := machine config backon)
    (I := fun t ↦ Inv config t ∧ t.client.metrics.get k + .ofNat (tally config k s) =
      s.client.metrics.get k + .ofNat (tally config k t))
    (fun u l v hu hl hv ↦ ⟨inv_step hu.1 hv, ?_⟩) ⟨hs, rfl⟩ hquiet
  · exact (hall.last hr).2
  · have hstep := get_add_step hmax hu.1 hl hv
    have hbefore := hu.2
    grind

/-- **What a counter says.**  Calls are retried and metrics are reset in any interleaving.  Then
each counter holds what the executions of all calls have added to it since the last store to it, or
from the beginning: retries that were worth one, calls that came back with a success after a retry,
and calls that were refused late. -/
theorem counter_since_store (b : RetryConfigBuilder) (config : RetryConfig)
    (hb : b.build = .ok config) (backon : Backon) (k : Counter) (ls ms : List Label)
    (s t : MeteredClient) (hs : (machine config backon).run ls = some s)
    (hstart : ls = [] ∨ ∃ ls' l u, ls = ls' ++ [l] ∧ (machine config backon).run ls' = some u ∧
      Stores k u l)
    (ht : (machine config backon).runFrom s ms = some t)
    (hquiet : (machine config backon).Meets (fun s l ↦ ¬ Stores k s l) s ms) :
    t.client.metrics.get k + .ofNat (tally config k s) = .ofNat (tally config k t) := by
  have hzero : s.client.metrics.get k = 0 := by
    rcases hstart with rfl | ⟨ls', l, u, rfl, hu, hl⟩
    · cases hs
      cases k <;> rfl
    · rw [Machine.run, Machine.runFrom_append, ← Machine.run, hu, Option.bind_some,
        Machine.runFrom_singleton] at hs
      exact get_of_stores hl hs
  have hrun := get_add_of_run (RetryConfigBuilder.build_eq_ok hb).2 (inv_of_run hs) hquiet ht
  rw [hrun, hzero, UInt64.zero_add]

/-- A call recovers while the metrics are reset: the retry falls before its store, and the success
between the first two. -/
def resetRun : List Label :=
  [.client (.call RetryClient.recovering 0), .client (.attempt 0), .reset, .store 0,
    .client (.attempt 0), .store 0]

/-- The second counter is stored to, and the first one after the retry. -/
theorem counter_since_store_resetRun : ∃ s t,
    (machine RetryClient.once.config .doubling).run (resetRun.take 4) = some s ∧
      (machine RetryClient.once.config .doubling).runFrom s (resetRun.drop 4) = some t ∧
      t.client.metrics.get .totalRetries + .ofNat (tally RetryClient.once.config .totalRetries s) =
        .ofNat (tally RetryClient.once.config .totalRetries t) := by
  refine ⟨_, _, rfl, rfl, counter_since_store RetryClient.once RetryClient.once.config rfl .doubling
    .totalRetries (resetRun.take 4) (resetRun.drop 4) _ _ rfl (Or.inr ?_) rfl ?_⟩
  · exact ⟨resetRun.take 3, .store 0, _, rfl, rfl, rfl⟩
  · intro u hu
    cases hu
    refine ⟨id, fun v hv ↦ ?_⟩
    cases hv
    have hother : some Counter.successfulAfterRetry ≠ some .totalRetries := by decide
    exact ⟨hother, trivial⟩

end MeteredClient

end Zel
