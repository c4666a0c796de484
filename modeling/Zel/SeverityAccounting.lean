import Zel.Lib.Slots
import Zel.PeerIsolation
import Zel.RpcExecution

/-!
# Severities, from the callback to the breaker and to the client

The severity of a callback's error decides twice: whether the peer's breaker counts the call as a
failure, and what the client is told.  On its way it is encoded as a mark on an `anyhow::Error`,
read back by the classifier, and carried on as a `ServiceError`.

Any number of Rpc calls of any number of peers run at the same time; what the breaker of a peer is
told is recorded beside it.

## What is here

* `RpcCalls.machine` — the concurrent calls, with the results of their callbacks.
* `RpcCalls.told` — what the breaker of a peer was told, in order.
* `RpcCalls.severity_accounting` — **the accounts are right**: in every run.
-/

set_option autoImplicit false

namespace Zel

/-- The call counts as a success: the callback succeeded, or its error is the application's. -/
def ResourceResponse.countsAsSuccess : ResourceResponse → Bool
  | .ok _ => true
  | .error e => decide (e.severity = .application)

namespace RpcCalls

open PeerCircuitBreakers

/-! ## The calls -/

/-- The steps of `execute_rpc_with_circuit_breaker`; `k` counts the calls of a peer. -/
inductive Label (Peer : Type) where
  | obtain (p : Peer)
  | allow (p : Peer) (k now : Nat)
  /-- The callback of an admitted call returns. -/
  | finish (p : Peer) (k now : Nat) (result : ResourceResponse)

/-- The step of `call_async`. -/
def Label.toCall {Peer : Type} : Label Peer → Calls.Label Peer Response
  | .obtain p => .obtain p
  | .allow p k now => .allow p k now
  | .finish p k now result => .finish p k now (result.mapError ResourceError.toAnyhow)

/-- The results of a peer's callbacks. -/
def Label.result {Peer : Type} [DecidableEq Peer] (p : Peer) :
    Label Peer → List ResourceResponse
  | .finish q _ _ result => if q = p then [result] else []
  | _ => []

variable {Peer B : Type} [DecidableEq Peer]

/-- All interleavings of any number of Rpc calls. -/
def machine (ops : Breaker.Ops B) :
    Machine (Calls.State Peer (B × List Bool) Response) (Label Peer) where
  init := (Calls.machine ops.recording .default).init
  step s l := Calls.step ops.recording .default s l.toCall

/-- What the breaker of a peer was told about its calls. -/
def told (ops : Breaker.Ops B) (p : Peer) (s : Calls.State Peer (B × List Bool) Response) :
    List Bool := (s.shared.breaker ops.recording p).2

/-- The response to call `k` of a peer, if it is over. -/
def response (peerId : Peer → String) (p : Peer) (k : Nat)
    (s : Calls.State Peer (B × List Bool) Response) : Option ResourceResponse :=
  match (s.calls p)[k]? with
  | some ⟨_, .returned r⟩ => some (.ofCall (peerId p) r)
  | _ => none

theorem moves_of_step {ops : Breaker.Ops B} {s t : Calls.State Peer (B × List Bool) Response}
    {l : Label Peer} (h : (machine ops).step s l = some t) :
    Calls.Moves ops.recording .default s l.toCall t := Calls.moves_of_step h

theorem inv_init (ops : Breaker.Ops B) : Calls.Inv (machine ops : Machine _ (Label Peer)).init :=
  @Calls.inv_init Peer (B × List Bool) Response _ ops.recording .default

theorem inv_step {ops : Breaker.Ops B} {s t : Calls.State Peer (B × List Bool) Response}
    {l : Label Peer} (hs : Calls.Inv s) (h : (machine ops).step s l = some t) : Calls.Inv t :=
  (moves_of_step h).inv hs

/-! ## What one step tells -/

/-- The classifier reads the severity back. -/
theorem classify_toAnyhow (e : ResourceError) :
    ErrorClassifier.default.classify e.toAnyhow = e.severity := by
  rw [ResourceError.toAnyhow]
  cases e.severity <;> rfl

/-- **The breaker is told a failure** exactly for errors that are not the application's. -/
theorem closureResult_toAnyhow (result : ResourceResponse) :
    (closureResult .default (result.mapError ResourceError.toAnyhow)).toBool =
      result.countsAsSuccess := by
  cases result with
  | ok resp => rfl
  | error e =>
    simp only [Except.mapError, closureResult, classify_toAnyhow,
      ResourceResponse.countsAsSuccess]
    cases e.severity <;> rfl

/-- What the one breaker of a peer that is alone was told. -/
def aloneTold (v : Calls.Alone (B × List Bool) Response) : List Bool :=
  (v.breaker.map Prod.snd).getD []

omit [DecidableEq Peer] in
theorem told_eq_view (ops : Breaker.Ops B) (p : Peer)
    (s : Calls.State Peer (B × List Bool) Response) :
    told ops p s = aloneTold (Calls.view p s) := by
  rw [told, PeerCircuitBreakers.breaker, Calls.view]
  cases s.shared.breakers p <;> rfl

/-- What a step tells the breaker of a peer. -/
def reportOf (classifier : ErrorClassifier) (p : Peer) : Calls.Label Peer Response → List Bool
  | .finish q _ _ outcome => if q = p then [(closureResult classifier outcome).toBool] else []
  | _ => []

theorem reportOf_of_ne {classifier : ErrorClassifier} {l : Calls.Label Peer Response} {p : Peer}
    (h : l.peer ≠ p) : reportOf classifier p l = [] := by
  cases l with
  | finish q k now outcome => exact if_neg h
  | _ => rfl

/-- The default classifier tells the severities. -/
theorem reportOf_toCall (p : Peer) (l : Label Peer) :
    reportOf .default p l.toCall = (l.result p).map ResourceResponse.countsAsSuccess := by
  cases l with
  | finish q k now result =>
    simp only [Label.toCall, reportOf, Label.result, closureResult_toAnyhow]
    split <;> rfl
  | _ => rfl

/-- A peer's step tells its breaker about the call that it ends. -/
theorem aloneTold_step {ops : Breaker.Ops B} {classifier : ErrorClassifier}
    {v w : Calls.Alone (B × List Bool) Response} {l : Calls.Label Peer Response}
    (h : Calls.Alone.step ops.recording classifier v l = some w) :
    aloneTold w = aloneTold v ++ reportOf classifier l.peer l := by
  cases l with
  | obtain p =>
    cases h
    cases hb : v.breaker <;>
      simp [aloneTold, reportOf, Breaker.Ops.recording, hb]
  | allow p k now =>
    simp only [Calls.Alone.step] at h
    split at h
    · rename_i b _ hb
      cases h
      simp [aloneTold, reportOf, Breaker.Ops.recording, hb]
    · cases h
  | finish p k now outcome =>
    simp only [Calls.Alone.step] at h
    split at h
    · rename_i b _ hb
      cases h
      simp [aloneTold, reportOf, Calls.Label.peer, Breaker.Ops.recording, hb]
    · cases h

/-- **One step tells one breaker** about the call that it ends, and nothing else. -/
theorem told_of_moves (ops : Breaker.Ops B) (p : Peer) {classifier : ErrorClassifier}
    {s t : Calls.State Peer (B × List Bool) Response} {l : Calls.Label Peer Response}
    (hs : Calls.Inv s) (hm : Calls.Moves ops.recording classifier s l t) :
    told ops p t = told ops p s ++ reportOf classifier p l := by
  rw [told_eq_view, told_eq_view]
  by_cases hp : l.peer = p
  · subst hp
    exact aloneTold_step (Calls.view_own hm hs)
  · rw [reportOf_of_ne hp, List.append_nil, Calls.view_other hm hs hp]

theorem told_step (ops : Breaker.Ops B) (p : Peer)
    {s t : Calls.State Peer (B × List Bool) Response} {l : Label Peer} (hs : Calls.Inv s)
    (h : (machine ops).step s l = some t) :
    told ops p t = told ops p s ++ (l.result p).map ResourceResponse.countsAsSuccess := by
  rw [told_of_moves ops p hs (moves_of_step h), reportOf_toCall]

/-! ## What the client is told -/

/-- The response has the severity of the callback's error. -/
def KeepsSeverity (result : ResourceResponse) (response : Option ResourceResponse) : Prop :=
  ∀ e, result = .error e → ∃ e', response = some (.error e') ∧ e'.severity = e.severity

omit [DecidableEq Peer] in
theorem keepsSeverity_passedOn (peerId : String) (result : ResourceResponse) :
    KeepsSeverity result (some (passedOn .default peerId result)) := by
  rintro e rfl
  have hpassed : passedOn .default peerId (.error e) = .error e.wrapped := by
    rw [passedOn_error, wrappedBy_default]
  exact ⟨e.wrapped, congrArg some hpassed, rfl⟩

omit [DecidableEq Peer] in
theorem response_eq_some {peerId : Peer → String} {p : Peer} {k : Nat}
    {s : Calls.State Peer (B × List Bool) Response} {resp : ResourceResponse} :
    response peerId p k s = some resp ↔ ∃ h r, (s.calls p)[k]? = some ⟨h, .returned r⟩ ∧
      ResourceResponse.ofCall (peerId p) r = resp := by
  rw [response]
  rcases (s.calls p)[k]? with _ | ⟨h, _ | _ | r⟩ <;> simp

/-- A call that is over stays as it is. -/
theorem returned_step {ops : Breaker.Ops B} {p : Peer} {k h : Nat}
    {s t : Calls.State Peer (B × List Bool) Response} {r : Except BreakerError Response}
    {l : Calls.Label Peer Response} (hm : Calls.Moves ops.recording .default s l t)
    (hk : (s.calls p)[k]? = some ⟨h, .returned r⟩) :
    (t.calls p)[k]? = some ⟨h, .returned r⟩ := by
  have keep : ∀ (q : Peer) (k' h' : Nat) (ph ph' : Calls.Phase Response) (b : B × List Bool),
      (s.calls q)[k']? = some ⟨h', ph⟩ → ph ≠ .returned r →
      ((s.setCall q k' h' ph' b).calls p)[k]? = some ⟨h, .returned r⟩ := by
    intro q k' h' ph ph' b hk' hne
    by_cases hq : q = p
    · subst hq
      have hphase : (⟨h', ph⟩ : Calls.Call Response) ≠ ⟨h, .returned r⟩ :=
        fun he ↦ hne (congrArg Calls.Call.phase he)
      simp only [Calls.State.setCall, Function.update_self]
      exact List.getElem?_set_other hk hk' hphase
    · simp only [Calls.State.setCall, Function.update_of_ne (Ne.symm hq)]
      exact hk
  cases hm with
  | @obtain q =>
    by_cases hq : q = p
    · subst hq
      simp only [Function.update_self]
      exact List.getElem?_concat_of_some hk
    · simp only [Function.update_of_ne (Ne.symm hq)]
      exact hk
  | allow hk' | finish hk' => exact keep _ _ _ _ _ _ hk' (by simp)

/-- The response to a call whose callback has returned. -/
theorem response_finish {ops : Breaker.Ops B} (peerId : Peer → String) {p : Peer} {k now : Nat}
    {s t : Calls.State Peer (B × List Bool) Response} {result : ResourceResponse}
    (h : (machine ops).step s (.finish p k now result) = some t) :
    KeepsSeverity result (response peerId p k t) := by
  have hm := moves_of_step h
  cases hm with
  | @finish _ _ _ handle _ hk =>
    have hreturned : response peerId p k (s.setCall p k handle
        (.ofOutcome .default (result.mapError ResourceError.toAnyhow))
        (ops.recording.record (s.shared.heap handle) now
          (closureResult .default (result.mapError ResourceError.toAnyhow)).toBool)) =
        some (.ofCall (peerId p) (unwrapResult (breakerResult
          (closureResult .default (result.mapError ResourceError.toAnyhow))))) := by
      refine response_eq_some.mpr ⟨handle, _, ?_, rfl⟩
      simp only [Calls.State.setCall, Function.update_self]
      exact List.getElem?_set_of_some hk
    rw [hreturned]
    exact keepsSeverity_passedOn (peerId p) result

/-- A response stays. -/
theorem keepsSeverity_step {ops : Breaker.Ops B} {peerId : Peer → String} {p : Peer} {k : Nat}
    {s t : Calls.State Peer (B × List Bool) Response} {l : Label Peer} {result : ResourceResponse}
    (hr : KeepsSeverity result (response peerId p k s)) (h : (machine ops).step s l = some t) :
    KeepsSeverity result (response peerId p k t) := by
  intro e he
  obtain ⟨e', hresponse, hseverity⟩ := hr e he
  obtain ⟨handle, r, hk, hof⟩ := response_eq_some.mp hresponse
  have hk' := returned_step (moves_of_step h) hk
  exact ⟨e', response_eq_some.mpr ⟨handle, r, hk', hof⟩, hseverity⟩

/-! ## The accounts -/

/-- **Severity accounting.**  In every run the breaker of a peer is told of exactly the calls whose
callback returned, in that order, and a call is a failure exactly if its error's severity is not
the application's; and the response to a callback's error has the severity of that error. -/
theorem severity_accounting (ops : Breaker.Ops B) (peerId : Peer → String) (p : Peer)
    (ls : List (Label Peer)) (s : Calls.State Peer (B × List Bool) Response)
    (hs : (machine ops).run ls = some s) :
    told ops p s = (ls.flatMap (Label.result p)).map ResourceResponse.countsAsSuccess ∧
      ∀ k now result, Label.finish p k now result ∈ ls →
        KeepsSeverity result (response peerId p k s) := by
  constructor
  · have htold := Machine.trace_of_run (I := Calls.Inv) (f := told ops p)
      (fun _ _ _ ↦ inv_step) (fun _ _ _ hs ht ↦ told_step ops p hs ht) (inv_init ops) hs
    rw [htold, List.map_flatMap]
    rfl
  · intro k now result hl
    refine Machine.holds_of_mem_run (I := Calls.Inv)
      (P := fun s ↦ KeepsSeverity result (response peerId p k s)) ?_ ?_ ?_ (inv_init ops) hl hs
    · exact fun s t _ ht ↦ response_finish peerId ht
    · exact fun s l t _ hr ht ↦ keepsSeverity_step hr ht
    · exact fun s l t ↦ inv_step

/-- Two calls of one peer: a missing user, and a database that is down. -/
def twoCalls : List (Label Unit) :=
  [.obtain (), .obtain (), .allow () 0 0, .allow () 1 0,
    .finish () 1 1 (.error (.callbackError "database down" .systemFailure none)),
    .finish () 0 2 (.error (.callbackError "no such user" .application none))]

/-- The second one counts as a failure, and it ends first. -/
theorem severity_accounting_twoCalls : ∃ s, (machine standardOps).run twoCalls = some s ∧
    told standardOps () s = [false, true] := by
  obtain ⟨s, hs⟩ : ∃ s, (machine standardOps).run twoCalls = some s := ⟨_, rfl⟩
  exact ⟨s, hs, (severity_accounting standardOps (fun _ ↦ "peer") () twoCalls s hs).1⟩

end RpcCalls

end Zel
