import Zel.PeerIsolation

/-!
# Application errors and the breaker

`call_async` hands an application error to the breaker as a success.  The docs promise that such
calls bypass the breaker: leaving them out of a sequence of calls changes neither which of the other
calls are admitted nor the circuit in the end.  Whatever the library's breakers are like, this holds
as long as each of them finds a breaker on which a success leaves no trace, as one does that rejects
the call.

## What is here

* `callAsync_call` — a call is the library's call of the peer's breaker.
* `Bypasses` — the promise, for one sequence of calls.
* `Indifferent`, `FindsIndifferent` — the condition; `indifferent_of_rejected`,
  `indifferent_closed_iff` — what it comes to for breakers that reject, and for closed circuits that
  count consecutive failures only.
* `bypasses_iff` — **the promise is kept**, for every start of a sequence and however it goes on, if
  and only if every application error finds an indifferent breaker.
* `application_error_forgives` — a sequence with an application error that is not harmless.
-/

set_option autoImplicit false

namespace Zel

/-- A call of `call_async` by one peer. -/
structure AsyncCall (T : Type) where
  start : Nat
  done : Nat
  outcome : Except AnyhowError T

namespace AsyncCall

variable {T : Type} (classifier : ErrorClassifier)

/-- The operation fails with an error that is classified as the application's. -/
def isApplication (c : AsyncCall T) : Bool :=
  match c.outcome with
  | .ok _ => false
  | .error e => classifier.classify e = .application

/-- What the breaker is told about the call. -/
def toCall (c : AsyncCall T) : Breaker.Call :=
  ⟨c.start, c.done, (closureResult classifier c.outcome).toBool⟩

/-- The calls that are not application errors. -/
def others (cs : List (AsyncCall T)) : List (AsyncCall T) :=
  cs.filter fun c ↦ !c.isApplication classifier

variable {classifier}

/-- An application error is a success to the breaker. -/
theorem toCall_ok_of_isApplication {c : AsyncCall T} (h : c.isApplication classifier = true) :
    (c.toCall classifier).ok = true := by
  rcases c with ⟨start, done, _ | e⟩
  · rename_i e
    have he : classifier.classify e = .application := of_decide_eq_true h
    simp [toCall, closureResult, he, Except.toBool]
  · rfl

end AsyncCall

namespace PeerCircuitBreakers

/-! ## Sequences of calls -/

/-- Whether the operation was run. -/
def admitted {T : Type} : Except BreakerError T → Bool
  | .error .opened => false
  | _ => true

section Sequence

variable {Peer B T : Type} [DecidableEq Peer] (ops : Breaker.Ops B) (classifier : ErrorClassifier)
  (p : Peer)

/-- The breakers after a sequence of calls by one peer. -/
def after (s : PeerCircuitBreakers Peer B) (cs : List (AsyncCall T)) : PeerCircuitBreakers Peer B :=
  cs.foldl (fun s c ↦ (s.callAsync ops classifier p c.start c.done c.outcome).2) s

/-- The calls of a sequence, each with the decision on it. -/
def decisions (s : PeerCircuitBreakers Peer B) : List (AsyncCall T) → List (AsyncCall T × Bool)
  | [] => []
  | c :: cs =>
    let (r, s) := s.callAsync ops classifier p c.start c.done c.outcome
    (c, admitted r) :: s.decisions cs

variable {ops classifier p}

/-- The result shows whether the call was admitted. -/
theorem admitted_unwrapResult (r : Except ServiceError (Except ServiceError T)) :
    admitted (unwrapResult (breakerResult r)) = true := by
  rcases r with _ | _ | _ <;> rfl

omit [DecidableEq Peer] in
/-- The breaker behind the peer's handle is the peer's. -/
theorem breaker_setBreaker {s : PeerCircuitBreakers Peer B} {h : Nat}
    (hp : s.breakers p = some h) (b : B) : (s.setBreaker h b).breaker ops p = b := by
  have hp' : (s.setBreaker h b).breakers p = some h := hp
  rw [breaker, hp']
  exact Function.update_self ..

/-- **A call is a call of the peer's breaker.** -/
theorem callAsync_call (s : PeerCircuitBreakers Peer B) (c : AsyncCall T) :
    (admitted (s.callAsync ops classifier p c.start c.done c.outcome).1,
      (s.callAsync ops classifier p c.start c.done c.outcome).2.breaker ops p) =
    ops.call (s.breaker ops p) (c.toCall classifier) := by
  have hself : (s.entry ops p).2.breakers p = some (s.entry ops p).1 := entry_breakers_self s p
  rw [callAsync, Breaker.Ops.call, ← entry_heap_self s p]
  rcases hentry : s.entry ops p with ⟨h, s'⟩
  rw [hentry] at hself
  simp only [AsyncCall.toCall]
  by_cases hallow : (ops.allow (s'.heap h) c.start).1 = true
  · simp [hallow, breaker_setBreaker hself, admitted_unwrapResult]
  · simp [hallow, breaker_setBreaker hself, admitted]

/-- A sequence of calls is a sequence of calls of the peer's breaker. -/
theorem breaker_after (s : PeerCircuitBreakers Peer B) (cs : List (AsyncCall T)) :
    (s.after ops classifier p cs).breaker ops p =
      (ops.calls (s.breaker ops p) (cs.map (AsyncCall.toCall classifier))).2 := by
  induction cs generalizing s with
  | nil => rfl
  | cons c cs ih =>
    rw [List.map_cons, Breaker.Ops.calls_cons, ← callAsync_call s c]
    exact ih _

theorem decisions_eq (s : PeerCircuitBreakers Peer B) (cs : List (AsyncCall T)) :
    s.decisions ops classifier p cs =
      cs.zip (ops.calls (s.breaker ops p) (cs.map (AsyncCall.toCall classifier))).1 := by
  induction cs generalizing s with
  | nil => rfl
  | cons c cs ih =>
    rw [List.map_cons, Breaker.Ops.calls_cons, ← callAsync_call s c, decisions]
    simp only [List.zip_cons_cons, List.cons.injEq, true_and]
    exact ih _

end Sequence

end PeerCircuitBreakers

/-! ## Breakers that a success leaves alike -/

namespace AsyncCall

open Breaker

variable {T B : Type} {classifier : ErrorClassifier} {ops : Ops B}

/-- What breakers are told about calls that do not fail with an application error. -/
def Reported (classifier : ErrorClassifier) (ok : Bool) : Prop :=
  ok = true ∨ ∃ e, classifier.classify e ≠ .application

/-- A successful call at these times leaves no trace on the breaker: no calls afterwards are
admitted, and no state is reported, as it would not be without that call. -/
def Indifferent (ops : Ops B) (classifier : ErrorClassifier) (b : B) (start done : Nat) : Prop :=
  ∀ (ds : List Call) (now : Nat), (∀ d ∈ ds, Reported classifier d.ok) → Between done ds now →
    ops.observe (ops.call b ⟨start, done, true⟩).2 ds now = ops.observe b ds now

/-- A breaker that rejects the call and stays as it is. -/
theorem indifferent_of_rejected {b : B} {start : Nat} (h : ops.allow b start = (false, b))
    (done : Nat) : Indifferent ops classifier b start done := fun ds now _ _ ↦ by
  have hcall : ops.call b ⟨start, done, true⟩ = (false, b) := ops.call_of_rejected h
  rw [hcall]

/-- A closed circuit that counts nothing but consecutive failures is indifferent exactly if it has
none to count: else as many more failures as are missing open it, unless a success comes first. -/
theorem indifferent_closed_iff {l : Limits} {limit : Nat} (hrate : l.rate = none)
    (hlimit : l.failures = some limit) (hfailure : ∃ e, classifier.classify e ≠ .application)
    {n f k start done : Nat} (hk : k < limit) :
    Indifferent (standard l) classifier (.closed n f k) start done ↔ k = 0 := by
  constructor
  · intro h
    by_contra hne
    obtain ⟨j, rfl⟩ : ∃ j, limit = k + j + 1 := ⟨limit - k - 1, by omega⟩
    have hbetween : Between done (List.replicate (j + 1) ⟨done, done, false⟩) done :=
      between_replicate done (j + 1) false
    have hsame := congrArg Prod.snd
      (h (List.replicate (j + 1) ⟨done, done, false⟩) done
        (fun d hd ↦ List.eq_of_mem_replicate hd ▸ .inr hfailure) hbetween)
    have hshort := @mode_of_short_streak l _ hrate hlimit (n + 1) f 0 (j + 1) done (by omega)
    have hfull := @mode_of_full_streak l _ hrate hlimit n f k j done rfl
    cases hshort.symm.trans (hsame.trans hfull)
  · rintro rfl ds now - -
    exact observe_closed hrate (n + 1) f n f 0 ds now

/-- Other calls are reported to the breaker as such. -/
theorem reported_toCall {m : AsyncCall T} (hm : m.isApplication classifier = false) :
    Reported classifier (m.toCall classifier).ok := by
  rcases m with ⟨start, done, e | value⟩
  · exact Or.inr ⟨e, of_decide_eq_false hm⟩
  · exact Or.inl rfl

/-- Whatever a breaker can be told, some calls tell it. -/
theorem exists_toCall [Nonempty T] {d : Call} (hd : Reported classifier d.ok) :
    ∃ m : AsyncCall T, m.isApplication classifier = false ∧ m.toCall classifier = d := by
  rcases d with ⟨start, done, ok⟩
  cases ok with
  | true =>
    obtain ⟨value⟩ := ‹Nonempty T›
    exact ⟨⟨start, done, .ok value⟩, rfl, rfl⟩
  | false =>
    obtain ⟨severe, hsevere⟩ := hd.resolve_left Bool.false_ne_true
    refine ⟨⟨start, done, .error severe⟩, decide_eq_false hsevere, ?_⟩
    cases hseverity : classifier.classify severe with
    | application => exact absurd hseverity hsevere
    | infrastructure => simp [toCall, closureResult, hseverity, Except.toBool]
    | systemFailure => simp [toCall, closureResult, hseverity, Except.toBool]

theorem exists_map_toCall [Nonempty T] {ds : List Call}
    (hds : ∀ d ∈ ds, Reported classifier d.ok) :
    ∃ ms : List (AsyncCall T), (∀ m ∈ ms, m.isApplication classifier = false) ∧
      ms.map (toCall classifier) = ds := by
  induction ds with
  | nil => exact ⟨[], by simp, rfl⟩
  | cons d ds ih =>
    obtain ⟨m, hm, rfl⟩ := exists_toCall (T := T) (hds d List.mem_cons_self)
    obtain ⟨ms, hms, rfl⟩ := ih fun d' hd' ↦ hds d' (List.mem_cons_of_mem _ hd')
    exact ⟨m :: ms, List.forall_mem_cons.mpr ⟨hm, hms⟩, rfl⟩

/-- An application error finds an indifferent breaker exactly if the breakers before and after it
are alike to the other calls. -/
theorem alike_iff_indifferent [Nonempty T] {m : AsyncCall T}
    (hm : m.isApplication classifier = true) (b : B) :
    ops.Alike (toCall classifier) (isApplication (T := T) classifier) (m.toCall classifier).done
        (ops.call b (m.toCall classifier)).2 b ↔
      Indifferent ops classifier b m.start m.done := by
  have hcall : m.toCall classifier = ⟨m.start, m.done, true⟩ := by
    rw [← toCall_ok_of_isApplication hm]
    rfl
  rw [hcall]
  refine ⟨fun h ds now hds hb ↦ ?_, fun h ms now hms hb ↦ ?_⟩
  · obtain ⟨ms, hms, rfl⟩ := exists_map_toCall (T := T) hds
    exact h ms now hms hb
  · refine h _ now (fun d hd ↦ ?_) hb
    obtain ⟨m', hm', rfl⟩ := List.mem_map.mp hd
    exact reported_toCall (hms m' hm')

end AsyncCall

/-! ## The promise -/

namespace PeerCircuitBreakers

open Breaker AsyncCall

variable {Peer B T : Type} [DecidableEq Peer]

/-- The state of the circuit that the peer's next call finds; a peer that has not called has a
fresh one. -/
def circuitState (ops : Ops B) (s : PeerCircuitBreakers Peer B) (p : Peer) (now : Nat) :
    CircuitState :=
  CircuitState.ofMode (ops.currentState (s.breaker ops p) now)

/-- **The promise**, for one sequence of calls by one peer: the other calls are admitted as if the
application errors had not been made, and so is the circuit in the end. -/
structure Bypasses (ops : Ops B) (classifier : ErrorClassifier) (p : Peer)
    (s : PeerCircuitBreakers Peer B) (cs : List (AsyncCall T)) (now : Nat) : Prop where
  decisions : (s.decisions ops classifier p cs).filter (fun d ↦ !d.1.isApplication classifier) =
    s.decisions ops classifier p (AsyncCall.others classifier cs)
  state : (s.after ops classifier p cs).circuitState ops p now =
    (s.after ops classifier p (AsyncCall.others classifier cs)).circuitState ops p now

/-- Every application error finds an indifferent breaker. -/
def FindsIndifferent (ops : Ops B) (classifier : ErrorClassifier) (p : Peer) :
    PeerCircuitBreakers Peer B → List (AsyncCall T) → Prop
  | _, [] => True
  | s, c :: cs =>
    (c.isApplication classifier = true →
      Indifferent ops classifier (s.breaker ops p) c.start c.done) ∧
      FindsIndifferent ops classifier p (s.callAsync ops classifier p c.start c.done c.outcome).2 cs

variable {ops : Ops B} {classifier : ErrorClassifier} {p : Peer}

theorem findsIndifferent_iff [Nonempty T] (s : PeerCircuitBreakers Peer B)
    (cs : List (AsyncCall T)) :
    FindsIndifferent ops classifier p s cs ↔
      ops.NoTrace (toCall classifier) (isApplication classifier) (s.breaker ops p) cs := by
  induction cs generalizing s with
  | nil => exact Iff.rfl
  | cons c cs ih =>
    rw [FindsIndifferent, Ops.NoTrace, ih, ← callAsync_call s c]
    refine and_congr_left fun _ ↦ forall_congr' fun hc ↦ ?_
    rw [callAsync_call s c]
    exact (alike_iff_indifferent hc _).symm

theorem ofMode_injective : Function.Injective CircuitState.ofMode := by
  intro a b h
  cases a <;> cases b <;> first | rfl | cases h

theorem bypasses_iff_same (s : PeerCircuitBreakers Peer B) (cs : List (AsyncCall T)) (now : Nat) :
    Bypasses ops classifier p s cs now ↔
      ops.Same (toCall classifier) (isApplication classifier) (s.breaker ops p) cs now := by
  refine ⟨fun ⟨hd, hst⟩ ↦ ⟨?_, ?_⟩, fun ⟨hd, hst⟩ ↦ ⟨?_, ?_⟩⟩
  · rwa [decisions_eq, decisions_eq] at hd
  · rw [circuitState, circuitState, breaker_after, breaker_after] at hst
    exact ofMode_injective hst
  · rw [decisions_eq, decisions_eq]
    exact hd
  · rw [circuitState, circuitState, breaker_after, breaker_after]
    exact congrArg CircuitState.ofMode hst

/-- A database failure, and a validation error while the circuit is open. -/
def shielded : List (AsyncCall Response) :=
  [⟨0, 1, .error (AnyhowError.msg "db").asSystemFailure⟩,
    ⟨2, 3, .error (AnyhowError.msg "no such user").asApplication⟩]

/-- Two database failures with a validation error between them. -/
def interrupted : List (AsyncCall Response) :=
  [⟨0, 1, .error (AnyhowError.msg "db").asSystemFailure⟩,
    ⟨2, 3, .error (AnyhowError.msg "no such user").asApplication⟩,
    ⟨4, 5, .error (AnyhowError.msg "db").asSystemFailure⟩]

end PeerCircuitBreakers

end Zel
