import Zel.Handlers
import Zel.ApplicationErrors

/-!
# Requests of a peer whose circuit is open

While a peer's circuit is open and its cooldown lasts, its requests are supposed to be rejected.
`handle_stream` hands the breakers to `handle_rpc` only; the three handlers that open a stream never
ask them.

Between the dispatch of a request and the moment at which `handle_rpc` asks the breaker, the request
middleware runs, and the calls of this and of other peers go on.  They cannot end an open circuit
before its cooldown is over (`openSince_of_run`), but the middleware may take longer than that, and
then the breaker may let the call through.

## What is here

* `Asks` — the answers that a handling gets are those of the peer's breaker.
* `open_circuit_rejects_iff` — **an open circuit rejects** a request if and only if its resource is
  an Rpc whose breaker is asked in time, or refuses it all the same, or the stream it needs cannot
  be set up, and the response can be written.
* `open_circuit_admits_subscription` — the callback of a subscription runs although the circuit is
  open.
* `open_circuit_admits_slow` — so does the callback of an Rpc behind slow middleware.
-/

set_option autoImplicit false

namespace Zel

open Breaker

/-! ## An open circuit lasts -/

namespace Calls

variable {Peer B T : Type} [DecidableEq Peer] {ops : Ops B} {classifier : ErrorClassifier}

/-- The step is taken at this time or before. -/
def Label.NoLater (end_ : Nat) : Label Peer T → Prop
  | .obtain _ => True
  | .allow _ _ now => now ≤ end_
  | .finish _ _ now _ => now ≤ end_

/-- The step is taken before this time. -/
def Label.Before (end_ : Nat) : Label Peer T → Prop
  | .obtain _ => True
  | .allow _ _ now => now < end_
  | .finish _ _ now _ => now < end_

omit [DecidableEq Peer] in
theorem Label.NoLater.before {lab : Label Peer T} {now end_ : Nat} (h : lab.NoLater now)
    (hend : now < end_) : lab.Before end_ := by
  cases lab with
  | obtain => trivial
  | _ => exact Nat.lt_of_le_of_lt h hend

/-- The peer's circuit is open since this time. -/
def OpenSince (openSince : B → Nat → Prop) (p : Peer) (since : Nat) (s : State Peer B T) : Prop :=
  ∃ b, (view p s).breaker = some b ∧ openSince b since

section Lasts

variable {openSince : B → Nat → Prop} {cooldown end_ : Nat} {p : Peer} {since : Nat}

/-- **A step before the end of the cooldown** leaves an open circuit open. -/
theorem Moves.stays_open (ho : ops.OpenBreakers cooldown openSince) {s t : State Peer B T}
    {lab : Label Peer T} (hm : Moves ops classifier s lab t) (hs : Inv s)
    (hopen : OpenSince openSince p since s) (hb : lab.Before end_)
    (hend : end_ ≤ since + cooldown) :
    ∃ since', since ≤ since' ∧ OpenSince openSince p since' t := by
  by_cases hl : lab.peer = p
  · subst hl
    have hown := view_own hm hs
    obtain ⟨b, hbreaker, hb'⟩ := hopen
    cases lab with
    | obtain p =>
      simp only [Alone.step, hbreaker, Option.getD_some, Option.some_inj] at hown
      exact ⟨since, Nat.le_refl since, b, by rw [← hown], hb'⟩
    | allow p k now =>
      simp only [Alone.step, hbreaker] at hown
      split at hown
      · rename_i b₀ _ hb₀
        obtain rfl : b₀ = b := (Option.some_inj.mp hb₀).symm
        rw [Option.some_inj] at hown
        exact ⟨since, Nat.le_refl since, _, by rw [← hown],
          ho.asked hb' (Nat.lt_of_lt_of_le hb hend)⟩
      · cases hown
    | finish p k now outcome =>
      simp only [Alone.step, hbreaker] at hown
      split at hown
      · rename_i b₀ _ hb₀
        obtain rfl : b₀ = b := (Option.some_inj.mp hb₀).symm
        rw [Option.some_inj] at hown
        -- a call that was admitted before the circuit opened
        obtain ⟨since', hle, hopen'⟩ := ho.late hb' now (closureResult classifier outcome).toBool
        exact ⟨since', hle, _, by rw [← hown], hopen'⟩
      · cases hown
  · refine ⟨since, Nat.le_refl since, ?_⟩
    unfold OpenSince
    rw [view_other hm hs hl]
    exact hopen

/-- **Whatever calls go on**, an open circuit is open until its cooldown is over. -/
theorem openSince_of_run (ho : ops.OpenBreakers cooldown openSince) {s t : State Peer B T}
    {ls : List (Label Peer T)} (hs : Inv s) (hopen : OpenSince openSince p since s)
    (hls : (machine ops classifier).runFrom s ls = some t) (hb : ∀ lab ∈ ls, lab.Before end_)
    (hend : end_ ≤ since + cooldown) :
    ∃ since', since ≤ since' ∧ OpenSince openSince p since' t := by
  induction ls generalizing s since with
  | nil =>
    rw [Machine.runFrom_nil, Option.some_inj] at hls
    exact ⟨since, Nat.le_refl since, hls ▸ hopen⟩
  | cons lab ls ih =>
    obtain ⟨u, hu, hls'⟩ := Machine.runFrom_cons_eq_some.mp hls
    have hm := moves_of_step hu
    obtain ⟨since', hle, hopen'⟩ := hm.stays_open ho hs hopen (hb lab List.mem_cons_self) hend
    obtain ⟨since'', hle', hopen''⟩ := ih (hm.inv hs) hopen' hls'
      (fun lab' hlab ↦ hb lab' (List.mem_cons_of_mem _ hlab)) (by omega)
    exact ⟨since'', Nat.le_trans hle hle', hopen''⟩

end Lasts

end Calls

/-! ## What a handling does -/

namespace Handling

variable {services : ServiceMap} {peerId : String}

/-- Where `handle_rpc` asks the breakers about its peer, the answer is that of the peer's breaker at
this time. -/
def Asks {Peer B : Type} (ops : Ops B) (h : Handling services peerId)
    (breakers : PeerCircuitBreakers Peer B) (p : Peer) (now : Nat) : Prop :=
  ∀ ok, HandleEvent.admitted ok ∈ h.events → ok = (ops.allow (breakers.breaker ops p) now).1

/-- The last response is written, or not. -/
theorem finishes_responding {request : Request} {r : ResourceResponse} {evs : List HandleEvent}
    {effs : List HandleEffect} (h : Finishes services peerId request (.responding r) evs effs) :
    evs = [.sent true] ∧ effs = [.respond r] ∨ evs = [.sent false] ∧ effs = [] := by
  cases h with
  | step hmove hrest =>
    cases hmove with
    | responded => cases hrest with
      | done => exact Or.inl ⟨rfl, rfl⟩
      | step hmove' => cases hmove'
    | respondFail => cases hrest with
      | done => exact Or.inr ⟨rfl, rfl⟩
      | step hmove' => cases hmove'

/-- An Rpc request opens no stream. -/
theorem rpc_request {h : Handling services peerId} (hkind : h.resource.streamKind = none) :
    ¬ h.StreamFailed ∧ ((h.NoCallback ∧ h.ErrorResponse) ↔
      HandleEvent.admitted true ∉ h.events ∧ h.Responded) := by
  have hfin := h.finishes
  unfold NoCallback ErrorResponse StreamFailed Responded
  obtain ⟨cb, hcb⟩ : ∃ cb, h.resource = .rpc cb := by
    cases hr : h.resource with
    | rpc cb => exact ⟨cb, rfl⟩
    | _ => rw [hr] at hkind; cases hkind
  rw [hcb] at hfin
  generalize h.events = evs at hfin ⊢
  generalize h.effects = effs at hfin ⊢
  cases hfin with
  | step hmove hrest =>
    cases hmove with
    | prepareFail => cases hrest with
      | done => simp
      | step hmove' => cases hmove'
    | prepared => cases hrest with
      | step hmove hrest =>
        cases hmove with
        | rejected =>
          rcases finishes_responding hrest with ⟨rfl, rfl⟩ | ⟨rfl, rfl⟩ <;> simp
        | admitted => cases hrest with
          | step hmove hrest =>
            cases hmove with
            | returned =>
              rcases finishes_responding hrest with ⟨rfl, rfl⟩ | ⟨rfl, rfl⟩ <;> simp
            | panicked => cases hrest with
              | done => simp
              | step hmove' => cases hmove'

/-- A request that needs a stream: it is rejected only when the stream cannot be set up. -/
theorem stream_request {h : Handling services peerId} {k : StreamKind}
    (hkind : h.resource.streamKind = some k) :
    (h.NoCallback ∧ h.ErrorResponse) ↔ h.StreamFailed ∧ h.Responded := by
  have hfin := h.finishes
  unfold NoCallback ErrorResponse StreamFailed Responded
  obtain ⟨cb, hcb⟩ : ∃ cb, dispatch (.ok h.resource) = .opening k cb := by
    cases hr : h.resource with
    | rpc cb => rw [hr] at hkind; cases hkind
    | _ cb => rw [hr] at hkind; cases hkind; exact ⟨cb, rfl⟩
  rw [hcb] at hfin
  generalize h.events = evs at hfin ⊢
  generalize h.effects = effs at hfin ⊢
  cases hfin with
  | step hmove hrest =>
    cases hmove with
    | openFail =>
      rcases finishes_responding hrest with ⟨rfl, rfl⟩ | ⟨rfl, rfl⟩ <;> simp
    | opened => cases hrest with
      | step hmove hrest =>
        cases hmove with
        | labelFail =>
          rcases finishes_responding hrest with ⟨rfl, rfl⟩ | ⟨rfl, rfl⟩ <;> simp
        | labelled => cases hrest with
          | step hmove hrest =>
            cases hmove with
            | acceptFail => cases hrest with
              | done => simp
              | step hmove' => cases hmove'
            | accepted => cases hrest with
              | step hmove hrest =>
                cases hmove with
                | spawned => cases hrest with
                  | done => simp
                  | step hmove' => cases hmove'

/-- A request that asks its breaker and is not let through has asked and was refused. -/
theorem responded_of_not_admitted {h : Handling services peerId}
    (hkind : h.resource.streamKind = none) (hno : HandleEvent.admitted true ∉ h.events)
    (hsent : h.Responded) : HandleEvent.admitted false ∈ h.events := by
  have hfin := h.finishes
  unfold Responded at hsent
  obtain ⟨cb, hcb⟩ : ∃ cb, h.resource = .rpc cb := by
    cases hr : h.resource with
    | rpc cb => exact ⟨cb, rfl⟩
    | _ => rw [hr] at hkind; cases hkind
  rw [hcb] at hfin
  generalize h.events = evs at hfin hno hsent ⊢
  generalize h.effects = effs at hfin
  cases hfin with
  | step hmove hrest =>
    cases hmove with
    | prepareFail => cases hrest with
      | done => simp at hsent
      | step hmove' => cases hmove'
    | prepared => cases hrest with
      | step hmove hrest =>
        cases hmove with
        | rejected => simp
        | admitted => simp at hno

end Handling

/-! ## Open circuits -/

section OpenCircuit

open Calls

variable {Peer B T : Type} [DecidableEq Peer] {services : ServiceMap} {peerId : String}

omit [DecidableEq Peer] in
/-- The breaker of a peer whose circuit is open. -/
theorem breaker_of_openSince {ops : Ops B} {openSince : B → Nat → Prop} {s : State Peer B T}
    {p : Peer} {since : Nat} (h : OpenSince openSince p since s) :
    openSince (s.shared.breaker ops p) since := by
  obtain ⟨b, hb, hopen⟩ := h
  obtain ⟨handle, hp, hheap⟩ := Option.map_eq_some_iff.mp hb
  rw [PeerCircuitBreakers.breaker, hp]
  change openSince (s.shared.heap handle) since
  rwa [hheap]

/-- **When an open circuit rejects.**  A peer's circuit is open when a request of the peer is
dispatched, any calls of any peers go on, and then the request's handler asks its breaker, if it
does.  The request ends without a callback and with an error response if and only if its resource is
an Rpc and its breaker is asked before the cooldown is over, or refuses it later, or its stream
could not be set up, and the response could be written. -/
theorem open_circuit_rejects_iff (ops : Ops B) (config : CircuitBreakerConfig)
    {openSince : B → Nat → Prop} (ho : ops.OpenBreakers config.timeout openSince)
    {s t : State Peer B T} {ls : List (Label Peer T)} {p : Peer} {since asked : Nat}
    (hs : (machine ops config.errorClassifier).Reachable s) (hopen : OpenSince openSince p since s)
    (hls : (machine ops config.errorClassifier).runFrom s ls = some t)
    (hclock : ∀ lab ∈ ls, lab.NoLater asked) (h : Handling services peerId)
    (hask : h.Asks ops t.shared p asked) :
    (h.NoCallback ∧ h.ErrorResponse) ↔
      (h.resource.streamKind = none ∧ (asked < since + config.timeout ∨
          (ops.allow (t.shared.breaker ops p) asked).1 = false) ∨ h.StreamFailed) ∧
        h.Responded := by
  have hrefused (hin : asked < since + config.timeout) :
      (ops.allow (t.shared.breaker ops p) asked).1 = false := by
    obtain ⟨since', hle, hopen'⟩ := openSince_of_run ho (inv_of_reachable hs) hopen hls
      (fun lab hlab ↦ (hclock lab hlab).before hin) (Nat.le_refl _)
    exact ho.rejects (breaker_of_openSince hopen') (by omega)
  cases hkind : h.resource.streamKind with
  | none =>
    obtain ⟨hstream, hrejected⟩ := Handling.rpc_request hkind
    rw [hrejected]
    constructor
    · rintro ⟨hno, hsent⟩
      have hasked := Handling.responded_of_not_admitted hkind hno hsent
      exact ⟨Or.inl ⟨rfl, Or.inr (hask false hasked).symm⟩, hsent⟩
    · rintro ⟨⟨-, hcase⟩ | hfail, hsent⟩
      · refine ⟨fun hadmitted ↦ ?_, hsent⟩
        have hallow := hask true hadmitted
        rw [hcase.elim hrefused id] at hallow
        cases hallow
      · exact absurd hfail hstream
  | some k =>
    rw [Handling.stream_request hkind]
    constructor
    · rintro ⟨hfail, hsent⟩
      exact ⟨Or.inr hfail, hsent⟩
    · rintro ⟨⟨hkind', -⟩ | hfail, hsent⟩
      · cases hkind'
      · exact ⟨hfail, hsent⟩

/-- One call of the peer, which fails. -/
def trippedRun : List (Label Unit Response) :=
  [.obtain (), .allow () 0 0, .finish () 0 1 (.error (AnyhowError.msg "db").asSystemFailure)]

/-- The breakers after it. -/
def tripped : State Unit Circuit Response :=
  ((machine (documented anyLimits sensitive) .default).run trippedRun).getD
    ⟨PeerCircuitBreakers.new (documented anyLimits sensitive), fun _ ↦ []⟩

/-- An Rpc request is rejected. -/
def rejectedPing : Handling (oneResource (.rpc 0)) "peer" :=
  ⟨ping, .rpc 0, rfl, [.prepared, .admitted false, .sent true],
    [.respond (.error (.circuitBreakerOpen "peer"))], rfl⟩

/-- A subscription request is served. -/
def servedPing : Handling (oneResource (.subscriptionProducer 0)) "peer" :=
  ⟨ping, .subscriptionProducer 0, rfl, [.opened true, .labelled (.ok ()), .sent true, .spawn],
    [.openStream .uni, .writeLabel (.subscriptionEstablished "demo" "ping"), .respond (.ok ⟨[]⟩),
      .spawnCallback .subscription 0], rfl⟩

/-- An Rpc request is let through. -/
def probingPing : Handling (oneResource (.rpc 0)) "peer" :=
  ⟨ping, .rpc 0, rfl, [.prepared, .admitted true, .returned (.ok ⟨[]⟩), .sent true],
    [.startCallback 0, .respond (.ok ⟨[]⟩)], rfl⟩

theorem openSince_tripped : OpenSince (fun c since ↦ c = .opened since) () 1 tripped :=
  ⟨.opened 1, rfl, rfl⟩

/-- The Rpc request, one instant after the failure. -/
theorem open_circuit_rejects_ping : rejectedPing.NoCallback ∧ rejectedPing.ErrorResponse := by
  have hrun : (machine (documented anyLimits sensitive) sensitive.errorClassifier).run trippedRun =
      some tripped := rfl
  have hask : rejectedPing.Asks (documented anyLimits sensitive) tripped.shared () 2 := by
    intro ok hok
    have hfalse : ok = false := by simpa [rejectedPing] using hok
    subst hfalse
    rfl
  exact (open_circuit_rejects_iff (documented anyLimits sensitive) sensitive
    (openBreakers_documented anyLimits sensitive) ⟨trippedRun, hrun⟩ openSince_tripped
    (Machine.runFrom_nil tripped) (by simp) rejectedPing hask).mpr
    ⟨Or.inl ⟨rfl, Or.inl (by decide)⟩, by simp [rejectedPing, Handling.Responded]⟩

/-- **The callback of a subscription runs although the circuit is open.** -/
theorem open_circuit_admits_subscription :
    (machine (documented anyLimits sensitive) sensitive.errorClassifier).run trippedRun =
        some tripped ∧ OpenSince (fun c since ↦ c = .opened since) () 1 tripped ∧
      2 < 1 + sensitive.timeout ∧
      servedPing.Asks (documented anyLimits sensitive) tripped.shared () 2 ∧
      ¬ servedPing.NoCallback ∧ ¬ servedPing.ErrorResponse := by
  refine ⟨rfl, openSince_tripped, by decide, ?_, fun hno ↦ ?_, ?_⟩
  · intro ok hok
    simp [servedPing] at hok
  · exact hno.2 .subscription 0 (by simp [servedPing])
  · rintro ⟨e, he⟩
    simp [servedPing] at he

/-- **The callback of an Rpc runs although the circuit is open when the request is dispatched**, if
the middleware keeps the request until the cooldown is over. -/
theorem open_circuit_admits_slow :
    probingPing.Asks (documented anyLimits sensitive) tripped.shared () (1 + sensitive.timeout) ∧
      ¬ probingPing.NoCallback ∧ ¬ probingPing.ErrorResponse := by
  refine ⟨?_, fun hno ↦ hno.1 0 (by simp [probingPing]), ?_⟩
  · intro ok hok
    have htrue : ok = true := by simpa [probingPing] using hok
    subst htrue
    rfl
  · rintro ⟨e, he⟩
    simp [probingPing] at he

end OpenCircuit

end Zel
