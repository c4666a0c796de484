import Zel.RpcExecution

/-!
# One response for each request

A client that has sent its request waits for one frame on the request stream.  Every path through
`handle_stream` ends in one attempt to write it, but the frame codec has a limit: a response whose
text is longer is refused, the refusal is logged, and the stream is dropped with nothing on it.  The
text of a response is several times the length of its data, since bytes are written as numbers.

The surroundings of one handler are whatever it waits for: whether its stream opens and its label
can be written, whether the request middleware comes to an end, whether the breaker lets the call
through, what the Rpc callback returns.  Behind a breaker that is not what is sent: an error is
wrapped, with a longer text and without its context.  The request stream takes every byte it is
given.

## What is here

* `Surroundings`, `handleStream` — one handler run to its end; `handleStream_eq` — it writes the
  answer that the request and the surroundings call for, if the codec takes it.
* `answers_once_iff` — **when exactly one readable frame is written.**
* `large_result_unanswered` — an Rpc result that the client never hears of.
-/

set_option autoImplicit false

namespace Zel

/-! ## A handler and its surroundings -/

/-- A peer's circuit breaker, when a call asks it. -/
structure Gate where
  /-- It lets the call through. -/
  admits : Bool
  classifier : ErrorClassifier

/-- What the surroundings of one handler do. -/
structure Surroundings where
  /-- `open_uni` or `open_bi` succeeds. -/
  opened : Bool
  /-- The write of the label, with the text of its error. -/
  labelled : Except String Unit
  /-- The request middleware returns, and does not panic. -/
  prepared : Bool
  gate : Option Gate
  /-- What the Rpc callback returns. -/
  result : ResourceResponse

/-- Nothing keeps the call from its callback. -/
def Surroundings.admitted (env : Surroundings) : Bool :=
  match env.gate with
  | some gate => gate.admits
  | none => true

/-- What `execute_rpc_with_circuit_breaker` returns when the callback has. -/
def Surroundings.returned (env : Surroundings) (peerId : String) : ResourceResponse :=
  match env.gate with
  | some gate => passedOn gate.classifier peerId env.result
  | none => env.result

/-- The codec takes the response for a frame. -/
def ResourceResponse.Fits (r : ResourceResponse) : Prop := FitsFrame (toJson r)

instance (r : ResourceResponse) : Decidable r.Fits := inferInstanceAs (Decidable (FitsFrame _))

/-- What ends the await at which the handler stands. -/
def Surroundings.event (env : Surroundings) (peerId : String) : HandlePhase → Option HandleEvent
  | .reading => some .read
  | .opening _ _ => some (.opened env.opened)
  | .labelling _ _ => some (.labelled env.labelled)
  | .accepting _ _ => some (.sent (decide (ResourceResponse.Fits (.ok ⟨[]⟩))))
  | .spawning _ _ => some .spawn
  | .preparing _ => some (if env.prepared then .prepared else .panicked)
  | .admitting _ => some (.admitted env.admitted)
  | .running _ => some (.returned (env.returned peerId))
  | .responding r => some (.sent (decide r.Fits))
  | .done => none

variable (services : ServiceMap) (peerId : String) (request : Request) (env : Surroundings)

/-- The handler goes on from this phase until it returns, for at most so many awaits; its
effects. -/
def HandlePhase.handle : Nat → HandlePhase → Option (List HandleEffect)
  | _, .done => some []
  | 0, _ => none
  | n + 1, p =>
    (env.event peerId p).bind fun ev ↦ (p.step services peerId request ev).bind fun (q, eff) ↦
      (HandlePhase.handle n q).map fun effs ↦ eff.toList ++ effs

/-- `handle_stream`, from the request that has arrived to its return: it awaits at most five times,
as a handler of a stream does to read, to open, to label, to respond and to spawn. -/
def handleStream : Option (List HandleEffect) :=
  HandlePhase.reading.handle services peerId request env 5

/-- The frame that an effect leaves on the request stream. -/
def HandleEffect.frame : HandleEffect → Option Json
  | .respond r => some (ResourceResponse.toJson r)
  | _ => none

/-- The frames on the request stream. -/
def written (effs : List HandleEffect) : List Json := effs.filterMap HandleEffect.frame

/-! ## The answer -/

/-- The answer that a stream-opening handler owes. -/
def StreamKind.answer (k : StreamKind) : ResourceResponse :=
  if env.opened then
    match env.labelled with
    | .ok () => .ok ⟨[]⟩
    | .error e => .error (.app (k.setup.ackError e))
  else .error (.app k.setup.openError)

/-- The answer that `handle_rpc` owes, unless its task is unwound before it has one. -/
def rpcAnswer : Option ResourceResponse :=
  if env.prepared then
    some (if env.admitted then env.returned peerId else .error (.circuitBreakerOpen peerId))
  else none

/-- The answer that the request calls for. -/
def answer : Option ResourceResponse :=
  match route services request with
  | .error e => some (.error e)
  | .ok (.rpc _) => rpcAnswer peerId env
  | .ok (.subscriptionProducer _) => some (StreamKind.subscription.answer env)
  | .ok (.notificationConsumer _) => some (StreamKind.notification.answer env)
  | .ok (.streamHandler _) => some (StreamKind.stream.answer env)

/-- An empty success fits. -/
theorem fits_accepted : ResourceResponse.Fits (.ok ⟨[]⟩) := by decide

/-- The texts of the open errors fit. -/
theorem fits_openError (k : StreamKind) :
    ResourceResponse.Fits (.error (.app k.setup.openError)) := by
  cases k <;> decide

/-! ## The handler writes its answer -/

/-- What a handler that owes this answer writes. -/
def attempt (r : ResourceResponse) : List Json :=
  if r.Fits then [ResourceResponse.toJson r] else []

/-- What a handler writes that owes this answer, if any. -/
def attempted (o : Option ResourceResponse) : List Json := o.elim [] attempt

/-- From this phase the handler returns within `n` awaits and has then made its attempt at the
answer it owes, if any. -/
def Writes (n : Nat) (p : HandlePhase) (o : Option ResourceResponse) : Prop :=
  ∃ effs, p.handle services peerId request env n = some effs ∧ written effs = attempted o

variable {services peerId request env}

/-- A step that writes nothing on the request stream passes the attempt on. -/
theorem Writes.step {n : Nat} {p q : HandlePhase} {ev : HandleEvent} {eff : Option HandleEffect}
    {o : Option ResourceResponse} (hp : p ≠ .done) (hev : env.event peerId p = some ev)
    (hstep : p.step services peerId request ev = some (q, eff))
    (heff : eff.bind HandleEffect.frame = none)
    (h : Writes services peerId request env n q o) :
    Writes services peerId request env (n + 1) p o := by
  obtain ⟨effs, hq, hw⟩ := h
  refine ⟨eff.toList ++ effs, ?_, ?_⟩
  · rw [HandlePhase.handle.eq_def]
    cases p with
    | done => exact absurd rfl hp
    | _ => simp [hev, hstep, hq]
  · cases eff with
    | none => exact hw
    | some e =>
      have he : e.frame = none := heff
      simpa [written, he] using hw

/-- The last send. -/
theorem writes_responding (r : ResourceResponse) :
    Writes services peerId request env 1 (.responding r) (some r) := by
  by_cases h : r.Fits
  · exact ⟨[.respond r], by simp [HandlePhase.handle, Surroundings.event, HandlePhase.step, h],
      by simp [written, HandleEffect.frame, attempted, attempt, h]⟩
  · exact ⟨[], by simp [HandlePhase.handle, Surroundings.event, HandlePhase.step, h],
      by simp [written, attempted, attempt, h]⟩

/-- The success response of a stream-opening handler. -/
theorem writes_accepting (k : StreamKind) (cb : CallbackId) :
    Writes services peerId request env 2 (.accepting k cb) (some (.ok ⟨[]⟩)) := by
  refine ⟨[.respond (.ok ⟨[]⟩), .spawnCallback k cb], ?_, ?_⟩
  · simp [HandlePhase.handle, Surroundings.event, HandlePhase.step, fits_accepted]
  · simp [written, HandleEffect.frame, attempted, attempt, fits_accepted]

/-- More awaits than needed do no harm. -/
theorem Writes.succ {n : Nat} {p : HandlePhase} {o : Option ResourceResponse}
    (h : Writes services peerId request env n p o) :
    Writes services peerId request env (n + 1) p o := by
  have mono : ∀ (n : Nat) (p : HandlePhase) (effs : List HandleEffect),
      p.handle services peerId request env n = some effs →
        p.handle services peerId request env (n + 1) = some effs := by
    intro n
    induction n with
    | zero =>
      intro p effs h
      cases p with
      | done => exact h
      | _ => cases h
    | succ n ih =>
      intro p effs h
      rw [HandlePhase.handle.eq_def] at h ⊢
      cases p with
      | done => exact h
      | _ =>
        obtain ⟨ev, hev, h⟩ := Option.bind_eq_some_iff.mp h
        obtain ⟨⟨q, eff⟩, hstep, h⟩ := Option.bind_eq_some_iff.mp h
        obtain ⟨effs', hq, he⟩ := Option.map_eq_some_iff.mp h
        simp only [hev, hstep, Option.bind_some, ih q effs' hq, Option.map_some, he]
  obtain ⟨effs, hq, hw⟩ := h
  exact ⟨effs, mono n p effs hq, hw⟩

/-- A stream-opening handler. -/
theorem writes_opening (k : StreamKind) (cb : CallbackId) :
    Writes services peerId request env 4 (.opening k cb) (some (k.answer env)) := by
  unfold StreamKind.answer
  cases ho : env.opened with
  | false =>
    refine .step (by simp) (congrArg (some ∘ HandleEvent.opened) ho) rfl rfl ?_
    exact (writes_responding _).succ.succ
  | true =>
    refine .step (by simp) (congrArg (some ∘ HandleEvent.opened) ho) rfl rfl ?_
    cases hl : env.labelled with
    | ok u =>
      exact .step (by simp) (congrArg (some ∘ HandleEvent.labelled) hl) rfl rfl
        (writes_accepting k cb)
    | error e =>
      exact .step (by simp) (congrArg (some ∘ HandleEvent.labelled) hl) rfl rfl
        (writes_responding _).succ

/-- `handle_rpc` -/
theorem writes_preparing (cb : CallbackId) :
    Writes services peerId request env 4 (.preparing cb) (rpcAnswer peerId env) := by
  unfold rpcAnswer
  cases hp : env.prepared with
  | false =>
    refine ⟨[], ?_, rfl⟩
    simp [HandlePhase.handle, Surroundings.event, HandlePhase.step, hp]
  | true =>
    refine .step (by simp) (by rw [Surroundings.event, if_pos hp]) rfl rfl ?_
    cases ha : env.admitted with
    | false =>
      refine .step (by simp) (congrArg (some ∘ HandleEvent.admitted) ha) rfl rfl ?_
      exact (writes_responding _).succ
    | true =>
      refine .step (by simp) (congrArg (some ∘ HandleEvent.admitted) ha) rfl rfl ?_
      exact .step (by simp) rfl rfl rfl (writes_responding _)

variable (services peerId request env)

/-- **The handler returns, and has attempted to write the answer that the request calls for.** -/
theorem handleStream_eq : ∃ effs, handleStream services peerId request env = some effs ∧
    written effs = attempted (answer services peerId request env) := by
  have key : Writes services peerId request env 4 (dispatch (route services request))
      (answer services peerId request env) := by
    unfold answer
    cases route services request with
    | error e => exact (writes_responding _).succ.succ.succ
    | ok resource =>
      cases resource with
      | rpc cb => exact writes_preparing cb
      | subscriptionProducer cb => exact writes_opening .subscription cb
      | notificationConsumer cb => exact writes_opening .notification cb
      | streamHandler cb => exact writes_opening .stream cb
  have hread : Writes services peerId request env 5 .reading (answer services peerId request env) :=
    .step (by simp) rfl rfl rfl key
  exact hread

/-! ## Exactly one frame -/

/-- The request stream carries one frame, and the client can read it. -/
def Answered (effs : List HandleEffect) : Prop :=
  ∃ j, written effs = [j] ∧ (ResourceResponse.fromJson j).isSome

/-- The text of a failed label write, should there be one, leaves room for the response. -/
def StreamKind.Answerable (k : StreamKind) : Prop :=
  ∀ e, env.opened = true → env.labelled = .error e →
    ResourceResponse.Fits (.error (.app (k.setup.ackError e)))

/-- What `handle_rpc` sends can be sent and read: the callback's result, the error that a breaker
makes of it, or the breaker's own. -/
def RpcAnswerable : Prop :=
  match env.gate, env.result with
  | none, result => result.Fits ∧ result.Readable
  | some ⟨true, _⟩, .ok resp => ResourceResponse.Fits (.ok resp)
  | some ⟨true, classifier⟩, .error e => ResourceResponse.Fits (.error (e.wrappedBy classifier))
  | some ⟨false, _⟩, _ => ResourceResponse.Fits (.error (.circuitBreakerOpen peerId))

/-- What the request and the surroundings have to meet. -/
def Answerable : Prop :=
  match route services request with
  | .error e => ResourceResponse.Fits (.error e)
  | .ok (.rpc _) => env.prepared = true ∧ RpcAnswerable peerId env
  | .ok (.subscriptionProducer _) => StreamKind.subscription.Answerable env
  | .ok (.notificationConsumer _) => StreamKind.notification.Answerable env
  | .ok (.streamHandler _) => StreamKind.stream.Answerable env

variable {env}

/-- An attempt leaves one readable frame exactly if there is an answer that fits and can be
read. -/
theorem answered_iff {effs : List HandleEffect} {o : Option ResourceResponse}
    (h : written effs = attempted o) : Answered effs ↔ ∃ r, o = some r ∧ r.Fits ∧ r.Readable := by
  rw [Answered, h]
  rcases o with _ | r
  · simp [attempted]
  · rw [attempted, Option.elim_some, attempt]
    by_cases hf : r.Fits
    · rw [if_pos hf]
      constructor
      · rintro ⟨j, hj, hread⟩
        rw [List.cons.injEq] at hj
        exact ⟨r, rfl, hf, (ResourceResponse.isSome_fromJson_iff r).mp (hj.1 ▸ hread)⟩
      · rintro ⟨r', hr, -, hread⟩
        cases hr
        exact ⟨_, rfl, (ResourceResponse.isSome_fromJson_iff r).mpr hread⟩
    · simp [hf]

theorem readable_of_context_none {r : ResourceResponse} (h : r.context = none) : r.Readable := by
  intro v hv
  rw [h] at hv
  cases hv

theorem readable_ok (r : Response) : ResourceResponse.Readable (.ok r) :=
  readable_of_context_none rfl

theorem readable_app (message : String) : ResourceResponse.Readable (.error (.app message)) :=
  readable_of_context_none rfl

theorem StreamKind.answerable_iff (k : StreamKind) :
    k.Answerable env ↔ (k.answer env).Fits ∧ (k.answer env).Readable := by
  unfold StreamKind.Answerable StreamKind.answer
  cases env.opened with
  | false => simp [fits_openError, readable_app]
  | true =>
    cases env.labelled with
    | ok u => simp [fits_accepted, readable_ok]
    | error e => simp [readable_app]

theorem rpcAnswerable_iff :
    RpcAnswerable peerId env ↔
      let r := if env.admitted then env.returned peerId else .error (.circuitBreakerOpen peerId)
      r.Fits ∧ r.Readable := by
  unfold RpcAnswerable Surroundings.admitted Surroundings.returned
  rcases env.gate with _ | ⟨_ | _, classifier⟩
  · rfl
  · simp [readable_of_context_none (r := .error (.circuitBreakerOpen peerId)) rfl]
  · rcases env.result with e | resp
    · simp [readable_of_context_none (r := .error (e.wrappedBy classifier)) rfl]
    · simp [readable_ok]

theorem answerable_iff : Answerable services peerId request env ↔
    ∃ r, answer services peerId request env = some r ∧ r.Fits ∧ r.Readable := by
  unfold Answerable answer
  cases hroute : route services request with
  | error e =>
    have hcon : ResourceError.context e = none := by
      unfold route at hroute
      split at hroute
      · cases hroute; rfl
      · split at hroute <;> cases hroute
        rfl
    simp [readable_of_context_none (r := .error e) hcon]
  | ok resource =>
    cases resource with
    | rpc cb =>
      unfold rpcAnswer
      cases env.prepared with
      | false => simp
      | true => simp [rpcAnswerable_iff peerId]
    | _ => simp [StreamKind.answerable_iff]

variable (env)

/-- **When a request gets its one response.**  The handler returns; and it has written exactly one
frame on the request stream, one that decodes, if and only if the middleware in front of an Rpc has
not panicked, what is to be sent takes at most 8 MiB as JSON — the error that names the unknown
service or resource, the error of the label, the result of the Rpc callback or what a breaker makes
of it — and, without a breaker, a context in the result is not nested too deeply. -/
theorem answers_once_iff : ∃ effs, handleStream services peerId request env = some effs ∧
    (Answered effs ↔ Answerable services peerId request env) := by
  obtain ⟨effs, hrun, hw⟩ := handleStream_eq services peerId request env
  exact ⟨effs, hrun, (answered_iff hw).trans (answerable_iff services peerId request).symm⟩

/-! ## How much data fits -/

/-- The text around the data of a success. -/
theorem textLength_ok (r : Response) :
    (ResourceResponse.toJson (.ok r)).textLength = (Json.ofBytes r.data).textLength + 16 := by
  have h1 : Json.byteLength (Json.quote "Ok") = 4 := by decide
  have h2 : Json.byteLength (Json.quote "data") = 6 := by decide
  rw [ResourceResponse.toJson, Response.toJson, Json.textLength_field, Json.textLength_field, h1,
    h2]
  omega

/-- Two mebibytes of data, less a few bytes, always fit. -/
theorem fits_of_length {r : Response} (h : 4 * r.data.length + 18 ≤ maxFrameLength) :
    ResourceResponse.Fits (.ok r) := by
  have hle := Json.textLength_ofBytes_le r.data
  rw [ResourceResponse.Fits, FitsFrame, textLength_ok]
  omega

/-- Four mebibytes of data never fit. -/
theorem not_fits_of_length {r : Response} (h : maxFrameLength < 2 * r.data.length + 17) :
    ¬ ResourceResponse.Fits (.ok r) := by
  have hle := Json.le_textLength_ofBytes r.data
  rw [ResourceResponse.Fits, FitsFrame, textLength_ok]
  omega

/-- A result that does not fit leaves its request without a response. -/
theorem unanswered_of_not_fits {cb : CallbackId} (hroute : route services request = .ok (.rpc cb))
    (hadmitted : env.admitted = true) (hno : ¬ (env.returned peerId).Fits) :
    ∃ effs, handleStream services peerId request env = some effs ∧ written effs = [] := by
  obtain ⟨effs, hrun, hw⟩ := handleStream_eq services peerId request env
  refine ⟨effs, hrun, ?_⟩
  rw [hw, answer, hroute]
  dsimp only
  rw [rpcAnswer, if_pos hadmitted]
  cases env.prepared with
  | true => exact if_neg hno
  | false => rfl

/-- An Rpc callback that returns this many zeroes, behind a breaker that lets it through or without
one. -/
def zeroes (gate : Option ErrorClassifier) (n : Nat) : Surroundings where
  opened := true
  labelled := .ok ()
  prepared := true
  gate := gate.map fun classifier ↦ ⟨true, classifier⟩
  result := .ok ⟨List.replicate n 0⟩

theorem zeroes_unanswered (gate : Option ErrorClassifier) {n : Nat}
    (h : maxFrameLength < 2 * n + 17) :
    ∃ effs, handleStream (oneResource (.rpc 0)) "peer" ping (zeroes gate n) = some effs ∧
      written effs = [] := by
  have hroute : route (oneResource (.rpc 0)) ping = .ok (.rpc 0) := rfl
  have hreturned : (zeroes gate n).returned "peer" = .ok ⟨List.replicate n 0⟩ := by
    cases gate <;> rfl
  refine unanswered_of_not_fits _ _ _ _ hroute (by cases gate <;> rfl) ?_
  rw [hreturned]
  refine not_fits_of_length ?_
  rw [List.length_replicate]
  exact h

/-- **A request can stay without a response**: four mebibytes of data are too many. -/
theorem large_result_unanswered :
    ∃ effs, handleStream (oneResource (.rpc 0)) "peer" ping (zeroes none (4 * 1024 * 1024)) =
        some effs ∧ ¬ Answered effs := by
  obtain ⟨effs, hrun, hempty⟩ := zeroes_unanswered none (n := 4 * 1024 * 1024) (by decide)
  refine ⟨effs, hrun, ?_⟩
  rintro ⟨j, hj, -⟩
  rw [hempty] at hj
  cases hj

end Zel
