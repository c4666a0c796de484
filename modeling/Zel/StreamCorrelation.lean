import Zel.Connection

/-!
# Which operation gets which stream

An operation whose request the server accepted should return the stream that the server opened for
it.  The server opens its streams, labels them and sends its responses in the order in which its
tasks happen to run, and whoever accepts first gets the oldest stream; the label names the service
and the resource, not the request.

## What is here

* `Correlated` — every accepted operation returns its own stream when it runs on.
* `InOrder` — a request is accepted only for a resource of the operation's own kind and while its
  stream is the oldest of its queue.
* `leads_iff` — what an operation that waits for its stream will get.
* `correlated_iff` — **the streams go where they belong** exactly in the runs whose responses are
  sent in order.
* `subscriptions_swapped` — two concurrent subscriptions that get each other's stream.
-/

set_option autoImplicit false

namespace Zel

/-- The server accepted the request of an operation that takes a stream from `q`. -/
def Exchange.Accepted (x : Exchange) (q : Queue) : Prop :=
  x.operation.acceptsFrom = some q ∧ ∃ r, x.response = some (.ok r)

/-- The operation takes the label of the stream that the server opened for it. -/
def Exchange.LabelFits (x : Exchange) : Prop :=
  x.label.bind x.operation.handshake = some (.ok ())

namespace Connection

/-! ## The promise -/

/-- The operation returned the stream that was opened for it. -/
def ReturnedOwn (c : Nat) (s : Connection) : Prop :=
  ∃ x, s.exchanges[c]? = some x ∧ x.client = .returned (.ok (.stream c))

/-- **The promise**: every accepted operation returns its own stream, when it has not done so, by
its own steps. -/
def Correlated (services : ServiceMap) (peerId : String) (s : Connection) : Prop :=
  ∀ c x q, s.exchanges[c]? = some x → x.Accepted q →
    (machine services peerId).Leads (.client c .next) (ReturnedOwn c) s

/-- No step of the client fails because the connection or a stream does. -/
def Label.Reliable : Label → Prop
  | .client _ (.failed _) => False
  | _ => True

/-- A success is sent only when the resource is of the operation's own kind and the stream opened
for the operation is the oldest in the queue that it accepts from. -/
def InOrder (s : Connection) : Label → Prop
  | .server c (.sent true) => ∀ x q, s.exchanges[c]? = some x →
      x.operation.acceptsFrom = some q →
        match x.server with
        | .accepting k _ => x.operation.kind = some k ∧ (s.pending q).head? = some c
        | .responding (.ok _) => False
        | _ => True
  | _ => True

/-! ## What an operation will get -/

variable {services : ServiceMap} {peerId : String} {s : Connection} {c : Nat} {x : Exchange}

theorem labelOf_setClient (hx : s.exchanges[c]? = some x) (p : OperationPhase) (o : Nat) :
    (s.setClient c x p).labelOf o = s.labelOf o := by
  by_cases ho : c = o
  · subst ho
    rw [labelOf, getElem?_setClient hx, labelOf, hx]
    rfl
  · rw [labelOf, setClient, setExchange, List.getElem?_set_ne ho]
    rfl

theorem returnedOwn_iff (hx : s.exchanges[c]? = some x) :
    ReturnedOwn c s ↔ x.client = .returned (.ok (.stream c)) := by
  constructor
  · rintro ⟨y, hy, hret⟩
    rw [hx, Option.some_inj] at hy
    exact hy ▸ hret
  · exact fun h ↦ ⟨x, hx, h⟩

theorem leads_returned (hx : s.exchanges[c]? = some x) {r : Except ClientError Success}
    (hp : x.client = .returned r) :
    (machine services peerId).Leads (.client c .next) (ReturnedOwn c) s ↔ r = .ok (.stream c) := by
  have hstuck : (machine services peerId).step s (.client c .next) = none := by
    rw [step_client hx, hp]
    rfl
  rw [Machine.leads_iff_of_stuck hstuck, returnedOwn_iff hx, hp, OperationPhase.returned.injEq]

theorem leads_awaitingLabel (hx : s.exchanges[c]? = some x) {owner : Nat}
    (hp : x.client = .awaitingLabel owner) :
    (machine services peerId).Leads (.client c .next) (ReturnedOwn c) s ↔
      owner = c ∧ (s.labelOf owner).bind x.operation.handshake = some (.ok ()) := by
  have hnot : ¬ ReturnedOwn c s := by simp [returnedOwn_iff hx, hp]
  have hstep : (machine services peerId).step s (.client c .next) =
      ((s.labelOf owner).bind x.operation.handshake).map fun r ↦
        s.setClient c x (.returned (r.map fun _ ↦ .stream owner)) := by
    rw [step_client hx, hp, Option.map_bind]
    rfl
  cases hr : (s.labelOf owner).bind x.operation.handshake with
  | none =>
    rw [hr] at hstep
    rw [Machine.leads_iff_of_stuck hstep]
    simp [hnot]
  | some r =>
    rw [hr] at hstep
    rw [Machine.leads_iff_of_step hnot hstep, leads_returned (getElem?_setClient hx _) rfl]
    cases r with
    | error e => simp [Except.map]
    | ok => simp [Except.map]

theorem leads_accepting (hx : s.exchanges[c]? = some x) {q : Queue}
    (hp : x.client = .accepting q) :
    (machine services peerId).Leads (.client c .next) (ReturnedOwn c) s ↔
      (s.pending q).head? = some c ∧ x.LabelFits := by
  have hnot : ¬ ReturnedOwn c s := by simp [returnedOwn_iff hx, hp]
  cases hq : s.pending q with
  | nil =>
    have hstuck : (machine services peerId).step s (.client c .next) = none := by
      rw [step_client hx, hp, clientStep, hq]
    rw [Machine.leads_iff_of_stuck hstuck]
    simp [hnot]
  | cons owner rest =>
    have hstep : (machine services peerId).step s (.client c .next) =
        some ((s.setClient c x (.awaitingLabel owner)).setPending q rest) := by
      rw [step_client hx, hp, clientStep, hq]
    have hy : ((s.setClient c x (.awaitingLabel owner)).setPending q rest).exchanges[c]? =
        some { x with client := .awaitingLabel owner } := getElem?_setClient hx _
    rw [Machine.leads_iff_of_step hnot hstep, leads_awaitingLabel hy rfl, List.head?_cons,
      Option.some_inj]
    refine and_congr_right fun ho ↦ ?_
    subst ho
    show (Option.bind ((s.setClient owner x _).labelOf owner) _ = _) ↔ _
    rw [labelOf_setClient hx, labelOf, hx]
    rfl

theorem leads_awaitingResponse (hx : s.exchanges[c]? = some x) {q : Queue}
    (hacc : x.Accepted q) (hp : x.client = .awaitingResponse) :
    (machine services peerId).Leads (.client c .next) (ReturnedOwn c) s ↔
      (s.pending q).head? = some c ∧ x.LabelFits := by
  obtain ⟨hq, r, hr⟩ := hacc
  have hnot : ¬ ReturnedOwn c s := by simp [returnedOwn_iff hx, hp]
  have hstep : (machine services peerId).step s (.client c .next) =
      some (s.setClient c x (.accepting q)) := by
    rw [step_client hx, hp, clientStep, hr, Option.map_some, Operation.answered, hq]
  rw [Machine.leads_iff_of_step hnot hstep, leads_accepting (getElem?_setClient hx _) rfl]
  rfl

/-- **What an accepted operation will get**, as long as it has not accepted a stream. -/
theorem leads_iff (hx : s.exchanges[c]? = some x) {q : Queue} (hacc : x.Accepted q)
    (hp : x.client = .sending ∨ x.client = .awaitingResponse ∨ x.client = .accepting q) :
    (machine services peerId).Leads (.client c .next) (ReturnedOwn c) s ↔
      (s.pending q).head? = some c ∧ x.LabelFits := by
  rcases hp with hp | hp | hp
  · have hnot : ¬ ReturnedOwn c s := by simp [returnedOwn_iff hx, hp]
    have hstep : (machine services peerId).step s (.client c .next) =
        some (s.setClient c x .awaitingResponse) := by
      rw [step_client hx, hp]
      rfl
    have hy := getElem?_setClient hx .awaitingResponse
    rw [Machine.leads_iff_of_step hnot hstep, leads_awaitingResponse hy hacc rfl]
    rfl
  · exact leads_awaitingResponse hx hacc hp
  · exact leads_accepting hx hp

/-! ## The invariant -/

/-- An operation that was accepted will find its stream in `q`, whose oldest stream is this one, or
has it already. -/
inductive Finds (c : Nat) (q : Queue) (oldest : Option Nat) : OperationPhase → Prop
  | sending (h : oldest = some c) : Finds c q oldest .sending
  | awaitingResponse (h : oldest = some c) : Finds c q oldest .awaitingResponse
  | accepting (h : oldest = some c) : Finds c q oldest (.accepting q)
  | awaitingLabel : Finds c q oldest (.awaitingLabel c)
  | returned : Finds c q oldest (.returned (.ok (.stream c)))

/-- What the handler has done about a stream: the label it has written, and the queues in which its
stream may be. -/
def Opens (request : Request) (label : Option StreamLabel) (queued : Queue → Prop) :
    HandlePhase → Prop
  | .labelling k _ => label = none ∧ ∀ q, queued q → q = k.setup.queue
  | .accepting k _ => label = some (k.setup.label request) ∧ ∀ q, queued q → q = k.setup.queue
  | .reading | .opening _ _ | .preparing _ | .admitting _ | .running _ | .responding (.ok _) =>
    label = none ∧ ∀ q, ¬ queued q
  | .responding (.error _) | .spawning _ _ | .done => True

/-- What holds of exchange `c`. -/
structure Sound (pending : Queue → List Nat) (c : Nat) (x : Exchange) : Prop where
  opens : Opens x.operation.request x.label (fun q ↦ c ∈ pending q) x.server
  unanswered : Unanswered x.server → x.response = none
  /-- Before the answer, the operation is not beyond waiting for it. -/
  waiting : x.response = none → x.server ≠ .done →
    x.client = .sending ∨ x.client = .awaitingResponse
  expecting : ∀ q, x.client = .accepting q → x.Accepted q
  finds : ∀ q, x.Accepted q → x.LabelFits ∧ Finds c q (pending q).head? x.client

/-- **The invariant** of the runs whose responses are sent in order. -/
structure Kept (s : Connection) : Prop where
  sound : ∀ c x, s.exchanges[c]? = some x → Sound s.pending c x
  known : ∀ q, ∀ c ∈ s.pending q, c < s.exchanges.length

theorem kept_new : Kept new where
  sound _ _ h := by cases h
  known _ _ h := by cases h

/-- **The invariant implies the promise.** -/
theorem Kept.correlated (hs : Kept s) : Correlated services peerId s := by
  intro c x q hx hacc
  obtain ⟨hfits, hfinds⟩ := (hs.sound c x hx).finds q hacc
  generalize hp : x.client = p at hfinds
  cases hfinds with
  | sending h => exact (leads_iff hx hacc (.inl hp)).mpr ⟨h, hfits⟩
  | awaitingResponse h => exact (leads_iff hx hacc (.inr (.inl hp))).mpr ⟨h, hfits⟩
  | accepting h => exact (leads_iff hx hacc (.inr (.inr hp))).mpr ⟨h, hfits⟩
  | awaitingLabel =>
    refine (leads_awaitingLabel hx hp).mpr ⟨rfl, ?_⟩
    rw [labelOf, hx]
    exact hfits
  | returned => exact .here ⟨x, hx, hp⟩

theorem Opens.mono {request : Request} {label : Option StreamLabel} {Q Q' : Queue → Prop}
    {p : HandlePhase} (h : Opens request label Q p) (hQ : ∀ q, Q' q → Q q) :
    Opens request label Q' p := by
  unfold Opens at h ⊢
  split at h <;> first | exact ⟨h.1, fun q hq ↦ h.2 q (hQ q hq)⟩ | exact trivial

/-- A change of the queues that neither adds a stream of exchange `c` nor takes the oldest away. -/
theorem Sound.mono {pending pending' : Queue → List Nat} (h : Sound pending c x)
    (hmem : ∀ q, c ∈ pending' q → c ∈ pending q)
    (hhead : ∀ q, x.Accepted q → (pending q).head? = some c → (pending' q).head? = some c) :
    Sound pending' c x := by
  refine ⟨h.opens.mono hmem, h.unanswered, h.waiting, h.expecting, fun q hacc ↦ ?_⟩
  obtain ⟨hfits, hfinds⟩ := h.finds q hacc
  refine ⟨hfits, ?_⟩
  generalize x.client = p at hfinds ⊢
  cases hfinds with
  | sending h => exact .sending (hhead q hacc h)
  | awaitingResponse h => exact .awaitingResponse (hhead q hacc h)
  | accepting h => exact .accepting (hhead q hacc h)
  | awaitingLabel => exact .awaitingLabel
  | returned => exact .returned

/-- A step of exchange `c` that leaves the queues alone. -/
theorem Kept.set (hs : Kept s) {y : Exchange} (hy : Sound s.pending c y) :
    Kept (s.setExchange c y) := by
  refine ⟨fun c' z hz ↦ ?_, fun q o ho ↦ ?_⟩
  · rcases List.getElem?_set_cases hz with ⟨rfl, rfl⟩ | ⟨_, hz⟩
    · exact hy
    · exact hs.sound c' z hz
  · rw [setExchange, List.length_set]
    exact hs.known q o ho

/-! ## The steps of the operations -/

/-- A step of the operation that leaves the queues alone. -/
theorem Kept.client (hs : Kept s) (hx : s.exchanges[c]? = some x) {p : OperationPhase}
    (hwaiting : x.response = none → x.server ≠ .done → p = .sending ∨ p = .awaitingResponse)
    (hexpecting : ∀ q, p = .accepting q → x.Accepted q)
    (hfinds : ∀ q, x.Accepted q → Finds c q (s.pending q).head? x.client →
      Finds c q (s.pending q).head? p) : Kept (s.setClient c x p) := by
  have h := hs.sound c x hx
  refine hs.set ⟨h.opens, h.unanswered, hwaiting, hexpecting, fun q hacc ↦ ?_⟩
  obtain ⟨hfits, hf⟩ := h.finds q hacc
  exact ⟨hfits, hfinds q hacc hf⟩

/-- An operation that returns was not accepted or has its stream. -/
theorem Kept.ret (hs : Kept s) (hx : s.exchanges[c]? = some x)
    (hnot : x.client ≠ .sending ∧ (x.client = .awaitingResponse → x.server = .done))
    {r : Except ClientError Success} (hr : ∀ q, x.Accepted q → r = .ok (.stream c)) :
    Kept (s.setClient c x (.returned r)) := by
  refine hs.client hx (fun hresp hdone ↦ ?_) nofun fun q hacc _ ↦ ?_
  · rcases (hs.sound c x hx).waiting hresp hdone with h | h
    · exact absurd h hnot.1
    · exact absurd (hnot.2 h) hdone
  · rw [hr q hacc]
    exact .returned

/-- An accepted operation that accepted a stream has its own. -/
theorem Kept.owner (hs : Kept s) (hx : s.exchanges[c]? = some x) {owner : Nat}
    (hp : x.client = .awaitingLabel owner) {q : Queue} (hacc : x.Accepted q) :
    owner = c ∧ (s.labelOf owner).bind x.operation.handshake = some (.ok ()) := by
  obtain ⟨hfits, hfinds⟩ := (hs.sound c x hx).finds q hacc
  rw [hp] at hfinds
  cases hfinds
  rw [labelOf, hx]
  exact ⟨rfl, hfits⟩

theorem Kept.accept (hs : Kept s) (hx : s.exchanges[c]? = some x) {q : Queue} {owner : Nat}
    {rest : List Nat} (hp : x.client = .accepting q) (hq : s.pending q = owner :: rest) :
    Kept ((s.setClient c x (.awaitingLabel owner)).setPending q rest) := by
  have h := hs.sound c x hx
  -- the operation was accepted, so the oldest stream is its own
  have hacc := h.expecting q hp
  have hown : owner = c := by
    have hfinds := (h.finds q hacc).2
    rw [hp, hq] at hfinds
    cases hfinds with
    | accepting h => exact Option.some_inj.mp h
  subst hown
  have hmem : ∀ q' o, o ∈ Function.update s.pending q rest q' → o ∈ s.pending q' := by
    intro q' o ho
    by_cases hqq : q' = q
    · subst hqq
      rw [Function.update_self] at ho
      rw [hq]
      exact List.mem_cons_of_mem owner ho
    · rwa [Function.update_of_ne hqq] at ho
  refine ⟨fun c' z hz ↦ ?_, fun q' o ho ↦ ?_⟩
  · rcases List.getElem?_set_cases hz with ⟨rfl, rfl⟩ | ⟨hne, hz⟩
    · exact {
        opens := h.opens.mono fun q' ↦ hmem q' c'
        unanswered := h.unanswered
        waiting hresp hdone := by rcases h.waiting hresp hdone with h | h <;> simp [hp] at h
        expecting q' h := by cases h
        finds q' hacc' := ⟨(h.finds q' hacc').1, .awaitingLabel⟩ }
    · refine (hs.sound c' z hz).mono (fun q' ↦ hmem q' c') fun q' _ hhead ↦ ?_
      by_cases hqq : q' = q
      · subst hqq
        rw [hq, List.head?_cons, Option.some_inj] at hhead
        exact absurd hhead.symm hne
      · show (Function.update s.pending q rest q').head? = _
        rwa [Function.update_of_ne hqq]
  · show o < (s.exchanges.set owner _).length
    rw [List.length_set]
    exact hs.known q' o (hmem q' o ho)

/-- An operation that reads a success goes on to accept its stream. -/
theorem Kept.answered (hs : Kept s) (hx : s.exchanges[c]? = some x)
    (hp : x.client = .awaitingResponse) {r : ResourceResponse} (hr : x.response = some r) :
    Kept (s.setClient c x (x.operation.answered r)) := by
  refine hs.client hx (fun h ↦ by simp [hr] at h) (fun q h ↦ ?_) fun q hacc hfinds ↦ ?_
  · cases r with
    | error e => cases h
    | ok v =>
      cases hq : x.operation.acceptsFrom with
      | none =>
        rw [Operation.answered, hq] at h
        cases h
      | some q' =>
        rw [Operation.answered, hq] at h
        cases h
        exact ⟨hq, v, hr⟩
  · obtain ⟨hq, v, hv⟩ := hacc
    obtain rfl := Option.some_inj.mp (hr.symm.trans hv)
    rw [Operation.answered, hq]
    rw [hp] at hfinds
    cases hfinds with
    | awaitingResponse h => exact .accepting h

theorem Kept.start (hs : Kept s) (op : Operation) :
    Kept { s with exchanges := s.exchanges ++ [⟨op, .sending, .reading, none, none⟩] } := by
  refine ⟨fun c x hx ↦ ?_, fun q o ho ↦ ?_⟩
  · rcases List.getElem?_concat_cases hx with ⟨rfl, rfl⟩ | hx
    · exact {
        opens := ⟨rfl, fun q hq ↦ absurd (hs.known q _ hq) (Nat.lt_irrefl _)⟩
        unanswered _ := rfl
        waiting _ _ := Or.inl rfl
        expecting _ := nofun
        finds q hacc := by
          obtain ⟨_, _, h⟩ := hacc
          cases h }
    · exact hs.sound c x hx
  · have := hs.known q o ho
    rw [List.length_append, List.length_singleton]
    omega

/-! ## The steps of the handlers -/

/-- A step of the handler with no effect on the connection. -/
theorem Sound.silent {pending : Queue → List Nat} (h : Sound pending c x) {p : HandlePhase}
    (hopens : Opens x.operation.request x.label (fun q ↦ c ∈ pending q) p)
    (hun : Unanswered p → Unanswered x.server) (hdone : x.server ≠ .done) :
    Sound pending c { x with server := p } :=
  ⟨hopens, fun hp ↦ h.unanswered (hun hp), fun hresp _ ↦ h.waiting hresp hdone, h.expecting,
    h.finds⟩

/-- A request without an answer was not accepted. -/
theorem Sound.not_accepted {pending : Queue → List Nat} (h : Sound pending c x)
    (hun : Unanswered x.server) (q : Queue) : ¬ x.Accepted q := by
  rintro ⟨_, r, hr⟩
  rw [h.unanswered hun] at hr
  cases hr

/-- The handler answers. -/
theorem Sound.answer {pending : Queue → List Nat} (h : Sound pending c x)
    (hun : Unanswered x.server) (hdone : x.server ≠ .done) {p : HandlePhase}
    {r : ResourceResponse} (hp : ¬ Unanswered p)
    (hopens : Opens x.operation.request x.label (fun q ↦ c ∈ pending q) p)
    (hgood : ∀ q v, x.operation.acceptsFrom = some q → r = .ok v →
      x.LabelFits ∧ (pending q).head? = some c) :
    Sound pending c { x with server := p, response := some r } where
  opens := hopens
  unanswered h := absurd h hp
  waiting h := by cases h
  expecting q hq := absurd (h.expecting q hq) (h.not_accepted hun q)
  finds q hacc := by
    obtain ⟨hq, v, hv⟩ := hacc
    obtain ⟨hfits, hhead⟩ := hgood q v hq (Option.some_inj.mp hv)
    refine ⟨hfits, ?_⟩
    rcases h.waiting (h.unanswered hun) hdone with hp | hp
    · show Finds c q _ x.client
      exact hp ▸ .sending hhead
    · show Finds c q _ x.client
      exact hp ▸ .awaitingResponse hhead

/-- The handler opens its stream. -/
theorem Kept.openStream (hs : Kept s) (hx : s.exchanges[c]? = some x) {k : StreamKind}
    {cb : CallbackId} (hp : x.server = .opening k cb) :
    Kept (s.apply c { x with server := .labelling k cb } (some (.openStream k.setup.queue))) := by
  have h := hs.sound c x hx
  have hopens := h.opens
  rw [hp] at hopens
  have hun : Unanswered x.server := by rw [hp]; exact trivial
  have hmem : ∀ q o, o ∈ Function.update s.pending k.setup.queue
      (s.pending k.setup.queue ++ [c]) q → o ∈ s.pending q ∨ (q = k.setup.queue ∧ o = c) := by
    intro q o ho
    by_cases hq : q = k.setup.queue
    · subst hq
      rw [Function.update_self, List.mem_append, List.mem_singleton] at ho
      exact ho.imp id fun ho ↦ ⟨rfl, ho⟩
    · rw [Function.update_of_ne hq] at ho
      exact Or.inl ho
  refine ⟨fun c' z hz ↦ ?_, fun q o ho ↦ ?_⟩
  · rcases List.getElem?_set_cases hz with ⟨rfl, rfl⟩ | ⟨hne, hz⟩
    · exact {
        opens := ⟨hopens.1, fun q hq ↦ (hmem q c' hq).elim (absurd · (hopens.2 q)) And.left⟩
        unanswered _ := h.unanswered hun
        waiting hresp _ := h.waiting hresp (by simp [hp])
        expecting := h.expecting
        finds q hacc := absurd hacc (h.not_accepted hun q) }
    · refine (hs.sound c' z hz).mono (fun q hq ↦ ?_) fun q _ hhead ↦ ?_
      · exact (hmem q c' hq).elim id fun h ↦ absurd h.2 hne
      · show (Function.update s.pending k.setup.queue _ q).head? = _
        by_cases hq : q = k.setup.queue
        · subst hq
          rw [Function.update_self, List.head?_append, hhead]
          rfl
        · rwa [Function.update_of_ne hq]
  · show o < (s.exchanges.set c _).length
    rw [List.length_set]
    rcases hmem q o ho with ho | ⟨-, rfl⟩
    · exact hs.known q o ho
    · exact (List.getElem?_eq_some_iff.mp hx).1

/-- A step of a handler keeps the invariant when its success is in order. -/
theorem Kept.server (hs : Kept s) (hx : s.exchanges[c]? = some x) {p : HandlePhase}
    {ev : HandleEvent} {eff : Option HandleEffect}
    (hp : HandleMoves services peerId x.operation.request x.server ev p eff)
    (hc : InOrder s (.server c ev)) : Kept (s.apply c { x with server := p } eff) := by
  have h := hs.sound c x hx
  have hopens := h.opens
  generalize hserver : x.server = p₀ at hp hopens
  cases hp with
  | read =>
    refine hs.set (h.silent ?_ (fun _ ↦ by simp [hserver, Unanswered]) (by simp [hserver]))
    cases route services x.operation.request with
    | error e => exact trivial
    | ok resource => cases resource <;> exact hopens
  | readFail => exact hs.set (h.silent trivial (fun h ↦ h.elim) (by simp [hserver]))
  | opened => exact hs.openStream hx hserver
  | openFail | labelFail =>
    exact hs.set (h.silent trivial (fun _ ↦ by simp [hserver, Unanswered]) (by simp [hserver]))
  | labelled =>
    have hun : Unanswered x.server := by rw [hserver]; exact trivial
    exact hs.set {
      opens := ⟨rfl, hopens.2⟩
      unanswered _ := h.unanswered hun
      waiting hresp _ := h.waiting hresp (by simp [hserver])
      expecting := h.expecting
      finds q hacc := absurd hacc (h.not_accepted hun q) }
  | accepted =>
    refine hs.set (h.answer (by simp [hserver, Unanswered]) (by simp [hserver]) id trivial ?_)
    intro q v hq _
    have hcond := hc x q hx hq
    rw [hserver] at hcond
    refine ⟨?_, hcond.2⟩
    rw [Exchange.LabelFits, hopens.1]
    exact (Operation.handshake_of_kind hcond.1).2
  | acceptFail | spawned =>
    exact hs.set (h.silent trivial (fun h ↦ h.elim) (by simp [hserver]))
  | prepared | admitted =>
    exact hs.set (h.silent hopens (fun _ ↦ by simp [hserver, Unanswered]) (by simp [hserver]))
  | rejected =>
    exact hs.set (h.silent trivial (fun _ ↦ by simp [hserver, Unanswered]) (by simp [hserver]))
  | @returned cb r =>
    refine hs.set (h.silent ?_ (fun _ ↦ by simp [hserver, Unanswered]) (by simp [hserver]))
    cases r with
    | error e => exact trivial
    | ok v => exact hopens
  | prepareFail | panicked =>
    exact hs.set (h.silent trivial (fun h ↦ h.elim) (by simp [hserver]))
  | responded =>
    -- a success of an Rpc resource is never in order for an operation that accepts a stream
    refine hs.set (h.answer (by simp [hserver, Unanswered]) (by simp [hserver]) id trivial ?_)
    intro q v hq hv
    have hcond := hc x q hx hq
    rw [hserver, hv] at hcond
    exact hcond.elim
  | respondFail => exact hs.set (h.silent trivial (fun h ↦ h.elim) (by simp [hserver]))

/-- **Every step in order keeps the invariant.** -/
theorem Moves.kept {l : Label} {t : Connection} (h : Moves services peerId s l t) (hs : Kept s)
    (hrel : l.Reliable) (hc : InOrder s l) : Kept t := by
  cases h with
  | start op => exact hs.start op
  | sent hx hp =>
    refine hs.client hx (fun _ _ ↦ Or.inr rfl) nofun fun q _ hfinds ↦ ?_
    rw [hp] at hfinds
    cases hfinds with
    | sending h => exact .awaitingResponse h
  | answered hx hp hr => exact hs.answered hx hp hr
  | unanswered hx hp hdone hr =>
    refine hs.ret hx ⟨by simp [hp], fun _ ↦ hdone⟩ fun q hacc ↦ ?_
    obtain ⟨_, v, hv⟩ := hacc
    simp [hr] at hv
  | accepted hx hp hq => exact hs.accept hx hp hq
  | shaken hx hp hl hr =>
    refine hs.ret hx (by simp [hp]) fun q hacc ↦ ?_
    obtain ⟨rfl, hown⟩ := hs.owner hx hp hacc
    rw [hl, Option.bind_some, hr, Option.some_inj] at hown
    rw [hown]
    rfl
  | @unlabelled c x owner hx hp hl =>
    refine hs.ret hx (by simp [hp]) fun q hacc ↦ ?_
    obtain ⟨rfl, hown⟩ := hs.owner hx hp hacc
    rw [labelOf, hx, Option.bind_some, label_of_unlabelled hx hl] at hown
    cases hown
  | @undecodable c x owner e hx hp hf hl =>
    refine hs.ret hx (by simp [hp]) fun q hacc ↦ ?_
    have hown := (hs.owner hx hp hacc).2
    rw [hl, Option.bind_some, Operation.handshake_ok_of_framed hf] at hown
    cases hown
  | failed => cases hrel
  | server hx hp => exact hs.server hx hp hc

/-! ## The exact condition -/

/-- What an operation will get that is answered with a success. -/
theorem Sound.leads_of_success (h : Sound s.pending c x) (hx : s.exchanges[c]? = some x)
    (hun : Unanswered x.server) (hdone : x.server ≠ .done) {p : HandlePhase} {v : Response}
    {q : Queue} (hq : x.operation.acceptsFrom = some q) {t : Connection}
    (ht : t = s.setExchange c { x with server := p, response := some (.ok v) })
    (hcor : Correlated services peerId t) :
    (s.pending q).head? = some c ∧ x.LabelFits := by
  subst ht
  have hy := List.getElem?_set_of_some (a := { x with server := p, response := some (.ok v) }) hx
  have hacc : Exchange.Accepted { x with server := p, response := some (.ok v) } q := ⟨hq, v, rfl⟩
  have hleads := hcor c _ q hy hacc
  rw [leads_iff hy hacc] at hleads
  · exact hleads
  · exact (h.waiting (h.unanswered hun) hdone).imp id Or.inl

/-- **A success out of order breaks the promise.** -/
theorem Moves.not_correlated {l : Label} {t : Connection} (h : Moves services peerId s l t)
    (hs : Kept s) (hc : ¬ InOrder s l) : ¬ Correlated services peerId t := by
  intro hcor
  apply hc
  cases h with
  | @server c x p ev eff hx hp =>
    have h := hs.sound c x hx
    have hopens := h.opens
    generalize hserver : x.server = p₀ at hp hopens
    cases hp with
    | @accepted k cb =>
      intro y q hy hq
      rw [hx, Option.some_inj] at hy
      subst hy
      rw [hserver]
      obtain ⟨hhead, hfits⟩ := h.leads_of_success hx (by simp [hserver, Unanswered])
        (by simp [hserver]) hq rfl hcor
      refine ⟨?_, hhead⟩
      have hqueue : q = k.setup.queue := hopens.2 q (List.mem_of_head? hhead)
      rw [Exchange.LabelFits, hopens.1] at hfits
      exact Operation.kind_of_handshake (hqueue ▸ hq) hfits
    | @responded r =>
      intro y q hy hq
      rw [hx, Option.some_inj] at hy
      subst hy
      rw [hserver]
      cases r with
      | error e => exact trivial
      | ok v =>
        have hfits := (h.leads_of_success hx (by simp [hserver, Unanswered]) (by simp [hserver]) hq
          rfl hcor).2
        rw [Exchange.LabelFits, hopens.1] at hfits
        cases hfits
    | _ => exact trivial
  | _ => exact trivial

/-- **Streams go where they belong**: in every interleaving of any operations with the handlers of
the server, over a transport that does not fail the client, each accepted operation returns its own
stream if and only if every success is sent in order. -/
theorem correlated_iff (services : ServiceMap) (peerId : String) {ls : List Label}
    (hls : ∀ l ∈ ls, l.Reliable) :
    (machine services peerId).Along (Correlated services peerId) new ls ↔
      (machine services peerId).Meets InOrder new ls :=
  Machine.along_iff_meets_of (I := Kept)
    (fun _ _ _ hs hl hc ht ↦ (moves_of_step ht).kept hs hl hc) (fun _ hs ↦ hs.correlated)
    (fun _ _ _ hs _ hc ht ↦ (moves_of_step ht).not_correlated hs hc) kept_new
    (Machine.meets_of_forall hls)

/-- Two subscriptions are sent, and their handlers open and label a stream each. -/
def openedRun : List Label :=
  [.start (.counter 0), .start (.counter 1), .client 0 .next, .client 1 .next, .server 0 .read,
    .server 0 (.opened true), .server 1 .read, .server 1 (.opened true),
    .server 0 (.labelled (.ok ())), .server 1 (.labelled (.ok ()))]

/-- The first subscription accepts its stream before the second one is answered. -/
def orderedRun : List Label :=
  openedRun ++ [.server 0 (.sent true), .client 0 .next, .client 0 .next, .server 1 (.sent true),
    .client 1 .next, .client 1 .next, .client 1 .next, .client 0 .next]

theorem inOrder_orderedRun (peerId : String) :
    (machine (oneResource (.subscriptionProducer 0)) peerId).Meets InOrder new orderedRun := by
  iterate 10 refine (Machine.meets_cons_of_step rfl).mpr ⟨trivial, ?_⟩
  refine (Machine.meets_cons_of_step rfl).mpr ⟨?_, ?_⟩
  · rintro x q hx hq
    cases hx
    cases hq
    exact ⟨rfl, rfl⟩
  iterate 2 refine (Machine.meets_cons_of_step rfl).mpr ⟨trivial, ?_⟩
  refine (Machine.meets_cons_of_step rfl).mpr ⟨?_, ?_⟩
  · rintro x q hx hq
    cases hx
    cases hq
    exact ⟨rfl, rfl⟩
  iterate 4 refine (Machine.meets_cons_of_step rfl).mpr ⟨trivial, ?_⟩
  trivial

/-- The rule at work on that run. -/
theorem correlated_orderedRun :
    (machine (oneResource (.subscriptionProducer 0)) "peer").Along
      (Correlated (oneResource (.subscriptionProducer 0)) "peer") new orderedRun :=
  (correlated_iff (oneResource (.subscriptionProducer 0)) "peer"
    (by simp [orderedRun, openedRun, Label.Reliable])).mpr (inOrder_orderedRun "peer")

/-- Both are answered first, and the second subscription accepts first. -/
def swappedRun : List Label :=
  openedRun ++ [.server 0 (.sent true), .server 1 (.sent true), .client 1 .next, .client 1 .next,
    .client 1 .next, .client 0 .next, .client 0 .next, .client 0 .next]

/-- **Two subscriptions can be swapped**: each succeeds with the stream of the other. -/
theorem subscriptions_swapped : (∀ l ∈ swappedRun, l.Reliable) ∧
    ∃ s, (machine (oneResource (.subscriptionProducer 0)) "peer").run swappedRun = some s ∧
      s.exchanges.map Exchange.client =
        [.returned (.ok (.stream 1)), .returned (.ok (.stream 0))] ∧
      ¬ Correlated (oneResource (.subscriptionProducer 0)) "peer" s := by
  refine ⟨by simp [swappedRun, openedRun, Label.Reliable], _, rfl, rfl, fun hcor ↦ ?_⟩
  have hleads := (leads_returned rfl rfl).mp (hcor 0 _ .uni rfl ⟨rfl, ⟨[]⟩, rfl⟩)
  cases hleads

end Connection

end Zel
