import Zel.Connection

/-!
# Streams that nobody accepts

When the operations of a client run one after another, the queues should be empty whenever one of
them starts: a stream that is left over would be handed to the next operation that accepts.  The
server decides by the registered resource whether it opens a stream, and the client by the operation
whether it accepts one.

## What is here

* `OneAfterAnother` — the runs in question: an operation starts when all others have returned.
* `NoStaleStream`, `LeavesNone` — the promise, for a state, and for what becomes of it when the
  request under way is completed.
* `Attended` — a stream is opened only for an operation that is still there to accept one, and
  neither side fails once it is open.
* `leaves_none_iff` — **no stream is left over** exactly in the runs whose steps are all attended.
* `call_leaves_stream` — a `call` to a subscription returns and leaves a stream.
-/

set_option autoImplicit false

namespace Zel

namespace Connection

/-! ## The promise -/

/-- All operations returned. -/
def Idle (s : Connection) : Prop := ∀ (c : Nat) x, s.exchanges[c]? = some x → x.Returned

/-- An operation starts when all others have returned. -/
def OneAfterAnother (s : Connection) : Label → Prop
  | .start _ => s.Idle
  | _ => True

/-- **The promise**, for a state. -/
structure NoStaleStream (s : Connection) : Prop where
  /-- When an operation and the handler of its request are over, its stream is accepted. -/
  collected : ∀ (c : Nat) x q, s.exchanges[c]? = some x → x.Returned → x.server = .done →
    c ∉ s.pending q
  /-- The next operation finds the queues empty. -/
  empty : s.Idle → ∀ q, s.pending q = []
  /-- Nobody is handed the stream of another operation. -/
  own : ∀ (c : Nat) x o, s.exchanges[c]? = some x →
    x.client = .awaitingLabel o ∨ x.client = .returned (.ok (.stream o)) → o = c

/-- A step that completes what is under way: nothing starts, nothing is opened, nothing fails. -/
def Label.Completes : Label → Prop
  | .start _ | .client _ (.failed _) | .server _ (.opened _) | .server _ (.labelled (.error _))
  | .server _ (.sent false) => False
  | _ => True

/-- **The promise**, for a state and all states in which what is under way is completed. -/
def LeavesNone (services : ServiceMap) (peerId : String) (s : Connection) : Prop :=
  ∀ ls t, (∀ l ∈ ls, l.Completes) → (machine services peerId).runFrom s ls = some t →
    NoStaleStream t

/-- A stream is opened only for an operation that accepts one and has not returned; once it is open,
its label and the response are written, and the operation does not fail before it has accepted. -/
def Attended (s : Connection) : Label → Prop
  | .server c (.opened true) => ∀ x, s.exchanges[c]? = some x →
      x.operation.acceptsFrom ≠ none ∧ ¬ x.Returned
  | .server _ (.labelled (.error _)) => False
  | .server c (.sent false) => ∀ x k cb, s.exchanges[c]? = some x → x.server ≠ .accepting k cb
  | .client c (.failed _) => ∀ q, c ∉ s.pending q
  | _ => True

/-! ## The invariant -/

/-- The handler has opened a stream and not answered yet. -/
def Offering : HandlePhase → Prop
  | .labelling _ _ | .accepting _ _ => True
  | _ => False

/-- What holds of exchange `c`. -/
structure Tended (pending : Queue → List Nat) (c : Nat) (x : Exchange) : Prop where
  unanswered : Unanswered x.server → x.response = none
  patient : x.response = none → x.client = .sending ∨ x.client = .awaitingResponse ∨ x.Returned
  /-- The operation has not accepted the stream and will. -/
  waits : ∀ q, c ∈ pending q → ¬ x.Returned ∧ ∀ o, x.client ≠ .awaitingLabel o
  accepts : ∀ q, c ∈ pending q → x.operation.acceptsFrom ≠ none
  /-- The stream comes with a success. -/
  answers : ∀ q, c ∈ pending q → Offering x.server ∨ ∃ r, x.response = some (.ok r)
  offered : Offering x.server → ∃ q, c ∈ pending q
  own : ∀ o, x.client = .awaitingLabel o ∨ x.client = .returned (.ok (.stream o)) → o = c

/-- **The invariant** of the runs whose steps are attended. -/
structure Tidy (s : Connection) : Prop where
  tended : ∀ (c : Nat) x, s.exchanges[c]? = some x → Tended s.pending c x
  last : ∀ (c : Nat) x, s.exchanges[c]? = some x → ¬ x.Returned → c + 1 = s.exchanges.length
  known : ∀ q, ∀ c ∈ s.pending q, c < s.exchanges.length
  single : ∀ q, ∀ c ∈ s.pending q, s.pending = Function.update (fun _ ↦ []) q [c]

theorem tidy_new : Tidy new where
  tended _ _ h := by cases h
  last _ _ h := by cases h
  known _ _ h := by cases h
  single _ _ h := by cases h

variable {services : ServiceMap} {peerId : String} {s : Connection} {c : Nat} {x : Exchange}

theorem Tidy.noStaleStream (hs : Tidy s) : NoStaleStream s where
  collected c x q hx hret _ hc := ((hs.tended c x hx).waits q hc).1 hret
  empty hidle q := by
    refine List.eq_nil_iff_forall_not_mem.mpr fun o ho ↦ ?_
    have hget := List.getElem?_eq_getElem (hs.known q o ho)
    exact ((hs.tended o _ hget).waits q ho).1 (hidle o _ hget)
  own c x o hx := (hs.tended c x hx).own o

/-- A stream that waits is that of the operation under way. -/
theorem Tidy.eq_of_pending (hs : Tidy s) (hx : s.exchanges[c]? = some x) (hlive : ¬ x.Returned)
    {q : Queue} {o : Nat} (ho : o ∈ s.pending q) : o = c := by
  have hget := List.getElem?_eq_getElem (hs.known q o ho)
  have h1 := hs.last o _ hget ((hs.tended o _ hget).waits q ho).1
  have h2 := hs.last c x hx hlive
  omega

/-- Before it opens a stream and without an answer, a handler has none in the queues. -/
theorem Tended.not_pending {pending : Queue → List Nat} (h : Tended pending c x)
    (hun : Unanswered x.server) (hoff : ¬ Offering x.server) (q : Queue) : c ∉ pending q := by
  intro hc
  rcases h.answers q hc with hoff' | ⟨r, hr⟩
  · exact hoff hoff'
  · rw [h.unanswered hun] at hr
    cases hr

/-! ## The steps of the operations -/

/-- A step of exchange `c` that leaves the queues alone. -/
theorem Tidy.set (hs : Tidy s) (hx : s.exchanges[c]? = some x) {y : Exchange}
    (hy : Tended s.pending c y) (hlive : ¬ y.Returned → ¬ x.Returned) :
    Tidy (s.setExchange c y) where
  tended c' z hz := by
    rcases List.getElem?_set_cases hz with ⟨rfl, rfl⟩ | ⟨_, hz⟩
    · exact hy
    · exact hs.tended c' z hz
  last c' z hz hret := by
    rw [setExchange, List.length_set]
    rcases List.getElem?_set_cases hz with ⟨rfl, rfl⟩ | ⟨_, hz⟩
    · exact hs.last c' x hx (hlive hret)
    · exact hs.last c' z hz hret
  known q o ho := by
    rw [setExchange, List.length_set]
    exact hs.known q o ho
  single := hs.single

/-- The operation moves on and returns no stream. -/
theorem Tidy.client (hs : Tidy s) (hx : s.exchanges[c]? = some x) (hlive : ¬ x.Returned)
    {p : OperationPhase}
    (hpatient : x.response = none →
      p = .sending ∨ p = .awaitingResponse ∨ ∃ r, p = .returned r)
    (hwaits : ∀ q, c ∈ s.pending q → ¬ (∃ r, p = .returned r) ∧ ∀ o, p ≠ .awaitingLabel o)
    (hown : ∀ o, p = .awaitingLabel o ∨ p = .returned (.ok (.stream o)) → o = c) :
    Tidy (s.setClient c x p) := by
  have h := hs.tended c x hx
  exact hs.set hx ⟨h.unanswered, hpatient, hwaits, h.accepts, h.answers, h.offered, hown⟩
    fun _ ↦ hlive

/-- The operation returns, and its stream is not in the queues. -/
theorem Tidy.ret (hs : Tidy s) (hx : s.exchanges[c]? = some x) (hlive : ¬ x.Returned)
    {r : Except ClientError Success} (hnot : ∀ q, c ∉ s.pending q)
    (hown : ∀ o, r = .ok (.stream o) → o = c) : Tidy (s.setClient c x (.returned r)) := by
  refine hs.client hx hlive (fun _ ↦ Or.inr (Or.inr ⟨r, rfl⟩)) (fun q hc ↦ absurd hc (hnot q)) ?_
  rintro o (h | h)
  · cases h
  · exact hown o (OperationPhase.returned.inj h)

theorem not_returned {p : OperationPhase} (hp : x.client = p) (h : ∀ r, p ≠ .returned r) :
    ¬ x.Returned := by
  rintro ⟨r, hr⟩
  exact h r (hp.symm.trans hr)

/-- An answered handler is past its offer. -/
theorem Tended.not_offering {pending : Queue → List Nat} (h : Tended pending c x)
    (hr : x.response ≠ none) : ¬ Offering x.server := by
  intro hoff
  apply hr
  apply h.unanswered
  cases hserver : x.server <;> rw [hserver] at hoff <;> first | exact trivial | exact hoff

/-- With empty queues nothing waits to be accepted. -/
theorem Tended.of_empty {pending : Queue → List Nat} (h : Tended pending c x)
    (hoff : ¬ Offering x.server) : Tended (fun _ ↦ []) c x where
  unanswered := h.unanswered
  patient := h.patient
  waits _ hc := by cases hc
  accepts _ hc := by cases hc
  answers _ hc := by cases hc
  offered ho := absurd ho hoff
  own := h.own

theorem Tidy.accept (hs : Tidy s) (hx : s.exchanges[c]? = some x) {q : Queue} {owner : Nat}
    {rest : List Nat} (hp : x.client = .accepting q) (hq : s.pending q = owner :: rest) :
    Tidy ((s.setClient c x (.awaitingLabel owner)).setPending q rest) := by
  have h := hs.tended c x hx
  have hlive : ¬ x.Returned := not_returned hp nofun
  have hmem : owner ∈ s.pending q := by rw [hq]; exact List.mem_cons_self
  obtain rfl := hs.eq_of_pending hx hlive hmem
  have hresp : x.response ≠ none := by
    intro hresp
    rcases h.patient hresp with h | h | h
    · simp [hp] at h
    · simp [hp] at h
    · exact hlive h
  -- the stream was the only one, so that the queues are empty now
  have hempty : Function.update s.pending q rest = fun _ ↦ [] := by
    have hsingle := hs.single q owner hmem
    rw [hsingle, Function.update_self] at hq
    rw [hsingle, ← (List.cons.inj hq).2, Function.update_idem, Function.update_eq_self]
  have hset : Tidy ((s.setPending q rest).setClient owner x (.awaitingLabel owner)) := by
    refine Tidy.set (s := s.setPending q rest) ⟨fun c' z hz ↦ ?_, hs.last, ?_, ?_⟩ hx ?_
      fun _ ↦ hlive
    · show Tended (Function.update s.pending q rest) c' z
      rw [hempty]
      refine (hs.tended c' z hz).of_empty fun hoff ↦ ?_
      obtain ⟨q', hq'⟩ := (hs.tended c' z hz).offered hoff
      obtain rfl := hs.eq_of_pending hx hlive hq'
      obtain rfl := Option.some_inj.mp (hx.symm.trans hz)
      exact h.not_offering hresp hoff
    · show ∀ q', ∀ o ∈ Function.update s.pending q rest q', o < s.exchanges.length
      rw [hempty]
      intro q' o ho
      cases ho
    · show ∀ q', ∀ o ∈ Function.update s.pending q rest q',
        Function.update s.pending q rest = Function.update (fun _ ↦ []) q' [o]
      rw [hempty]
      intro q' o ho
      cases ho
    · show Tended (Function.update s.pending q rest) owner _
      rw [hempty]
      exact {
        unanswered := h.unanswered
        patient hr := absurd hr hresp
        waits _ hc := by cases hc
        accepts _ hc := by cases hc
        answers _ hc := by cases hc
        offered ho := absurd ho (h.not_offering hresp)
        own o ho := by
          rcases ho with ho | ho
          · exact (OperationPhase.awaitingLabel.inj ho).symm
          · cases ho }
  exact hset

/-- An operation that reads an error, or accepts no stream, has none in the queues. -/
theorem Tidy.answered (hs : Tidy s) (hx : s.exchanges[c]? = some x)
    (hp : x.client = .awaitingResponse) {r : ResourceResponse} (hr : x.response = some r) :
    Tidy (s.setClient c x (x.operation.answered r)) := by
  have h := hs.tended c x hx
  have hlive : ¬ x.Returned := not_returned hp nofun
  cases r with
  | error e =>
    refine hs.ret hx hlive (fun q hq ↦ ?_) nofun
    rcases h.answers q hq with hoff | ⟨v, hv⟩
    · exact h.not_offering (by simp [hr]) hoff
    · rw [hr] at hv
      cases hv
  | ok v =>
    cases hq : x.operation.acceptsFrom with
    | none =>
      rw [Operation.answered, hq]
      exact hs.ret hx hlive (fun q hc ↦ h.accepts q hc hq) nofun
    | some q =>
      rw [Operation.answered, hq]
      refine hs.client hx hlive (fun h ↦ by simp [hr] at h) (fun q _ ↦ ⟨?_, nofun⟩) ?_
      · rintro ⟨r, h⟩
        cases h
      · rintro o (h | h) <;> cases h

/-- An operation starts with empty queues. -/
theorem Tidy.start (hs : Tidy s) (hidle : s.Idle) (op : Operation) :
    Tidy { s with exchanges := s.exchanges ++ [⟨op, .sending, .reading, none, none⟩] } := by
  refine ⟨fun c x hx ↦ ?_, fun c x hx hret ↦ ?_, fun q o ho ↦ ?_, hs.single⟩
  · rcases List.getElem?_concat_cases hx with ⟨rfl, rfl⟩ | hx
    · have hnot : ∀ q, s.exchanges.length ∉ s.pending q :=
        fun q hq ↦ Nat.lt_irrefl _ (hs.known q _ hq)
      exact {
        unanswered _ := rfl
        patient _ := Or.inl rfl
        waits q hq := absurd hq (hnot q)
        accepts q hq := absurd hq (hnot q)
        answers q hq := absurd hq (hnot q)
        offered h := h.elim
        own o ho := by rcases ho with ho | ho <;> cases ho }
    · exact hs.tended c x hx
  · rw [List.length_append, List.length_singleton]
    rcases List.getElem?_concat_cases hx with ⟨rfl, rfl⟩ | hx
    · rfl
    · exact absurd (hidle c x hx) hret
  · have := hs.known q o ho
    rw [List.length_append, List.length_singleton]
    omega

/-! ## The steps of the handlers -/

/-- The handler moves on without a stream of its own in the queues. -/
theorem Tidy.withoutStream (hs : Tidy s) (hx : s.exchanges[c]? = some x)
    (hun : Unanswered x.server) (hoff : ¬ Offering x.server) {p : HandlePhase}
    {r : Option ResourceResponse} (hr : Unanswered p → r = none)
    (hr' : r = none → x.response = none) (hp : ¬ Offering p) :
    Tidy (s.setExchange c { x with server := p, response := r }) := by
  have h := hs.tended c x hx
  have hnot := h.not_pending hun hoff
  exact hs.set hx {
    unanswered := hr
    patient h' := h.patient (hr' h')
    waits q hc := absurd hc (hnot q)
    accepts q hc := absurd hc (hnot q)
    answers q hc := absurd hc (hnot q)
    offered h' := absurd h' hp
    own := h.own } fun h ↦ h

/-- The handler opens its stream. -/
theorem Tidy.openStream (hs : Tidy s) (hx : s.exchanges[c]? = some x) {k : StreamKind}
    {cb : CallbackId} (hp : x.server = .opening k cb) (haccepts : x.operation.acceptsFrom ≠ none)
    (hlive : ¬ x.Returned) :
    Tidy (s.apply c { x with server := .labelling k cb } (some (.openStream k.setup.queue))) := by
  have h := hs.tended c x hx
  have hun : Unanswered x.server := by rw [hp]; exact trivial
  have hnot := h.not_pending hun (by rw [hp]; exact id)
  have hempty : s.pending = fun _ ↦ [] := by
    funext q
    refine List.eq_nil_iff_forall_not_mem.mpr fun o ho ↦ ?_
    exact hnot q (hs.eq_of_pending hx hlive ho ▸ ho)
  have hpending : Function.update s.pending k.setup.queue (s.pending k.setup.queue ++ [c]) =
      Function.update (fun _ ↦ []) k.setup.queue [c] := by
    rw [hempty]
    rfl
  have hmem : ∀ q o, o ∈ Function.update (fun _ ↦ []) k.setup.queue [c] q →
      q = k.setup.queue ∧ o = c := by
    intro q o ho
    by_cases hq : q = k.setup.queue
    · subst hq
      rw [Function.update_self, List.mem_singleton] at ho
      exact ⟨rfl, ho⟩
    · rw [Function.update_of_ne hq] at ho
      cases ho
  have hlast := hs.last c x hx hlive
  refine ⟨fun c' z hz ↦ ?_, fun c' z hz hret ↦ ?_, fun q o ho ↦ ?_, fun q o ho ↦ ?_⟩
  · show Tended (Function.update s.pending _ _) c' z
    rw [hpending]
    rcases List.getElem?_set_cases hz with ⟨rfl, rfl⟩ | ⟨hne, hz⟩
    · exact {
        unanswered _ := h.unanswered hun
        patient := h.patient
        waits _ _ := by
          refine ⟨hlive, fun o ho ↦ ?_⟩
          rcases h.patient (h.unanswered hun) with h' | h' | h'
          · cases h'.symm.trans ho
          · cases h'.symm.trans ho
          · exact hlive h'
        accepts _ _ := haccepts
        answers _ _ := Or.inl trivial
        offered _ := ⟨k.setup.queue, by rw [Function.update_self]; exact List.mem_singleton_self _⟩
        own := h.own }
    · have hz' := hs.tended c' z hz
      exact {
        unanswered := hz'.unanswered
        patient := hz'.patient
        waits q hc := absurd (hmem q c' hc).2 hne
        accepts q hc := absurd (hmem q c' hc).2 hne
        answers q hc := absurd (hmem q c' hc).2 hne
        offered ho := by
          obtain ⟨q, hq⟩ := hz'.offered ho
          rw [hempty] at hq
          cases hq
        own := hz'.own }
  · show c' + 1 = (s.exchanges.set c _).length
    rw [List.length_set]
    rcases List.getElem?_set_cases hz with ⟨rfl, rfl⟩ | ⟨_, hz⟩
    · exact hlast
    · exact hs.last c' z hz hret
  · have ho' : o ∈ Function.update s.pending k.setup.queue (s.pending k.setup.queue ++ [c]) q := ho
    rw [hpending] at ho'
    obtain ⟨-, rfl⟩ := hmem q o ho'
    show o < (s.exchanges.set o _).length
    rw [List.length_set]
    omega
  · have ho' : o ∈ Function.update s.pending k.setup.queue (s.pending k.setup.queue ++ [c]) q := ho
    rw [hpending] at ho'
    obtain ⟨rfl, rfl⟩ := hmem q o ho'
    exact hpending

/-- A step of a handler keeps the invariant when it is attended. -/
theorem Tidy.server (hs : Tidy s) (hx : s.exchanges[c]? = some x) {p : HandlePhase}
    {ev : HandleEvent} {eff : Option HandleEffect}
    (hp : HandleMoves services peerId x.operation.request x.server ev p eff)
    (hc : Attended s (.server c ev)) : Tidy (s.apply c { x with server := p } eff) := by
  have h := hs.tended c x hx
  generalize hserver : x.server = p₀ at hp
  cases hp with
  | read =>
    refine hs.withoutStream hx (by simp [hserver, Unanswered]) (by simp [hserver, Offering])
      (fun _ ↦ h.unanswered (by simp [hserver, Unanswered])) id ?_
    cases route services x.operation.request with
    | error e => exact id
    | ok resource => cases resource <;> exact id
  | opened =>
    obtain ⟨haccepts, hlive⟩ := hc x hx
    exact hs.openStream hx hserver haccepts hlive
  | readFail | openFail | prepared | prepareFail | admitted | rejected | returned | panicked
  | respondFail =>
    exact hs.withoutStream hx (by simp [hserver, Unanswered]) (by simp [hserver, Offering])
      (fun _ ↦ h.unanswered (by simp [hserver, Unanswered])) id id
  | labelled =>
    have hun := h.unanswered (by simp [hserver, Unanswered])
    exact hs.set hx {
      unanswered _ := hun
      patient := h.patient
      waits := h.waits
      accepts := h.accepts
      answers _ _ := Or.inl trivial
      offered _ := h.offered (by simp [hserver, Offering])
      own := h.own } id
  | labelFail => exact hc.elim
  | accepted =>
    exact hs.set hx {
      unanswered h := h.elim
      patient := nofun
      waits := h.waits
      accepts := h.accepts
      answers _ _ := Or.inr ⟨_, rfl⟩
      offered h := h.elim
      own := h.own } id
  | acceptFail => exact absurd hserver (hc x _ _ hx)
  | spawned =>
    exact hs.set hx {
      unanswered h := h.elim
      patient := h.patient
      waits := h.waits
      accepts := h.accepts
      answers q hq := by
        rcases h.answers q hq with hoff | hr
        · rw [hserver] at hoff
          exact hoff.elim
        · exact Or.inr hr
      offered h := h.elim
      own := h.own } id
  | responded =>
    exact hs.withoutStream hx (by simp [hserver, Unanswered]) (by simp [hserver, Offering])
      (fun h ↦ h.elim) nofun id

/-- **Every attended step keeps the invariant.** -/
theorem Moves.tidy {l : Label} {t : Connection} (h : Moves services peerId s l t) (hs : Tidy s)
    (hseq : OneAfterAnother s l) (hc : Attended s l) : Tidy t := by
  cases h with
  | start op => exact hs.start hseq op
  | sent hx hp =>
    refine hs.client hx (not_returned hp nofun) (fun _ ↦ Or.inr (Or.inl rfl))
      (fun q _ ↦ ⟨?_, nofun⟩) ?_
    · rintro ⟨r, h⟩
      cases h
    · rintro o (h | h) <;> cases h
  | answered hx hp hr => exact hs.answered hx hp hr
  | @unanswered c x hx hp hdone hr =>
    refine hs.ret hx (not_returned hp nofun) (fun q hq ↦ ?_) nofun
    rcases (hs.tended c x hx).answers q hq with hoff | ⟨v, hv⟩
    · rw [hdone] at hoff
      exact hoff
    · rw [hr] at hv
      cases hv
  | accepted hx hp hq => exact hs.accept hx hp hq
  | @shaken c x owner label r hx hp hl hr =>
    have h := hs.tended c x hx
    refine hs.ret hx (not_returned hp nofun) (fun q hq ↦ (h.waits q hq).2 owner hp) fun o ho ↦ ?_
    cases r with
    | error e => cases ho
    | ok =>
      cases ho
      exact h.own owner (Or.inl hp)
  | @unlabelled c x owner hx hp hl | @undecodable c x owner e hx hp hf hl =>
    exact hs.ret hx (not_returned hp nofun)
      (fun q hq ↦ ((hs.tended c x hx).waits q hq).2 owner hp) nofun
  | failed hx hp => exact hs.ret hx hp hc nofun
  | server hx hp => exact hs.server hx hp hc

/-! ## What is under way is completed -/

/-- A step that completes what is under way is attended. -/
theorem Label.Completes.attended {l : Label} (h : l.Completes) :
    OneAfterAnother s l ∧ Attended s l := by
  cases l with
  | start op => exact h.elim
  | client c ev =>
    cases ev with
    | failed e => exact h.elim
    | _ => exact ⟨trivial, trivial⟩
  | server c ev =>
    cases ev with
    | opened ok => exact h.elim
    | labelled r =>
      cases r with
      | error e => exact h.elim
      | ok => exact ⟨trivial, trivial⟩
    | sent ok =>
      cases ok with
      | false => exact h.elim
      | true => exact ⟨trivial, trivial⟩
    | _ => exact ⟨trivial, trivial⟩

/-- **The invariant implies the promise.** -/
theorem Tidy.leavesNone (hs : Tidy s) : LeavesNone services peerId s := by
  intro ls t hls hrun
  have halong := Machine.along_of_meets (M := machine services peerId) (I := Tidy)
    (fun s l t hs hl ht ↦ (moves_of_step ht).tidy hs (Label.Completes.attended hl).1
      (Label.Completes.attended hl).2) hs (Machine.meets_of_forall hls)
  exact (halong.last hrun).noStaleStream

theorem LeavesNone.now (h : LeavesNone services peerId s) : NoStaleStream s :=
  h [] s (by simp) rfl

theorem LeavesNone.step (h : LeavesNone services peerId s) {l : Label} {t : Connection}
    (ht : (machine services peerId).step s l = some t) (hl : l.Completes) :
    LeavesNone services peerId t := by
  intro ls u hls hrun
  refine h (l :: ls) u (List.forall_mem_cons.mpr ⟨hl, hls⟩) ?_
  rw [Machine.runFrom_cons, ht]
  exact hrun

/-- The operation waits for its response at most. -/
def Early (x : Exchange) : Prop := x.client = .sending ∨ x.client = .awaitingResponse

/-- The operation accepts no stream any more. -/
def Declines (x : Exchange) : Prop :=
  x.Returned ∨ (Early x ∧ (x.operation.acceptsFrom = none ∨ ∀ v, x.response ≠ some (.ok v)))

/-- A response after which the operation accepts no stream. -/
theorem answered_of_declines {r : ResourceResponse} {op : Operation}
    (h : op.acceptsFrom = none ∨ ∀ v, r ≠ .ok v) : ∃ v, op.answered r = .returned v := by
  cases r with
  | error e => exact ⟨_, rfl⟩
  | ok v =>
    rcases h with h | h
    · exact ⟨.ok (.response v), by rw [Operation.answered, h]⟩
    · exact absurd rfl (h v)

/-- While its stream waits and its handler is over, an operation has not returned. -/
theorem LeavesNone.not_returned (h : LeavesNone services peerId s)
    (hx : s.exchanges[c]? = some x) {q : Queue} (hq : c ∈ s.pending q) (hdone : x.server = .done) :
    ¬ x.Returned :=
  fun hret ↦ h.now.collected c x q hx hret hdone hq

/-- It does not wait for a response after which it would accept no stream, either. -/
theorem LeavesNone.not_awaiting (h : LeavesNone services peerId s)
    (hx : s.exchanges[c]? = some x) {q : Queue} (hq : c ∈ s.pending q) (hdone : x.server = .done)
    (hp : x.client = .awaitingResponse) :
    ¬ (x.operation.acceptsFrom = none ∨ ∀ v, x.response ≠ some (.ok v)) := by
  intro hor
  cases hr : x.response with
  | none =>
    have ht : (machine services peerId).step s (.client c .ended) =
        some (s.setClient c x (.returned (.error (.protocol "No response received")))) := by
      rw [step_client hx, hp, clientStep, hdone, hr]
    exact (h.step ht trivial).not_returned (getElem?_setClient hx _) hq hdone ⟨_, rfl⟩
  | some r =>
    have ht : (machine services peerId).step s (.client c .next) =
        some (s.setClient c x (x.operation.answered r)) := by
      rw [step_client hx, hp, clientStep, hr]
      rfl
    have hret : ∃ v, x.operation.answered r = .returned v := by
      refine answered_of_declines (hor.imp id fun hor v hv ↦ hor v ?_)
      rw [hr, hv]
    exact (h.step ht trivial).not_returned (getElem?_setClient hx _) hq hdone hret

/-- Hence it still accepts one. -/
theorem LeavesNone.not_done (h : LeavesNone services peerId s) (hx : s.exchanges[c]? = some x)
    {q : Queue} (hq : c ∈ s.pending q) (hdone : x.server = .done) : ¬ Declines x := by
  rintro (hret | ⟨hp | hp, hor⟩)
  · exact h.not_returned hx hq hdone hret
  · have ht : (machine services peerId).step s (.client c .next) =
        some (s.setClient c x .awaitingResponse) := by
      rw [step_client hx, hp]
      rfl
    exact (h.step ht trivial).not_awaiting (getElem?_setClient hx _) hq hdone rfl hor
  · exact h.not_awaiting hx hq hdone hp hor

theorem LeavesNone.not_spawning (h : LeavesNone services peerId s)
    (hx : s.exchanges[c]? = some x) {q : Queue} (hq : c ∈ s.pending q) {k : StreamKind}
    {cb : CallbackId} (hp : x.server = .spawning k cb) : ¬ Declines x := by
  have ht : (machine services peerId).step s (.server c .spawn) =
      some (s.setExchange c { x with server := .done }) := by
    rw [step_server hx, hp]
    rfl
  have hy := getElem?_setExchange hx { x with server := .done }
  exact fun hdeclines ↦ (h.step ht trivial).not_done hy hq rfl hdeclines

theorem LeavesNone.not_accepting (h : LeavesNone services peerId s)
    (hx : s.exchanges[c]? = some x) {q : Queue} (hq : c ∈ s.pending q) {k : StreamKind}
    {cb : CallbackId} (hp : x.server = .accepting k cb) :
    ¬ (x.Returned ∨ (Early x ∧ x.operation.acceptsFrom = none)) := by
  intro hor
  have ht : (machine services peerId).step s (.server c (.sent true)) =
      some (s.setExchange c { x with server := .spawning k cb, response := some (.ok ⟨[]⟩) }) := by
    rw [step_server hx, hp]
    rfl
  have hy := getElem?_setExchange hx
    { x with server := .spawning k cb, response := some (.ok ⟨[]⟩) }
  exact (h.step ht trivial).not_spawning hy hq rfl (hor.imp id (And.imp id Or.inl))

theorem LeavesNone.not_labelling (h : LeavesNone services peerId s)
    (hx : s.exchanges[c]? = some x) {q : Queue} (hq : c ∈ s.pending q) {k : StreamKind}
    {cb : CallbackId} (hp : x.server = .labelling k cb) :
    ¬ (x.Returned ∨ (Early x ∧ x.operation.acceptsFrom = none)) := by
  have ht : (machine services peerId).step s (.server c (.labelled (.ok ()))) =
      some (s.setExchange c { x with
        server := .accepting k cb
        label := some (k.setup.label x.operation.request) }) := by
    rw [step_server hx, hp]
    rfl
  have hy := getElem?_setExchange hx
    { x with server := .accepting k cb, label := some (k.setup.label x.operation.request) }
  exact fun hor ↦ (h.step ht trivial).not_accepting hy hq rfl hor

theorem LeavesNone.not_responding (h : LeavesNone services peerId s)
    (hx : s.exchanges[c]? = some x) {q : Queue} (hq : c ∈ s.pending q) {e : ResourceError}
    (hp : x.server = .responding (.error e)) : ¬ (x.Returned ∨ Early x) := by
  intro hor
  have ht : (machine services peerId).step s (.server c (.sent true)) =
      some (s.setExchange c { x with server := .done, response := some (.error e) }) := by
    rw [step_server hx, hp]
    rfl
  have hy := getElem?_setExchange hx { x with server := .done, response := some (.error e) }
  exact (h.step ht trivial).not_done hy hq rfl
    (hor.imp id fun he ↦ ⟨he, Or.inr nofun⟩)

/-! ## The exact condition -/

theorem Tended.early {pending : Queue → List Nat} (h : Tended pending c x)
    (hun : Unanswered x.server) : x.Returned ∨ Early x := by
  rcases h.patient (h.unanswered hun) with hp | hp | hp
  · exact Or.inr (Or.inl hp)
  · exact Or.inr (Or.inr hp)
  · exact Or.inl hp

/-- An operation that has returned has no stream in the queues. -/
theorem LeavesNone.not_pending (h : LeavesNone services peerId s) (hx : s.exchanges[c]? = some x)
    (hret : x.Returned) {q : Queue}
    (hanswers : Offering x.server ∨ ∃ r, x.response = some (.ok r))
    (hun : Unanswered x.server → x.response = none) : c ∉ s.pending q := by
  intro hq
  rcases hanswers with hoff | ⟨r, hr⟩
  · cases hp : x.server with
    | labelling k cb => exact h.not_labelling hx hq hp (Or.inl hret)
    | accepting k cb => exact h.not_accepting hx hq hp (Or.inl hret)
    | _ =>
      rw [hp] at hoff
      exact hoff
  · cases hp : x.server with
    | spawning k cb => exact h.not_spawning hx hq hp (Or.inl hret)
    | done => exact h.not_done hx hq hp (Or.inl hret)
    | _ =>
      rw [hp] at hun
      rw [hun trivial] at hr
      cases hr

/-- **An unattended step leaves a stream over.** -/
theorem Moves.not_leavesNone {l : Label} {t : Connection} (h : Moves services peerId s l t)
    (hs : Tidy s) (hc : ¬ Attended s l) : ¬ LeavesNone services peerId t := by
  intro hnone
  apply hc
  cases h with
  | @failed c x e hx hp =>
    intro q hq
    have h := hs.tended c x hx
    exact hnone.not_pending (getElem?_setClient hx _) ⟨_, rfl⟩ (h.answers q hq) h.unanswered hq
  | @server c x p ev eff hx hp =>
    have h := hs.tended c x hx
    generalize hserver : x.server = p₀ at hp
    cases hp with
    | @opened k cb =>
      intro y hy
      obtain rfl := Option.some_inj.mp (hx.symm.trans hy)
      have hq : c ∈ (s.apply c { x with server := .labelling k cb }
          (some (.openStream k.setup.queue))).pending k.setup.queue := by
        show c ∈ Function.update s.pending _ _ _
        rw [Function.update_self]
        exact List.mem_append_right _ (List.mem_singleton_self c)
      have hnot := hnone.not_labelling (List.getElem?_set_of_some hx) hq rfl
      have hlive : ¬ x.Returned := fun hret ↦ hnot (Or.inl hret)
      have hearly := (h.early (by simp [hserver, Unanswered])).resolve_left hlive
      exact ⟨fun hq ↦ hnot (Or.inr ⟨hearly, hq⟩), hlive⟩
    | labelFail =>
      obtain ⟨q, hq⟩ := h.offered (by simp [hserver, Offering])
      exact hnone.not_responding (List.getElem?_set_of_some hx) hq rfl
        (h.early (by simp [hserver, Unanswered]))
    | acceptFail =>
      obtain ⟨q, hq⟩ := h.offered (by simp [hserver, Offering])
      have hun : Unanswered x.server := by simp [hserver, Unanswered]
      have hresp : ∀ v, x.response ≠ some (.ok v) := by simp [h.unanswered hun]
      have hy := getElem?_setExchange hx { x with server := .done }
      have hdeclines : Declines x := (h.early hun).imp id fun he ↦ ⟨he, Or.inr hresp⟩
      exact (hnone.not_done hy hq rfl hdeclines).elim
    | respondFail =>
      intro y k cb hy
      obtain rfl := Option.some_inj.mp (hx.symm.trans hy)
      rw [hserver]
      exact nofun
    | _ => exact trivial
  | _ => exact trivial

/-- **No stream is left over**: in every run of operations one after another, no stream is left
over, now or when what is under way is completed, if and only if every step is attended. -/
theorem leaves_none_iff (services : ServiceMap) (peerId : String) {ls : List Label}
    (hseq : (machine services peerId).Meets OneAfterAnother new ls) :
    (machine services peerId).Along (LeavesNone services peerId) new ls ↔
      (machine services peerId).Meets Attended new ls :=
  Machine.along_iff_meets_of (I := Tidy)
    (fun _ _ _ hs hseq hc ht ↦ (moves_of_step ht).tidy hs hseq hc) (fun _ hs ↦ hs.leavesNone)
    (fun _ _ _ hs _ hc ht ↦ (moves_of_step ht).not_leavesNone hs hc) tidy_new hseq

/-- The first request of a connection is sent, its handler opens a stream for it, answers it and is
over; then come the rest of the steps. -/
def servedRun (op : Operation) (rest : List Label) : List Label :=
  [.start op, .client 0 .next, .server 0 .read, .server 0 (.opened true),
    .server 0 (.labelled (.ok ())), .server 0 (.sent true), .server 0 .spawn] ++ rest

/-- A subscription and then another one, which is only sent. -/
def twoSubscriptions : List Label :=
  servedRun (.counter 0) [.client 0 .next, .client 0 .next, .client 0 .next, .start (.counter 1),
    .client 1 .next]

theorem idle_new : Idle new := by
  intro c x hx
  cases hx

theorem oneAfterAnother_twoSubscriptions (peerId : String) :
    (machine (oneResource (.subscriptionProducer 0)) peerId).Meets OneAfterAnother new
      twoSubscriptions := by
  refine (Machine.meets_cons_of_step rfl).mpr ⟨idle_new, ?_⟩
  iterate 9 refine (Machine.meets_cons_of_step rfl).mpr ⟨trivial, ?_⟩
  refine (Machine.meets_cons_of_step rfl).mpr ⟨fun c x hx ↦ ?_, ?_⟩
  · cases c with
    | zero =>
      cases hx
      exact ⟨_, rfl⟩
    | succ c => cases hx
  refine (Machine.meets_cons_of_step rfl).mpr ⟨trivial, ?_⟩
  trivial

theorem attended_twoSubscriptions (peerId : String) :
    (machine (oneResource (.subscriptionProducer 0)) peerId).Meets Attended new
      twoSubscriptions := by
  iterate 3 refine (Machine.meets_cons_of_step rfl).mpr ⟨trivial, ?_⟩
  refine (Machine.meets_cons_of_step rfl).mpr ⟨fun x hx ↦ ?_, ?_⟩
  · cases hx
    exact ⟨Option.some_ne_none _, not_returned rfl nofun⟩
  iterate 8 refine (Machine.meets_cons_of_step rfl).mpr ⟨trivial, ?_⟩
  trivial

/-- The rule at work on that run. -/
theorem leaves_none_twoSubscriptions :
    (machine (oneResource (.subscriptionProducer 0)) "peer").Along
      (LeavesNone (oneResource (.subscriptionProducer 0)) "peer") new twoSubscriptions :=
  (leaves_none_iff (oneResource (.subscriptionProducer 0)) "peer"
    (oneAfterAnother_twoSubscriptions "peer")).mpr (attended_twoSubscriptions "peer")

/-- A `call` to a subscription, and then a subscription. -/
def staleRun : List Label :=
  servedRun (.call "demo" "counter" []) [.client 0 .next, .start (.counter 1), .client 1 .next,
    .server 1 .read, .server 1 (.opened true), .server 1 (.labelled (.ok ())),
    .server 1 (.sent true), .server 1 .spawn, .client 1 .next, .client 1 .next, .client 1 .next]

/-- **A `call` leaves a stream over**: it succeeds, the handler is over, and the stream that was
opened for it goes to the next subscription, whose own is left over in turn. -/
theorem call_leaves_stream :
    (machine (oneResource (.subscriptionProducer 0)) "peer").Meets OneAfterAnother new staleRun ∧
      ∃ s, (machine (oneResource (.subscriptionProducer 0)) "peer").run staleRun = some s ∧
        s.exchanges.map Exchange.client =
          [.returned (.ok (.response ⟨[]⟩)), .returned (.ok (.stream 0))] ∧
        s.pending .uni = [1] ∧ ¬ NoStaleStream s := by
  refine ⟨?_, _, rfl, rfl, rfl, fun h ↦ ?_⟩
  · refine (Machine.meets_cons_of_step rfl).mpr ⟨idle_new, ?_⟩
    iterate 7 refine (Machine.meets_cons_of_step rfl).mpr ⟨trivial, ?_⟩
    refine (Machine.meets_cons_of_step rfl).mpr ⟨fun c x hx ↦ ?_, ?_⟩
    · cases c with
      | zero =>
        cases hx
        exact ⟨_, rfl⟩
      | succ c => cases hx
    iterate 9 refine (Machine.meets_cons_of_step rfl).mpr ⟨trivial, ?_⟩
    trivial
  · exact h.collected 1 _ .uni rfl ⟨_, rfl⟩ rfl (List.mem_singleton_self 1)

end Connection

end Zel
