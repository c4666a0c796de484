import Zel.GracefulShutdown
import Zel.Lib.History

/-!
# The life of a request on the server

A stream task reads one request and serves it (`handle_stream` in `protocol/server.rs`), while other
tasks serve theirs, handlers accept and refuse streams, and the server may be shutting down.  What
becomes visible of one task is a short conversation: at most one response, at most one callback, and
for the kinds that open a stream the label before the response and the response before the callback.

## What is here

* `Transcript` — the conversations that a request can lead to, by what it is routed to.
* `SoFar` — where in such a conversation each phase of the handler stands.
* `TaskMoves` — what a step of the server can do to one task.
* `task_transcript` — **every task is on its way through a transcript**, in every run of the server.
* `callbacks_asked_for` — the callbacks that a server has spawned, counted against the requests.
-/

set_option autoImplicit false

namespace Zel

/-- The resource of a kind that opens a stream. -/
def StreamKind.resource : StreamKind → CallbackId → ResourceCallback
  | .subscription, cb => .subscriptionProducer cb
  | .notification, cb => .notificationConsumer cb
  | .stream, cb => .streamHandler cb

theorem StreamKind.resource_inj {k k' : StreamKind} {cb cb' : CallbackId} :
    k.resource cb = k'.resource cb' ↔ k = k' ∧ cb = cb' := by
  cases k <;> cases k' <;> simp [resource]

/-! ## Conversations -/

section Conversations

/-- The handler gives up without another word. -/
def HandleEvent.cutsShort : HandleEvent → Bool
  | .readFail | .sent false | .panicked => true
  | _ => false

variable (services : ServiceMap) (peerId : String) (request : Request)

/-- What a request that is served to the end makes visible. -/
inductive Transcript : List HandleEffect → Prop
  | unrouted {e : ResourceError} (h : route services request = .error e) :
      Transcript [.respond (.error e)]
  | rejected {cb : CallbackId} (h : route services request = .ok (.rpc cb)) :
      Transcript [.respond (.error (.circuitBreakerOpen peerId))]
  | called {cb : CallbackId} (h : route services request = .ok (.rpc cb)) (r : ResourceResponse) :
      Transcript [.startCallback cb, .respond r]
  | notOpened {k : StreamKind} {cb : CallbackId}
      (h : route services request = .ok (k.resource cb)) :
      Transcript [.respond (.error (.app k.setup.openError))]
  | notLabelled {k : StreamKind} {cb : CallbackId}
      (h : route services request = .ok (k.resource cb)) (e : String) :
      Transcript [.openStream k.setup.queue, .respond (.error (.app (k.setup.ackError e)))]
  | established {k : StreamKind} {cb : CallbackId}
      (h : route services request = .ok (k.resource cb)) :
      Transcript [.openStream k.setup.queue, .writeLabel (k.setup.label request),
        .respond (.ok ⟨[]⟩), .spawnCallback k cb]

variable (cut : Prop) in
/-- What is visible when the handler is in a phase; something is missing at the end only if the
handler was cut short. -/
inductive SoFar : HandlePhase → List HandleEffect → Prop
  | reading : SoFar .reading []
  | opening {k : StreamKind} {cb : CallbackId}
      (h : route services request = .ok (k.resource cb)) : SoFar (.opening k cb) []
  | labelling {k : StreamKind} {cb : CallbackId}
      (h : route services request = .ok (k.resource cb)) :
      SoFar (.labelling k cb) [.openStream k.setup.queue]
  | accepting {k : StreamKind} {cb : CallbackId}
      (h : route services request = .ok (k.resource cb)) :
      SoFar (.accepting k cb)
        [.openStream k.setup.queue, .writeLabel (k.setup.label request)]
  | spawning {k : StreamKind} {cb : CallbackId}
      (h : route services request = .ok (k.resource cb)) :
      SoFar (.spawning k cb) [.openStream k.setup.queue, .writeLabel (k.setup.label request),
        .respond (.ok ⟨[]⟩)]
  | preparing {cb : CallbackId} (h : route services request = .ok (.rpc cb)) :
      SoFar (.preparing cb) []
  | admitting {cb : CallbackId} (h : route services request = .ok (.rpc cb)) :
      SoFar (.admitting cb) []
  | running {cb : CallbackId} (h : route services request = .ok (.rpc cb)) :
      SoFar (.running cb) [.startCallback cb]
  | responding {r : ResourceResponse} {effs : List HandleEffect}
      (h : Transcript services peerId request (effs ++ [.respond r])) : SoFar (.responding r) effs
  | done {effs rest : List HandleEffect} (h : Transcript services peerId request (effs ++ rest))
      (hcut : rest = [] ∨ cut) : SoFar .done effs

variable {services peerId request} {cut : Prop}

/-- Where the handler goes, the conversation has not begun. -/
theorem soFar_dispatch :
    SoFar services peerId request cut (dispatch (route services request)) [] := by
  rcases h : route services request with e | resource
  · exact .responding (.unrouted h)
  · rcases resource with cb | cb | cb | cb
    · exact .preparing h
    · exact .opening (k := .subscription) h
    · exact .opening (k := .notification) h
    · exact .opening (k := .stream) h

/-- Some transcript goes on from here. -/
theorem SoFar.exists_transcript {p : HandlePhase} {effs : List HandleEffect}
    (h : SoFar services peerId request cut p effs) :
    ∃ rest, Transcript services peerId request (effs ++ rest) := by
  rcases h with _ | h | h | h | h | h | h | h | h | ⟨h, -⟩
  · rcases h : route services request with e | resource
    · exact ⟨_, .unrouted h⟩
    · rcases resource with cb | cb | cb | cb
      · exact ⟨_, .rejected h⟩
      · exact ⟨_, .notOpened (k := .subscription) h⟩
      · exact ⟨_, .notOpened (k := .notification) h⟩
      · exact ⟨_, .notOpened (k := .stream) h⟩
  · exact ⟨_, .notOpened h⟩
  · exact ⟨_, .established h⟩
  · exact ⟨_, .established h⟩
  · exact ⟨_, .established h⟩
  · exact ⟨_, .rejected h⟩
  · exact ⟨_, .rejected h⟩
  · exact ⟨_, .called h (.ok ⟨[]⟩)⟩
  · exact ⟨_, h⟩
  · exact ⟨_, h⟩

/-- **A step of the handler goes on with the conversation.** -/
theorem SoFar.step {p q : HandlePhase} {ev : HandleEvent} {eff : Option HandleEffect}
    {effs : List HandleEffect} (h : SoFar services peerId request cut p effs)
    (hm : HandleMoves services peerId request p ev q eff) (hcut : ev.cutsShort = true → cut) :
    SoFar services peerId request cut q (effs ++ eff.toList) := by
  cases hm with
  | read => cases h; exact soFar_dispatch
  | readFail =>
    obtain ⟨rest, hrest⟩ := h.exists_transcript
    exact .done (by simpa using hrest) (Or.inr (hcut rfl))
  | opened => cases h with | opening h => exact .labelling h
  | openFail => cases h with | opening h => exact .responding (.notOpened h)
  | labelled => cases h with | labelling h => exact .accepting h
  | labelFail => cases h with | labelling h => exact .responding (.notLabelled h _)
  | accepted => cases h with | accepting h => exact .spawning h
  | acceptFail =>
    obtain ⟨rest, hrest⟩ := h.exists_transcript
    exact .done (by simpa using hrest) (Or.inr (hcut rfl))
  | spawned =>
    cases h with
    | spawning h =>
      have hall := @Transcript.established services peerId request _ _ h
      rw [← List.append_nil [_, _, _, _]] at hall
      exact .done hall (Or.inl rfl)
  | prepared => cases h with | preparing h => exact .admitting h
  | prepareFail =>
    obtain ⟨rest, hrest⟩ := h.exists_transcript
    exact .done (by simpa using hrest) (Or.inr (hcut rfl))
  | admitted => cases h with | admitting h => exact .running h
  | rejected => cases h with | admitting h => exact .responding (.rejected h)
  | returned => cases h with | running h => exact .responding (.called h _)
  | panicked =>
    obtain ⟨rest, hrest⟩ := h.exists_transcript
    exact .done (by simpa using hrest) (Or.inr (hcut rfl))
  | responded =>
    cases h with
    | responding h =>
      rw [← List.append_nil (effs ++ _)] at h
      exact .done h (Or.inl rfl)
  | respondFail =>
    obtain ⟨rest, hrest⟩ := h.exists_transcript
    exact .done (by simpa using hrest) (Or.inr (hcut rfl))

theorem HandleMoves.step_eq {p q : HandlePhase} {ev : HandleEvent} {eff : Option HandleEffect}
    (h : HandleMoves services peerId request p ev q eff) :
    p.step services peerId request ev = some (q, eff) := by
  cases h <;> rfl

end Conversations

namespace Server

variable (services : ServiceMap) (remoteId : Nat → String)

/-! ## One task of a server -/

/-- What task `i` makes visible in a step. -/
def effectsOf (i : Nat) (s : Server) : Label → List HandleEffect
  | .task j ev =>
    if j = i then
      match s.tasks[i]? with
      | some ⟨h, request, .running p⟩ =>
        ((p.step services (remoteId h) request ev).bind Prod.snd).toList
      | _ => []
    else []
  | _ => []

variable (i : Nat) (l : Label) in
/-- What a step of the server can do to task `i`, and what that makes visible. -/
inductive TaskMoves : Option StreamTask → List HandleEffect → Option StreamTask → Prop
  | stays {t : Option StreamTask} : TaskMoves t [] t
  | counted {h : Nat} {request : Request} : TaskMoves none [] (some ⟨h, request, .pending⟩)
  | spawned {h : Nat} {request : Request} :
      TaskMoves (some ⟨h, request, .pending⟩) [] (some ⟨h, request, .running .reading⟩)
  | handles {h : Nat} {request : Request} {p q : HandlePhase} {ev : HandleEvent}
      {eff : Option HandleEffect}
      (hl : l = .task i ev) (hm : HandleMoves services (remoteId h) request p ev q eff) :
      TaskMoves (some ⟨h, request, .running p⟩) eff.toList (some ⟨h, request, .running q⟩)
  | ended {h : Nat} {request : Request} :
      TaskMoves (some ⟨h, request, .running .done⟩) [] (some ⟨h, request, .ended⟩)

variable {services remoteId}

/-- **One task in a step of the server.** -/
theorem Moves.taskMoves {s t : Server} {l : Label} (hm : Moves services remoteId s l t)
    (hs : Inv s) (i : Nat) :
    TaskMoves services remoteId i l s.tasks[i]? (effectsOf services remoteId i s l)
      t.tasks[i]? := by
  cases hm with
  | @increment h request u hh hu =>
    rcases Nat.lt_trichotomy i s.tasks.length with hlt | rfl | hgt
    · rw [List.getElem?_append_left hlt]
      exact .stays
    · rw [List.getElem?_concat_length, List.getElem?_eq_none (Nat.le_refl _)]
      exact .counted
    · rw [List.getElem?_eq_none (by omega), List.getElem?_eq_none (by simp; omega)]
      exact .stays
  | @spawn h j u hh hj =>
    obtain ⟨request, hpend⟩ := hs.counted h j hh
    obtain rfl : u = ⟨h, request, .pending⟩ := Option.some_inj.mp (hj.symm.trans hpend)
    by_cases hij : j = i
    · subst hij
      show TaskMoves services remoteId j _ s.tasks[j]? [] (s.tasks.set j _)[j]?
      rw [List.getElem?_set_of_some hj, hj]
      exact .spawned
    · show TaskMoves services remoteId i _ s.tasks[i]? [] (s.tasks.set j _)[i]?
      rw [List.getElem?_set_ne hij]
      exact .stays
  | @task j h request p q ev eff hj hp =>
    by_cases hij : j = i
    · subst hij
      rw [effectsOf, if_pos rfl, hj, List.getElem?_set_of_some hj]
      simp only [hp.step_eq, Option.bind_some]
      exact .handles rfl hp
    · rw [effectsOf, if_neg hij, List.getElem?_set_ne hij]
      exact .stays
  | @dropGuard j h request u hj hu =>
    by_cases hij : j = i
    · subst hij
      rw [List.getElem?_set_of_some hj, hj]
      exact .ended
    · rw [List.getElem?_set_ne hij]
      exact .stays
  | _ => exact .stays

variable (services remoteId) in
/-- What a task has made visible, when it stands there. -/
def Shown (cut : Prop) (effs : List HandleEffect) : Option StreamTask → Prop
  | none => effs = []
  | some ⟨_, _, .pending⟩ => effs = []
  | some ⟨h, request, .running p⟩ => SoFar services (remoteId h) request cut p effs
  | some ⟨h, request, .ended⟩ => SoFar services (remoteId h) request cut .done effs

theorem Shown.step {cut : Prop} {i : Nat} {l : Label} {effs new : List HandleEffect}
    {t u : Option StreamTask} (h : Shown services remoteId cut effs t)
    (hm : TaskMoves services remoteId i l t new u)
    (hcut : ∀ ev, l = .task i ev → ev.cutsShort = true → cut) :
    Shown services remoteId cut (effs ++ new) u := by
  cases hm with
  | stays => rwa [List.append_nil]
  | counted => rwa [List.append_nil]
  | spawned =>
    obtain rfl : effs = [] := h
    exact .reading
  | handles hl hm => exact SoFar.step h hm (hcut _ hl)
  | ended => rwa [List.append_nil]

theorem Shown.transcript {cut : Prop} {effs : List HandleEffect} {t : StreamTask}
    (h : Shown services remoteId cut effs (some t)) :
    ∃ rest, Transcript services (remoteId t.handler) t.request (effs ++ rest) ∧
      (t.phase = .ended → rest = [] ∨ cut) := by
  obtain ⟨handler, request, _ | p | _⟩ := t
  · obtain rfl : effs = [] := h
    obtain ⟨rest, hrest⟩ :=
      (SoFar.reading : SoFar services (remoteId handler) request cut .reading []).exists_transcript
    exact ⟨rest, hrest, by simp⟩
  · obtain ⟨rest, hrest⟩ := SoFar.exists_transcript h
    exact ⟨rest, hrest, by simp⟩
  · cases (h : SoFar services (remoteId handler) request cut .done effs) with
    | done hrest hcut => exact ⟨_, hrest, fun _ ↦ hcut⟩

/-- The history of each task, in every run. -/
theorem shown_of_run {ls : List Label} {s : Server}
    (hs : (machine services remoteId).run ls = some s) (i : Nat) :
    Shown services remoteId (∃ ev, Label.task i ev ∈ ls ∧ ev.cutsShort = true)
      ((machine services remoteId).outputs (effectsOf services remoteId i) new ls)
      s.tasks[i]? := by
  have hstart : Inv new ∧ Shown services remoteId
      (∃ ev, Label.task i ev ∈ ls ∧ ev.cutsShort = true) [] new.tasks[i]? := ⟨inv_new, rfl⟩
  refine (Machine.history_of_meets (M := machine services remoteId)
    (R := fun effs s ↦ Inv s ∧ Shown services remoteId
      (∃ ev, Label.task i ev ∈ ls ∧ ev.cutsShort = true) effs s.tasks[i]?)
    (C := fun _ l ↦ l ∈ ls) (fun effs s l t hR hl ht ↦ ?_) hstart
    (Machine.meets_of_forall fun l hl ↦ hl) hs).2
  have hm := moves_of_step ht
  refine ⟨hm.inv hR.1, hR.2.step (hm.taskMoves hR.1 i) fun ev hev hcut ↦ ?_⟩
  exact ⟨ev, hev ▸ hl, hcut⟩

/-- **Every task is on its way through a transcript.**  In every run of the server, whatever the
other tasks, the handlers and the calls of `shutdown` do in between, what a task has made visible is
the beginning of a transcript of its own request; and when it has ended the transcript is complete,
unless the task could not read or write or its callback panicked. -/
theorem task_transcript (services : ServiceMap) (remoteId : Nat → String) (ls : List Label)
    (s : Server) (hs : (machine services remoteId).run ls = some s) (i : Nat) (t : StreamTask)
    (hi : s.tasks[i]? = some t) :
    ∃ rest, Transcript services (remoteId t.handler) t.request
        ((machine services remoteId).outputs (effectsOf services remoteId i) new ls ++ rest) ∧
      (t.phase = .ended → rest = [] ∨ ∃ ev, Label.task i ev ∈ ls ∧ ev.cutsShort = true) := by
  have hshown := shown_of_run hs i
  rw [hi] at hshown
  exact hshown.transcript

/-- A stream is opened for a subscription, and its callback is spawned. -/
def establishedRun : List Label :=
  [.accept, .hookDone 0, .select 0, .stream 0 (some ping), .loadFlag 0, .increment 0, .spawn 0,
    .task 0 .read, .task 0 (.opened true), .task 0 (.labelled (.ok ())), .task 0 (.sent true),
    .task 0 .spawn, .dropGuard 0]

/-- The server of a subscription. -/
abbrev counterServices : ServiceMap := oneResource (.subscriptionProducer 0)

/-- Nothing is missing from the transcript of the run. -/
theorem task_transcript_establishedRun :
    Transcript counterServices "peer" ping
      ((machine counterServices fun _ ↦ "peer").outputs
        (effectsOf counterServices (fun _ ↦ "peer") 0) new establishedRun) := by
  obtain ⟨rest, htranscript, hrest⟩ :=
    task_transcript counterServices (fun _ ↦ "peer") establishedRun _ rfl 0 _ rfl
  rcases hrest rfl with rfl | ⟨ev, hev, hcut⟩
  · rwa [List.append_nil] at htranscript
  · simp [establishedRun] at hev
    rcases hev with rfl | rfl | rfl | rfl | rfl <;> cases hcut

/-! ## The callbacks of a server -/

section Callbacks

variable (services : ServiceMap) (h : Nat) (k : StreamKind) (cb : CallbackId)

/-- A request on this connection, for this callback. -/
def asks (t : StreamTask) : Bool :=
  match route services t.request with
  | .ok resource => decide (t.handler = h ∧ resource = k.resource cb)
  | .error _ => false

/-- This callback, for this connection. -/
def answersFor (c : CallbackTask) : Bool :=
  decide (c.handler = h ∧ c.kind = k ∧ c.callback = cb)

/-- The task has not got past the spawn of a callback. -/
def StreamTask.unfinished (t : StreamTask) : Bool :=
  match t.phase with
  | .running .done | .ended => false
  | _ => true

/-- The callbacks, and the requests that may still lead to one, are not more than the requests. -/
def AskedFor (s : Server) : Prop :=
  s.callbacks.countP (answersFor h k cb) +
      s.tasks.countP (fun t ↦ asks services h k cb t && t.unfinished) ≤
    s.tasks.countP (asks services h k cb)

variable {services h k cb}

theorem AskedFor.setTask {s : Server} (hs : AskedFor services h k cb s) {i : Nat}
    {t u : StreamTask} (hi : s.tasks[i]? = some t) (hhandler : u.handler = t.handler)
    (hrequest : u.request = t.request) {new : List CallbackTask}
    (hnew : new.countP (answersFor h k cb) + (asks services h k cb t && u.unfinished).toNat ≤
      (asks services h k cb t && t.unfinished).toNat) :
    AskedFor services h k cb
      { s with tasks := s.tasks.set i u, callbacks := s.callbacks ++ new } := by
  have hsame : asks services h k cb u = asks services h k cb t := by
    rw [asks, asks, hhandler, hrequest]
  have hasks := List.countP_set_add (p := asks services h k cb) (a := u) hi
  have hopen :=
    List.countP_set_add (p := fun t ↦ asks services h k cb t && t.unfinished) (a := u) hi
  simp only [AskedFor, List.countP_append] at hs ⊢
  simp only [hsame] at hasks hopen
  omega

/-- A handler on the point of spawning has been routed there. -/
theorem Shown.routed {cut : Prop} {effs : List HandleEffect} {h : Nat} {request : Request}
    {k : StreamKind} {cb : CallbackId}
    (hshown : Shown services remoteId cut effs (some ⟨h, request, .running (.spawning k cb)⟩)) :
    route services request = .ok (k.resource cb) := by
  cases (hshown : SoFar services (remoteId h) request cut (.spawning k cb) effs) with
  | spawning h => exact h

/-- The same when no callback starts. -/
theorem AskedFor.advance {s : Server} (hs : AskedFor services h k cb s) {i : Nat}
    {t u : StreamTask} (hi : s.tasks[i]? = some t) (hhandler : u.handler = t.handler)
    (hrequest : u.request = t.request) (hu : u.unfinished = true → t.unfinished = true) :
    AskedFor services h k cb { s with tasks := s.tasks.set i u } := by
  have hset : AskedFor services h k cb
      { s with tasks := s.tasks.set i u, callbacks := s.callbacks ++ [] } :=
    hs.setTask hi hhandler hrequest <| by
      rw [List.countP_nil, Nat.zero_add]
      rcases Bool.eq_false_or_eq_true u.unfinished with hb | hb
      · rw [hb, hu hb]
      · rw [hb, Bool.and_false]
        exact Nat.zero_le _
  rwa [List.append_nil] at hset

/-- A handler has one callback less to spawn when it has spawned it. -/
theorem countP_spawned {peerId : String} {handler : Nat} {request : Request} {p q : HandlePhase}
    {ev : HandleEvent} {eff : Option HandleEffect}
    (hm : HandleMoves services peerId request p ev q eff)
    (hroute : ∀ k cb, p = .spawning k cb → route services request = .ok (k.resource cb)) :
    (spawned handler eff).countP (answersFor h k cb) +
        (asks services h k cb ⟨handler, request, .running p⟩ &&
          StreamTask.unfinished ⟨handler, request, .running q⟩).toNat ≤
      (asks services h k cb ⟨handler, request, .running p⟩ &&
        StreamTask.unfinished ⟨handler, request, .running p⟩).toNat := by
  cases hm with
  | @spawned k' cb' =>
    have hasks : asks services h k cb ⟨handler, request, .running (.spawning k' cb')⟩ =
        answersFor h k cb ⟨handler, k', cb', .spawned⟩ := by
      simp only [asks, hroute k' cb' rfl, answersFor, StreamKind.resource_inj]
    rw [hasks, spawned, List.countP_singleton]
    cases answersFor h k cb ⟨handler, k', cb', .spawned⟩ <;> rfl
  | _ =>
    -- nothing is spawned, and a handler that is not at its end was not before
    have hle : ∀ a b : Bool, (a && b).toNat ≤ (a && true).toNat := by decide
    show 0 + _ ≤ _
    rw [Nat.zero_add]
    exact hle _ _

/-- **No step starts a callback that was not asked for.** -/
theorem Moves.askedFor {s t : Server} {l : Label} (hm : Moves services remoteId s l t)
    (hinv : Inv s)
    (hroute : ∀ (i handler : Nat) (request : Request) (k : StreamKind) (cb : CallbackId),
      s.tasks[i]? = some ⟨handler, request, .running (.spawning k cb)⟩ →
        route services request = .ok (k.resource cb))
    (hs : AskedFor services h k cb s) : AskedFor services h k cb t := by
  cases hm with
  | @increment handler request u hh hu =>
    have hpending : StreamTask.unfinished ⟨handler, request, .pending⟩ = true := rfl
    simp only [AskedFor, List.countP_append, List.countP_singleton, hpending, Bool.and_true]
      at hs ⊢
    omega
  | @spawn handler i u hh hi =>
    obtain ⟨request, hpend⟩ := hinv.counted handler i hh
    obtain rfl : u = ⟨handler, request, .pending⟩ := Option.some_inj.mp (hi.symm.trans hpend)
    exact hs.advance (u := ⟨handler, request, .running .reading⟩) hi rfl rfl
      (by simp [StreamTask.unfinished])
  | @task i handler request p q ev eff hi hp =>
    exact hs.setTask (u := ⟨handler, request, .running q⟩) hi rfl rfl
      (countP_spawned hp fun k cb he ↦ hroute i handler request k cb (he ▸ hi))
  | @dropGuard i handler request u hi hu =>
    exact hs.advance (u := ⟨handler, request, .ended⟩) hi rfl rfl
      (by simp [StreamTask.unfinished])
  | @callback j c ev p hj hp =>
    have hsame := List.countP_set_add (p := answersFor h k cb) (a := { c with phase := p }) hj
    have hc : answersFor h k cb { c with phase := p } = answersFor h k cb c := rfl
    rw [hc] at hsame
    simp only [AskedFor] at hs ⊢
    omega
  | _ => exact hs

/-- **Callbacks are asked for.**  In every reachable state of a server the callbacks that run in
tasks of their own, of any kind and for any connection, together with the requests that may still
lead to one, are not more than the requests of that connection that are routed to that callback:
none is started without a request, and none twice for one. -/
theorem callbacks_asked_for (services : ServiceMap) (remoteId : Nat → String) (s : Server)
    (hs : (machine services remoteId).Reachable s) (h : Nat) (k : StreamKind) (cb : CallbackId) :
    AskedFor services h k cb s := by
  have hall : (machine services remoteId).Reachable s ∧ Inv s ∧ AskedFor services h k cb s := by
    refine Machine.Reachable.invariant (I := fun s ↦ (machine services remoteId).Reachable s ∧
      Inv s ∧ AskedFor services h k cb s) ⟨.init, inv_new, Nat.le_refl 0⟩ ?_ hs
    rintro s l t ⟨hreach, hinv, hasked⟩ ht
    have hm := moves_of_step ht
    refine ⟨hreach.step ht, hm.inv hinv, hm.askedFor hinv ?_ hasked⟩
    intro i handler request k cb hi
    obtain ⟨ls, hls⟩ := hreach
    have hshown := shown_of_run hls i
    rw [hi] at hshown
    exact hshown.routed
  exact hall.2.2

/-- One request, and its callback. -/
theorem callbacks_asked_for_establishedRun : ∃ s,
    (machine counterServices fun _ ↦ "peer").run establishedRun = some s ∧
      s.callbacks.length = 1 ∧ AskedFor counterServices 0 .subscription 0 s :=
  ⟨_, rfl, rfl, callbacks_asked_for counterServices (fun _ ↦ "peer") _ ⟨establishedRun, rfl⟩ 0
    .subscription 0⟩

end Callbacks

end Server

end Zel
