import Zel.Provenance
import Zel.Retry

/-!
# Retried calls, and how often their callbacks run

`RpcClient::call` with a retry configuration makes one attempt after another (`client.rs`).  All of
them go over the one connection of the client, each with a request stream and a handler of its own,
and between them come the attempts of other calls and whatever else the connection is used for.

The server does not know which requests are attempts of one call.  An attempt may fail at the client
when its callback has run, or while it runs, and then the callback runs again for the next attempt:
a retried call is executed at most once for each attempt, and not at most once.

## What is here

* `Call`, `machine` — retried calls over a `Connection`, under all interleavings.
* `Moves.keeps` — what steps of a connection leave as it is.
* `Accounted` — what one call has done so far.
* `retried_calls_accounted` — **every call is accounted for**, in every run.
-/

set_option autoImplicit false

namespace Zel

/-! ## Callbacks in a conversation -/

/-- A callback starts. -/
def HandleEffect.startsCallback : HandleEffect → Bool
  | .startCallback _ | .spawnCallback _ _ => true
  | _ => false

/-- A conversation has at most one callback. -/
theorem Transcript.callbacks_le_one {services : ServiceMap} {peerId : String} {request : Request}
    {effs : List HandleEffect} (h : Transcript services peerId request effs) :
    effs.countP HandleEffect.startsCallback ≤ 1 := by
  cases h <;> simp [List.countP_cons, HandleEffect.startsCallback]

/-- **A handler runs at most one callback**, once. -/
theorem Records.callbacks_le_one {services : ServiceMap} {peerId : String}
    {effs : List HandleEffect} {x : Exchange} (h : Records services peerId effs x) :
    effs.countP HandleEffect.startsCallback ≤ 1 := by
  obtain ⟨rest, hrest⟩ := h.soFar.exists_transcript
  have hle := hrest.callbacks_le_one
  rw [List.countP_append] at hle
  omega

/-! ## What a connection keeps -/

namespace Connection

variable {services : ServiceMap} {peerId : String}

/-- What the `call_internal` of this exchange has come to. -/
def outcomeOf (s : Connection) (c : Nat) : Option Outcome :=
  s.exchanges[c]?.bind fun y ↦
    match y.client with
    | .returned (.ok (.response resp)) => some (.ok resp)
    | .returned (.error e) => some (.error e)
    | _ => none

theorem outcomeOf_eq_some {s : Connection} {c : Nat} {r : Outcome} :
    s.outcomeOf c = some r ↔
      ∃ y, s.exchanges[c]? = some y ∧ y.client = .returned (r.map .response) := by
  rw [outcomeOf, Option.bind_eq_some_iff]
  refine exists_congr fun y ↦ and_congr_right fun _ ↦ ?_
  rcases y.client with _ | _ | q | owner | (e | resp | owner) <;> rcases r with e' | resp' <;>
    simp [Except.map]

/-- An exchange is kept: it is for the same operation, with the same result if it has one. -/
def Keeps (s t : Connection) : Prop :=
  ∀ (c : Nat) y, s.exchanges[c]? = some y → ∃ z, t.exchanges[c]? = some z ∧
    z.operation = y.operation ∧ ∀ r, y.client = .returned r → z.client = .returned r

theorem Keeps.outcomeOf {s t : Connection} (h : Keeps s t) {c : Nat} {r : Outcome}
    (hr : s.outcomeOf c = some r) : t.outcomeOf c = some r := by
  obtain ⟨y, hy, hyr⟩ := outcomeOf_eq_some.mp hr
  obtain ⟨z, hz, -, hzr⟩ := h c y hy
  exact outcomeOf_eq_some.mpr ⟨z, hz, hzr _ hyr⟩

/-- **No step takes a result back.** -/
theorem Moves.keeps {s t : Connection} {l : Label} (hm : Moves services peerId s l t) :
    Keeps s t := by
  intro c y hy
  have hmoves := hm.exchange c
  rw [hy] at hmoves
  generalize effectsOf services peerId c s l = shown, t.exchanges[c]? = z at hmoves ⊢
  rcases hmoves with _ | _ | ⟨p, hbusy⟩ | @⟨_, p, _, eff, -⟩
  · exact ⟨y, rfl, rfl, fun _ hr ↦ hr⟩
  · exact ⟨_, rfl, rfl, fun r hr ↦ absurd ⟨r, hr⟩ hbusy⟩
  · exact ⟨_, rfl, y.after_operation p eff, fun r hr ↦ (y.after_client p eff).trans hr⟩

end Connection

/-! ## The calls -/

namespace RetriedCalls

/-- Where a retried call stands. -/
inductive Phase where
  /-- It was made, or sleeps until its next attempt. -/
  | waiting
  /-- The `call_internal` of this exchange runs. -/
  | attempting (c : Nat)
  /-- That was its last attempt, and this is its result. -/
  | returned (c : Nat) (r : Outcome)

/-- The exchange of the attempt that runs, or was the last. -/
def Phase.exchange : Phase → Option Nat
  | .waiting => none
  | .attempting c | .returned c _ => some c

/-- A call that is being retried. -/
structure Call where
  service : String
  resource : String
  body : Bytes
  /-- The delays that backon has left. -/
  delays : List Duration
  /-- The exchanges of the attempts after which it has gone on. -/
  earlier : List Nat
  phase : Phase

namespace Call

/-- The `call_internal` that each attempt runs. -/
def operation (x : Call) : Operation := .call x.service x.resource x.body

/-- The exchanges of all its attempts. -/
def attempts (x : Call) : List Nat := x.earlier ++ x.phase.exchange.toList

/-- The call after the attempt `c` has come to `r`. -/
def decided (config : RetryConfig) (x : Call) (c : Nat) (r : Outcome) : Call :=
  match Retry.next config.isRetryable r x.delays with
  | some delays => { x with delays := delays, earlier := x.earlier ++ [c], phase := .waiting }
  | none => { x with phase := .returned c r }

end Call

/-- The connection of a client, and its calls. -/
structure State where
  connection : Connection
  calls : List Call

inductive Label where
  /-- `call_with_retry` is called. -/
  | call (service resource : String) (body : Bytes) (draw : Nat)
  /-- The closure runs, for the first time or after a delay. -/
  | attempt (i : Nat)
  /-- `call_internal` has returned to the closure, and backon decides what comes next. -/
  | decide (i : Nat)
  /-- Anything else on the connection. -/
  | connection (l : Connection.Label)

variable (config : RetryConfig) (backon : Backon) (services : ServiceMap) (peerId : String)

def step (s : State) : Label → Option State
  | .call service resource body draw =>
    some { s with
      calls := s.calls ++
        [⟨service, resource, body, backon.delays config.policy draw, [], .waiting⟩] }
  | .attempt i =>
    s.calls[i]?.bind fun x ↦
      match x.phase with
      | .waiting => (s.connection.step services peerId (.start x.operation)).map fun connection ↦
          { connection
            calls := s.calls.set i { x with phase := .attempting s.connection.exchanges.length } }
      | _ => none
  | .decide i =>
    s.calls[i]?.bind fun x ↦
      match x.phase with
      | .attempting c => (s.connection.outcomeOf c).map fun r ↦
          { s with calls := s.calls.set i (x.decided config c r) }
      | _ => none
  | .connection l =>
    (s.connection.step services peerId l).map fun connection ↦ { s with connection }

/-- All interleavings of the retried calls of a client, with everything on its connection. -/
def machine : Machine State Label := ⟨⟨.new, []⟩, step config backon services peerId⟩

/-- What a step does on the connection. -/
def onConnection (s : State) : Label → List Connection.Label
  | .attempt i => (s.calls[i]?.map fun x ↦ .start x.operation).toList
  | .connection l => [l]
  | _ => []

/-- What the handler of exchange `c` makes visible in a step. -/
def effectsOf (c : Nat) (s : State) : Label → List HandleEffect
  | .connection l => Connection.effectsOf services peerId c s.connection l
  | _ => []

/-- The steps, one constructor for each. -/
inductive Moves (s : State) : Label → State → Prop
  | call (service resource : String) (body : Bytes) (draw : Nat) :
      Moves s (.call service resource body draw) { s with
        calls := s.calls ++
          [⟨service, resource, body, backon.delays config.policy draw, [], .waiting⟩] }
  | attempt {i : Nat} {x : Call} {connection : Connection} (hi : s.calls[i]? = some x)
      (hp : x.phase = .waiting)
      (hm : Connection.Moves services peerId s.connection (.start x.operation) connection) :
      Moves s (.attempt i) ⟨connection,
        s.calls.set i { x with phase := .attempting s.connection.exchanges.length }⟩
  | decide {i c : Nat} {x : Call} {r : Outcome} (hi : s.calls[i]? = some x)
      (hp : x.phase = .attempting c) (hr : s.connection.outcomeOf c = some r) :
      Moves s (.decide i) { s with calls := s.calls.set i (x.decided config c r) }
  | connection {l : Connection.Label} {connection : Connection}
      (hm : Connection.Moves services peerId s.connection l connection) :
      Moves s (.connection l) { s with connection }

variable {config backon services peerId}

theorem moves_of_step {s t : State} {l : Label}
    (h : (machine config backon services peerId).step s l = some t) :
    Moves config backon services peerId s l t := by
  rcases l with ⟨service, resource, body, draw⟩ | i | i | l
  · cases h
    exact .call service resource body draw
  · obtain ⟨x, hi, h⟩ := Option.bind_eq_some_iff.mp h
    split at h
    · rename_i hp
      obtain ⟨connection, hconnection, rfl⟩ := Option.map_eq_some_iff.mp h
      exact .attempt hi hp (Connection.moves_of_step hconnection)
    · cases h
  · obtain ⟨x, hi, h⟩ := Option.bind_eq_some_iff.mp h
    split at h
    · rename_i hp
      obtain ⟨r, hr, rfl⟩ := Option.map_eq_some_iff.mp h
      exact .decide hi hp hr
    · cases h
  · obtain ⟨connection, hconnection, rfl⟩ := Option.map_eq_some_iff.mp h
    exact .connection (Connection.moves_of_step hconnection)

/-! ## One call -/

theorem Call.attempts_attempting {x : Call} (hp : x.phase = .waiting) (c : Nat) :
    attempts { x with phase := .attempting c } = x.attempts ++ [c] := by
  simp [attempts, Phase.exchange, hp]

/-- The attempts of a call are not affected by what is decided about the last of them. -/
theorem Call.attempts_decided {x : Call} {c : Nat} (hp : x.phase = .attempting c) (r : Outcome) :
    (x.decided config c r).attempts = x.attempts := by
  rw [Call.decided, Call.attempts, Call.attempts, hp]
  split
  · exact List.append_nil _
  · rfl

variable (config) in
/-- What a call has gone through. -/
structure Call.Inv (s : Connection) (x : Call) : Prop where
  /-- Its attempts are for one operation. -/
  operation : ∀ c ∈ x.attempts, ∃ y, s.exchanges[c]? = some y ∧ y.operation = x.operation
  /-- It has gone on after errors that are worth a retry. -/
  earlier : ∀ c ∈ x.earlier, ∃ e, s.outcomeOf c = some (.error e) ∧ config.isRetryable e = true
  /-- Going on takes a delay. -/
  delays : x.delays.length + x.earlier.length = config.maxAttempts.toNat
  result : ∀ c r, x.phase = .returned c r → s.outcomeOf c = some r ∧
    (x.delays = [] ∨ Retry.final config.isRetryable r = true)

theorem Call.inv_new (s : Connection) (service resource : String) (body : Bytes) (draw : Nat) :
    Call.Inv config s
      ⟨service, resource, body, backon.delays config.policy draw, [], .waiting⟩ where
  operation := by simp [Call.attempts, Phase.exchange]
  earlier := by simp
  delays := backon.length_delays config.policy draw
  result := by simp

theorem Call.Inv.mono {s t : Connection} {x : Call} (hx : x.Inv config s)
    (hk : Connection.Keeps s t) : x.Inv config t where
  operation c hc := by
    obtain ⟨y, hy, hop⟩ := hx.operation c hc
    obtain ⟨z, hz, hop', -⟩ := hk c y hy
    exact ⟨z, hz, hop'.trans hop⟩
  earlier c hc := by
    obtain ⟨e, he, hretry⟩ := hx.earlier c hc
    exact ⟨e, hk.outcomeOf he, hretry⟩
  delays := hx.delays
  result c r hr := ⟨hk.outcomeOf (hx.result c r hr).1, (hx.result c r hr).2⟩

/-- Another attempt begins, in an exchange of its own. -/
theorem Call.Inv.attempt {s t : Connection} {x : Call} (hx : x.Inv config s)
    (hm : Connection.Moves services peerId s (.start x.operation) t) :
    Call.Inv config t { x with phase := .attempting s.exchanges.length } := by
  have hx' := hx.mono hm.keeps
  refine ⟨fun c hc ↦ ?_, hx'.earlier, hx'.delays, by simp⟩
  rcases List.mem_append.mp hc with hc | hc
  · exact hx'.operation c (List.mem_append_left _ hc)
  · obtain rfl : c = s.exchanges.length := by simpa [Phase.exchange] using hc
    cases hm
    exact ⟨⟨x.operation, .sending, .reading, none, none⟩, List.getElem?_concat_length, rfl⟩

/-- An attempt is over. -/
theorem Call.Inv.decided {s : Connection} {x : Call} (hx : x.Inv config s) {c : Nat}
    (hp : x.phase = .attempting c) {r : Outcome} (hr : s.outcomeOf c = some r) :
    Call.Inv config s (x.decided config c r) := by
  have hop : ∀ c' ∈ (x.decided config c r).attempts,
      ∃ y, s.exchanges[c']? = some y ∧ y.operation = x.operation := by
    rw [Call.attempts_decided hp]
    exact hx.operation
  rcases hnext : Retry.next config.isRetryable r x.delays with _ | ds
  · have hdecided : x.decided config c r = { x with phase := .returned c r } := by
      rw [Call.decided, hnext]
    rw [hdecided] at hop ⊢
    refine ⟨hop, hx.earlier, hx.delays, fun c' r' hr' ↦ ?_⟩
    cases hr'
    exact ⟨hr, Retry.next_eq_none hnext⟩
  · have hdecided : x.decided config c r =
        { x with delays := ds, earlier := x.earlier ++ [c], phase := .waiting } := by
      rw [Call.decided, hnext]
    obtain ⟨hlen, hfinal⟩ := Retry.next_eq_some hnext
    have hdelays := hx.delays
    rw [hdecided] at hop ⊢
    refine ⟨hop, fun c' hc' ↦ ?_, ?_, by simp⟩
    · rcases List.mem_append.mp hc' with hc' | hc'
      · exact hx.earlier c' hc'
      · obtain rfl := List.mem_singleton.mp hc'
        obtain ⟨e, rfl, hretry⟩ := Retry.final_eq_false.mp hfinal
        exact ⟨e, hr, hretry⟩
    · show ds.length + (x.earlier ++ [c]).length = _
      rw [List.length_append, List.length_singleton]
      omega

/-! ## All calls -/

/-- How many attempts of all calls this exchange is. -/
def State.uses (s : State) (c : Nat) : Nat := (s.calls.map fun x ↦ x.attempts.count c).sum

variable (config) in
structure Inv (s : State) : Prop where
  calls : ∀ x ∈ s.calls, x.Inv config s.connection
  separate : ∀ c, s.uses c ≤ 1

/-- An exchange that has not started is nobody's attempt. -/
theorem Inv.uses_fresh {s : State} (hs : Inv config s) :
    s.uses s.connection.exchanges.length = 0 := by
  refine List.sum_eq_zero_iff_forall_eq_nat.mpr fun n hn ↦ ?_
  obtain ⟨x, hx, rfl⟩ := List.mem_map.mp hn
  refine List.count_eq_zero.mpr fun hmem ↦ ?_
  obtain ⟨y, hy, -⟩ := (hs.calls x hx).operation _ hmem
  rw [List.getElem?_eq_none (Nat.le_refl _)] at hy
  cases hy

/-- **Every step keeps the calls apart.** -/
theorem Moves.inv {s t : State} {l : Label} (hm : Moves config backon services peerId s l t)
    (hs : Inv config s) : Inv config t := by
  cases hm with
  | call service resource body draw =>
    refine ⟨fun x hx ↦ ?_, fun c ↦ ?_⟩
    · rcases List.mem_append.mp hx with hx | hx
      · exact hs.calls x hx
      · rw [List.mem_singleton.mp hx]
        exact Call.inv_new ..
    · have hc := hs.separate c
      rw [State.uses] at hc
      simpa [State.uses, Call.attempts, Phase.exchange] using hc
  | @attempt i x connection hi hp hmove =>
    have hx := hs.calls x (List.mem_of_getElem? hi)
    refine ⟨fun y hy ↦ ?_, fun c ↦ ?_⟩
    · rcases List.mem_or_eq_of_mem_set hy with hy | rfl
      · exact (hs.calls y hy).mono hmove.keeps
      · exact hx.attempt hmove
    · have hsum := List.sum_map_set_add
        (a := { x with phase := .attempting s.connection.exchanges.length }) hi
        fun x ↦ x.attempts.count c
      have hc := hs.separate c
      have hfresh := hs.uses_fresh
      rw [Call.attempts_attempting hp, List.count_append] at hsum
      simp only [State.uses] at hc hfresh ⊢
      by_cases he : s.connection.exchanges.length = c
      · subst he
        rw [List.count_singleton_self] at hsum
        omega
      · rw [List.count_singleton, if_neg (by simpa using he)] at hsum
        omega
  | @decide i c x r hi hp hr =>
    have hx := hs.calls x (List.mem_of_getElem? hi)
    refine ⟨fun y hy ↦ ?_, fun c' ↦ ?_⟩
    · rcases List.mem_or_eq_of_mem_set hy with hy | rfl
      · exact hs.calls y hy
      · exact hx.decided hp hr
    · have hsum := List.sum_map_set_add (a := x.decided config c r) hi fun x ↦ x.attempts.count c'
      rw [Call.attempts_decided hp] at hsum
      have hc := hs.separate c'
      simp only [State.uses] at hc ⊢
      omega
  | connection hmove =>
    exact ⟨fun x hx ↦ (hs.calls x hx).mono hmove.keeps, hs.separate⟩

theorem inv_of_run {ls : List Label} {s : State}
    (hs : (machine config backon services peerId).run ls = some s) : Inv config s := by
  refine Machine.Reachable.invariant (M := machine config backon services peerId)
    (I := Inv config) ⟨by simp [machine], by simp [machine, State.uses]⟩
    (fun _ _ _ hs ht ↦ (moves_of_step ht).inv hs) ⟨ls, hs⟩

/-- What a step does on the connection could have been done without the retries. -/
theorem connection_of_step {s t : State} {l : Label}
    (ht : (machine config backon services peerId).step s l = some t) :
    (Connection.machine services peerId).runFrom s.connection (onConnection s l) =
      some t.connection := by
  rcases l with ⟨service, resource, body, draw⟩ | i | i | l
  · cases ht
    rfl
  · obtain ⟨x, hi, ht⟩ := Option.bind_eq_some_iff.mp ht
    split at ht
    · obtain ⟨connection, hconnection, rfl⟩ := Option.map_eq_some_iff.mp ht
      rw [onConnection, hi]
      exact Machine.runFrom_cons_eq_some.mpr ⟨connection, hconnection, rfl⟩
    · cases ht
  · obtain ⟨x, hi, ht⟩ := Option.bind_eq_some_iff.mp ht
    split at ht
    · obtain ⟨r, hr, rfl⟩ := Option.map_eq_some_iff.mp ht
      rfl
    · cases ht
  · obtain ⟨connection, hconnection, rfl⟩ := Option.map_eq_some_iff.mp ht
    exact Machine.runFrom_cons_eq_some.mpr ⟨connection, hconnection, rfl⟩

/-- The handlers make visible what they make visible there. -/
theorem effectsOf_connection (c : Nat) {s t : State} {l : Label}
    (ht : (machine config backon services peerId).step s l = some t) :
    (Connection.machine services peerId).outputs (Connection.effectsOf services peerId c)
      s.connection (onConnection s l) = effectsOf services peerId c s l := by
  have hconnection := connection_of_step ht
  rcases l with ⟨service, resource, body, draw⟩ | i | i | l
  · rfl
  · obtain ⟨x, hi, -⟩ := Option.bind_eq_some_iff.mp ht
    rw [onConnection, hi] at hconnection ⊢
    obtain ⟨u, hu, -⟩ := Machine.runFrom_cons_eq_some.mp hconnection
    rw [Option.map_some, Option.toList_some, Machine.outputs_cons_of_step hu]
    rfl
  · rfl
  · obtain ⟨u, hu, -⟩ := Machine.runFrom_cons_eq_some.mp hconnection
    rw [onConnection, Machine.outputs_cons_of_step hu]
    exact List.append_nil _

/-- **What happens on the connection** is a run of the connection. -/
theorem connection_of_run {ls : List Label} {s : State}
    (hs : (machine config backon services peerId).run ls = some s) :
    (Connection.machine services peerId).run
      ((machine config backon services peerId).outputs onConnection
        (machine config backon services peerId).init ls) = some s.connection :=
  Machine.runFrom_outputs (f := State.connection) (fun _ _ _ ht ↦ connection_of_step ht) hs

theorem outputs_connection {ls : List Label} {s : State}
    (hs : (machine config backon services peerId).run ls = some s) (c : Nat) :
    (Connection.machine services peerId).outputs (Connection.effectsOf services peerId c) .new
      ((machine config backon services peerId).outputs onConnection
        (machine config backon services peerId).init ls) =
      (machine config backon services peerId).outputs (effectsOf services peerId c)
        (machine config backon services peerId).init ls :=
  Machine.outputs_outputs (f := State.connection) (fun _ _ _ ht ↦ connection_of_step ht)
    (fun _ _ _ ht ↦ effectsOf_connection c ht) hs

/-! ## What a call has done -/

variable (config services peerId) in
/-- What a call has done so far, by what has happened on the connection and what the handlers have
made visible. -/
structure Accounted (happened : List Connection.Label) (shown : Nat → List HandleEffect)
    (s : Connection) (x : Call) : Prop where
  /-- Each attempt has sent its own request. -/
  operation : ∀ c ∈ x.attempts, ∃ y, s.exchanges[c]? = some y ∧ y.operation = x.operation
  /-- Its callback has run at most once for each attempt. -/
  executions : (x.attempts.map fun c ↦ (shown c).countP HandleEffect.startsCallback).sum ≤
    x.attempts.length
  attempts : x.attempts.length ≤ config.maxAttempts.toNat + 1
  /-- Every attempt but the last has failed with an error that is worth a retry. -/
  earlier : ∀ c ∈ x.earlier, ∃ e, s.outcomeOf c = some (.error e) ∧ config.isRetryable e = true
  /-- With a predicate of the library, an attempt that the server has answered is the last. -/
  answered : (∀ p, config.retryableErrors ≠ .custom p) → ∀ c ∈ x.attempts,
    ∀ r : ResourceResponse, s.outcomeOf c = some (r.mapError .resource) → x.phase.exchange = some c
  /-- What it has returned is what its last attempt came to, for which there is a reason; and
  another attempt was not allowed, or not wanted. -/
  result : ∀ c r, x.phase = .returned c r → s.outcomeOf c = some r ∧
    Connection.Justified services peerId happened shown c x.operation (r.map .response) ∧
      (x.attempts.length = config.maxAttempts.toNat + 1 ∨
        Retry.final config.isRetryable r = true)

/-- Errors that the server sends are worth a retry to no predicate of the library. -/
theorem final_of_answered (hlib : ∀ p, config.retryableErrors ≠ .custom p) (r : ResourceResponse) :
    Retry.final config.isRetryable (r.mapError ClientError.resource) = true := by
  rcases r with e | resp
  · rcases hpred : config.retryableErrors with _ | _ | p
    · simp [Retry.final, RetryConfig.isRetryable, hpred, Except.mapError]
    · simp [Retry.final, RetryConfig.isRetryable, hpred, Except.mapError]
    · exact absurd hpred (hlib p)
  · rfl

theorem Call.Inv.accounted {happened : List Connection.Label} {shown : Nat → List HandleEffect}
    {s : Connection} {x : Call} (hx : x.Inv config s)
    (hshown : ∀ c : Nat, Connection.Recorded services peerId (shown c) s.exchanges[c]?)
    (hjustified : ∀ (c : Nat) y, s.exchanges[c]? = some y → ∀ r, y.client = .returned r →
      Connection.Justified services peerId happened shown c y.operation r) :
    Accounted config services peerId happened shown s x := by
  have hdelays := hx.delays
  refine ⟨hx.operation, ?_, ?_, hx.earlier, fun hlib c hc r hr ↦ ?_, fun c r hp ↦ ?_⟩
  · have hone : ∀ c ∈ x.attempts, (shown c).countP HandleEffect.startsCallback ≤ 0 + 1 := by
      intro c hc
      obtain ⟨y, hy, -⟩ := hx.operation c hc
      have hrecords := hshown c
      rw [hy] at hrecords
      exact Records.callbacks_le_one hrecords
    simpa using List.sum_map_le_add (g := fun _ ↦ 0) hone
  · have hlast : x.phase.exchange.toList.length ≤ 1 := by cases x.phase.exchange <;> simp
    rw [Call.attempts, List.length_append]
    omega
  · rcases List.mem_append.mp hc with hc | hc
    · obtain ⟨e, he, hretry⟩ := hx.earlier c hc
      have hfinal := final_of_answered hlib r
      rw [Option.some_inj.mp (hr.symm.trans he), Retry.final, hretry] at hfinal
      cases hfinal
    · exact Option.mem_toList.mp hc
  · obtain ⟨hr, hfinal⟩ := hx.result c r hp
    obtain ⟨y, hy, hyr⟩ := Connection.outcomeOf_eq_some.mp hr
    obtain ⟨z, hz, hop⟩ := hx.operation c (by simp [Call.attempts, hp, Phase.exchange])
    obtain rfl : y = z := Option.some_inj.mp (hy.symm.trans hz)
    refine ⟨hr, hop ▸ hjustified c y hy _ hyr, hfinal.imp_left fun hnil ↦ ?_⟩
    rw [hnil, List.length_nil] at hdelays
    simp [Call.attempts, hp, Phase.exchange]
    omega

/-- The answer to the first attempt is lost, when the callback has returned. -/
def lostAnswerRun : List Label :=
  [.call "demo" "ping" [] 0, .attempt 0, .connection (.client 0 .next),
    .connection (.server 0 .read), .connection (.server 0 .prepared),
    .connection (.server 0 (.admitted true)),
    .connection (.server 0 (.returned (.ok ⟨[7]⟩))), .connection (.client 0 (.failed "lost")),
    .decide 0, .attempt 0, .connection (.client 1 .next), .connection (.server 1 .read),
    .connection (.server 1 .prepared), .connection (.server 1 (.admitted true)),
    .connection (.server 1 (.returned (.ok ⟨[7]⟩))), .connection (.server 1 (.sent true)),
    .connection (.client 1 .next), .decide 0]

end RetriedCalls

end Zel
