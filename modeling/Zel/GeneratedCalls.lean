import Zel.AttributeGrammar
import Zel.Lib.Lets

/-!
# The calls that the macro generates

For each function of a trait the macro renders its signature in the server trait, with a context and
the handles of its kind put in behind the receiver, and a closure that is registered for it, which
takes the parameters from the request and calls the function (`render/server.rs`).  Both are made
by position and by name, and nothing keeps the names of the user's parameters apart from those that
the macro uses: a parameter `ctx` or `service` hides the macro's own variable of that name, and a
parameter `sink` is hidden by the macro's.

The closures are straight-line code (`Zel.Lib.Lets`); what a variable is bound to is kept as a term
over the operations that occur in them.

## What is here

* `Description.closure`, `Closure.call` — the registered closure, and what it calls the function
  with.
* `Description.arguments` — each input with the value that is meant for it.
* `generated_call_iff` — **when the closure passes these values**: no parameter has a reserved name.
* `Description.CalledAsMeant`, `calledAsMeant_iff_hygienic` — the same without a word about
  different parameter names, which the closure needs as well.
-/

set_option autoImplicit false

namespace Zel

open Lets

/-- The parameters that the macro found in the signature. -/
def Description.params : Description → List ParamInfo
  | .method m => m.params
  | .subscription s => s.params
  | .notification n => n.params
  | .stream s => s.params

section GeneratedCalls

variable (toUppercase : Char → List Char) (traitIdent : String)

/-! ## The registered closure -/

/-- The operations in the generated code, and what the closures are given. -/
inductive GenOp where
  /-- The clone of the implementation. -/
  | service
  | ctx
  | req
  | innerSink
  | innerRx
  | innerTx
  | send
  | recv
  /-- The bytes in `req.body`. -/
  | body
  /-- `serde_json::from_slice`, with its error returned. -/
  | fromSlice
  /-- `SubscriptionSink::new` -/
  | subscriptionSink
  /-- The generated sink, as a structure. -/
  | typedSink
  /-- `NotificationSink::new` -/
  | notificationSink
  /-- The generated receiver, as a structure. -/
  | typedReceiver
  deriving DecidableEq

/-- A closure: its parameters, the statements of its body, and the arguments of the call at the
end, from the implementation on. -/
structure Closure where
  parameters : List (String × GenOp)
  body : List (Stmt GenOp)
  args : List String

/-- `generate_param_deserialization` -/
def paramDeserialization : List String → List (Stmt GenOp)
  | [] => []
  | [ident] => [.bind ident .fromSlice ["data"]]
  | idents => [.bind "params" .fromSlice ["data"], .destructure idents "params"]

/-- What all four closures begin with: the implementation, the bytes and the parameters. -/
def receiveParams (idents : List String) : List (Stmt GenOp) :=
  [.bind "service" .service [], .bind "data" .body ["req"]] ++ paramDeserialization idents

/-- `render_method_registration` -/
def renderMethodRegistration (idents : List String) : Closure where
  parameters := [("ctx", .ctx), ("req", .req)]
  body := receiveParams idents
  args := "service" :: "ctx" :: idents

/-- `render_subscription_registration` -/
def renderSubscriptionRegistration (idents : List String) : Closure where
  parameters := [("ctx", .ctx), ("req", .req), ("inner_sink", .innerSink)]
  body := receiveParams idents ++
    [.bind "raw_sink" .subscriptionSink ["inner_sink"], .bind "sink" .typedSink ["raw_sink"]]
  args := "service" :: "ctx" :: "sink" :: idents

/-- `render_notification_registration` -/
def renderNotificationRegistration (idents : List String) : Closure where
  parameters :=
    [("ctx", .ctx), ("req", .req), ("inner_rx", .innerRx), ("inner_tx", .innerTx)]
  body := receiveParams idents ++
    [.bind "sink" .notificationSink ["inner_tx"],
      .bind "receiver" .typedReceiver ["inner_rx", "sink"]]
  args := "service" :: "ctx" :: "receiver" :: idents

/-- `render_stream_registration` -/
def renderStreamRegistration (idents : List String) : Closure where
  parameters := [("ctx", .ctx), ("req", .req), ("send", .send), ("recv", .recv)]
  body := receiveParams idents
  args := "service" :: "ctx" :: "send" :: "recv" :: idents

/-- The closure that is registered for the function. -/
def Description.closure : Description → Closure
  | .method m => renderMethodRegistration (m.params.map ParamInfo.ident)
  | .subscription s => renderSubscriptionRegistration (s.params.map ParamInfo.ident)
  | .notification n => renderNotificationRegistration (n.params.map ParamInfo.ident)
  | .stream s => renderStreamRegistration (s.params.map ParamInfo.ident)

/-- What a closure is given. -/
def given (f : GenOp) : Value GenOp := .apply f []

/-- The parameters of a closure are in scope. -/
def Closure.scope (c : Closure) : Lets.Env GenOp :=
  c.parameters.foldl (fun env x ↦ env.set x.1 (given x.2)) .empty

/-- What the closure calls the function with; `none` if a variable is not in scope. -/
def Closure.call (c : Closure) : Option (List (Value GenOp)) :=
  (run c.scope c.body).bind fun env ↦ env.read c.args

/-! ## What is meant -/

/-- The value that is read from the request. -/
def received : Value GenOp := .apply .fromSlice [.apply .body [given .req]]

/-- The values of so many parameters. -/
def receivedParams : Nat → List (Value GenOp)
  | 0 => []
  | 1 => [received]
  | n => (List.range' 0 n).map (.component received)

/-- The handles of each kind, with their values. -/
def Description.handles : Description → List (FnArg × Value GenOp)
  | .method _ => []
  | .subscription s =>
    [(sinkParam toUppercase traitIdent s.signature.sig.ident,
      .apply .typedSink [.apply .subscriptionSink [given .innerSink]])]
  | .notification n =>
    [(receiverParam toUppercase traitIdent n.signature.sig.ident,
      .apply .typedReceiver [given .innerRx, .apply .notificationSink [given .innerTx]])]
  | .stream _ => [(sendParam, given .send), (recvParam, given .recv)]

/-- The inputs of the rendered function, each with the value that is meant for it. -/
def Description.arguments (e : Description) : List (FnArg × Value GenOp) :=
  (.receiver, given .service) :: (ctxParam, given .ctx) :: e.handles toUppercase traitIdent ++
    (e.params.map fun p ↦ .typed (.ident p.ident) p.ty).zip (receivedParams e.params.length)

/-- The names that the closure of each kind uses for itself. -/
def Description.reserved : Description → List String
  | .method _ => ["service", "ctx"]
  | .subscription _ => ["service", "ctx", "inner_sink", "raw_sink", "sink"]
  | .notification _ => ["service", "ctx", "inner_rx", "inner_tx", "sink", "receiver"]
  | .stream _ => ["service", "ctx", "send", "recv"]

/-! ## What the variables are bound to -/

theorem receivedParams_length (n : Nat) : (receivedParams n).length = n := by
  rcases n with _ | _ | n
  · rfl
  · rfl
  · exact (List.length_map _).trans List.length_range'

/-- Nothing that the macro makes is taken for a parameter. -/
theorem notMem_receivedParams {f : GenOp} {args : List (Value GenOp)} (hf : f ≠ .fromSlice)
    (n : Nat) : .apply f args ∉ receivedParams n := by
  rcases n with _ | _ | n
  · exact List.not_mem_nil
  · intro h
    cases List.mem_singleton.mp h
    exact hf rfl
  · intro h
    obtain ⟨i, -, hi⟩ := List.mem_map.mp h
    cases hi

/-- The variables once the parameters are received: these, and those from before that no parameter
hides. -/
structure Received (idents : List String) (env env' : Lets.Env GenOp) : Prop where
  params : env'.read idents = some (receivedParams idents.length)
  others : ∀ y ∉ idents, y ≠ "data" → y ≠ "params" →
    env' y = env.set "service" (given .service) y

theorem run_receiveParams {idents : List String} (hnodup : idents.Nodup) (env : Lets.Env GenOp)
    (hreq : env "req" = some (given .req)) (rest : List (Stmt GenOp)) :
    ∃ env', run env (receiveParams idents ++ rest) = run env' rest ∧ Received idents env env' := by
  have hservice : (env.set "service" (given .service)).read ["req"] = some [given .req] := by
    rw [Env.read_eq_some_iff]
    simp [Env.set, hreq]
  have hstart : ∀ ss, run env
      (.bind "service" .service [] :: .bind "data" .body ["req"] :: ss) =
      run ((env.set "service" (given .service)).set "data" (.apply .body [given .req])) ss :=
    fun ss ↦ (run_bind rfl _).trans (run_bind hservice _)
  rw [receiveParams, List.append_assoc]
  refine (exists_congr fun env' ↦ and_congr_left' (Eq.congr_left (hstart _))).mpr ?_
  generalize hscope : (env.set "service" (given .service)).set "data"
    (.apply .body [given .req]) = scope
  have hdata : scope.read ["data"] = some [.apply .body [given .req]] := by
    rw [← hscope, Env.read_eq_some_iff]
    simp
  have hothers : ∀ y, y ≠ "data" → scope y = env.set "service" (given .service) y := fun y hy ↦ by
    rw [← hscope, Env.set_of_ne hy]
  rcases idents with _ | ⟨x, _ | ⟨x', xs⟩⟩
  · exact ⟨scope, rfl, rfl, fun y _ hy _ ↦ hothers y hy⟩
  · refine ⟨_, run_bind hdata _, ?_, fun y hx hy _ ↦ ?_⟩
    · rw [Env.read_eq_some_iff]
      simp [receivedParams, received]
    · rw [Env.set_of_ne (List.ne_of_not_mem_cons hx), hothers y hy]
  · refine ⟨_, (run_bind hdata _).trans (run_destructure Env.set_self _), ?_,
      fun y hx hy hp ↦ ?_⟩
    · exact Env.read_setAll_self hnodup
    · rw [Env.setAll_of_notMem hx, Env.set_of_ne hp, hothers y hy]

section Closures

variable {idents : List String} {env env' : Lets.Env GenOp} {y : String} {f : GenOp}
  {args : List (Value GenOp)}

/-- A variable of the macro keeps its value exactly if no parameter hides it. -/
theorem Received.eq_iff (h : Received idents env env')
    (hy : env.set "service" (given .service) y = some (.apply f args)) (hf : f ≠ .fromSlice)
    (hdata : y ≠ "data") (hparams : y ≠ "params") :
    env' y = some (.apply f args) ↔ y ∉ idents := by
  constructor
  · intro he hmem
    obtain ⟨v, hv, he'⟩ := Env.exists_of_read h.params hmem
    rw [he, Option.some_inj] at he'
    exact notMem_receivedParams hf _ (he' ▸ hv)
  · intro hmem
    rw [h.others y hmem hdata hparams, hy]

/-- A variable of the macro has some value, also if a parameter hides it. -/
theorem Received.exists_value (h : Received idents env env')
    (hy : env.set "service" (given .service) y = some (.apply f args))
    (hdata : y ≠ "data") (hparams : y ≠ "params") : ∃ v, env' y = some v := by
  by_cases hmem : y ∈ idents
  · obtain ⟨v, -, he⟩ := Env.exists_of_read h.params hmem
    exact ⟨v, he⟩
  · exact ⟨_, (h.others y hmem hdata hparams).trans hy⟩

/-- The parameters are passed exactly if the macro binds none of their names anew. -/
theorem Received.read_iff (h : Received idents env env') {hidden : List String}
    {env'' : Lets.Env GenOp} (hsame : ∀ y ∉ hidden, env'' y = env' y)
    (hnew : ∀ y ∈ hidden, ∃ f args, env'' y = some (.apply f args) ∧ f ≠ .fromSlice) :
    env''.read idents = some (receivedParams idents.length) ↔ ∀ x ∈ idents, x ∉ hidden := by
  refine Env.read_iff_of_hidden h.params hsame fun y hy v hv he ↦ ?_
  obtain ⟨f, args, hy', hf⟩ := hnew y hy
  rw [he, Option.some_inj] at hy'
  exact notMem_receivedParams hf _ (hy' ▸ hv)

/-- What each closure comes to: the implementation and the context must not be hidden, the handles
must be the right ones, and no parameter may be bound anew after it was received. -/
theorem Received.call_iff (h : Received idents env env') {env'' : Lets.Env GenOp} (c : Closure)
    (handles hidden : List String) (values : List (Value GenOp))
    (hcall : c.call = env''.read ("service" :: "ctx" :: handles ++ idents))
    (hctx : env.set "service" (given .service) "ctx" = some (given .ctx))
    (hlen : handles.length = values.length)
    (hhidden : "service" ∉ hidden ∧ "ctx" ∉ hidden)
    (hsame : ∀ y ∉ hidden, env'' y = env' y)
    (hnew : ∀ y ∈ hidden, ∃ f args, env'' y = some (.apply f args) ∧ f ≠ .fromSlice) :
    c.call = some (given .service :: given .ctx :: values ++ receivedParams idents.length) ↔
      "service" ∉ idents ∧ "ctx" ∉ idents ∧ env''.read handles = some values ∧
        ∀ x ∈ idents, x ∉ hidden := by
  rw [hcall, List.cons_append, List.cons_append, List.cons_append, List.cons_append,
    Env.read_cons_eq_some_iff, Env.read_cons_eq_some_iff, Env.read_append_eq_some_iff hlen,
    hsame _ hhidden.1, hsame _ hhidden.2, h.read_iff hsame hnew]
  exact and_congr (h.eq_iff rfl (by simp) (by simp) (by simp))
    (and_congr_left' (h.eq_iff hctx (by simp) (by simp) (by simp)))

theorem renderMethodRegistration_call_iff (hnodup : idents.Nodup) :
    (renderMethodRegistration idents).call =
        some (given .service :: given .ctx :: receivedParams idents.length) ↔
      "service" ∉ idents ∧ "ctx" ∉ idents := by
  obtain ⟨env', hrun, hrec⟩ :=
    run_receiveParams hnodup (renderMethodRegistration idents).scope rfl []
  rw [List.append_nil] at hrun
  have hcall := hrec.call_iff (renderMethodRegistration idents) [] [] []
    (congrArg (Option.bind · _) hrun) rfl rfl (by simp) (fun _ _ ↦ rfl) (by simp)
  simpa [Env.read] using hcall

theorem renderStreamRegistration_call_iff (hnodup : idents.Nodup) :
    (renderStreamRegistration idents).call = some (given .service :: given .ctx :: given .send ::
        given .recv :: receivedParams idents.length) ↔
      "service" ∉ idents ∧ "ctx" ∉ idents ∧ "send" ∉ idents ∧ "recv" ∉ idents := by
  obtain ⟨env', hrun, hrec⟩ :=
    run_receiveParams hnodup (renderStreamRegistration idents).scope rfl []
  rw [List.append_nil] at hrun
  have hcall := hrec.call_iff (renderStreamRegistration idents) ["send", "recv"] []
    [given .send, given .recv] (congrArg (Option.bind · _) hrun) rfl rfl (by simp)
    (fun _ _ ↦ rfl) (by simp)
  have hsend : env' "send" = some (given .send) ↔ "send" ∉ idents :=
    hrec.eq_iff rfl (by simp) (by simp) (by simp)
  have hrecv : env' "recv" = some (given .recv) ↔ "recv" ∉ idents :=
    hrec.eq_iff rfl (by simp) (by simp) (by simp)
  simpa [Env.read_eq_some_iff, hsend, hrecv] using hcall

/-- Two handles, one made of the other. -/
theorem set_set_hidden {a b : String} (hab : a ≠ b) {g : GenOp} {args' : List (Value GenOp)}
    (hf : f ≠ .fromSlice) (hg : g ≠ .fromSlice) :
    (∀ y ∉ [a, b], (env'.set a (.apply f args)).set b (.apply g args') y = env' y) ∧
      ∀ y ∈ [a, b], ∃ f' args'', (env'.set a (.apply f args)).set b (.apply g args') y =
        some (.apply f' args'') ∧ f' ≠ .fromSlice := by
  refine ⟨fun y hy ↦ ?_, fun y hy ↦ ?_⟩
  · simp only [List.mem_cons, List.not_mem_nil, or_false, not_or] at hy
    rw [Env.set_of_ne hy.2, Env.set_of_ne hy.1]
  · simp only [List.mem_cons, List.not_mem_nil, or_false] at hy
    rcases hy with rfl | rfl
    · exact ⟨f, args, by rw [Env.set_of_ne hab, Env.set_self], hf⟩
    · exact ⟨g, args', Env.set_self, hg⟩

theorem renderSubscriptionRegistration_call_iff (hnodup : idents.Nodup) :
    (renderSubscriptionRegistration idents).call = some (given .service :: given .ctx ::
        .apply .typedSink [.apply .subscriptionSink [given .innerSink]] ::
        receivedParams idents.length) ↔
      "service" ∉ idents ∧ "ctx" ∉ idents ∧ "inner_sink" ∉ idents ∧
        ∀ x ∈ idents, x ∉ ["raw_sink", "sink"] := by
  obtain ⟨env', hrun, hrec⟩ := run_receiveParams hnodup
    (renderSubscriptionRegistration idents).scope rfl
    [.bind "raw_sink" .subscriptionSink ["inner_sink"], .bind "sink" .typedSink ["raw_sink"]]
  obtain ⟨v, hv⟩ : ∃ v, env' "inner_sink" = some v :=
    hrec.exists_value rfl (by simp) (by simp)
  have hraw : env'.read ["inner_sink"] = some [v] := by simp [Env.read_eq_some_iff, hv]
  have hsink : (env'.set "raw_sink" (.apply .subscriptionSink [v])).read ["raw_sink"] =
      some [.apply .subscriptionSink [v]] := rfl
  obtain ⟨hsame, hnew⟩ := @set_set_hidden env' .subscriptionSink [v] "raw_sink" "sink" (by simp)
    .typedSink [.apply .subscriptionSink [v]] (by simp) (by simp)
  have hcall := hrec.call_iff (renderSubscriptionRegistration idents) ["sink"] ["raw_sink", "sink"]
    [.apply .typedSink [.apply .subscriptionSink [given .innerSink]]]
    (congrArg (Option.bind · _) (hrun.trans ((run_bind hraw _).trans (run_bind hsink _)))) rfl rfl
    (by simp) hsame hnew
  have hinner : env' "inner_sink" = some (given .innerSink) ↔ "inner_sink" ∉ idents :=
    hrec.eq_iff rfl (by simp) (by simp) (by simp)
  rw [hv, Option.some_inj] at hinner
  simpa [Env.read_eq_some_iff, hinner] using hcall

theorem renderNotificationRegistration_call_iff (hnodup : idents.Nodup) :
    (renderNotificationRegistration idents).call = some (given .service :: given .ctx ::
        .apply .typedReceiver [given .innerRx, .apply .notificationSink [given .innerTx]] ::
        receivedParams idents.length) ↔
      "service" ∉ idents ∧ "ctx" ∉ idents ∧ ("inner_rx" ∉ idents ∧ "inner_tx" ∉ idents) ∧
        ∀ x ∈ idents, x ∉ ["sink", "receiver"] := by
  obtain ⟨env', hrun, hrec⟩ := run_receiveParams hnodup
    (renderNotificationRegistration idents).scope rfl
    [.bind "sink" .notificationSink ["inner_tx"],
      .bind "receiver" .typedReceiver ["inner_rx", "sink"]]
  obtain ⟨v, hv⟩ : ∃ v, env' "inner_tx" = some v := hrec.exists_value rfl (by simp) (by simp)
  obtain ⟨w, hw⟩ : ∃ w, env' "inner_rx" = some w := hrec.exists_value rfl (by simp) (by simp)
  have hsink : env'.read ["inner_tx"] = some [v] := by simp [Env.read_eq_some_iff, hv]
  have hreceiver : (env'.set "sink" (.apply .notificationSink [v])).read ["inner_rx", "sink"] =
      some [w, .apply .notificationSink [v]] := by
    rw [Env.read_eq_some_iff]
    simp [Env.set, hw]
  obtain ⟨hsame, hnew⟩ := @set_set_hidden env' .notificationSink [v] "sink" "receiver" (by simp)
    .typedReceiver [w, .apply .notificationSink [v]] (by simp) (by simp)
  have hcall := hrec.call_iff (renderNotificationRegistration idents) ["receiver"]
    ["sink", "receiver"]
    [.apply .typedReceiver [given .innerRx, .apply .notificationSink [given .innerTx]]]
    (congrArg (Option.bind · _) (hrun.trans ((run_bind hsink _).trans (run_bind hreceiver _)))) rfl
    rfl (by simp) hsame hnew
  have hrx : env' "inner_rx" = some (given .innerRx) ↔ "inner_rx" ∉ idents :=
    hrec.eq_iff rfl (by simp) (by simp) (by simp)
  have htx : env' "inner_tx" = some (given .innerTx) ↔ "inner_tx" ∉ idents :=
    hrec.eq_iff rfl (by simp) (by simp) (by simp)
  rw [hv, Option.some_inj] at htx
  rw [hw, Option.some_inj] at hrx
  simpa [Env.read_eq_some_iff, hrx, htx] using hcall

end Closures

theorem forall_notMem_cons {idents ys : List String} {y : String} :
    (∀ x ∈ idents, x ∉ y :: ys) ↔ y ∉ idents ∧ ∀ x ∈ idents, x ∉ ys := by
  simp only [List.mem_cons, not_or, forall_and]
  exact and_congr_left' ⟨fun h hy ↦ h y hy rfl, fun h x hx he ↦ h (he ▸ hx)⟩

theorem arguments_map_snd (e : Description) :
    (e.arguments toUppercase traitIdent).map Prod.snd = given .service :: given .ctx ::
      (e.handles toUppercase traitIdent).map Prod.snd ++ receivedParams e.params.length := by
  simp [Description.arguments, List.map_snd_zip, receivedParams_length]

theorem arguments_map_fst (e : Description) :
    (e.arguments toUppercase traitIdent).map Prod.fst = .receiver :: ctxParam ::
      (e.handles toUppercase traitIdent).map Prod.fst ++
        e.params.map fun p ↦ .typed (.ident p.ident) p.ty := by
  simp [Description.arguments, List.map_fst_zip, receivedParams_length]

/-- **Which names the closure can not tell from its own.** -/
theorem call_eq_iff (e : Description) (hnodup : (e.params.map ParamInfo.ident).Nodup) :
    e.closure.call = some ((e.arguments toUppercase traitIdent).map Prod.snd) ↔
      ∀ p ∈ e.params, p.ident ∉ e.reserved := by
  have hall : (∀ p ∈ e.params, p.ident ∉ e.reserved) ↔
      ∀ x ∈ e.params.map ParamInfo.ident, x ∉ e.reserved := by simp
  rw [hall, arguments_map_snd]
  cases e with
  | method m =>
    have hcall := renderMethodRegistration_call_iff hnodup
    rw [List.length_map] at hcall
    refine hcall.trans ?_
    simp [Description.reserved, forall_notMem_cons, -List.mem_map, -List.mem_cons]
  | subscription s =>
    have hcall := renderSubscriptionRegistration_call_iff hnodup
    rw [List.length_map] at hcall
    refine hcall.trans ?_
    simp [Description.reserved, forall_notMem_cons, -List.mem_map, -List.mem_cons]
  | notification n =>
    have hcall := renderNotificationRegistration_call_iff hnodup
    rw [List.length_map] at hcall
    refine hcall.trans ?_
    simp [Description.reserved, forall_notMem_cons, and_assoc, -List.mem_map, -List.mem_cons]
  | stream s =>
    have hcall := renderStreamRegistration_call_iff hnodup
    rw [List.length_map] at hcall
    refine hcall.trans ?_
    simp [Description.reserved, forall_notMem_cons, -List.mem_map, -List.mem_cons]

/-! ## The inputs -/

/-- What is put in comes behind the first input, whatever that is. -/
theorem serverInputs_eq (e : Description) :
    e.serverInputs toUppercase traitIdent = match e.signature.sig.inputs with
      | [] => none
      | a :: rest =>
        some (a :: ctxParam :: (e.handles toUppercase traitIdent).map Prod.fst ++ rest) := by
  rcases e with m | s | n | s <;>
    simp only [Description.serverInputs, Description.signature, Description.handles] <;>
    split <;> rename_i hinputs <;> rw [hinputs] <;> rfl

/-- The signature is the user's, and the parameters are read off it. -/
theorem describe_signature {parseType : String → Except SynError SynType} {f : TraitItemFn}
    {e : Description} (he : describe parseType f = .ok e) :
    f.sig.Plain ∧ e.signature.sig = f.sig ∧ e.params = f.sig.inputs.filterMap FnArg.param? := by
  have hdescribes := describe_eq_ok_iff.mp he
  refine ⟨hdescribes.2.1, hdescribes.signature_sig, ?_⟩
  obtain ⟨-, -, kind, name, item, -, rfl⟩ := hdescribes
  cases kind <;> rfl

/-- Inputs without a receiver and without patterns are parameters. -/
theorem map_filterMap_param? {inputs : List FnArg}
    (hplain : ∀ text ty, FnArg.typed (.other text) ty ∉ inputs) :
    (inputs.filterMap FnArg.param?).map (fun p ↦ FnArg.typed (.ident p.ident) p.ty) = inputs ↔
      .receiver ∉ inputs := by
  induction inputs with
  | nil => simp
  | cons a inputs ih =>
    have hrest : ∀ text ty, FnArg.typed (.other text) ty ∉ inputs := fun text ty h ↦
      hplain text ty (List.mem_cons_of_mem a h)
    rcases a with _ | ⟨name | text, ty⟩
    · -- the receiver is no parameter
      refine iff_of_false (fun h ↦ ?_) (by simp)
      have hmem : FnArg.receiver ∈ (FnArg.receiver :: inputs) := List.mem_cons_self
      rw [← h] at hmem
      obtain ⟨p, -, hp⟩ := List.mem_map.mp hmem
      cases hp
    · simpa [FnArg.param?] using ih hrest
    · exact absurd List.mem_cons_self (hplain text ty)

/-- **When the function is rendered with the inputs that are meant.** -/
theorem serverInputs_eq_iff {parseType : String → Except SynError SynType} {f : TraitItemFn}
    {e : Description} (he : describe parseType f = .ok e) :
    e.serverInputs toUppercase traitIdent =
        some ((e.arguments toUppercase traitIdent).map Prod.fst) ↔
      ∃ rest, f.sig.inputs = .receiver :: rest ∧ .receiver ∉ rest := by
  obtain ⟨hplain, hsig, hparams⟩ := describe_signature he
  rw [serverInputs_eq, arguments_map_fst, hsig, hparams]
  rcases hinputs : f.sig.inputs with _ | ⟨a, rest⟩
  · simp
  · have hrest : ∀ text ty, FnArg.typed (.other text) ty ∉ rest := fun text ty h ↦
      hplain text ty (hinputs ▸ List.mem_cons_of_mem a h)
    simp only [List.cons_append, Option.some_inj, List.cons_eq_cons, List.append_cancel_left_eq,
      true_and]
    constructor
    · rintro ⟨rfl, hrest'⟩
      exact ⟨rest, ⟨rfl, rfl⟩, (map_filterMap_param? hrest).mp hrest'.symm⟩
    · rintro ⟨rest', ⟨rfl, rfl⟩, hreceiver⟩
      exact ⟨rfl, ((map_filterMap_param? hrest).mpr hreceiver).symm⟩

/-- **When a generated closure calls its function as it is meant.**  For every function that the
macro accepts: the inputs that are rendered for it, and what the closure passes, are these pairs of
an input and its value, if and only if the function has a receiver, in front, and no parameter has
one of the names that the closure of its kind uses. -/
theorem generated_call_iff {parseType : String → Except SynError SynType} {f : TraitItemFn}
    {e : Description} (he : describe parseType f = .ok e)
    (hnodup : (e.params.map ParamInfo.ident).Nodup) :
    (e.serverInputs toUppercase traitIdent =
          some ((e.arguments toUppercase traitIdent).map Prod.fst) ∧
        e.closure.call = some ((e.arguments toUppercase traitIdent).map Prod.snd)) ↔
      (∃ rest, f.sig.inputs = .receiver :: rest ∧ .receiver ∉ rest) ∧
        ∀ p ∈ e.params, p.ident ∉ e.reserved :=
  and_congr (serverInputs_eq_iff toUppercase traitIdent he)
    (call_eq_iff toUppercase traitIdent e hnodup)

/-- `async fn watch(&self, key: Key, since: Version)`, as a subscription. -/
def watchFn : TraitItemFn where
  attrs := [.named "subscription" "watch"]
  sig := ⟨"watch", true, [.receiver, .typed (.ident "key") (.name "Key"),
    .typed (.ident "since") (.name "Version")], none⟩

/-- The function gets its context, its sink and the two components of what was read. -/
theorem generated_call_watchFn : ∃ e, describe parseIdent watchFn = .ok e ∧
    e.serverInputs asciiUppercase "Store" = some [.receiver, ctxParam,
      .typed (.ident "sink") (.name "StoreWatchSink"), .typed (.ident "key") (.name "Key"),
      .typed (.ident "since") (.name "Version")] ∧
    e.closure.call = some [given .service, given .ctx,
      .apply .typedSink [.apply .subscriptionSink [given .innerSink]], .component received 0,
      .component received 1] := by
  refine ⟨_, rfl, ?_⟩
  have hnames : generateTypedName asciiUppercase "Store" "watch" "Sink" = "StoreWatchSink" := by
    decide
  have hcall := (generated_call_iff asciiUppercase "Store"
    (rfl : describe parseIdent watchFn = .ok _) (by decide)).mpr
    ⟨⟨_, rfl, by simp⟩, by simp [Description.params, Description.reserved]⟩
  rw [← hnames]
  exact hcall

/-! ## Without a word about the parameters -/

/-- The function is rendered with the inputs that are meant, and its closure passes their values. -/
def Description.CalledAsMeant (e : Description) : Prop :=
  e.serverInputs toUppercase traitIdent =
      some ((e.arguments toUppercase traitIdent).map Prod.fst) ∧
    e.closure.call = some ((e.arguments toUppercase traitIdent).map Prod.snd)

/-- The function has a receiver, in front and nowhere else, and parameters with different names,
none of which its closure uses for itself. -/
structure Description.Hygienic (e : Description) : Prop where
  receiver : ∃ rest, e.signature.sig.inputs = .receiver :: rest ∧ .receiver ∉ rest
  different : (e.params.map ParamInfo.ident).Nodup
  unreserved : ∀ p ∈ e.params, p.ident ∉ e.reserved

/-- The parameters are all different values. -/
theorem nodup_receivedParams (n : Nat) : (receivedParams n).Nodup := by
  rcases n with _ | _ | n
  · exact List.nodup_nil
  · exact List.nodup_singleton received
  · refine List.Nodup.map (fun i j hij ↦ ?_) List.nodup_range'
    cases hij
    rfl

/-- The arguments of a closure are its own variables, and then the parameters. -/
theorem closure_args (e : Description) :
    ∃ own, own.length = (e.handles toUppercase traitIdent).length + 2 ∧
      e.closure.args = own ++ e.params.map ParamInfo.ident := by
  rcases e with m | s | n | s
  · exact ⟨["service", "ctx"], rfl, rfl⟩
  · exact ⟨["service", "ctx", "sink"], rfl, rfl⟩
  · exact ⟨["service", "ctx", "receiver"], rfl, rfl⟩
  · exact ⟨["service", "ctx", "send", "recv"], rfl, rfl⟩

/-- Two parameters of one name are passed the same value. -/
theorem nodup_of_call {e : Description}
    (h : e.closure.call = some ((e.arguments toUppercase traitIdent).map Prod.snd)) :
    (e.params.map ParamInfo.ident).Nodup := by
  obtain ⟨env, -, hread⟩ := Option.bind_eq_some_iff.mp h
  obtain ⟨own, hlen, hargs⟩ := closure_args toUppercase traitIdent e
  rw [hargs, arguments_map_snd, Env.read_append_eq_some_iff (by simp [hlen])] at hread
  have hmap := Env.read_eq_some_iff.mp hread.2
  refine List.Nodup.of_map env ?_
  rw [hmap]
  exact (nodup_receivedParams _).map fun _ _ ↦ Option.some_inj.mp

/-- **When a function is called as it is meant.** -/
theorem calledAsMeant_iff_hygienic {parseType : String → Except SynError SynType}
    {f : TraitItemFn} {e : Description} (he : describe parseType f = .ok e) :
    e.CalledAsMeant toUppercase traitIdent ↔ e.Hygienic := by
  obtain ⟨-, hsig, -⟩ := describe_signature he
  rw [Description.CalledAsMeant, serverInputs_eq_iff toUppercase traitIdent he]
  constructor
  · rintro ⟨hreceiver, hcall⟩
    have hnodup := nodup_of_call toUppercase traitIdent hcall
    exact ⟨hsig ▸ hreceiver, hnodup, (call_eq_iff toUppercase traitIdent e hnodup).mp hcall⟩
  · intro h
    exact ⟨hsig ▸ h.receiver, (call_eq_iff toUppercase traitIdent e h.different).mpr h.unreserved⟩

/-- A parameter `service` takes the place of the implementation. -/
example : (renderMethodRegistration ["service"]).call =
    some [received, given .ctx, received] := rfl

end GeneratedCalls

end Zel
