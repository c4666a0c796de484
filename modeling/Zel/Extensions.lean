import Zel.Handlers
import Zel.Lib.LastWins

/-!
# Extensions, and the context of a callback

`Extensions` (`protocol/extensions.rs`) hold at most one value of each type.  A server has a set of
them, the connection hook makes one for each connection, and the request middleware adds to one for
each request; the callback sees all three through its `RequestContext` (`protocol/context.rs`).

The three tiers are kept apart: the connection's set is what the hook returned, or nothing if there
is no hook or the hook failed, and the request's set is what the middleware added to nothing.

## What is here

* `Extensions`, `RequestContext` — with the functions that build them.
* `callbackContext` — the context of a callback, from the server's settings and the request.
* `get_connectionExtensions`, `get_extensions` — what the two upper tiers hold.
* `tiered` — **what the tiers promise**; `layered_iff` — when each tier builds on the one below.
-/

set_option autoImplicit false

namespace Zel

variable {Ty : Type} [DecidableEq Ty] {Val : Ty → Type}

/-! ## Extensions -/

/-- `Extensions`: under the id of a type there is a value of that type, so that the downcast in
`get` never fails. -/
structure Extensions (Val : Ty → Type) where
  map : (t : Ty) → Option (Val t)

namespace Extensions

/-- `Extensions::new` -/
def new : Extensions Val := ⟨fun _ ↦ none⟩

/-- `Extensions::with` -/
def with' (e : Extensions Val) (t : Ty) (value : Val t) : Extensions Val :=
  ⟨Function.update e.map t (some value)⟩

/-- `Extensions::get` -/
def get (e : Extensions Val) (t : Ty) : Option (Val t) := e.map t

/-- `Extensions::contains` -/
def contains (e : Extensions Val) (t : Ty) : Bool := (e.map t).isSome

/-- `Extensions::get_or_else` -/
def getOrElse (e : Extensions Val) (t : Ty) (default : Unit → Val t) : Val t :=
  match e.get t with
  | some value => value
  | none => default ()

omit [DecidableEq Ty] in
@[simp] theorem get_new (t : Ty) : (new : Extensions Val).get t = none := rfl

@[simp] theorem get_with' (e : Extensions Val) (t : Ty) (value : Val t) :
    (e.with' t value).get t = some value := Function.update_self ..

end Extensions

/-! ## The context -/

/-- `RequestContext`, without its handles to the connection, the endpoint and the shutdown
signal. -/
structure RequestContext (Val : Ty → Type) where
  service : String
  resource : String
  serverExtensions : Extensions Val
  connectionExtensions : Extensions Val
  requestExtensions : Extensions Val

namespace RequestContext

/-- `RequestContext::new` -/
def new (service resource : String) (serverExtensions connectionExtensions : Extensions Val) :
    RequestContext Val :=
  ⟨service, resource, serverExtensions, connectionExtensions, .new⟩

/-- `RequestContext::extensions` -/
def extensions (ctx : RequestContext Val) : Extensions Val := ctx.requestExtensions

/-- `RequestContext::with_extension` -/
def withExtension (ctx : RequestContext Val) (t : Ty) (value : Val t) : RequestContext Val :=
  { ctx with requestExtensions := ctx.requestExtensions.with' t value }

end RequestContext

/-- `ConnectionHook`, for one connection. -/
abbrev ConnectionHook (Val : Ty → Type) := Extensions Val → Except String (Extensions Val)

/-- `RequestMiddleware` -/
abbrev RequestMiddleware (Val : Ty → Type) := RequestContext Val → RequestContext Val

/-- What `connection_handler` makes of the hook. -/
def connectionExtensions (connectionHook : Option (ConnectionHook Val))
    (serverExtensions : Extensions Val) : Extensions Val :=
  match connectionHook with
  | some hook =>
    match hook serverExtensions with
    | .ok ext => ext
    | .error _ => .new
  | none => .new

/-- `build_request_context` -/
def buildRequestContext (request : Request)
    (serverExtensions connectionExtensions : Extensions Val) : RequestContext Val :=
  .new request.service request.resource serverExtensions connectionExtensions

/-- `apply_middleware` -/
def applyMiddleware (ctx : RequestContext Val) (requestMiddleware : List (RequestMiddleware Val)) :
    RequestContext Val :=
  requestMiddleware.foldl (fun ctx middleware ↦ middleware ctx) ctx

/-- The context that the callback of a resource is called with.  `handle_rpc` and the tasks that the
other three handlers spawn build it alike. -/
def ResourceCallback.context (request : Request)
    (serverExtensions connectionExtensions : Extensions Val)
    (requestMiddleware : List (RequestMiddleware Val)) : ResourceCallback → RequestContext Val
  | .rpc _ | .subscriptionProducer _ | .notificationConsumer _ | .streamHandler _ =>
    applyMiddleware (buildRequestContext request serverExtensions connectionExtensions)
      requestMiddleware

/-- The context of a callback, from the settings of the server. -/
def callbackContext (serverExtensions : Extensions Val)
    (connectionHook : Option (ConnectionHook Val))
    (requestMiddleware : List (RequestMiddleware Val)) (resource : ResourceCallback)
    (request : Request) : RequestContext Val :=
  resource.context request serverExtensions
    (Zel.connectionExtensions connectionHook serverExtensions) requestMiddleware

/-! ## Middleware that adds extensions -/

/-- A middleware that only adds request extensions, possibly depending on the context. -/
structure AddingMiddleware (Val : Ty → Type) [DecidableEq Ty] where
  run : RequestMiddleware Val
  /-- What it adds, in this order. -/
  adds : RequestContext Val → List (Sigma Val)
  run_eq : ∀ ctx, run ctx = (adds ctx).foldl (fun ctx a ↦ ctx.withExtension a.1 a.2) ctx

/-- Everything that a list of such middleware adds to a context, in order. -/
def addedBy : List (AddingMiddleware Val) → RequestContext Val → List (Sigma Val)
  | [], _ => []
  | m :: ms, ctx => m.adds ctx ++ addedBy ms (m.run ctx)

/-- Adding extensions updates the request's set and nothing else. -/
theorem foldl_withExtension (l : List (Sigma Val)) (ctx : RequestContext Val) :
    l.foldl (fun ctx a ↦ ctx.withExtension a.1 a.2) ctx =
      { ctx with requestExtensions := ⟨LastWins.updates ctx.requestExtensions.map l⟩ } := by
  induction l generalizing ctx with
  | nil => rfl
  | cons a l ih =>
    rw [List.foldl_cons, ih, LastWins.updates_cons]
    rfl

/-- **A list of such middleware** updates the request's set with all that it adds. -/
theorem applyMiddleware_eq (ms : List (AddingMiddleware Val)) (ctx : RequestContext Val) :
    applyMiddleware ctx (ms.map AddingMiddleware.run) =
      { ctx with
        requestExtensions := ⟨LastWins.updates ctx.requestExtensions.map (addedBy ms ctx)⟩ } := by
  induction ms generalizing ctx with
  | nil => rfl
  | cons m ms ih =>
    have hrun : applyMiddleware ctx ((m :: ms).map AddingMiddleware.run) =
        applyMiddleware (m.run ctx) (ms.map AddingMiddleware.run) := rfl
    rw [hrun, ih, addedBy, LastWins.updates_append]
    generalize addedBy ms (m.run ctx) = added
    rw [m.run_eq, foldl_withExtension]

/-! ## What the tiers hold -/

/-- The value that the hook has set, if there is a hook and it did not fail. -/
def hookValue (connectionHook : Option (ConnectionHook Val)) (serverExtensions : Extensions Val)
    (t : Ty) : Option (Val t) :=
  match connectionHook with
  | some hook =>
    match hook serverExtensions with
    | .ok ext => ext.get t
    | .error _ => none
  | none => none

omit [DecidableEq Ty] in
/-- The connection's tier holds the hook's values and no others. -/
theorem get_connectionExtensions (connectionHook : Option (ConnectionHook Val))
    (serverExtensions : Extensions Val) (t : Ty) :
    (Zel.connectionExtensions connectionHook serverExtensions).get t =
      hookValue connectionHook serverExtensions t := by
  unfold Zel.connectionExtensions hookValue
  cases connectionHook with
  | none => rfl
  | some hook => cases h : hook serverExtensions <;> simp [h]

section Tiers

variable (server : Extensions Val) (hook : Option (ConnectionHook Val))
  (ms : List (AddingMiddleware Val)) (resource : ResourceCallback) (request : Request)

/-- The context of a callback behind middleware that only adds extensions. -/
def tieredContext : RequestContext Val :=
  callbackContext server hook (ms.map AddingMiddleware.run) resource request

/-- What the middleware adds for this request. -/
def added : List (Sigma Val) :=
  addedBy ms (buildRequestContext request server (Zel.connectionExtensions hook server))

theorem tieredContext_eq : tieredContext server hook ms resource request =
    { buildRequestContext request server (Zel.connectionExtensions hook server) with
      requestExtensions := ⟨LastWins.updates (fun _ ↦ none) (added server hook ms request)⟩ } := by
  cases resource <;> exact applyMiddleware_eq ms _

/-- The request's tier holds what the middleware added, and nothing else. -/
theorem get_extensions (t : Ty) : (tieredContext server hook ms resource request).extensions.get t =
    LastWins.lastOf t (added server hook ms request) := by
  rw [tieredContext_eq]
  exact (LastWins.updates_apply _ _ t).trans (Option.or_none ..)

/-- The middleware leaves the other two tiers alone. -/
theorem connectionExtensions_tieredContext :
    (tieredContext server hook ms resource request).connectionExtensions =
      Zel.connectionExtensions hook server := by
  rw [tieredContext_eq]
  rfl

theorem serverExtensions_tieredContext :
    (tieredContext server hook ms resource request).serverExtensions = server := by
  rw [tieredContext_eq]
  rfl

/-! ## What the tiers promise -/

/-- The value of the connection's tier if that tier were built on the server's. -/
def connectionValue (t : Ty) : Option (Val t) := (hookValue hook server t).or (server.get t)

/-- What a tier shows for a type: its own value, or else nothing or the value below it. -/
def Shows {α : Type} (shown own below : Option α) : Prop :=
  match own with
  | some v => shown = some v
  | none => shown = none ∨ shown = below

/-- What the three tiers promise about a context, at every type. -/
structure Tiered (ctx : RequestContext Val) : Prop where
  serverTier : ∀ t, ctx.serverExtensions.get t = server.get t
  connectionTier : ∀ t,
    Shows (ctx.connectionExtensions.get t) (hookValue hook server t) (server.get t)
  /-- A hook that fails leaves the connection without extensions. -/
  failed : ∀ h e, hook = some h → h server = .error e → ∀ t, ctx.connectionExtensions.get t = none
  requestTier : ∀ t, Shows (ctx.extensions.get t)
    (LastWins.lastOf t (added server hook ms request)) (connectionValue server hook t)

theorem shows_self {α : Type} (own below : Option α) : Shows own own below := by
  cases own with
  | none => exact Or.inl rfl
  | some v => exact rfl

/-- **The tiers keep their promise**: the callback finds the hook's value and the middleware's last
one, nothing of a hook that failed, the server's own set as it is, and in no tier a value that is
not that tier's or the one's below. -/
theorem tiered : Tiered server hook ms request (tieredContext server hook ms resource request) where
  serverTier t := by rw [serverExtensions_tieredContext]
  connectionTier t := by
    rw [connectionExtensions_tieredContext, get_connectionExtensions]
    exact shows_self _ _
  failed h e hh he t := by
    rw [connectionExtensions_tieredContext, get_connectionExtensions]
    simp [hookValue, hh, he]
  requestTier t := by
    rw [get_extensions]
    exact shows_self _ _

/-- Each tier builds on the one below. -/
structure Layered (ctx : RequestContext Val) : Prop where
  connectionTier : ∀ t, ctx.connectionExtensions.get t = connectionValue server hook t
  requestTier : ∀ t, ctx.extensions.get t =
    (LastWins.lastOf t (added server hook ms request)).or (connectionValue server hook t)

theorem eq_or_iff {α : Type} (own below : Option α) :
    own = own.or below ↔ (own = none → below = none) := by
  cases own with
  | none => simp [eq_comm]
  | some v => simp

/-- **When each tier builds on the one below**: no tier has a value of a type of which the tier
above has none. -/
theorem layered_iff :
    Layered server hook ms request (tieredContext server hook ms resource request) ↔
      (∀ t, hookValue hook server t = none → server.get t = none) ∧
        ∀ t, LastWins.lastOf t (added server hook ms request) = none →
          connectionValue server hook t = none := by
  constructor
  · rintro ⟨hc, hr⟩
    refine ⟨fun t ↦ ?_, fun t ↦ ?_⟩
    · have h := hc t
      rw [connectionExtensions_tieredContext, get_connectionExtensions] at h
      exact (eq_or_iff _ _).mp h
    · have h := hr t
      rw [get_extensions] at h
      exact (eq_or_iff _ _).mp h
  · rintro ⟨hc, hr⟩
    refine ⟨fun t ↦ ?_, fun t ↦ ?_⟩
    · rw [connectionExtensions_tieredContext, get_connectionExtensions]
      exact (eq_or_iff _ _).mpr (hc t)
    · rw [get_extensions]
      exact (eq_or_iff _ _).mpr (hr t)

end Tiers

/-- A server with one value, of the only type there is. -/
def oneValue : Extensions fun _ : Unit ↦ Nat := Extensions.new.with' () 7

/-- A hook that turns every connection down. -/
def failingHook : ConnectionHook fun _ : Unit ↦ Nat := fun _ ↦ .error "not authenticated"

/-- **The connection's tier need not build on the server's**: after a hook that failed it is
empty. -/
theorem failed_hook_not_layered :
    (tieredContext oneValue (some failingHook) [] (.rpc 0) ping).serverExtensions.get () = some 7 ∧
      (tieredContext oneValue (some failingHook) [] (.rpc 0) ping).connectionExtensions.get () =
        none ∧
      ¬ Layered oneValue (some failingHook) [] ping
        (tieredContext oneValue (some failingHook) [] (.rpc 0) ping) := by
  refine ⟨rfl, rfl, fun h ↦ ?_⟩
  have hc := h.connectionTier ()
  cases hc

end Zel
