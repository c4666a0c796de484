import Zel.Extensions
import Zel.GuardedServer
import Zel.ServiceBuilder

/-!
# The settings of a server

A server is configured by a chain of calls on its `RpcServerBuilder` (`protocol/builder.rs`), in any
order and each as often as one likes, with blocks of services in between; the circuit breakers are
configured by a chain of their own (`protocol/circuit_breaker.rs`).  Most calls overwrite a field,
so what counts is the last one; the middleware is collected.  The breakers themselves are not made
before `build`, which also puts their statistics into the server's extensions.  So it does not
matter whether the extensions were set before or after the breakers, nor what statistics they had.

## What is here

* `ServerBuilder`, `RpcServer` — the builder with all its fields, and what it builds.
* `foldl_apply` — what a chain of calls means; `builtServer_congr` — the order of different settings
  does not matter.
* `own_statistics` — **the statistics that a callback finds are those of the breakers in front of
  it**.
* `built_settings` — **what the breaker library is given** after a chain of calls on the builder of
  the configuration.
-/

set_option autoImplicit false

namespace Zel

/-! ## The builder -/

/-- `Arc<PeerCircuitBreakers>`, by where it points, with what the breakers were made of. -/
structure BreakersArc where
  address : Nat
  config : CircuitBreakerConfig

/-- The types of the values in the extensions of a server: the statistics, and those of the
application. -/
inductive ExtensionType (Ty : Type) where
  | circuitBreakerStats
  | application (t : Ty)
  deriving DecidableEq

/-- The values of these types; `CircuitBreakerStats` is no more than the handle in it. -/
def ExtensionType.Value {Ty : Type} (Val : Ty → Type) : ExtensionType Ty → Type
  | .circuitBreakerStats => BreakersArc
  | .application t => Val t

variable {Ty : Type} {Val : Ty → Type}

/-- `RpcServerBuilder`, with the fields that do not decide the routing. -/
structure ServerBuilder (Val : Ty → Type) extends RpcServerBuilder where
  serverExtensions : Extensions (ExtensionType.Value Val)
  connectionHook : Option (ConnectionHook (ExtensionType.Value Val))
  requestMiddleware : List (RequestMiddleware (ExtensionType.Value Val))
  circuitBreakerConfig : Option CircuitBreakerConfig

/-- `RpcServer`, without its endpoint and what belongs to its shutdown. -/
structure RpcServer (Val : Ty → Type) where
  services : ServiceMap
  serverExtensions : Extensions (ExtensionType.Value Val)
  connectionHook : Option (ConnectionHook (ExtensionType.Value Val))
  requestMiddleware : List (RequestMiddleware (ExtensionType.Value Val))
  circuitBreakers : Option BreakersArc

namespace ServerBuilder

/-- `RpcServerBuilder::new` -/
def new : ServerBuilder Val := ⟨.new, .new, none, [], none⟩

/-- `with_extensions` -/
def withExtensions (b : ServerBuilder Val) (extensions : Extensions (ExtensionType.Value Val)) :
    ServerBuilder Val := { b with serverExtensions := extensions }

/-- `with_connection_hook` -/
def withConnectionHook (b : ServerBuilder Val)
    (hook : ConnectionHook (ExtensionType.Value Val)) : ServerBuilder Val :=
  { b with connectionHook := some hook }

/-- `with_request_middleware` -/
def withRequestMiddleware (b : ServerBuilder Val)
    (middleware : RequestMiddleware (ExtensionType.Value Val)) : ServerBuilder Val :=
  { b with requestMiddleware := b.requestMiddleware ++ [middleware] }

/-- `with_circuit_breaker` -/
def withCircuitBreaker (b : ServerBuilder Val) (config : CircuitBreakerConfig) :
    ServerBuilder Val := { b with circuitBreakerConfig := some config }

/-- `service(name)`, some registrations, and `build()`, which gives the builder back. -/
def withService (b : ServerBuilder Val) (block : Block) : ServerBuilder Val :=
  { b with toRpcServerBuilder := block.apply b.toRpcServerBuilder }

variable [DecidableEq Ty]

/-- `initialize_circuit_breakers`; the new breakers are put at this address. -/
def initializeCircuitBreakers (b : ServerBuilder Val) (address : Nat) :
    Option BreakersArc × Extensions (ExtensionType.Value Val) :=
  match b.circuitBreakerConfig with
  | some config =>
    let breakers := ⟨address, config⟩
    (some breakers, b.serverExtensions.with' .circuitBreakerStats breakers)
  | none => (none, b.serverExtensions)

/-- `RpcServerBuilder::build`; `build_with_shutdown` builds the same server. -/
def build (b : ServerBuilder Val) (address : Nat) : RpcServer Val :=
  let (circuitBreakers, serverExtensions) := b.initializeCircuitBreakers address
  { services := b.services
    serverExtensions
    connectionHook := b.connectionHook
    requestMiddleware := b.requestMiddleware
    circuitBreakers }

end ServerBuilder

/-! ## Chains of calls -/

/-- A call on the builder. -/
inductive Setting (Val : Ty → Type) where
  | extensions (e : Extensions (ExtensionType.Value Val))
  | connectionHook (hook : ConnectionHook (ExtensionType.Value Val))
  | requestMiddleware (m : RequestMiddleware (ExtensionType.Value Val))
  | circuitBreaker (config : CircuitBreakerConfig)
  | service (block : Block)

namespace Setting

def apply (b : ServerBuilder Val) : Setting Val → ServerBuilder Val
  | .extensions e => b.withExtensions e
  | .connectionHook hook => b.withConnectionHook hook
  | .requestMiddleware m => b.withRequestMiddleware m
  | .circuitBreaker config => b.withCircuitBreaker config
  | .service block => b.withService block

def extensions? : Setting Val → Option (Extensions (ExtensionType.Value Val))
  | .extensions e => some e
  | _ => none

def connectionHook? : Setting Val → Option (ConnectionHook (ExtensionType.Value Val))
  | .connectionHook hook => some hook
  | _ => none

def requestMiddleware? : Setting Val → Option (RequestMiddleware (ExtensionType.Value Val))
  | .requestMiddleware m => some m
  | _ => none

def circuitBreaker? : Setting Val → Option CircuitBreakerConfig
  | .circuitBreaker config => some config
  | _ => none

def service? : Setting Val → Option Block
  | .service block => some block
  | _ => none

end Setting

/-- The last extensions that the calls set. -/
def lastExtensions (calls : List (Setting Val)) : Extensions (ExtensionType.Value Val) :=
  (calls.filterMap Setting.extensions?).getLast?.getD .new

/-- The last configuration of the breakers. -/
def lastCircuitBreaker (calls : List (Setting Val)) : Option CircuitBreakerConfig :=
  (calls.filterMap Setting.circuitBreaker?).getLast?

/-- **What a chain of calls means.** -/
theorem foldl_apply (calls : List (Setting Val)) :
    calls.foldl Setting.apply .new =
      { services := builtServices (calls.filterMap Setting.service?)
        serverExtensions := lastExtensions calls
        connectionHook := (calls.filterMap Setting.connectionHook?).getLast?
        requestMiddleware := calls.filterMap Setting.requestMiddleware?
        circuitBreakerConfig := lastCircuitBreaker calls } := by
  induction calls using List.reverseRecOn with
  | nil => rfl
  | append_singleton calls c ih =>
    rw [List.foldl_append, List.foldl_cons, List.foldl_nil, ih]
    simp only [lastExtensions, lastCircuitBreaker, List.filterMap_append]
    cases c <;>
      simp only [Setting.extensions?, Setting.connectionHook?, Setting.requestMiddleware?,
        Setting.circuitBreaker?, Setting.service?, List.filterMap_cons, List.filterMap_nil,
        List.append_nil, List.getLast?_concat, builtServices, List.foldl_append] <;>
      rfl

section Built

variable [DecidableEq Ty]

/-- The server that a chain of calls builds, with its breakers, if any, at this address. -/
def builtServer (calls : List (Setting Val)) (address : Nat) : RpcServer Val :=
  (calls.foldl Setting.apply .new).build address

/-- The calls of each kind are the same, in the same order. -/
structure SameSettings (calls calls' : List (Setting Val)) : Prop where
  extensions : calls.filterMap Setting.extensions? = calls'.filterMap Setting.extensions?
  connectionHook :
    calls.filterMap Setting.connectionHook? = calls'.filterMap Setting.connectionHook?
  requestMiddleware :
    calls.filterMap Setting.requestMiddleware? = calls'.filterMap Setting.requestMiddleware?
  circuitBreaker :
    calls.filterMap Setting.circuitBreaker? = calls'.filterMap Setting.circuitBreaker?
  service : calls.filterMap Setting.service? = calls'.filterMap Setting.service?

/-- **The order of different settings does not matter.** -/
theorem builtServer_congr {calls calls' : List (Setting Val)} (h : SameSettings calls calls')
    (address : Nat) : builtServer calls address = builtServer calls' address := by
  rw [builtServer, builtServer, foldl_apply, foldl_apply, lastExtensions, lastExtensions,
    lastCircuitBreaker, lastCircuitBreaker, h.extensions, h.connectionHook, h.requestMiddleware,
    h.circuitBreaker, h.service]

theorem circuitBreakers_builtServer (calls : List (Setting Val)) (address : Nat) :
    (builtServer calls address).circuitBreakers =
      (lastCircuitBreaker calls).map fun config ↦ ⟨address, config⟩ := by
  rw [builtServer, foldl_apply, ServerBuilder.build, ServerBuilder.initializeCircuitBreakers]
  cases lastCircuitBreaker calls <;> rfl

/-- What `build` adds to the extensions. -/
theorem serverExtensions_builtServer (calls : List (Setting Val)) (address : Nat) :
    (builtServer calls address).serverExtensions =
      match (builtServer calls address).circuitBreakers with
      | some breakers => (lastExtensions calls).with' .circuitBreakerStats breakers
      | none => lastExtensions calls := by
  rw [circuitBreakers_builtServer, builtServer, foldl_apply, ServerBuilder.build,
    ServerBuilder.initializeCircuitBreakers]
  cases lastCircuitBreaker calls <;> rfl

theorem Extensions.get_with'_of_ne {e : Extensions (ExtensionType.Value Val)}
    {t t' : ExtensionType Ty} (h : t' ≠ t) (value : t.Value Val) :
    (e.with' t value).get t' = e.get t' := Function.update_of_ne h ..

/-- The statistics on a server are its own, if it has breakers. -/
theorem get_statistics_builtServer (calls : List (Setting Val)) (address : Nat) :
    (builtServer calls address).serverExtensions.get .circuitBreakerStats =
      (builtServer calls address).circuitBreakers.or
        ((lastExtensions calls).get .circuitBreakerStats) := by
  rw [serverExtensions_builtServer]
  rcases (builtServer calls address).circuitBreakers with _ | breakers
  · rfl
  · exact Extensions.get_with' ..

theorem contains_statistics (calls : List (Setting Val)) (address : Nat) :
    (builtServer calls address).serverExtensions.contains .circuitBreakerStats =
      ((builtServer calls address).circuitBreakers.isSome ||
        (lastExtensions calls).contains .circuitBreakerStats) :=
  (congrArg Option.isSome (get_statistics_builtServer calls address)).trans (Option.isSome_or ..)

/-- On a server with breakers no default is made for the statistics. -/
theorem getOrElse_statistics {calls : List (Setting Val)} {address : Nat} {breakers : BreakersArc}
    (h : (builtServer calls address).circuitBreakers = some breakers)
    (default : Unit → BreakersArc) :
    (builtServer calls address).serverExtensions.getOrElse .circuitBreakerStats default =
      breakers := by
  have hget := get_statistics_builtServer calls address
  rw [h] at hget
  unfold Extensions.getOrElse
  rw [hget]
  rfl

theorem get_application_builtServer (calls : List (Setting Val)) (address : Nat) (t : Ty) :
    (builtServer calls address).serverExtensions.get (.application t) =
      (lastExtensions calls).get (.application t) := by
  rw [serverExtensions_builtServer]
  rcases (builtServer calls address).circuitBreakers with _ | breakers
  · rfl
  · have hne : (.application t : ExtensionType Ty) ≠ .circuitBreakerStats := by simp
    exact Extensions.get_with'_of_ne hne _

/-! ## What a callback finds -/

/-- The context of a callback on this server. -/
def RpcServer.context (server : RpcServer Val) (resource : ResourceCallback) (request : Request) :
    RequestContext (ExtensionType.Value Val) :=
  callbackContext server.serverExtensions server.connectionHook server.requestMiddleware resource
    request

omit [DecidableEq Ty] in
theorem serverExtensions_applyMiddleware {ms : List (RequestMiddleware (ExtensionType.Value Val))}
    (hkeep : ∀ m ∈ ms, ∀ ctx, (m ctx).serverExtensions = ctx.serverExtensions)
    (ctx : RequestContext (ExtensionType.Value Val)) :
    (applyMiddleware ctx ms).serverExtensions = ctx.serverExtensions := by
  induction ms generalizing ctx with
  | nil => rfl
  | cons m ms ih =>
    have hrest := ih (fun m' hm' ↦ hkeep m' (List.mem_cons_of_mem m hm')) (m ctx)
    exact hrest.trans (hkeep m List.mem_cons_self ctx)

/-- **A callback finds the statistics of the breakers in front of it.**  For every chain of calls,
in any order and with extensions that may have statistics of their own, and for middleware that
leaves the server's extensions alone: a callback, like the connection hook before it, finds the
extensions of the server; under the type of the statistics there are the very breakers that the
server asks, made of the last configuration, or else, on a server without breakers, what the
application put there; and under every other type what the last `with_extensions` has. -/
theorem own_statistics (calls : List (Setting Val)) (address : Nat)
    (hkeep : ∀ m ∈ calls.filterMap Setting.requestMiddleware?, ∀ ctx,
      (m ctx).serverExtensions = ctx.serverExtensions)
    (resource : ResourceCallback) (request : Request) :
    let server := builtServer calls address
    let found := (server.context resource request).serverExtensions
    found = server.serverExtensions ∧
      server.circuitBreakers = (lastCircuitBreaker calls).map (fun config ↦ ⟨address, config⟩) ∧
      found.get .circuitBreakerStats =
        server.circuitBreakers.or ((lastExtensions calls).get .circuitBreakerStats) ∧
      ∀ t, found.get (.application t) = (lastExtensions calls).get (.application t) := by
  intro server found
  have hmiddleware : server.requestMiddleware = calls.filterMap Setting.requestMiddleware? := by
    simp only [server, builtServer, foldl_apply, ServerBuilder.build]
  have hfound : found = server.serverExtensions := by
    rw [← hmiddleware] at hkeep
    cases resource <;> exact serverExtensions_applyMiddleware hkeep _
  refine ⟨hfound, circuitBreakers_builtServer calls address, ?_, fun t ↦ ?_⟩
  · rw [hfound]
    exact get_statistics_builtServer calls address
  · rw [hfound]
    exact get_application_builtServer calls address t

end Built

/-- The calls in the documentation of `CircuitBreakerStats`, which set statistics of other breakers,
and a middleware. -/
def documentedCalls : List (Setting fun _ : Unit ↦ Nat) :=
  [.circuitBreaker sensitive,
    .extensions (Extensions.new.with' .circuitBreakerStats ⟨0, sensitive⟩),
    .requestMiddleware fun ctx ↦ ctx.withExtension (.application ()) (7 : Nat)]

/-- They are not the ones that a callback finds. -/
theorem own_statistics_documentedCalls :
    let server := builtServer documentedCalls 1
    let found := (server.context (.rpc 0) ping).serverExtensions
    found = server.serverExtensions ∧
      server.circuitBreakers =
        (lastCircuitBreaker documentedCalls).map (fun config ↦ ⟨1, config⟩) ∧
      found.get .circuitBreakerStats =
        server.circuitBreakers.or ((lastExtensions documentedCalls).get .circuitBreakerStats) ∧
      ∀ t, found.get (.application t) = (lastExtensions documentedCalls).get (.application t) :=
  own_statistics documentedCalls 1 (by rintro m (_ | ⟨_, ⟨⟩⟩) ctx; rfl) (.rpc 0) ping

/-! ## The settings of the breakers -/

/-- `CircuitBreakerConfigBuilder` -/
structure CircuitBreakerConfigBuilder where
  config : CircuitBreakerConfig

namespace CircuitBreakerConfigBuilder

/-- `CircuitBreakerConfigBuilder::default`, which is what `CircuitBreakerConfig::builder` gives. -/
def default : CircuitBreakerConfigBuilder := ⟨.default⟩

/-- `failure_threshold` -/
def failureThreshold (b : CircuitBreakerConfigBuilder) (rate : Binary64) :
    CircuitBreakerConfigBuilder :=
  ⟨{ b.config with failureRate := rate.clamp (.number 0) (.number 1) }⟩

/-- `consecutive_failures` -/
def consecutiveFailures (b : CircuitBreakerConfigBuilder) (count : Nat) :
    CircuitBreakerConfigBuilder := ⟨{ b.config with consecutiveFailures := some count }⟩

/-- `consecutive_successes` -/
def consecutiveSuccesses (b : CircuitBreakerConfigBuilder) (count : Nat) :
    CircuitBreakerConfigBuilder := ⟨{ b.config with consecutiveSuccesses := some count }⟩

/-- `timeout` -/
def timeout (b : CircuitBreakerConfigBuilder) (duration : Duration) :
    CircuitBreakerConfigBuilder := ⟨{ b.config with timeout := duration }⟩

/-- `probe_interval` -/
def probeInterval (b : CircuitBreakerConfigBuilder) (probes : Nat) :
    CircuitBreakerConfigBuilder := ⟨{ b.config with probeInterval := some probes }⟩

/-- `with_error_classifier` -/
def withErrorClassifier (b : CircuitBreakerConfigBuilder) (classifier : ErrorClassifier) :
    CircuitBreakerConfigBuilder := ⟨{ b.config with errorClassifier := classifier }⟩

/-- `build` -/
def build (b : CircuitBreakerConfigBuilder) : CircuitBreakerConfig := b.config

end CircuitBreakerConfigBuilder

/-- A call on the builder of a configuration. -/
inductive BreakerSetting where
  | failureThreshold (rate : Binary64)
  | consecutiveFailures (count : Nat)
  | consecutiveSuccesses (count : Nat)
  | timeout (duration : Duration)
  | probeInterval (probes : Nat)
  | withErrorClassifier (classifier : ErrorClassifier)

namespace BreakerSetting

def apply (b : CircuitBreakerConfigBuilder) : BreakerSetting → CircuitBreakerConfigBuilder
  | .failureThreshold rate => b.failureThreshold rate
  | .consecutiveFailures count => b.consecutiveFailures count
  | .consecutiveSuccesses count => b.consecutiveSuccesses count
  | .timeout duration => b.timeout duration
  | .probeInterval probes => b.probeInterval probes
  | .withErrorClassifier classifier => b.withErrorClassifier classifier

def failureThreshold? : BreakerSetting → Option Binary64
  | .failureThreshold rate => some rate
  | _ => none

def consecutiveFailures? : BreakerSetting → Option Nat
  | .consecutiveFailures count => some count
  | _ => none

def consecutiveSuccesses? : BreakerSetting → Option Nat
  | .consecutiveSuccesses count => some count
  | _ => none

def timeout? : BreakerSetting → Option Duration
  | .timeout duration => some duration
  | _ => none

def probeInterval? : BreakerSetting → Option Nat
  | .probeInterval probes => some probes
  | _ => none

def errorClassifier? : BreakerSetting → Option ErrorClassifier
  | .withErrorClassifier classifier => some classifier
  | _ => none

/-- What the last call of one kind sets. -/
def last {α : Type} (value? : BreakerSetting → Option α) (calls : List BreakerSetting) : Option α :=
  (calls.filterMap value?).getLast?

end BreakerSetting

/-- The configuration that a chain of calls builds. -/
def builtConfig (calls : List BreakerSetting) : CircuitBreakerConfig :=
  (calls.foldl BreakerSetting.apply .default).build

open BreakerSetting in
/-- **The last call of each kind decides**, or else the default. -/
theorem builtConfig_eq (calls : List BreakerSetting) : builtConfig calls =
    { failureRate := ((last failureThreshold? calls).map fun rate ↦
        rate.clamp (.number 0) (.number 1)).getD (.number (1 / 2))
      consecutiveFailures := some ((last consecutiveFailures? calls).getD 5)
      consecutiveSuccesses := some ((last consecutiveSuccesses? calls).getD 2)
      timeout := (last timeout? calls).getD 30000000000
      probeInterval := some ((last probeInterval? calls).getD 3)
      errorClassifier := (last errorClassifier? calls).getD .default } := by
  induction calls using List.reverseRecOn with
  | nil => rfl
  | append_singleton calls c ih =>
    have happly : builtConfig (calls ++ [c]) = (c.apply ⟨builtConfig calls⟩).config := by
      rw [builtConfig, List.foldl_append]
      rfl
    rw [happly, ih]
    simp only [last, List.filterMap_append]
    cases c <;>
      simp only [failureThreshold?, consecutiveFailures?, consecutiveSuccesses?, timeout?,
        probeInterval?, errorClassifier?, List.filterMap_cons, List.filterMap_nil,
        List.append_nil, List.getLast?_concat] <;>
      rfl

/-- A rate that is set is clamped, which does not help against what is no number. -/
theorem failureRate_builtConfig (calls : List BreakerSetting) :
    (BreakerSetting.last BreakerSetting.failureThreshold? calls = some .nan ∧
        (builtConfig calls).failureRate = .nan) ∨
      ∃ value : Rat, (builtConfig calls).failureRate = .number value ∧ 0 ≤ value ∧ value ≤ 1 := by
  rw [builtConfig_eq]
  rcases BreakerSetting.last BreakerSetting.failureThreshold? calls with _ | rate
  · exact .inr ⟨1 / 2, rfl, by decide +kernel, by decide +kernel⟩
  · rcases @Binary64.clamp_number rate 0 1 (by decide) with ⟨rfl, hrate⟩ | h
    · exact .inl ⟨rfl, hrate⟩
    · exact .inr h

open BreakerSetting in
/-- **What the breaker library is given.**  After every chain of calls on the builder of a
configuration, the library is told a rate, a cooldown and all three counts: what the last call of
each kind has set, or else the default.  The rate is a number between 0 and 1, unless the last rate
that was set is no number. -/
theorem built_settings (calls : List BreakerSetting) :
    createCircuitBreaker (builtConfig calls) =
        { failureThreshold := ((last failureThreshold? calls).map fun rate ↦
            rate.clamp (.number 0) (.number 1)).getD (.number (1 / 2))
          cooldown := (last timeout? calls).getD 30000000000
          consecutiveFailures := some ((last consecutiveFailures? calls).getD 5)
          consecutiveSuccesses := some ((last consecutiveSuccesses? calls).getD 2)
          probeInterval := some ((last probeInterval? calls).getD 3) } ∧
      (builtConfig calls).errorClassifier = (last errorClassifier? calls).getD .default ∧
      ((last failureThreshold? calls = some .nan ∧ (builtConfig calls).failureRate = .nan) ∨
        ∃ value : Rat,
          (builtConfig calls).failureRate = .number value ∧ 0 ≤ value ∧ value ≤ 1) := by
  refine ⟨?_, ?_, failureRate_builtConfig calls⟩
  · rw [builtConfig_eq]
    rfl
  · rw [builtConfig_eq]

/-- Two rates, the second too large, and a classifier in between. -/
example : createCircuitBreaker (builtConfig [.failureThreshold .nan,
    .withErrorClassifier .allErrors, .failureThreshold (.infinity false)]) =
      ⟨.number 1, 30000000000, some 5, some 2, some 3⟩ := rfl

end Zel
