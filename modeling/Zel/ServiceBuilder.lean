import Mathlib.Data.List.Induction
import Mathlib.Data.List.Nodup
import Zel.Handlers
import Zel.Lib.LastWins

/-!
# Building a server's services

`RpcServerBuilder::service` opens a block for one service, the four resource methods of
`ServiceBuilder` fill it, and `ServiceBuilder::build` puts it into the map of the server
(`protocol/builder.rs`).  Both maps are filled with `insert`.  Within a block the later registration
of a name replaces the earlier one; and a later block replaces the whole service of an earlier block
of the same name, together with the resources that only the earlier block has.

## What is here

* `RpcServerBuilder`, `ServiceBuilder` — the builders, as far as they decide the routing.
* `Block`, `builtServices` — a sequence of blocks, and the services it builds.
* `route_builtServices` — the last block of a name answers for it.
* `routes_as_registered_iff` — **when no registered resource is lost.**
-/

set_option autoImplicit false

namespace Zel

/-! ## The builders -/

/-- `RpcServerBuilder` -/
structure RpcServerBuilder where
  services : ServiceMap

/-- `ServiceBuilder` -/
structure ServiceBuilder where
  name : String
  resources : String → Option ResourceCallback
  serverBuilder : RpcServerBuilder

namespace RpcServerBuilder

/-- `RpcServerBuilder::new` -/
def new : RpcServerBuilder := ⟨fun _ ↦ none⟩

/-- `RpcServerBuilder::service` -/
def service (b : RpcServerBuilder) (name : String) : ServiceBuilder := ⟨name, fun _ ↦ none, b⟩

/-- `RpcServerBuilder::build`, which hands the services to the server. -/
def build (b : RpcServerBuilder) : ServiceMap := b.services

end RpcServerBuilder

namespace ServiceBuilder

/-- `HashMap::insert` on the resources. -/
def insert (b : ServiceBuilder) (name : String) (resource : ResourceCallback) : ServiceBuilder :=
  { b with resources := Function.update b.resources name (some resource) }

/-- `rpc_resource` -/
def rpcResource (b : ServiceBuilder) (name : String) (callback : CallbackId) : ServiceBuilder :=
  b.insert name (.rpc callback)

/-- `subscription_resource` -/
def subscriptionResource (b : ServiceBuilder) (name : String) (callback : CallbackId) :
    ServiceBuilder := b.insert name (.subscriptionProducer callback)

/-- `notification_resource` -/
def notificationResource (b : ServiceBuilder) (name : String) (callback : CallbackId) :
    ServiceBuilder := b.insert name (.notificationConsumer callback)

/-- `stream_resource` -/
def streamResource (b : ServiceBuilder) (name : String) (callback : CallbackId) : ServiceBuilder :=
  b.insert name (.streamHandler callback)

/-- `ServiceBuilder::build` -/
def build (b : ServiceBuilder) : RpcServerBuilder :=
  ⟨Function.update b.serverBuilder.services b.name (some ⟨b.name, b.resources⟩)⟩

end ServiceBuilder

/-! ## Sequences of blocks -/

/-- One call of a resource method. -/
structure Registration where
  name : String
  resource : ResourceCallback
  deriving DecidableEq

/-- The resource method that registers a resource of this kind. -/
def ServiceBuilder.register (b : ServiceBuilder) (r : Registration) : ServiceBuilder :=
  match r.resource with
  | .rpc cb => b.rpcResource r.name cb
  | .subscriptionProducer cb => b.subscriptionResource r.name cb
  | .notificationConsumer cb => b.notificationResource r.name cb
  | .streamHandler cb => b.streamResource r.name cb

/-- `service(name)`, some registrations, and `build()`. -/
structure Block where
  name : String
  registrations : List Registration

namespace Block

/-- The block is applied to a builder. -/
def apply (b : RpcServerBuilder) (block : Block) : RpcServerBuilder :=
  (block.registrations.foldl ServiceBuilder.register (b.service block.name)).build

/-- The registrations as updates of the service's map. -/
def updates (block : Block) : List (Sigma fun _ : String ↦ ResourceCallback) :=
  block.registrations.map fun r ↦ ⟨r.name, r.resource⟩

/-- The block registers something under this name. -/
def Registers (block : Block) (resource : String) : Prop :=
  ∃ r ∈ block.registrations, r.name = resource

end Block

/-- The services of a server that was built from these blocks. -/
def builtServices (blocks : List Block) : ServiceMap := (blocks.foldl Block.apply .new).build

/-! ## The last block of a name -/

/-- What a block has under a name: the last registration. -/
def Block.last (block : Block) (resource : String) : Option ResourceCallback :=
  LastWins.lastOf resource block.updates

/-- The last block of a name. -/
def lastBlock (blocks : List Block) (service : String) : Option Block :=
  (blocks.filter fun b ↦ b.name == service).getLast?

theorem ServiceBuilder.register_eq (b : ServiceBuilder) (r : Registration) :
    b.register r =
      { b with resources := Function.update b.resources r.name (some r.resource) } := by
  obtain ⟨name, resource⟩ := r
  cases resource <;> rfl

/-- A whole block of registrations. -/
theorem ServiceBuilder.foldl_register (rs : List Registration) (b : ServiceBuilder) :
    rs.foldl register b = { b with
      resources := LastWins.updates b.resources (rs.map fun r ↦ ⟨r.name, r.resource⟩) } := by
  induction rs generalizing b with
  | nil => rfl
  | cons r rs ih =>
    rw [List.foldl_cons, ih, register_eq]
    rfl

/-- **A block replaces its service.** -/
theorem Block.services_apply (b : RpcServerBuilder) (block : Block) :
    (block.apply b).services =
      Function.update b.services block.name (some ⟨block.name, block.last⟩) := by
  have hlast : LastWins.updates (fun _ ↦ none) block.updates = block.last := by
    funext resource
    exact (LastWins.updates_apply _ _ _).trans (Option.or_none ..)
  rw [apply, ServiceBuilder.foldl_register, ServiceBuilder.build, ← hlast]
  rfl

theorem builtServices_concat (blocks : List Block) (block : Block) :
    builtServices (blocks ++ [block]) =
      Function.update (builtServices blocks) block.name (some ⟨block.name, block.last⟩) := by
  rw [builtServices, List.foldl_append]
  exact block.services_apply _

theorem lastBlock_concat (blocks : List Block) (block : Block) (service : String) :
    lastBlock (blocks ++ [block]) service =
      if block.name = service then some block else lastBlock blocks service := by
  by_cases h : block.name = service <;> simp [lastBlock, List.filter_append, h]

/-- The services are those of the last blocks. -/
theorem builtServices_eq (blocks : List Block) (service : String) :
    builtServices blocks service = (lastBlock blocks service).map fun b ↦ ⟨b.name, b.last⟩ := by
  induction blocks using List.reverseRecOn with
  | nil => rfl
  | append_singleton blocks block ih =>
    rw [builtServices_concat, lastBlock_concat]
    by_cases h : block.name = service
    · rw [if_pos h, ← h, Function.update_self]
      rfl
    · rw [if_neg h, Function.update_of_ne (Ne.symm h), ih]

/-- **The last block of a name answers for it.** -/
theorem route_builtServices (blocks : List Block) (request : Request) :
    route (builtServices blocks) request =
      match lastBlock blocks request.service with
      | none => .error (.serviceNotFound request.service)
      | some block =>
        match block.last request.resource with
        | none => .error (.resourceNotFound request.service request.resource)
        | some resource => .ok resource := by
  rw [route, builtServices_eq]
  cases lastBlock blocks request.service <;> rfl

/-! ## What was registered -/

/-- All registrations, in order, each under its service and its name. -/
def registrations (blocks : List Block) : List (Sigma fun _ : String × String ↦ ResourceCallback) :=
  blocks.flatMap fun b ↦ b.registrations.map fun r ↦ ⟨(b.name, r.name), r.resource⟩

/-- What was registered last for a service and a resource, in whichever block. -/
def registered (blocks : List Block) (service resource : String) : Option ResourceCallback :=
  LastWins.lastOf (service, resource) (registrations blocks)

/-- The requests for this service and resource are answered as the blocks say. -/
structure RoutesAsRegistered (blocks : List Block) (request : Request) : Prop where
  found : ∀ resource, route (builtServices blocks) request = .ok resource ↔
    registered blocks request.service request.resource = some resource
  unknownService :
    route (builtServices blocks) request = .error (.serviceNotFound request.service) ↔
      ∀ b ∈ blocks, b.name ≠ request.service
  unknownResource : route (builtServices blocks) request =
      .error (.resourceNotFound request.service request.resource) ↔
    (∃ b ∈ blocks, b.name = request.service) ∧
      registered blocks request.service request.resource = none

/-- The last block of the service has the resource, if any block of the service has it. -/
def LastBlockHas (blocks : List Block) (service resource : String) : Prop :=
  ∀ last, lastBlock blocks service = some last →
    ∀ b ∈ blocks, b.name = service → b.Registers resource → last.Registers resource

theorem isSome_last_iff {block : Block} {resource : String} :
    (block.last resource).isSome ↔ block.Registers resource := by
  rw [Block.last, LastWins.isSome_lastOf_iff]
  simp [Block.updates, Block.Registers]

theorem isSome_registered_iff {blocks : List Block} {service resource : String} :
    (registered blocks service resource).isSome ↔
      ∃ b ∈ blocks, b.name = service ∧ b.Registers resource := by
  rw [registered, LastWins.isSome_lastOf_iff]
  simp [registrations, Block.Registers]
  grind

theorem registered_eq_none_iff {blocks : List Block} {service resource : String} :
    registered blocks service resource = none ↔
      ∀ b ∈ blocks, b.name = service → ¬ b.Registers resource := by
  rw [← Option.not_isSome_iff_eq_none, isSome_registered_iff]
  simp only [not_exists, not_and]

theorem lastOf_tagged (block : Block) (service resource : String) :
    LastWins.lastOf (service, resource) (block.registrations.map fun r ↦
      (⟨(block.name, r.name), r.resource⟩ : Sigma fun _ : String × String ↦ ResourceCallback)) =
      if block.name = service then block.last resource else none := by
  rw [Block.last, Block.updates]
  induction block.registrations with
  | nil => simp [LastWins.lastOf]
  | cons r rs ih =>
    rw [List.map_cons, List.map_cons, LastWins.lastOf, LastWins.lastOf, ih]
    by_cases h : block.name = service <;> by_cases h' : r.name = resource <;> simp [h, h']

theorem registered_concat (blocks : List Block) (block : Block) (service resource : String) :
    registered (blocks ++ [block]) service resource =
      (if block.name = service then block.last resource else none).or
        (registered blocks service resource) := by
  rw [registered, registrations, List.flatMap_append, LastWins.lastOf_append,
    List.flatMap_singleton, lastOf_tagged]
  rfl

/-- What the last block has is what was registered last. -/
theorem registered_of_last {blocks : List Block} {service resource : String} {block : Block}
    {cb : ResourceCallback} (hb : lastBlock blocks service = some block)
    (h : block.last resource = some cb) : registered blocks service resource = some cb := by
  induction blocks using List.reverseRecOn with
  | nil => cases hb
  | append_singleton blocks b ih =>
    rw [lastBlock_concat] at hb
    rw [registered_concat]
    by_cases hname : b.name = service
    · rw [if_pos hname, Option.some_inj] at hb
      subst hb
      rw [if_pos hname, h]
      rfl
    · rw [if_neg hname] at hb ⊢
      exact ih hb

theorem mem_of_lastBlock {blocks : List Block} {service : String} {block : Block}
    (h : lastBlock blocks service = some block) : block ∈ blocks ∧ block.name = service := by
  have hmem := List.mem_filter.mp (List.mem_of_getLast? h)
  exact ⟨hmem.1, by simpa using hmem.2⟩

theorem lastBlock_eq_none {blocks : List Block} {service : String} :
    lastBlock blocks service = none ↔ ∀ b ∈ blocks, b.name ≠ service := by
  simp [lastBlock]

/-! ## When nothing is lost -/

/-- The answer is right if the last block has the resource, should any block have it. -/
theorem routesAsRegistered_of_lastBlockHas {blocks : List Block} {request : Request}
    (h : LastBlockHas blocks request.service request.resource) :
    RoutesAsRegistered blocks request := by
  obtain ⟨service, resource, body⟩ := request
  have hroute := route_builtServices blocks ⟨service, resource, body⟩
  cases hlast : lastBlock blocks service with
  | none =>
    simp only [hlast] at hroute
    have hnone := lastBlock_eq_none.mp hlast
    have hreg : registered blocks service resource = none :=
      registered_eq_none_iff.mpr fun b hb hname ↦ absurd hname (hnone b hb)
    refine ⟨?_, ?_, ?_⟩
    · simp [hroute, hreg]
    · simpa [hroute] using hnone
    · simpa [hroute, hreg] using hnone
  | some block =>
    have hsome : ∃ b ∈ blocks, b.name = service := ⟨block, mem_of_lastBlock hlast⟩
    cases hcb : block.last resource with
    | some cb =>
      simp only [hlast, hcb] at hroute
      have hreg := registered_of_last hlast hcb
      refine ⟨?_, ?_, ?_⟩
      · simp [hroute, hreg]
      · simpa [hroute] using hsome
      · simp [hroute, hreg]
    | none =>
      simp only [hlast, hcb] at hroute
      have hreg : registered blocks service resource = none := by
        refine registered_eq_none_iff.mpr fun b hb hname hb' ↦ ?_
        have hsome := isSome_last_iff.mpr (h block hlast b hb hname hb')
        rw [hcb] at hsome
        cases hsome
      refine ⟨?_, ?_, ?_⟩
      · simp [hroute, hreg]
      · simpa [hroute] using hsome
      · simpa [hroute, hreg] using hsome

/-- A resource that the last block lacks is reported as missing, whoever registered it. -/
theorem RoutesAsRegistered.lastBlockHas {blocks : List Block} {request : Request}
    (h : RoutesAsRegistered blocks request) :
    LastBlockHas blocks request.service request.resource := by
  intro last hlast b hb hname hreg
  by_contra hno
  have hnone : last.last request.resource = none := by
    rwa [← Option.not_isSome_iff_eq_none, isSome_last_iff]
  have hmissing : route (builtServices blocks) request =
      .error (.resourceNotFound request.service request.resource) := by
    rw [route_builtServices, hlast]
    simp only [hnone]
  exact registered_eq_none_iff.mp (h.unknownResource.mp hmissing).2 b hb hname hreg

/-- Blocks with pairwise different names lose nothing. -/
theorem routes_as_registered_of_nodup {blocks : List Block} (h : (blocks.map Block.name).Nodup)
    (request : Request) : RoutesAsRegistered blocks request := by
  refine routesAsRegistered_of_lastBlockHas fun last hlast b hb hname hreg ↦ ?_
  obtain ⟨hmem, hlastname⟩ := mem_of_lastBlock hlast
  have hsame : b = last := List.inj_on_of_nodup_map h hb hmem (hname.trans hlastname.symm)
  exact hsame ▸ hreg

/-- **When no registered resource is lost.**  A request is routed to what was registered last for
it, and answered that the service or the resource does not exist exactly when it was never named,
if and only if the last block of the service has the resource or no block of the service has
it. -/
theorem routes_as_registered_iff (blocks : List Block) (request : Request) :
    RoutesAsRegistered blocks request ↔ LastBlockHas blocks request.service request.resource :=
  ⟨RoutesAsRegistered.lastBlockHas, routesAsRegistered_of_lastBlockHas⟩

/-- Two blocks for one service. -/
def repeatedBlocks : List Block :=
  [⟨"demo", [⟨"ping", .rpc 0⟩]⟩, ⟨"demo", [⟨"pong", .rpc 1⟩]⟩]

/-- **A later block takes away the resources of an earlier one.** -/
theorem ping_lost :
    registered repeatedBlocks "demo" "ping" = some (.rpc 0) ∧
      route (builtServices repeatedBlocks) ping = .error (.resourceNotFound "demo" "ping") ∧
      ¬ RoutesAsRegistered repeatedBlocks ping := by
  refine ⟨rfl, rfl, fun h ↦ ?_⟩
  have hfound := (h.found (.rpc 0)).mpr rfl
  cases hfound

end Zel
