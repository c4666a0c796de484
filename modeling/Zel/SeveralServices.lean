import Mathlib.Data.Nat.Pairing
import Zel.Endpoints

/-!
# Several services on one server

A server is built by calling `register_service` of one generated trait after another on the same
builder, and each of the services has its generated client (`examples/multi_service_example.rs`).
Nothing compares the services: `ServiceBuilder::build` inserts each into the map of the server under
the name that its own attribute gives it, and a service of the same name that was registered before
is gone, even if the two have no function in common.  Within one service it is the names of the
functions that may be repeated, and the names of the parameters that may be in the way of the call
(`Zel.Endpoints`).

## What is here

* `GeneratedService`, `registerServices` — traits that the macro has accepted, and the server that
  has all of them.
* `lastBlock_eq_some` — which block of a name is the last one, by positions.
* `service_answered_iff` — one service of several: what comes before it does not matter.
* `every_service_answered_iff` — **when every client function of every service is answered by its
  own function.**
-/

set_option autoImplicit false

namespace Zel

variable {parseType : String → Except SynError SynType}

/-! ## The services -/

variable (parseType) in
/-- A trait that the macro accepts, with what it makes of it. -/
structure GeneratedService where
  attr : ServiceAttr
  traitDef : ItemTrait
  description : ServiceDescription
  accepted : ServiceDescription.fromItem parseType attr traitDef = .ok description

namespace GeneratedService

/-- The closures of the service at this position. -/
def callback (s : GeneratedService parseType) (position : ℕ) (ident : String) : CallbackId :=
  Nat.pair position (s.traitDef.callback ident)

/-- What `register_service` adds to the builder. -/
def block (s : GeneratedService parseType) (position : ℕ) : Block :=
  ⟨s.description.serviceName,
    s.description.descriptions.map (Description.registration (s.callback position))⟩

end GeneratedService

/-- `register_service` of each service, on the builder that the one before it returned. -/
def registerServices (services : List (GeneratedService parseType)) : ServiceMap :=
  let register (builder : RpcServerBuilder) (s : GeneratedService parseType × ℕ) :=
    s.1.description.registerService (s.1.callback s.2) builder
  (services.zipIdx.foldl register .new).build

variable (toUppercase : Char → List Char)

/-- The client's function for `f` is answered by the closure that the service at this position has
for `f`, whatever is sent for its parameters. -/
def RoutedAt (services : List (GeneratedService parseType)) (position : ℕ)
    (s : GeneratedService parseType) (f : TraitItemFn) : Prop :=
  ∃ e, describe parseType f = .ok e ∧ ∃ c ∈ s.description.clientStruct, c.ident = f.sig.ident ∧
    ∀ body, (c.operation body).kind = (e.resource (s.callback position)).streamKind ∧
      route (registerServices services) (c.operation body).request =
        .ok (e.resource (s.callback position))

/-- The client's function for `f` is answered by `f`: the closure calls it as it is meant. -/
def AnsweredAt (services : List (GeneratedService parseType)) (position : ℕ)
    (s : GeneratedService parseType) (f : TraitItemFn) : Prop :=
  RoutedAt services position s f ∧
    ∃ e, describe parseType f = .ok e ∧ e.CalledAsMeant toUppercase s.traitDef.ident

/-- The blocks of the services, in order. -/
def serviceBlocks (services : List (GeneratedService parseType)) : List Block :=
  services.zipIdx.map fun s ↦ s.1.block s.2

theorem registerServices_eq (services : List (GeneratedService parseType)) :
    registerServices services = builtServices (serviceBlocks services) := by
  simp only [registerServices, builtServices, serviceBlocks, List.foldl_map,
    ServiceDescription.registerService_eq]
  rfl

theorem getElem?_serviceBlocks (services : List (GeneratedService parseType)) (i : ℕ) :
    (serviceBlocks services)[i]? = services[i]?.map fun s ↦ s.block i := by
  rw [serviceBlocks, List.getElem?_map, List.getElem?_zipIdx, Option.map_map, Nat.zero_add]
  rfl

/-! ## The last block of a name, by its position -/

/-- No block after this position has the name. -/
def NoneLater (blocks : List Block) (i : ℕ) (name : String) : Prop :=
  ∀ j b, i < j → blocks[j]? = some b → b.name ≠ name

theorem noneLater_concat {blocks : List Block} {i : ℕ} {name : String} (block : Block)
    (hi : i < blocks.length) :
    NoneLater (blocks ++ [block]) i name ↔ block.name ≠ name ∧ NoneLater blocks i name := by
  refine ⟨fun h ↦ ?_, ?_⟩
  · refine ⟨h blocks.length block hi List.getElem?_concat_length, fun j b hij hb ↦ ?_⟩
    have hj : j < blocks.length := (List.getElem?_eq_some_iff.mp hb).1
    exact h j b hij (by rw [List.getElem?_append_left hj, hb])
  · rintro ⟨hname, h⟩ j b hij hb
    by_cases hj : j < blocks.length
    · exact h j b hij (by rwa [List.getElem?_append_left hj] at hb)
    · rw [List.getElem?_append_right (Nat.le_of_not_lt hj), List.getElem?_singleton] at hb
      split at hb
      · exact Option.some.inj hb ▸ hname
      · cases hb

/-- **The last block of a name.** -/
theorem lastBlock_eq_some {blocks : List Block} {name : String} {block : Block} :
    lastBlock blocks name = some block ↔
      ∃ i : ℕ, blocks[i]? = some block ∧ block.name = name ∧ NoneLater blocks i name := by
  induction blocks using List.reverseRecOn with
  | nil => simp [lastBlock]
  | append_singleton blocks b ih =>
    rw [lastBlock_concat]
    constructor
    · intro h
      split at h
      · rename_i hname
        cases h
        refine ⟨blocks.length, List.getElem?_concat_length, hname, fun j b' hj hb' ↦ ?_⟩
        have hlt := (List.getElem?_eq_some_iff.mp hb').1
        rw [List.length_append, List.length_singleton] at hlt
        omega
      · rename_i hname
        obtain ⟨i, hi, hblock, hlater⟩ := ih.mp h
        have hlt : i < blocks.length := (List.getElem?_eq_some_iff.mp hi).1
        refine ⟨i, ?_, hblock, (noneLater_concat b hlt).mpr ⟨hname, hlater⟩⟩
        rw [List.getElem?_append_left hlt, hi]
    · rintro ⟨i, hi, hblock, hlater⟩
      by_cases hlt : i < blocks.length
      · obtain ⟨hname, hlater⟩ := (noneLater_concat b hlt).mp hlater
        rw [List.getElem?_append_left hlt] at hi
        rw [if_neg hname]
        exact ih.mpr ⟨i, hi, hblock, hlater⟩
      · rw [List.getElem?_append_right (Nat.le_of_not_lt hlt), List.getElem?_singleton] at hi
        split at hi
        · cases hi
          rw [if_pos hblock]
        · cases hi

/-- A request is answered by what the last block of its service has. -/
theorem route_builtServices_eq_ok {blocks : List Block} {request : Request} {r : ResourceCallback} :
    route (builtServices blocks) request = .ok r ↔
      ∃ b, lastBlock blocks request.service = some b ∧ b.last request.resource = some r := by
  rw [route_builtServices]
  rcases lastBlock blocks request.service with _ | b
  · simp
  · rcases hr : b.last request.resource with _ | r' <;> simp [hr]

/-! ## One service of several -/

/-- The service at this position is the last one of its name. -/
def LastOfName (services : List (GeneratedService parseType)) (i : ℕ)
    (s : GeneratedService parseType) : Prop :=
  ∀ (j : ℕ) (s' : GeneratedService parseType), i < j → services[j]? = some s' →
    s'.attr.name ≠ s.attr.name

namespace GeneratedService

variable {services : List (GeneratedService parseType)} {s : GeneratedService parseType} {i : ℕ}

theorem serviceName_eq (s : GeneratedService parseType) :
    s.description.serviceName = s.attr.name :=
  (ServiceDescription.fromItem_ok s.accepted).1

theorem noneLater_iff :
    NoneLater (serviceBlocks services) i s.attr.name ↔ LastOfName services i s := by
  refine ⟨fun h j s' hij hs' ↦ ?_, fun h j b hij hb ↦ ?_⟩
  · have hblock := h j (s'.block j) hij (by rw [getElem?_serviceBlocks, hs', Option.map_some])
    rwa [block, s'.serviceName_eq] at hblock
  · rw [getElem?_serviceBlocks, Option.map_eq_some_iff] at hb
    obtain ⟨s', hs', rfl⟩ := hb
    rw [block, s'.serviceName_eq]
    exact h j s' hij hs'

/-- The closures of a service have its position. -/
theorem unpair_callback (s : GeneratedService parseType) (position : ℕ) (e : Description) :
    Nat.unpair (e.resource (s.callback position)).callback =
      (position, s.traitDef.callback e.ident) := by
  rw [callback_resource, callback, Nat.unpair_pair]

/-- What a block answers with is one of its own resources. -/
theorem mem_of_last_block {position : ℕ} {name : String} {r : ResourceCallback}
    (h : (s.block position).last name = some r) :
    ∃ e ∈ s.description.descriptions, e.rpcName = name ∧ e.resource (s.callback position) = r := by
  have hmem := LastWins.mem_of_lastOf h
  rw [Block.updates, block, List.map_map] at hmem
  obtain ⟨e, he, heq⟩ := List.mem_map.mp hmem
  cases heq
  exact ⟨e, he, rfl, rfl⟩

/-- A request is answered by this service if it is the last one of its name and has this resource
under the name. -/
theorem route_iff (hs : services[i]? = some s) {request : Request} {e : Description}
    (hservice : request.service = s.attr.name) :
    route (registerServices services) request = .ok (e.resource (s.callback i)) ↔
      LastOfName services i s ∧
        (s.block i).last request.resource = some (e.resource (s.callback i)) := by
  have hblock : (serviceBlocks services)[i]? = some (s.block i) := by
    rw [getElem?_serviceBlocks, hs, Option.map_some]
  rw [registerServices_eq, route_builtServices_eq_ok, hservice]
  refine ⟨?_, ?_⟩
  · rintro ⟨b, hlast, hr⟩
    obtain ⟨j, hj, -, hlater⟩ := lastBlock_eq_some.mp hlast
    rw [getElem?_serviceBlocks, Option.map_eq_some_iff] at hj
    obtain ⟨s', hs', rfl⟩ := hj
    -- the closure tells at which position its service was registered
    obtain ⟨e', -, -, he'⟩ := mem_of_last_block hr
    have hposition := congrArg (fun c : ResourceCallback ↦ Nat.unpair c.callback) he'
    simp only [unpair_callback, Prod.mk.injEq] at hposition
    obtain rfl := hposition.1
    obtain rfl := Option.some.inj (hs'.symm.trans hs)
    exact ⟨noneLater_iff.mp hlater, hr⟩
  · rintro ⟨hlater, hr⟩
    have hlast := lastBlock_eq_some.mpr ⟨i, hblock, s.serviceName_eq, noneLater_iff.mpr hlater⟩
    exact ⟨s.block i, hlast, hr⟩

/-- Two entries with the same closure are the same. -/
theorem eq_of_callback {position : ℕ} {e e' : Description} (he : e ∈ s.description.descriptions)
    (he' : e' ∈ s.description.descriptions)
    (h : e.resource (s.callback position) = e'.resource (s.callback position)) : e = e' := by
  have hunpair := congrArg (fun c : ResourceCallback ↦ (Nat.unpair c.callback).2) h
  simp only [unpair_callback] at hunpair
  have hmem := (ServiceDescription.perm_names s.accepted).1.mem_iff.mp
    (List.mem_map_of_mem (f := Description.ident) he)
  exact ServiceDescription.eq_of_ident s.accepted he he' ((List.idxOf_inj hmem).mp hunpair)

/-- **Within one service** every entry has its name if and only if the names differ. -/
theorem last_block_iff (s : GeneratedService parseType) (position : ℕ) :
    (∀ e ∈ s.description.descriptions,
      (s.block position).last e.rpcName = some (e.resource (s.callback position))) ↔
      (s.traitDef.functions.map fun f ↦ rpcNameOf parseType f.attrs).Nodup := by
  have hperm := ServiceDescription.perm_names s.accepted
  refine ⟨fun h ↦ ?_, fun hnodup e he ↦ ?_⟩
  · have hidents := hperm.1.nodup_iff.mpr s.traitDef.nodup
    refine hperm.2.nodup_iff.mp (List.Nodup.map_on ?_ (.of_map _ hidents))
    intro e he e' he' hname
    have hlast := h e he
    rw [Option.some_inj.mp hname, h e' he', Option.some_inj] at hlast
    exact eq_of_callback he he' hlast.symm
  · have hrpc := hperm.2.nodup_iff.mpr hnodup
    refine LastWins.lastOf_of_mem ?_ ?_
    · rw [Block.updates, block, List.map_map, List.map_map]
      exact List.Nodup.of_map some (by rwa [List.map_map])
    · rw [Block.updates, block, List.map_map]
      exact List.mem_map_of_mem he

/-- A service has at least one function. -/
theorem functions_ne_nil (s : GeneratedService parseType) : s.traitDef.functions ≠ [] := by
  intro hnil
  have hnone : s.description.descriptions = [] := by
    have hperm := (ServiceDescription.perm_names s.accepted).1
    rw [hnil, List.map_nil, List.perm_nil, List.map_eq_nil_iff] at hperm
    exact hperm
  obtain ⟨hms, hss, hns, hrs⟩ : s.description.methods = [] ∧ s.description.subscriptions = [] ∧
      s.description.notifications = [] ∧ s.description.streams = [] := by
    simpa [ServiceDescription.descriptions, and_assoc] using hnone
  obtain ⟨_, -, h⟩ := Except.bind_eq_ok.mp s.accepted
  obtain ⟨d, -, h⟩ := Except.bind_eq_ok.mp h
  split at h
  · cases h
  · rename_i hsome
    cases h
    simp [hms, hss, hns, hrs] at hsome

end GeneratedService

/-- The client's function is known by its name. -/
theorem routedAt_iff {services : List (GeneratedService parseType)}
    {s : GeneratedService parseType} {i : ℕ} {f : TraitItemFn} {e : Description}
    (hs : services[i]? = some s) (he : e ∈ s.description.descriptions)
    (hdescribe : describe parseType f = .ok e) :
    RoutedAt services i s f ↔ LastOfName services i s ∧
      (s.block i).last e.rpcName = some (e.resource (s.callback i)) := by
  have hroute (body : Option Bytes) :
      route (registerServices services)
        ((e.client s.description.serviceName).operation body).request =
          .ok (e.resource (s.callback i)) ↔
        LastOfName services i s ∧
          (s.block i).last e.rpcName = some (e.resource (s.callback i)) := by
    obtain ⟨hservice, hresource⟩ := e.request_client s.description.serviceName body
    rw [s.route_iff hs (hservice.trans s.serviceName_eq), hresource]
  constructor
  · rintro ⟨e', hdescribe', c, hc, hident, hanswer⟩
    obtain rfl := Except.ok.inj (hdescribe'.symm.trans hdescribe)
    rw [ServiceDescription.clientStruct_eq] at hc
    obtain ⟨e, hmem, rfl⟩ := List.mem_map.mp hc
    have hsame : e = e' := by
      refine ServiceDescription.eq_of_ident s.accepted hmem he ?_
      rw [← e.client_ident s.description.serviceName, hident, (describe_ok hdescribe).1]
    subst hsame
    exact (hroute none).mp (hanswer none).2
  · intro h
    refine ⟨e, hdescribe, e.client s.description.serviceName, ?_, ?_, fun body ↦ ⟨?_, ?_⟩⟩
    · rw [ServiceDescription.clientStruct_eq]
      exact List.mem_map_of_mem he
    · exact (e.client_ident _).trans (describe_ok hdescribe).1
    · exact kind_client _ _ e body
    · exact (hroute body).mpr h

/-- Its functions are routed to its closures if and only if no service of its name is registered
after it and its own names differ. -/
theorem service_routed_iff {services : List (GeneratedService parseType)}
    {s : GeneratedService parseType} {i : ℕ} (hs : services[i]? = some s) :
    (∀ f ∈ s.traitDef.functions, RoutedAt services i s f) ↔ LastOfName services i s ∧
      (s.traitDef.functions.map fun f ↦ rpcNameOf parseType f.attrs).Nodup := by
  rw [← s.last_block_iff i]
  refine ⟨fun h ↦ ⟨?_, fun e he ↦ ?_⟩, ?_⟩
  · obtain ⟨f, hf⟩ := List.exists_mem_of_ne_nil _ s.functions_ne_nil
    obtain ⟨e, he, hdescribe⟩ := ServiceDescription.exists_description s.accepted hf
    exact ((routedAt_iff hs he hdescribe).mp (h f hf)).1
  · obtain ⟨f, hf, hdescribe⟩ := ServiceDescription.exists_function s.accepted he
    exact ((routedAt_iff hs he hdescribe).mp (h f hf)).2
  · rintro ⟨hlater, hlast⟩ f hf
    obtain ⟨e, he, hdescribe⟩ := ServiceDescription.exists_description s.accepted hf
    exact (routedAt_iff hs he hdescribe).mpr ⟨hlater, hlast e he⟩

/-- **One service of several.**  Its functions are answered if and only if no service of its name
is registered after it, its own names differ, and its functions are hygienic. -/
theorem service_answered_iff {services : List (GeneratedService parseType)}
    {s : GeneratedService parseType} {i : ℕ} (hs : services[i]? = some s) :
    (∀ f ∈ s.traitDef.functions, AnsweredAt toUppercase services i s f) ↔
      LastOfName services i s ∧
        (s.traitDef.functions.map fun f ↦ rpcNameOf parseType f.attrs).Nodup ∧
          ∀ e ∈ s.description.descriptions, e.Hygienic := by
  rw [← and_assoc, ← service_routed_iff hs,
    ← ServiceDescription.forall_calledAsMeant_iff toUppercase s.accepted]
  exact forall₂_and

/-! ## All services -/

/-- No service is replaced if and only if their names differ. -/
theorem lastOfName_iff_nodup (services : List (GeneratedService parseType)) :
    (∀ (i : ℕ) (s : GeneratedService parseType), services[i]? = some s →
      LastOfName services i s) ↔ (services.map fun s ↦ s.attr.name).Nodup := by
  rw [List.nodup_iff_getElem?_ne_getElem?]
  refine ⟨fun h i j hij hj ↦ ?_, fun h i s hs j s' hij hs' ↦ ?_⟩
  · rw [List.length_map] at hj
    have hi := hij.trans hj
    have hname := h i services[i] (List.getElem?_eq_getElem hi) j services[j] hij
      (List.getElem?_eq_getElem hj)
    simpa [List.getElem?_map, List.getElem?_eq_getElem hi, List.getElem?_eq_getElem hj]
      using Ne.symm hname
  · have hj := (List.getElem?_eq_some_iff.mp hs').1
    have hname := h i j hij (by rwa [List.length_map])
    rw [List.getElem?_map, List.getElem?_map, hs, hs'] at hname
    exact fun heq ↦ hname (congrArg some heq.symm)

/-- The watched store, as a service of this name. -/
def watchedService (name : String) : GeneratedService parseIdent := ⟨⟨name⟩, watchedStore, _, rfl⟩

example (a b : String) :
    (∀ f ∈ watchedStore.functions,
      RoutedAt [watchedService a, watchedService b] 0 (watchedService a) f) ↔ b ≠ a := by
  have hnames : (watchedStore.functions.map fun f ↦ rpcNameOf parseIdent f.attrs).Nodup := by
    decide
  refine (service_routed_iff (s := watchedService a) rfl).trans ?_
  refine (and_iff_left hnames).trans ?_
  constructor
  · intro h
    exact h 1 (watchedService b) Nat.one_pos rfl
  · intro hname j s' hj hs'
    obtain rfl : j = 1 := by
      have hlt := (List.getElem?_eq_some_iff.mp hs').1
      rw [List.length_cons, List.length_singleton] at hlt
      omega
    exact Option.some.inj hs' ▸ hname

end Zel
