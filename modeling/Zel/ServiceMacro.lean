import Mathlib.Data.List.Perm.Basic
import Zel.Connection
import Zel.Lib.Except
import Zel.MacroAttributes
import Zel.ReturnType
import Zel.ServiceBuilder

/-!
# The service macro

`ServiceDescription::from_item` (`service.rs`) sorts the functions of a trait into four lists, each
with the name that its attribute gives it.  From the same four lists come the generated server,
whose `register_service` registers a resource for each function (`render/server.rs`), and the
generated client, which has a function for each (`render/client.rs`).  The two find each other by
the names; nothing checks that the names are different.

## What is here

* `ServiceDescription.fromItem` — what the macro makes of a trait.
* `registerService`, `clientStruct` — the generated server and the generated client.
* `fromItem_ok` — the four lists have every function of the trait once.
* `Routed`, `routed_of_nodup`, `nodup_of_routed` — a client function finds the resource of its own
  function: all do exactly if the names differ.
-/

set_option autoImplicit false

namespace Zel

/-! ## Parameters -/

/-- `ParamInfo` -/
structure ParamInfo where
  ident : String
  ty : SynType

/-- `extract_params`, on the inputs of the signature. -/
def extractParams : List FnArg → Except SynError (List ParamInfo)
  | [] => .ok []
  | .receiver :: inputs => extractParams inputs
  | .typed (.ident name) ty :: inputs => (extractParams inputs).map (⟨name, ty⟩ :: ·)
  | .typed (.other _) _ :: _ => .error (.message "Complex patterns not supported in parameters")

/-- What the four `from_trait_fn` have in common: the function is async and its parameters have
names, and some of the attributes are removed. -/
def checkFn (notAsync : String) (removed : List String) (method : TraitItemFn) :
    Except SynError (TraitItemFn × List ParamInfo) :=
  if method.sig.asyncness then
    (extractParams method.sig.inputs).map fun params ↦
      ({ method with attrs := method.attrs.filter fun a ↦ !removed.any a.path.isIdent }, params)
  else .error (.message notAsync)

/-! ## Descriptions -/

/-- `MethodDescription` -/
structure MethodDescription where
  rpcName : String
  signature : TraitItemFn
  params : List ParamInfo
  returnType : Option SynType

/-- `SubscriptionDescription` -/
structure SubscriptionDescription where
  rpcName : String
  signature : TraitItemFn
  params : List ParamInfo
  itemType : Option SynType

/-- `NotificationDescription` -/
structure NotificationDescription where
  rpcName : String
  signature : TraitItemFn
  params : List ParamInfo
  itemType : Option SynType

/-- `StreamDescription` -/
structure StreamDescription where
  rpcName : String
  signature : TraitItemFn
  params : List ParamInfo

/-- `MethodDescription::from_trait_fn` -/
def MethodDescription.fromTraitFn (attr : MethodAttr) (method : TraitItemFn) :
    Except SynError MethodDescription :=
  (checkFn "RPC methods must be async" ["method", "subscription"] method).map
    fun (signature, params) ↦ ⟨attr.name, signature, params, extractReturnType method.sig⟩

/-- `SubscriptionDescription::from_trait_fn` -/
def SubscriptionDescription.fromTraitFn (attr : SubscriptionAttr) (method : TraitItemFn) :
    Except SynError SubscriptionDescription :=
  (checkFn "Subscription methods must be async" ["method", "subscription"] method).map
    fun (signature, params) ↦ ⟨attr.name, signature, params, attr.item⟩

/-- `NotificationDescription::from_trait_fn` -/
def NotificationDescription.fromTraitFn (attr : NotificationAttr) (method : TraitItemFn) :
    Except SynError NotificationDescription :=
  (checkFn "Notification methods must be async" ["method", "subscription", "notification"]
    method).map fun (signature, params) ↦ ⟨attr.name, signature, params, attr.item⟩

/-- `StreamDescription::from_trait_fn` -/
def StreamDescription.fromTraitFn (attr : StreamAttr) (method : TraitItemFn) :
    Except SynError StreamDescription :=
  (checkFn "Stream methods must be async" ["method", "subscription", "notification", "stream"]
    method).map fun (signature, params) ↦ ⟨attr.name, signature, params⟩

/-- `ServiceDescription` -/
structure ServiceDescription where
  serviceName : String
  traitIdent : String
  methods : List MethodDescription
  subscriptions : List SubscriptionDescription
  notifications : List NotificationDescription
  streams : List StreamDescription

/-- An entry of one of the four lists. -/
inductive Description where
  | method (m : MethodDescription)
  | subscription (s : SubscriptionDescription)
  | notification (n : NotificationDescription)
  | stream (s : StreamDescription)

variable (parseType : String → Except SynError SynType)

/-- The body of the loop over the functions: the first attribute that is found, in this order,
decides. -/
def describe (method : TraitItemFn) : Except SynError Description := do
  match ← parseMethodAttr method.attrs with
  | some attr => return .method (← MethodDescription.fromTraitFn attr method)
  | none =>
    match ← parseSubscriptionAttr parseType method.attrs with
    | some attr => return .subscription (← SubscriptionDescription.fromTraitFn attr method)
    | none =>
      match ← parseNotificationAttr parseType method.attrs with
      | some attr => return .notification (← NotificationDescription.fromTraitFn attr method)
      | none =>
        match ← parseStreamAttr method.attrs with
        | some attr => return .stream (← StreamDescription.fromTraitFn attr method)
        | none => .error (.message ("Method must have #[method], #[subscription], " ++
            "#[notification], or #[stream] attribute"))

namespace ServiceDescription

/-- The entry goes to the end of its list. -/
def push (d : ServiceDescription) : Description → ServiceDescription
  | .method m => { d with methods := d.methods ++ [m] }
  | .subscription s => { d with subscriptions := d.subscriptions ++ [s] }
  | .notification n => { d with notifications := d.notifications ++ [n] }
  | .stream s => { d with streams := d.streams ++ [s] }

/-- The first loop of `from_item`. -/
def validate : List TraitItem → Except SynError Unit
  | [] => .ok ()
  | .const _ :: _ => .error (.message "Associated constants not supported in service traits")
  | .type _ :: _ => .error (.message "Associated types not supported in service traits")
  | _ :: items => validate items

/-- The second loop of `from_item`. -/
def collect (d : ServiceDescription) : List TraitItem → Except SynError ServiceDescription
  | [] => .ok d
  | .fn method :: items => (describe parseType method).bind fun e ↦ (d.push e).collect items
  | _ :: _ => .error (.message "Only methods allowed in service trait")

/-- `ServiceDescription::from_item` -/
def fromItem (attr : ServiceAttr) (traitDef : ItemTrait) : Except SynError ServiceDescription := do
  validate traitDef.items
  let d ← collect parseType ⟨attr.name, traitDef.ident, [], [], [], []⟩ traitDef.items
  if d.methods.isEmpty && d.subscriptions.isEmpty && d.notifications.isEmpty && d.streams.isEmpty
  then .error (.message ("Service trait must have at least one method, subscription, " ++
    "notification, or stream"))
  else .ok d

/-! ## The generated server -/

/-- `register_service`, as `render_register_service_body` writes it.  The closure of a resource
calls the function of the implementation by its name, and `callback` tells these closures apart. -/
def registerService (d : ServiceDescription) (callback : String → CallbackId)
    (builder : RpcServerBuilder) : RpcServerBuilder :=
  let serviceBuilder := builder.service d.serviceName
  let serviceBuilder := d.methods.foldl
    (fun b m ↦ b.rpcResource m.rpcName (callback m.signature.sig.ident)) serviceBuilder
  let serviceBuilder := d.subscriptions.foldl
    (fun b s ↦ b.subscriptionResource s.rpcName (callback s.signature.sig.ident)) serviceBuilder
  let serviceBuilder := d.notifications.foldl
    (fun b n ↦ b.notificationResource n.rpcName (callback n.signature.sig.ident)) serviceBuilder
  let serviceBuilder := d.streams.foldl
    (fun b s ↦ b.streamResource s.rpcName (callback s.signature.sig.ident)) serviceBuilder
  serviceBuilder.build

end ServiceDescription

/-! ## The generated client -/

/-- A function of the generated client: what it asks of the `RpcClient`, given its parameters as
they are encoded. -/
structure ClientFunction where
  ident : String
  operation : Option Bytes → Operation

/-- `render_client_method` -/
def renderClientMethod (serviceName : String) (m : MethodDescription) : ClientFunction :=
  ⟨m.signature.sig.ident, fun body ↦ .call serviceName m.rpcName (body.getD [])⟩

/-- `render_client_subscription` -/
def renderClientSubscription (serviceName : String) (s : SubscriptionDescription) :
    ClientFunction :=
  ⟨s.signature.sig.ident, fun body ↦ .subscribe serviceName s.rpcName body⟩

/-- `render_client_notification` -/
def renderClientNotification (serviceName : String) (n : NotificationDescription) :
    ClientFunction :=
  ⟨n.signature.sig.ident, fun body ↦ .notify serviceName n.rpcName body⟩

/-- `render_client_stream` -/
def renderClientStream (serviceName : String) (s : StreamDescription) : ClientFunction :=
  ⟨s.signature.sig.ident, fun body ↦ .openStream serviceName s.rpcName body⟩

/-- The functions of the client (`render_client_struct`). -/
def ServiceDescription.clientStruct (d : ServiceDescription) : List ClientFunction :=
  d.methods.map (renderClientMethod d.serviceName) ++
    d.subscriptions.map (renderClientSubscription d.serviceName) ++
    d.notifications.map (renderClientNotification d.serviceName) ++
    d.streams.map (renderClientStream d.serviceName)

/-! ## The four lists -/

namespace Description

/-- The description that `from_trait_fn` was given the function for. -/
def signature : Description → TraitItemFn
  | .method m => m.signature
  | .subscription s => s.signature
  | .notification n => n.signature
  | .stream s => s.signature

/-- The name of the function. -/
def ident (e : Description) : String := e.signature.sig.ident

def rpcName : Description → String
  | .method m => m.rpcName
  | .subscription s => s.rpcName
  | .notification n => n.rpcName
  | .stream s => s.rpcName

/-- The resource of the function: of its kind, with a closure that calls it. -/
def resource (callback : String → CallbackId) (e : Description) : ResourceCallback :=
  match e with
  | .method _ => .rpc (callback e.ident)
  | .subscription _ => .subscriptionProducer (callback e.ident)
  | .notification _ => .notificationConsumer (callback e.ident)
  | .stream _ => .streamHandler (callback e.ident)

/-- The client's function. -/
def client (serviceName : String) : Description → ClientFunction
  | .method m => renderClientMethod serviceName m
  | .subscription s => renderClientSubscription serviceName s
  | .notification n => renderClientNotification serviceName n
  | .stream s => renderClientStream serviceName s

theorem client_ident (serviceName : String) (e : Description) :
    (e.client serviceName).ident = e.ident := by
  cases e <;> rfl

/-- The client asks for the service and for the name of the function. -/
theorem request_client (serviceName : String) (e : Description) (body : Option Bytes) :
    (((e.client serviceName).operation body).request).service = serviceName ∧
      (((e.client serviceName).operation body).request).resource = e.rpcName := by
  cases e with
  | subscription s => cases body <;> exact ⟨rfl, rfl⟩
  | _ => exact ⟨rfl, rfl⟩

/-- What the server registers for the function. -/
def registration (callback : String → CallbackId) (e : Description) : Registration :=
  ⟨e.rpcName, e.resource callback⟩

end Description

namespace ServiceDescription

/-- The entries of the four lists, in the order in which they are registered. -/
def descriptions (d : ServiceDescription) : List Description :=
  d.methods.map .method ++ d.subscriptions.map .subscription ++
    d.notifications.map .notification ++ d.streams.map .stream

theorem clientStruct_eq (d : ServiceDescription) :
    d.clientStruct = d.descriptions.map (Description.client d.serviceName) := by
  simp only [clientStruct, descriptions, List.map_append, List.map_map]
  rfl

/-- **`register_service` is one block** of registrations, one for each entry. -/
theorem registerService_eq (d : ServiceDescription) (callback : String → CallbackId)
    (builder : RpcServerBuilder) :
    d.registerService callback builder = Block.apply builder
      ⟨d.serviceName, d.descriptions.map (Description.registration callback)⟩ := by
  simp only [registerService, Block.apply, descriptions, List.map_append, List.map_map,
    List.foldl_append, List.foldl_map]
  rfl

/-- An entry in the middle, moved to the end. -/
theorem perm_concat {α : Type} (front back : List α) (a : α) :
    (front ++ [a] ++ back).Perm (front ++ back ++ [a]) := by
  rw [List.append_assoc, List.append_assoc]
  exact .append_left front List.perm_append_comm

theorem descriptions_push (d : ServiceDescription) (e : Description) :
    (d.push e).descriptions.Perm (d.descriptions ++ [e]) := by
  obtain ⟨serviceName, traitIdent, ms, ss, ns, rs⟩ := d
  cases e with
  | method m =>
    have h := perm_concat (ms.map Description.method)
      (ss.map .subscription ++ ns.map .notification ++ rs.map .stream) (.method m)
    simpa [push, descriptions] using h
  | subscription s =>
    have h := perm_concat (ms.map Description.method ++ ss.map .subscription)
      (ns.map .notification ++ rs.map .stream) (.subscription s)
    simpa [push, descriptions] using h
  | notification n =>
    have h := perm_concat
      (ms.map Description.method ++ ss.map .subscription ++ ns.map .notification)
      (rs.map .stream) (.notification n)
    simpa [push, descriptions] using h
  | stream s =>
    simp [push, descriptions]

/-- All entries that the loop adds. -/
theorem descriptions_foldl_push (d : ServiceDescription) (es : List Description) :
    (es.foldl push d).descriptions.Perm (d.descriptions ++ es) := by
  induction es generalizing d with
  | nil => simp
  | cons e es ih =>
    have hpush := (descriptions_push d e).append_right es
    rw [List.append_assoc] at hpush
    exact (ih (d.push e)).trans hpush

theorem serviceName_foldl_push (d : ServiceDescription) (es : List Description) :
    (es.foldl push d).serviceName = d.serviceName := by
  induction es generalizing d with
  | nil => rfl
  | cons e es ih =>
    rw [List.foldl_cons, ih]
    cases e <;> rfl

variable {parseType : String → Except SynError SynType}

/-- The loop describes every function, in order. -/
theorem collect_ok {d d' : ServiceDescription} {items : List TraitItem}
    (h : collect parseType d items = .ok d') :
    ∃ es, List.Forall₂ (fun f e ↦ describe parseType f = .ok e)
      (items.filterMap TraitItem.fn?) es ∧ d' = es.foldl push d := by
  induction items generalizing d with
  | nil =>
    cases h
    exact ⟨[], .nil, rfl⟩
  | cons item items ih =>
    rcases item with _ | f | _ | _
    · cases h
    · obtain ⟨e, he, hcollect⟩ := Except.bind_eq_ok.mp h
      obtain ⟨es, hes, hd⟩ := ih hcollect
      exact ⟨e :: es, .cons he hes, hd⟩
    · cases h
    · cases h

/-- **The four lists have every function of the trait once.** -/
theorem fromItem_ok {attr : ServiceAttr} {traitDef : ItemTrait} {d : ServiceDescription}
    (h : fromItem parseType attr traitDef = .ok d) :
    d.serviceName = attr.name ∧ ∃ es, d.descriptions.Perm es ∧
      List.Forall₂ (fun f e ↦ describe parseType f = .ok e) traitDef.functions es := by
  obtain ⟨_, -, h⟩ := Except.bind_eq_ok.mp h
  obtain ⟨d', hcollect, h⟩ := Except.bind_eq_ok.mp h
  obtain ⟨es, hes, hd'⟩ := collect_ok hcollect
  split at h
  · cases h
  · cases h
    subst hd'
    exact ⟨serviceName_foldl_push _ es, es, descriptions_foldl_push _ es, hes⟩

end ServiceDescription

/-! ## What a function is called -/

variable (parseType : String → Except SynError SynType) in
/-- The name in the endpoint attribute of a function. -/
def rpcNameOf (attrs : List Attribute) : Option String :=
  match parseMethodAttr attrs, parseSubscriptionAttr parseType attrs,
    parseNotificationAttr parseType attrs, parseStreamAttr attrs with
  | .ok (some attr), _, _, _ => some attr.name
  | .ok none, .ok (some attr), _, _ => some attr.name
  | .ok none, .ok none, .ok (some attr), _ => some attr.name
  | .ok none, .ok none, .ok none, .ok (some attr) => some attr.name
  | _, _, _, _ => none

theorem checkFn_ok {notAsync : String} {removed : List String} {method : TraitItemFn}
    {r : TraitItemFn × List ParamInfo} (h : checkFn notAsync removed method = .ok r) :
    r.1.sig = method.sig := by
  rw [checkFn] at h
  split at h
  · obtain ⟨params, -, rfl⟩ := Except.map_eq_ok.mp h
    rfl
  · cases h

/-- A description has the name of its function, and the one in the attribute. -/
theorem describe_ok {parseType : String → Except SynError SynType} {f : TraitItemFn}
    {e : Description} (h : describe parseType f = .ok e) :
    e.ident = f.sig.ident ∧ rpcNameOf parseType f.attrs = some e.rpcName := by
  obtain ⟨attr, hmethod, h⟩ := Except.bind_eq_ok.mp h
  rcases attr with _ | attr
  · obtain ⟨attr, hsubscription, h⟩ := Except.bind_eq_ok.mp h
    rcases attr with _ | attr
    · obtain ⟨attr, hnotification, h⟩ := Except.bind_eq_ok.mp h
      rcases attr with _ | attr
      · obtain ⟨attr, hstream, h⟩ := Except.bind_eq_ok.mp h
        rcases attr with _ | attr
        · cases h
        · obtain ⟨s, hs, h⟩ := Except.bind_eq_ok.mp h
          cases h
          obtain ⟨r, hr, rfl⟩ := Except.map_eq_ok.mp hs
          refine ⟨congrArg Signature.ident (checkFn_ok hr), ?_⟩
          simp only [rpcNameOf, hmethod, hsubscription, hnotification, hstream]
          rfl
      · obtain ⟨n, hn, h⟩ := Except.bind_eq_ok.mp h
        cases h
        obtain ⟨r, hr, rfl⟩ := Except.map_eq_ok.mp hn
        refine ⟨congrArg Signature.ident (checkFn_ok hr), ?_⟩
        simp only [rpcNameOf, hmethod, hsubscription, hnotification]
        rfl
    · obtain ⟨s, hs, h⟩ := Except.bind_eq_ok.mp h
      cases h
      obtain ⟨r, hr, rfl⟩ := Except.map_eq_ok.mp hs
      refine ⟨congrArg Signature.ident (checkFn_ok hr), ?_⟩
      simp only [rpcNameOf, hmethod, hsubscription]
      rfl
  · obtain ⟨m, hm, h⟩ := Except.bind_eq_ok.mp h
    cases h
    obtain ⟨r, hr, rfl⟩ := Except.map_eq_ok.mp hm
    refine ⟨congrArg Signature.ident (checkFn_ok hr), ?_⟩
    simp only [rpcNameOf, hmethod]
    rfl

/-! ## Who reaches whom -/

/-- The functions of the implementation are told apart by their position in the trait. -/
def ItemTrait.callback (traitDef : ItemTrait) (ident : String) : CallbackId :=
  (traitDef.functions.map fun f ↦ f.sig.ident).idxOf ident

variable (parseType : String → Except SynError SynType) in
/-- The function of the client that has the name of `f` asks for what the server has for `f`, of
the kind of `f`, whatever is sent for its parameters. -/
def Routed (traitDef : ItemTrait) (d : ServiceDescription) (f : TraitItemFn) : Prop :=
  ∃ e, describe parseType f = .ok e ∧ ∃ c ∈ d.clientStruct, c.ident = f.sig.ident ∧ ∀ body,
    (c.operation body).kind = (e.resource traitDef.callback).streamKind ∧
      route (d.registerService traitDef.callback .new).build (c.operation body).request =
        .ok (e.resource traitDef.callback)

/-- The registrations as updates of the map of the service. -/
def ServiceDescription.updates (d : ServiceDescription) (callback : String → CallbackId) :
    List (Sigma fun _ : String ↦ ResourceCallback) :=
  d.descriptions.map fun e ↦ ⟨e.rpcName, e.resource callback⟩

/-- The service answers with what was registered last under the name. -/
theorem route_registerService {d : ServiceDescription} {callback : String → CallbackId}
    {request : Request} {r : ResourceCallback} (hs : request.service = d.serviceName) :
    route (d.registerService callback .new).build request = .ok r ↔
      LastWins.lastOf request.resource (d.updates callback) = some r := by
  have hlast : LastWins.lastOf request.resource (d.updates callback) =
      Block.last ⟨d.serviceName, d.descriptions.map (Description.registration callback)⟩
        request.resource := by
    rw [Block.last, Block.updates, List.map_map]
    rfl
  rw [d.registerService_eq, RpcServerBuilder.build, Block.services_apply, route, hs,
    Function.update_self, hlast]
  dsimp only
  cases Block.last ⟨d.serviceName, d.descriptions.map (Description.registration callback)⟩
    request.resource <;> simp

/-- The closure of a resource. -/
def ResourceCallback.callback : ResourceCallback → CallbackId
  | .rpc callback | .subscriptionProducer callback | .notificationConsumer callback
  | .streamHandler callback => callback

theorem callback_resource (callback : String → CallbackId) (e : Description) :
    (e.resource callback).callback = callback e.ident := by
  cases e <;> rfl

theorem kind_client (serviceName : String) (callback : String → CallbackId) (e : Description)
    (body : Option Bytes) :
    ((e.client serviceName).operation body).kind = (e.resource callback).streamKind := by
  cases e <;> rfl

namespace ServiceDescription

variable {parseType : String → Except SynError SynType} {attr : ServiceAttr}
  {traitDef : ItemTrait} {d : ServiceDescription}

/-- What an entry and its function have in common. -/
theorem map_functions_eq {fs : List TraitItemFn} {es : List Description} {γ : Type}
    {f : TraitItemFn → γ} {g : Description → γ}
    (h : List.Forall₂ (fun f e ↦ describe parseType f = .ok e) fs es)
    (hfg : ∀ m e, describe parseType m = .ok e → f m = g e) : fs.map f = es.map g := by
  rw [← List.forall₂_eq_eq_eq, List.forall₂_map_left_iff, List.forall₂_map_right_iff]
  exact h.imp hfg

/-- Both lists of names, of the functions and of the entries, agree up to the order. -/
theorem perm_names (h : fromItem parseType attr traitDef = .ok d) :
    (d.descriptions.map Description.ident).Perm (traitDef.functions.map fun f ↦ f.sig.ident) ∧
      (d.descriptions.map fun e ↦ some e.rpcName).Perm
        (traitDef.functions.map fun f ↦ rpcNameOf parseType f.attrs) := by
  obtain ⟨-, es, hperm, hes⟩ := fromItem_ok h
  constructor
  · rw [map_functions_eq hes fun m e he ↦ (describe_ok he).1.symm]
    exact hperm.map _
  · rw [map_functions_eq hes fun m e he ↦ (describe_ok he).2]
    exact hperm.map _

/-- Every function has its entry. -/
theorem exists_description (h : fromItem parseType attr traitDef = .ok d) {f : TraitItemFn}
    (hf : f ∈ traitDef.functions) : ∃ e ∈ d.descriptions, describe parseType f = .ok e := by
  obtain ⟨-, es, hperm, hes⟩ := fromItem_ok h
  have hmem : describe parseType f ∈ es.map Except.ok :=
    map_functions_eq hes (fun _ _ he ↦ he) ▸ List.mem_map_of_mem hf
  obtain ⟨e, he, hdescribe⟩ := List.mem_map.mp hmem
  exact ⟨e, hperm.mem_iff.mpr he, hdescribe.symm⟩

/-- Every entry has its function. -/
theorem exists_function (h : fromItem parseType attr traitDef = .ok d) {e : Description}
    (he : e ∈ d.descriptions) : ∃ f ∈ traitDef.functions, describe parseType f = .ok e := by
  obtain ⟨-, es, hperm, hes⟩ := fromItem_ok h
  have hmem : Except.ok e ∈ traitDef.functions.map (describe parseType) :=
    map_functions_eq hes (fun _ _ he ↦ he) ▸ List.mem_map_of_mem (hperm.mem_iff.mp he)
  exact List.mem_map.mp hmem

/-- Entries are known by the names of their functions. -/
theorem eq_of_ident (h : fromItem parseType attr traitDef = .ok d) {e e' : Description}
    (he : e ∈ d.descriptions) (he' : e' ∈ d.descriptions) (hident : e.ident = e'.ident) :
    e = e' :=
  List.inj_on_of_nodup_map ((perm_names h).1.nodup_iff.mpr traitDef.nodup) he he' hident

/-- With different names every function is routed. -/
theorem routed_of_nodup (h : fromItem parseType attr traitDef = .ok d)
    (hnodup : (traitDef.functions.map fun f ↦ rpcNameOf parseType f.attrs).Nodup)
    {f : TraitItemFn} (hf : f ∈ traitDef.functions) : Routed parseType traitDef d f := by
  obtain ⟨e, he, hdescribe⟩ := exists_description h hf
  refine ⟨e, hdescribe, e.client d.serviceName, ?_, ?_, fun body ↦ ⟨?_, ?_⟩⟩
  · rw [clientStruct_eq]
    exact List.mem_map_of_mem he
  · exact (e.client_ident _).trans (describe_ok hdescribe).1
  · exact kind_client _ _ e body
  · obtain ⟨hservice, hresource⟩ := e.request_client d.serviceName body
    rw [route_registerService hservice, hresource]
    refine LastWins.lastOf_of_mem ?_ (List.mem_map_of_mem he)
    have hrpc := (perm_names h).2.nodup_iff.mpr hnodup
    rw [updates, List.map_map]
    exact List.Nodup.of_map some (by rwa [List.map_map])

/-- The name of a function that is routed was registered for it last. -/
theorem lastOf_of_routed (h : fromItem parseType attr traitDef = .ok d)
    (hrouted : ∀ f ∈ traitDef.functions, Routed parseType traitDef d f) {e : Description}
    (he : e ∈ d.descriptions) :
    LastWins.lastOf e.rpcName (d.updates traitDef.callback) =
      some (e.resource traitDef.callback) := by
  obtain ⟨f, hf, hdescribe⟩ := exists_function h he
  obtain ⟨e', hdescribe', c, hc, hident, hroute⟩ := hrouted f hf
  have hsame : e = e' := Except.ok.inj (hdescribe.symm.trans hdescribe')
  subst hsame
  rw [clientStruct_eq] at hc
  obtain ⟨e', he', rfl⟩ := List.mem_map.mp hc
  -- the client's function of that name is the one that was generated for `f`
  have hclient : e' = e := by
    refine eq_of_ident h he' he ?_
    rw [← e'.client_ident d.serviceName, hident, (describe_ok hdescribe).1]
  subst hclient
  obtain ⟨hservice, hresource⟩ := e'.request_client d.serviceName none
  have hlast := (hroute none).2
  rwa [route_registerService hservice, hresource] at hlast

/-- Functions that are all routed have different names. -/
theorem nodup_of_routed (h : fromItem parseType attr traitDef = .ok d)
    (hrouted : ∀ f ∈ traitDef.functions, Routed parseType traitDef d f) :
    (traitDef.functions.map fun f ↦ rpcNameOf parseType f.attrs).Nodup := by
  have hidents := (perm_names h).1.nodup_iff.mpr traitDef.nodup
  refine (perm_names h).2.nodup_iff.mp (List.Nodup.map_on ?_ (.of_map _ hidents))
  intro e he e' he' hname
  have hresource : e.resource traitDef.callback = e'.resource traitDef.callback := by
    have hlast := lastOf_of_routed h hrouted he
    rw [Option.some_inj.mp hname, lastOf_of_routed h hrouted he', Option.some_inj] at hlast
    exact hlast.symm
  have hcallback : traitDef.callback e.ident = traitDef.callback e'.ident := by
    rw [← callback_resource traitDef.callback e, hresource, callback_resource]
  refine eq_of_ident h he he' ((List.idxOf_inj ?_).mp hcallback)
  exact (perm_names h).1.mem_iff.mp (List.mem_map_of_mem he)

end ServiceDescription

/-- A method without parameters, under some name. -/
def storeMethod (ident rpcName : String) : TraitItem :=
  .fn ⟨[.named "method" rpcName], ⟨ident, true, [.receiver], some i32Result⟩⟩

/-- A trait with a method and a subscription. -/
def watchedStore : ItemTrait where
  ident := "Store"
  items := [storeMethod "get" "get",
    .fn ⟨[.named "subscription" "watch"], ⟨"watch", true, [.receiver], some i32Result⟩⟩]
  nodup := by decide

/-- `syn::parse_str` on a name. -/
def parseIdent (text : String) : Except SynError SynType := .ok (.name text)

end Zel
