import Zel.RequestLifecycle
import Zel.StreamCorrelation

/-!
# Where an answer comes from

Many operations share a connection, and each waits for what the server makes of its request.  The
streams that the server opens can get into the wrong hands (`Zel.StreamCorrelation`); responses can
not.  Whatever an operation returns has been made for its own request: a response was returned by a
callback that ran once, for this request, and an error of the server has one of six causes.  A
stream was at least labelled by a handler, in a way that the operation accepts.

## What is here

* `Justified` — where the result of an operation comes from.
* `Records` — the two ends of an exchange hold what its handler has written.
* `Heard` — what an operation has read so far.
* `results_justified` — **no result is made up**, in any interleaving.
-/

set_option autoImplicit false

namespace Zel

/-! ## What is written in a conversation -/

/-- The response that an effect sends. -/
def HandleEffect.response? : HandleEffect → Option ResourceResponse
  | .respond r => some r
  | _ => none

/-- The label that an effect writes. -/
def HandleEffect.label? : HandleEffect → Option StreamLabel
  | .writeLabel label => some label
  | _ => none

theorem mem_of_response? {effs : List HandleEffect} {r : ResourceResponse}
    (h : r ∈ effs.filterMap HandleEffect.response?) : .respond r ∈ effs := by
  obtain ⟨eff, heff, hr⟩ := List.mem_filterMap.mp h
  cases eff <;> cases hr
  exact heff

theorem mem_of_label? {effs : List HandleEffect} {label : StreamLabel}
    (h : label ∈ effs.filterMap HandleEffect.label?) : .writeLabel label ∈ effs := by
  obtain ⟨eff, heff, hlabel⟩ := List.mem_filterMap.mp h
  cases eff <;> cases hlabel
  exact heff

section Conversations

variable {services : ServiceMap} {peerId : String} {request : Request}
  {effs rest : List HandleEffect}

/-- **A conversation has one response.** -/
theorem Transcript.responses_length (h : Transcript services peerId request effs) :
    (effs.filterMap HandleEffect.response?).length = 1 := by
  cases h <;> rfl

variable (services peerId request) in
/-- This response was sent in this conversation: as its end, or to an operation whose stream was
opened. -/
inductive Answers (effs : List HandleEffect) : ResourceResponse → Prop
  | last {r : ResourceResponse} (h : Transcript services peerId request effs)
      (hlast : effs.getLast? = some (.respond r)) : Answers effs r
  | accepted {k : StreamKind} {cb : CallbackId}
      (h : route services request = .ok (k.resource cb)) : Answers effs (.ok ⟨[]⟩)

/-- A success ends the call of a callback, or it is the empty response of a kind that opens a
stream. -/
theorem Answers.of_ok {resp : Response}
    (h : Answers services peerId request effs (.ok resp)) :
    (∃ cb, route services request = .ok (.rpc cb) ∧
      effs = [.startCallback cb, .respond (.ok resp)]) ∨
      (∃ k cb, route services request = .ok (StreamKind.resource k cb)) ∧ resp = ⟨[]⟩ := by
  cases h with
  | last h hlast =>
    cases h with
    | called hroute r =>
      cases hlast
      exact Or.inl ⟨_, hroute, rfl⟩
    | _ => cases hlast
  | accepted h => exact Or.inr ⟨⟨_, _, h⟩, rfl⟩

/-- An error is the end of its conversation. -/
theorem Answers.of_error {e : ResourceError}
    (h : Answers services peerId request effs (.error e)) :
    Transcript services peerId request effs := by
  cases h with
  | last h _ => exact h

end Conversations

/-! ## What the two ends hold -/

/-- The exchange after a step of its handler. -/
def Exchange.after (x : Exchange) (p : HandlePhase) : Option HandleEffect → Exchange
  | some (.writeLabel label) => { x with server := p, label := some label }
  | some (.respond r) => { x with server := p, response := some r }
  | _ => { x with server := p }

theorem Exchange.after_operation (x : Exchange) (p : HandlePhase) (eff : Option HandleEffect) :
    (x.after p eff).operation = x.operation := by
  rcases eff with _ | eff
  · rfl
  · cases eff <;> rfl

theorem Exchange.after_client (x : Exchange) (p : HandlePhase) (eff : Option HandleEffect) :
    (x.after p eff).client = x.client := by
  rcases eff with _ | eff
  · rfl
  · cases eff <;> rfl

variable {services : ServiceMap} {peerId : String}

variable (services peerId) in
/-- The exchange holds what its handler has written. -/
structure Records (effs : List HandleEffect) (x : Exchange) : Prop where
  soFar : SoFar services peerId x.operation.request True x.server effs
  responses : effs.filterMap HandleEffect.response? = x.response.toList
  labels : effs.filterMap HandleEffect.label? = x.label.toList
  answers : ∀ r, x.response = some r → Answers services peerId x.operation.request effs r

/-- What was shown first is nothing, if it has no response. -/
theorem Records.response_eq_none {effs : List HandleEffect} {x : Exchange}
    (h : Records services peerId effs x) (hno : effs.filterMap HandleEffect.response? = []) :
    x.response = none := by
  have hnone := h.responses
  rw [hno] at hnone
  exact Option.toList_eq_nil_iff.mp hnone.symm

/-- **A step of the handler is recorded.** -/
theorem Records.step {effs : List HandleEffect} {x : Exchange} {q : HandlePhase}
    {ev : HandleEvent} {eff : Option HandleEffect} (h : Records services peerId effs x)
    (hm : HandleMoves services peerId x.operation.request x.server ev q eff) :
    Records services peerId (effs ++ eff.toList) (x.after q eff) := by
  have hnext := h.soFar.step hm fun _ ↦ trivial
  obtain ⟨op, client, p, label, response⟩ := x
  obtain ⟨hsofar, hresponses, hlabels, hanswers⟩ := h
  have hrecords : Records services peerId effs ⟨op, client, p, label, response⟩ :=
    ⟨hsofar, hresponses, hlabels, hanswers⟩
  cases hm with
  | opened =>
    cases hsofar with
    | opening =>
      obtain rfl : response = none := hrecords.response_eq_none rfl
      exact ⟨hnext, rfl, hlabels, by simp [Exchange.after]⟩
  | labelled =>
    cases hsofar with
    | labelling =>
      obtain rfl : response = none := hrecords.response_eq_none rfl
      exact ⟨hnext, rfl, rfl, by simp [Exchange.after]⟩
  | accepted =>
    cases hsofar with
    | accepting hroute =>
      refine ⟨hnext, rfl, hlabels, fun r hr ↦ ?_⟩
      obtain rfl : _ = r := Option.some_inj.mp hr
      exact .accepted hroute
  | spawned =>
    cases hsofar with
    | spawning hroute =>
      refine ⟨hnext, hresponses, hlabels, fun r hr ↦ ?_⟩
      obtain rfl : response = some r := hr
      obtain rfl : _ = r := List.singleton_inj.mp hresponses
      exact .accepted hroute
  | admitted =>
    cases hsofar with
    | admitting =>
      obtain rfl : response = none := hrecords.response_eq_none rfl
      exact ⟨hnext, rfl, hlabels, by simp [Exchange.after]⟩
  | @responded r =>
    cases hsofar with
    | responding htranscript =>
      have hlen := htranscript.responses_length
      rw [List.filterMap_append, List.length_append] at hlen
      have hnil : effs.filterMap HandleEffect.response? = [] :=
        List.length_eq_zero_iff.mp (Nat.succ_injective hlen)
      refine ⟨hnext, ?_, ?_, fun r' hr ↦ ?_⟩
      · rw [Option.toList_some, List.filterMap_append, hnil]
        rfl
      · rw [Option.toList_some, List.filterMap_append, hlabels]
        exact List.append_nil _
      · obtain rfl : r = r' := Option.some_inj.mp hr
        exact .last htranscript List.getLast?_concat
  | _ =>
    rw [Option.toList_none, List.append_nil] at hnext ⊢
    exact ⟨hnext, hresponses, hlabels, hanswers⟩

/-- What is held stays. -/
theorem some_of_toList_append {α : Type} {a b : Option α} {l : List α}
    (h : a.toList ++ l = b.toList) {v : α} (ha : a = some v) : b = some v := by
  subst ha
  rcases b with _ | b
  · cases h
  · cases h
    rfl

/-- A step of the handler takes nothing back. -/
theorem Records.grows {effs : List HandleEffect} {x : Exchange} {q : HandlePhase}
    {ev : HandleEvent} {eff : Option HandleEffect} (h : Records services peerId effs x)
    (hm : HandleMoves services peerId x.operation.request x.server ev q eff) :
    (∀ r, x.response = some r → (x.after q eff).response = some r) ∧
      (∀ label, x.label = some label → (x.after q eff).label = some label) := by
  have hnext := h.step hm
  have hresponses := hnext.responses
  have hlabels := hnext.labels
  rw [List.filterMap_append, h.responses] at hresponses
  rw [List.filterMap_append, h.labels] at hlabels
  exact ⟨fun _ ↦ some_of_toList_append hresponses, fun _ ↦ some_of_toList_append hlabels⟩

namespace Connection

/-! ## All exchanges of a connection -/

variable (services peerId) in
/-- What the handler of exchange `c` makes visible in a step. -/
def effectsOf (c : Nat) (s : Connection) : Label → List HandleEffect
  | .server d ev =>
    if d = c then
      match s.exchanges[c]? with
      | some x =>
        ((x.server.step services peerId x.operation.request ev).bind Prod.snd).toList
      | none => []
    else []
  | _ => []

theorem apply_exchanges (s : Connection) (c : Nat) (x : Exchange) (p : HandlePhase)
    (eff : Option HandleEffect) :
    (s.apply c { x with server := p } eff).exchanges = s.exchanges.set c (x.after p eff) := by
  rcases eff with _ | eff
  · rfl
  · cases eff <;> rfl

variable (services peerId) in
/-- What the handler of an exchange has made visible is recorded there. -/
def Recorded (effs : List HandleEffect) : Option Exchange → Prop
  | none => effs = []
  | some x => Records services peerId effs x

variable (services peerId) in
/-- What a step can do to one exchange, and what that makes visible. -/
inductive ExchangeMoves : Option Exchange → List HandleEffect → Option Exchange → Prop
  | stays {x : Option Exchange} : ExchangeMoves x [] x
  | started (op : Operation) : ExchangeMoves none [] (some ⟨op, .sending, .reading, none, none⟩)
  | client {x : Exchange} (p : OperationPhase) (hx : ¬ x.Returned) :
      ExchangeMoves (some x) [] (some { x with client := p })
  | server {x : Exchange} {p : HandlePhase} {ev : HandleEvent} {eff : Option HandleEffect}
      (hm : HandleMoves services peerId x.operation.request x.server ev p eff) :
      ExchangeMoves (some x) eff.toList (some (x.after p eff))

/-- The operation of one exchange moves on. -/
theorem exchangeMoves_set {s : Connection} {d : Nat} {x : Exchange} (hx : s.exchanges[d]? = some x)
    (hbusy : ¬ x.Returned) (p : OperationPhase) (c : Nat) :
    ExchangeMoves services peerId s.exchanges[c]? []
      (s.exchanges.set d { x with client := p })[c]? := by
  by_cases hdc : d = c
  · subst hdc
    rw [hx, List.getElem?_set_of_some hx]
    exact .client p hbusy
  · rw [List.getElem?_set_ne hdc]
    exact .stays

/-- **One exchange in a step of the connection.** -/
theorem Moves.exchange {s t : Connection} {l : Label} (hm : Moves services peerId s l t) (c : Nat) :
    ExchangeMoves services peerId s.exchanges[c]? (effectsOf services peerId c s l)
      t.exchanges[c]? := by
  -- an operation that moves has not returned
  have hbusy : ∀ {x : Exchange} {p : OperationPhase}, x.client = p → (∀ r, p ≠ .returned r) →
      ¬ x.Returned := fun hp hne ⟨r, hr⟩ ↦ hne r (hp.symm.trans hr)
  cases hm with
  | start op =>
    show ExchangeMoves services peerId _ [] _
    rcases Nat.lt_trichotomy c s.exchanges.length with hlt | rfl | hgt
    · rw [List.getElem?_append_left hlt]
      exact .stays
    · rw [List.getElem?_concat_length, List.getElem?_eq_none (Nat.le_refl _)]
      exact .started op
    · rw [List.getElem?_eq_none (by omega), List.getElem?_eq_none (by simp; omega)]
      exact .stays
  | sent hx hp => exact exchangeMoves_set hx (hbusy hp (by simp)) _ c
  | answered hx hp => exact exchangeMoves_set hx (hbusy hp (by simp)) _ c
  | unanswered hx hp => exact exchangeMoves_set hx (hbusy hp (by simp)) _ c
  | accepted hx hp => exact exchangeMoves_set hx (hbusy hp (by simp)) _ c
  | shaken hx hp => exact exchangeMoves_set hx (hbusy hp (by simp)) _ c
  | unlabelled hx hp => exact exchangeMoves_set hx (hbusy hp (by simp)) _ c
  | undecodable hx hp => exact exchangeMoves_set hx (hbusy hp (by simp)) _ c
  | failed hx hp => exact exchangeMoves_set hx hp _ c
  | @server d x p ev eff hx hp =>
    rw [apply_exchanges]
    by_cases hdc : d = c
    · subst hdc
      rw [effectsOf, if_pos rfl, hx, List.getElem?_set_of_some hx]
      simp only [hp.step_eq, Option.bind_some]
      exact .server hp
    · rw [effectsOf, if_neg hdc, List.getElem?_set_ne hdc]
      exact .stays

/-- **A step of the connection is recorded** in every exchange. -/
theorem Moves.recorded {s t : Connection} {l : Label} (hm : Moves services peerId s l t)
    {effs : List HandleEffect} {c : Nat}
    (h : Recorded services peerId effs s.exchanges[c]?) :
    Recorded services peerId (effs ++ effectsOf services peerId c s l) t.exchanges[c]? := by
  have hmoves := hm.exchange c
  generalize s.exchanges[c]? = x, effectsOf services peerId c s l = shown, t.exchanges[c]? = y
    at h hmoves ⊢
  rcases hmoves with _ | op | ⟨p, hx⟩ | hmove
  · rwa [List.append_nil]
  · obtain rfl : effs = [] := h
    exact ⟨.reading, rfl, rfl, by simp⟩
  · rw [List.append_nil]
    exact ⟨h.soFar, h.responses, h.labels, h.answers⟩
  · exact Records.step h hmove

theorem recorded_of_run {ls : List Label} {s : Connection}
    (hs : (machine services peerId).run ls = some s) (c : Nat) :
    Recorded services peerId
      ((machine services peerId).outputs (effectsOf services peerId c) new ls)
      s.exchanges[c]? := by
  have hstart : Recorded services peerId [] (machine services peerId).init.exchanges[c]? := rfl
  exact Machine.history_of_run (M := machine services peerId)
    (R := fun effs s ↦ Recorded services peerId effs s.exchanges[c]?)
    (fun _ _ _ _ h ht ↦ (moves_of_step ht).recorded h) hstart hs

/-! ## What an operation has read -/

/-- Where an operation stands tells what it has read: the response to its own request, and the label
of the stream that it returns. -/
def Heard (s : Connection) (x : Exchange) : Prop :=
  match x.client with
  | .accepting _ | .awaitingLabel _ => ∃ r, x.response = some (.ok r)
  | .returned (.ok (.response r)) => x.operation.acceptsFrom = none ∧ x.response = some (.ok r)
  | .returned (.ok (.stream owner)) => (∃ r, x.response = some (.ok r)) ∧
      ∃ label, s.labelOf owner = some label ∧ x.operation.handshake label = some (.ok ())
  | .returned (.error (.resource e)) => x.response = some (.error e)
  | .returned (.error (.io _)) | .returned (.error (.serialization _)) => False
  | _ => True

/-- More responses and more labels change nothing about it. -/
theorem Heard.mono {s t : Connection} {x y : Exchange} (h : Heard s x)
    (hclient : y.client = x.client) (hoperation : y.operation = x.operation)
    (hresponse : ∀ r, x.response = some r → y.response = some r)
    (hlabel : ∀ o label, s.labelOf o = some label → t.labelOf o = some label) : Heard t y := by
  unfold Heard at h ⊢
  rw [hclient, hoperation]
  split at h
  · obtain ⟨r, hr⟩ := h
    exact ⟨r, hresponse _ hr⟩
  · obtain ⟨r, hr⟩ := h
    exact ⟨r, hresponse _ hr⟩
  · exact ⟨h.1, hresponse _ h.2⟩
  · obtain ⟨⟨r, hr⟩, label, hl, hs⟩ := h
    exact ⟨⟨r, hresponse _ hr⟩, label, hlabel _ _ hl, hs⟩
  · exact hresponse _ h
  · exact h
  · exact h
  · trivial

/-- What an operation dislikes about a label is its own complaint. -/
theorem handshake_error {op : Operation} {label : StreamLabel} {e : ClientError}
    (h : op.handshake label = some (.error e)) : ∃ message, e = .protocol message := by
  have hcheck : ∀ (service resource : String) (got : String × String),
      checkEstablished service resource got = .error e → ∃ message, e = .protocol message := by
    intro service resource got h
    rw [checkEstablished] at h
    split at h <;> cases h
    exact ⟨_, rfl⟩
  cases op with
  | call => cases h
  | subscribe service resource =>
    obtain ⟨got, -, hgot⟩ := Option.map_eq_some_iff.mp h
    exact hcheck _ _ _ hgot
  | notify service resource =>
    obtain ⟨got, -, hgot⟩ := Option.map_eq_some_iff.mp h
    exact hcheck _ _ _ hgot
  | openStream =>
    cases label <;> cases h <;> exact ⟨_, rfl⟩

/-- The operation of one exchange moves on. -/
theorem heard_setClient {s : Connection} (hs : ∀ (c : Nat) x, s.exchanges[c]? = some x → Heard s x)
    {c : Nat} {x : Exchange} (hx : s.exchanges[c]? = some x) {p : OperationPhase}
    (hp : Heard s { x with client := p }) (d : Nat) (y : Exchange)
    (hy : (s.exchanges.set c { x with client := p })[d]? = some y) :
    Heard (s.setClient c x p) y := by
  have hlabel : ∀ o label, s.labelOf o = some label →
      (s.setClient c x p).labelOf o = some label :=
    fun o label h ↦ (labelOf_setClient hx p o).trans h
  rcases List.getElem?_set_cases hy with ⟨-, rfl⟩ | ⟨-, hy⟩
  · exact hp.mono rfl rfl (fun _ hr ↦ hr) hlabel
  · exact (hs d y hy).mono rfl rfl (fun _ hr ↦ hr) hlabel

/-- **Every step keeps to what was read.** -/
theorem Moves.heard {s t : Connection} {l : Label} (hm : Moves services peerId s l t)
    (hrecorded : ∀ c : Nat, ∃ effs, Recorded services peerId effs s.exchanges[c]?)
    (hs : ∀ (c : Nat) x, s.exchanges[c]? = some x → Heard s x) (c : Nat) (x : Exchange)
    (hx : t.exchanges[c]? = some x) : Heard t x := by
  cases hm with
  | start op =>
    have hlabel : ∀ o label, s.labelOf o = some label → labelOf { s with
        exchanges := s.exchanges ++ [⟨op, .sending, .reading, none, none⟩] } o = some label := by
      intro o label h
      obtain ⟨y, hy, hyl⟩ := Option.bind_eq_some_iff.mp h
      exact Option.bind_eq_some_iff.mpr ⟨y, List.getElem?_concat_of_some hy, hyl⟩
    rcases List.getElem?_concat_cases hx with ⟨-, rfl⟩ | hx
    · exact trivial
    · exact (hs c x hx).mono rfl rfl (fun _ hr ↦ hr) hlabel
  | sent hy =>
    refine heard_setClient hs hy ?_ c x hx
    exact trivial
  | @answered d y r hy hp hr =>
    refine heard_setClient hs hy ?_ c x hx
    rcases r with e | r
    · exact hr
    · rw [Operation.answered]
      split
      · rename_i hnone
        exact ⟨hnone, hr⟩
      · exact ⟨r, hr⟩
  | unanswered hy =>
    refine heard_setClient hs hy ?_ c x hx
    exact trivial
  | @accepted d y q owner rest hy hp hq =>
    have h := hs d y hy
    rw [Heard, hp] at h
    exact heard_setClient hs hy (p := .awaitingLabel owner) h c x hx
  | @shaken d y owner label r hy hp hl hr =>
    have h := hs d y hy
    rw [Heard, hp] at h
    refine heard_setClient hs hy ?_ c x hx
    rcases r with e | _
    · obtain ⟨message, rfl⟩ := handshake_error hr
      exact trivial
    · exact ⟨h, label, hl, hr⟩
  | unlabelled hy =>
    refine heard_setClient hs hy ?_ c x hx
    exact trivial
  | undecodable hy =>
    refine heard_setClient hs hy ?_ c x hx
    exact trivial
  | failed hy =>
    refine heard_setClient hs hy ?_ c x hx
    exact trivial
  | @server d y p ev eff hy hp =>
    obtain ⟨effs, hrecords⟩ := hrecorded d
    rw [hy] at hrecords
    obtain ⟨hresponse, hown⟩ := Records.grows hrecords hp
    rw [apply_exchanges] at hx
    have hlabel : ∀ o label, s.labelOf o = some label →
        (s.apply d { y with server := p } eff).labelOf o = some label := by
      intro o label h
      obtain ⟨z, hz, hzl⟩ := Option.bind_eq_some_iff.mp h
      rw [labelOf, apply_exchanges]
      by_cases hdo : d = o
      · subst hdo
        obtain rfl : y = z := Option.some_inj.mp (hy.symm.trans hz)
        rw [List.getElem?_set_of_some hy]
        exact hown label hzl
      · rw [List.getElem?_set_ne hdo]
        exact h
    rcases List.getElem?_set_cases hx with ⟨rfl, rfl⟩ | ⟨-, hx⟩
    · exact (hs c y hy).mono (y.after_client p eff) (y.after_operation p eff) hresponse hlabel
    · exact (hs c x hx).mono rfl rfl (fun _ hr ↦ hr) hlabel

/-! ## Why an operation fails -/

/-- What the environment tells the operation. -/
def ClientEvent.error? : ClientEvent → Option String
  | .undecodable e | .failed e => some e
  | .next | .ended => none

/-- The operation of exchange `c` has failed with this error. -/
def FailedWith (c : Nat) (e : ClientError) (s : Connection) : Prop :=
  ∃ x, s.exchanges[c]? = some x ∧ x.client = .returned (.error e)

/-- Why the operation of exchange `c` fails in a step. -/
inductive Fails (s : Connection) (c : Nat) (x : Exchange) : Label → ClientError → Prop
  | refused {e : ResourceError} (h : x.response = some (.error e)) :
      Fails s c x (.client c .next) (.resource e)
  | failed {ev : ClientEvent} {e : String} (hev : ev.error? = some e) :
      Fails s c x (.client c ev) (.connection e)
  | unanswered (hdone : x.server = .done) (hr : x.response = none) :
      Fails s c x (.client c .ended) (.protocol "No response received")
  | unlabelled {owner : Nat} (hp : x.client = .awaitingLabel owner)
      (hl : s.unlabelled owner = true) :
      Fails s c x (.client c .ended) (.protocol "No established message received")
  | mislabelled {owner : Nat} {label : StreamLabel} {e : ClientError}
      (hp : x.client = .awaitingLabel owner) (hl : s.labelOf owner = some label)
      (hr : x.operation.handshake label = some (.error e)) : Fails s c x (.client c .next) e

/-- The operation that has failed in a step is the one that moved. -/
theorem failedWith_setClient {s : Connection} {c d : Nat} {x : Exchange} {e : ClientError}
    {p : OperationPhase} (hs : ¬ s.FailedWith c e) (ht : (s.setClient d x p).FailedWith c e) :
    c = d ∧ p = .returned (.error e) := by
  obtain ⟨y, hy, hr⟩ := ht
  rcases List.getElem?_set_cases hy with ⟨hdc, rfl⟩ | ⟨-, hy⟩
  · exact ⟨hdc, hr⟩
  · exact absurd ⟨y, hy, hr⟩ hs

/-- **No operation fails without a reason.** -/
theorem Moves.fails {s t : Connection} {l : Label} (hm : Moves services peerId s l t) {c : Nat}
    {e : ClientError} (hs : ¬ s.FailedWith c e) (ht : t.FailedWith c e) :
    ∃ x, s.exchanges[c]? = some x ∧ Fails s c x l e := by
  cases hm with
  | start op =>
    obtain ⟨y, hy, hr⟩ := ht
    rcases List.getElem?_concat_cases hy with ⟨-, rfl⟩ | hy
    · cases hr
    · exact absurd ⟨y, hy, hr⟩ hs
  | sent =>
    obtain ⟨-, hr⟩ := failedWith_setClient hs ht
    cases hr
  | @answered d x r hx hp hresp =>
    obtain ⟨rfl, hr⟩ := failedWith_setClient hs ht
    rcases r with e' | r
    · cases hr
      exact ⟨x, hx, .refused hresp⟩
    · rw [Operation.answered] at hr
      split at hr <;> cases hr
  | unanswered hx hp hdone hresp =>
    obtain ⟨rfl, hr⟩ := failedWith_setClient hs ht
    cases hr
    exact ⟨_, hx, .unanswered hdone hresp⟩
  | @accepted d x q owner =>
    have ht : (s.setClient d x (.awaitingLabel owner)).FailedWith c e := ht
    obtain ⟨-, hr⟩ := failedWith_setClient hs ht
    cases hr
  | @shaken d x owner label r hx hp hl hhandshake =>
    obtain ⟨rfl, hr⟩ := failedWith_setClient hs ht
    rcases r with e' | _ <;> cases hr
    exact ⟨x, hx, .mislabelled hp hl hhandshake⟩
  | unlabelled hx hp hl =>
    obtain ⟨rfl, hr⟩ := failedWith_setClient hs ht
    cases hr
    exact ⟨_, hx, .unlabelled hp hl⟩
  | undecodable hx =>
    obtain ⟨rfl, hr⟩ := failedWith_setClient hs ht
    cases hr
    exact ⟨_, hx, .failed rfl⟩
  | failed hx =>
    obtain ⟨rfl, hr⟩ := failedWith_setClient hs ht
    cases hr
    exact ⟨_, hx, .failed rfl⟩
  | @server d x p ev eff hx hp =>
    obtain ⟨y, hy, hr⟩ := ht
    rw [apply_exchanges] at hy
    rcases List.getElem?_set_cases hy with ⟨rfl, rfl⟩ | ⟨-, hy⟩
    · rw [x.after_client] at hr
      exact absurd ⟨x, hx, hr⟩ hs
    · exact absurd ⟨y, hy, hr⟩ hs

/-- What the handler and the operation of an exchange keep, every run keeps. -/
theorem exchange_of_runFrom {Q : Exchange → Prop}
    (hclient : ∀ x p, Q x → Q { x with client := p })
    (hserver : ∀ x ev p eff, Q x →
      HandleMoves services peerId x.operation.request x.server ev p eff → Q (x.after p eff))
    {s t : Connection} {ls : List Label} (hr : (machine services peerId).runFrom s ls = some t)
    {c : Nat} (hs : ∃ x, s.exchanges[c]? = some x ∧ Q x) :
    ∃ x, t.exchanges[c]? = some x ∧ Q x := by
  refine (Machine.along_of_invariant (I := fun s ↦ ∃ x, s.exchanges[c]? = some x ∧ Q x)
    (fun s l t hs ht ↦ ?_) hs ls).last hr
  obtain ⟨x, hx, hQ⟩ := hs
  have hmoves := (moves_of_step ht).exchange c
  rw [hx] at hmoves
  generalize effectsOf services peerId c s l = shown, t.exchanges[c]? = y at hmoves ⊢
  rcases hmoves with _ | _ | ⟨p, -⟩ | hm
  · exact ⟨x, rfl, hQ⟩
  · exact ⟨_, rfl, hclient x p hQ⟩
  · exact ⟨_, rfl, hserver x _ _ _ hQ hm⟩

/-- The handler has returned and sent no response. -/
def Silent (x : Exchange) : Prop := x.server = .done ∧ x.response = none

theorem Silent.of_run {s t : Connection} {ls : List Label}
    (hr : (machine services peerId).runFrom s ls = some t) {c : Nat}
    (hs : ∃ x, s.exchanges[c]? = some x ∧ Silent x) : ∃ x, t.exchanges[c]? = some x ∧ Silent x := by
  refine exchange_of_runFrom (fun _ _ hx ↦ hx) ?_ hr hs
  rintro x ev p eff ⟨hdone, -⟩ hm
  rw [hdone] at hm
  cases hm

/-- The handler has written no label and will not. -/
def GaveUp (x : Exchange) : Prop :=
  x.label = none ∧ (x.server = .done ∨ ∃ r, x.server = .responding r)

theorem GaveUp.of_run {s t : Connection} {ls : List Label}
    (hr : (machine services peerId).runFrom s ls = some t) {c : Nat}
    (hs : ∃ x, s.exchanges[c]? = some x ∧ GaveUp x) : ∃ x, t.exchanges[c]? = some x ∧ GaveUp x := by
  refine exchange_of_runFrom (fun _ _ hx ↦ hx) ?_ hr hs
  rintro x ev p eff ⟨hlabel, hdone | ⟨r, hresponding⟩⟩ hm
  · rw [hdone] at hm
    cases hm
  · rw [hresponding] at hm
    cases hm with
    | responded => exact ⟨hlabel, .inl rfl⟩
    | respondFail => exact ⟨hlabel, .inl rfl⟩

/-- A stream without a label, on which none is being written, will not get one. -/
theorem Records.gaveUp {effs : List HandleEffect} {s : Connection} {owner : Nat} {x : Exchange}
    (h : Records services peerId effs x) (hx : s.exchanges[owner]? = some x) {q : Queue}
    (hopen : .openStream q ∈ effs) (hl : s.unlabelled owner = true) : GaveUp x := by
  have hlabel := label_of_unlabelled hx hl
  have hlabels := h.labels
  rw [hlabel] at hlabels
  refine ⟨hlabel, ?_⟩
  rw [unlabelled, hx] at hl
  obtain ⟨op, client, p, label, response⟩ := x
  cases h.soFar with
  | labelling => cases hl
  | accepting => cases hlabels
  | spawning => cases hlabels
  | responding => exact .inr ⟨_, rfl⟩
  | done => exact .inl rfl
  | running => simp at hopen
  | _ => cases hopen

theorem Recorded.gaveUp {effs : List HandleEffect} {s : Connection} {owner : Nat}
    (h : Recorded services peerId effs s.exchanges[owner]?) {q : Queue}
    (hopen : .openStream q ∈ effs) (hl : s.unlabelled owner = true) :
    ∃ x, s.exchanges[owner]? = some x ∧ GaveUp x := by
  rcases hx : s.exchanges[owner]? with _ | x
  · rw [hx] at h
    obtain rfl : effs = [] := h
    cases hopen
  · rw [hx] at h
    exact ⟨x, rfl, Records.gaveUp h hx hopen hl⟩

/-- The stream of this exchange waits to be accepted, or was accepted and is being read. -/
def Offered (owner : Nat) (s : Connection) : Prop :=
  (∃ q, owner ∈ s.pending q) ∨
    ∃ (c : Nat) (x : Exchange), s.exchanges[c]? = some x ∧ x.client = .awaitingLabel owner

theorem Offered.of_setClient {s : Connection} {owner d : Nat} {x : Exchange} {p : OperationPhase}
    (hp : p ≠ .awaitingLabel owner) (h : (s.setClient d x p).Offered owner) : s.Offered owner := by
  rcases h with ⟨q, hq⟩ | ⟨c, y, hy, hclient⟩
  · exact .inl ⟨q, hq⟩
  · rcases List.getElem?_set_cases hy with ⟨-, rfl⟩ | ⟨-, hy⟩
    · exact absurd hclient hp
    · exact .inr ⟨c, y, hy, hclient⟩

/-- A handler offers no stream but the one that it opens. -/
theorem Offered.of_apply {s : Connection} {owner d : Nat} {x : Exchange} {p : HandlePhase}
    {eff : Option HandleEffect} (hx : s.exchanges[d]? = some x)
    (h : (s.apply d { x with server := p } eff).Offered owner) :
    s.Offered owner ∨ d = owner ∧ ∃ q, eff = some (.openStream q) := by
  rcases h with ⟨q, hq⟩ | ⟨c, y, hy, hclient⟩
  · rcases eff with _ | eff
    · exact .inl (.inl ⟨q, hq⟩)
    · cases eff with
      | openStream q' =>
        have hq : owner ∈ Function.update s.pending q' (s.pending q' ++ [d]) q := hq
        by_cases hqq : q = q'
        · subst hqq
          rw [Function.update_self] at hq
          rcases List.mem_append.mp hq with hq | hq
          · exact .inl (.inl ⟨q, hq⟩)
          · exact .inr ⟨(List.mem_singleton.mp hq).symm, q, rfl⟩
        · rw [Function.update_of_ne hqq] at hq
          exact .inl (.inl ⟨q, hq⟩)
      | _ => exact .inl (.inl ⟨q, hq⟩)
  · rw [apply_exchanges] at hy
    rcases List.getElem?_set_cases hy with ⟨-, rfl⟩ | ⟨-, hy⟩
    · exact .inl (.inr ⟨d, x, hx, (x.after_client p eff).symm.trans hclient⟩)
    · exact .inl (.inr ⟨c, y, hy, hclient⟩)

/-- A stream is offered when its handler opens it. -/
theorem Moves.offered {s t : Connection} {l : Label} (hm : Moves services peerId s l t)
    {owner : Nat} (hs : ¬ s.Offered owner) (ht : t.Offered owner) :
    ∃ eff ∈ effectsOf services peerId owner s l, ∃ q, eff = .openStream q := by
  cases hm with
  | start op =>
    rcases ht with ⟨q, hq⟩ | ⟨c, y, hy, hclient⟩
    · exact absurd (.inl ⟨q, hq⟩) hs
    · rcases List.getElem?_concat_cases hy with ⟨-, rfl⟩ | hy
      · cases hclient
      · exact absurd (.inr ⟨c, y, hy, hclient⟩) hs
  | sent => exact absurd (ht.of_setClient (by simp)) hs
  | @answered d x r =>
    refine absurd (ht.of_setClient ?_) hs
    rcases r with e | r
    · simp [Operation.answered]
    · rw [Operation.answered]
      split <;> simp
  | unanswered => exact absurd (ht.of_setClient (by simp)) hs
  | @accepted d x q o rest hx hp hq =>
    have hwas : ∀ q', owner ∈ (Function.update s.pending q rest) q' → owner ∈ s.pending q' := by
      intro q' h
      by_cases hqq : q' = q
      · subst hqq
        rw [Function.update_self] at h
        exact hq ▸ List.mem_cons_of_mem o h
      · rwa [Function.update_of_ne hqq] at h
    rcases ht with ⟨q', hq'⟩ | ⟨c, y, hy, hclient⟩
    · exact absurd (.inl ⟨q', hwas q' hq'⟩) hs
    · rcases List.getElem?_set_cases hy with ⟨-, rfl⟩ | ⟨-, hy⟩
      · cases hclient
        exact absurd (.inl ⟨q, hq ▸ List.mem_cons_self⟩) hs
      · exact absurd (.inr ⟨c, y, hy, hclient⟩) hs
  | shaken => exact absurd (ht.of_setClient (by simp)) hs
  | unlabelled => exact absurd (ht.of_setClient (by simp)) hs
  | undecodable => exact absurd (ht.of_setClient (by simp)) hs
  | failed => exact absurd (ht.of_setClient (by simp)) hs
  | @server d x p ev eff hx hp =>
    rcases Offered.of_apply hx ht with hoffered | ⟨rfl, q, rfl⟩
    · exact absurd hoffered hs
    · refine ⟨.openStream q, ?_, q, rfl⟩
      rw [effectsOf, if_pos rfl, hx]
      simp only [hp.step_eq, Option.bind_some]
      exact List.mem_singleton_self _

/-! ## Results -/

variable (services peerId) in
/-- Where the result of the operation of exchange `c` comes from, by the steps of a run and what its
handlers have made visible. -/
inductive Justified (ls : List Label) (shown : Nat → List HandleEffect) (c : Nat) (op : Operation) :
    Except ClientError Success → Prop
  /-- The callback of its resource ran once, and returned this. -/
  | called {cb : CallbackId} {resp : Response} (hroute : route services op.request = .ok (.rpc cb))
      (hshown : shown c = [.startCallback cb, .respond (.ok resp)]) :
      Justified ls shown c op (.ok (.response resp))
  /-- A call of a resource that opens a stream: the stream is open and labelled, and whether the
  callback has begun is not known. -/
  | accepted {k : StreamKind} {cb : CallbackId}
      (hroute : route services op.request = .ok (k.resource cb))
      (hshown : [.openStream k.setup.queue, .writeLabel (k.setup.label op.request),
        .respond (.ok ⟨[]⟩)] <+: shown c) : Justified ls shown c op (.ok (.response ⟨[]⟩))
  /-- Its request has succeeded, and the stream was labelled in a way that it takes. -/
  | stream {owner : Nat} {resp : Response} {label : StreamLabel}
      (hmem : .respond (.ok resp) ∈ shown c) (hlabel : .writeLabel label ∈ shown owner)
      (htakes : op.handshake label = some (.ok ())) : Justified ls shown c op (.ok (.stream owner))
  /-- Its request has come to an end with this error. -/
  | refused {e : ResourceError} (h : Transcript services peerId op.request (shown c))
      (hmem : .respond (.error e) ∈ shown c) : Justified ls shown c op (.error (.resource e))
  /-- The environment has told it so. -/
  | connection {ev : ClientEvent} {e : String} (hmem : .client c ev ∈ ls)
      (hev : ev.error? = some e) : Justified ls shown c op (.error (.connection e))
  /-- Its handler was cut short. -/
  | unanswered (h : ∀ r, .respond r ∉ shown c) :
      Justified ls shown c op (.error (.protocol "No response received"))
  /-- Its request has succeeded, and the stream that it accepted never got a label. -/
  | unlabelled {owner : Nat} {q : Queue} {resp : Response} (hmem : .respond (.ok resp) ∈ shown c)
      (hopen : .openStream q ∈ shown owner) (h : ∀ label, .writeLabel label ∉ shown owner) :
      Justified ls shown c op (.error (.protocol "No established message received"))
  /-- Its request has succeeded, and the stream that it accepted was labelled in a way that it does
  not take. -/
  | mislabelled {owner : Nat} {resp : Response} {label : StreamLabel} {e : String}
      (hmem : .respond (.ok resp) ∈ shown c) (hlabel : .writeLabel label ∈ shown owner)
      (hdislikes : op.handshake label = some (.error (.protocol e))) :
      Justified ls shown c op (.error (.protocol e))

theorem heard_of_run {ls : List Label} {s : Connection}
    (hs : (machine services peerId).run ls = some s) {c : Nat} {x : Exchange}
    (hx : s.exchanges[c]? = some x) : Heard s x := by
  have hall : (machine services peerId).Reachable s ∧
      ∀ (c : Nat) x, s.exchanges[c]? = some x → Heard s x := by
    refine Machine.Reachable.invariant (I := fun s ↦ (machine services peerId).Reachable s ∧
      ∀ (c : Nat) x, s.exchanges[c]? = some x → Heard s x) ⟨.init, fun c x hx ↦ ?_⟩ ?_ ⟨ls, hs⟩
    · cases hx
    · rintro s l t ⟨hreach, hheard⟩ ht
      refine ⟨hreach.step ht, (moves_of_step ht).heard (fun c ↦ ?_) hheard⟩
      obtain ⟨ls, hls⟩ := hreach
      exact ⟨_, recorded_of_run hls c⟩
  exact hall.2 c x hx

/-- What a call of a stream kind reads was sent when the stream was open and labelled. -/
theorem Records.accepted {effs : List HandleEffect} {x : Exchange}
    (h : Records services peerId effs x) {k : StreamKind} {cb : CallbackId}
    (hroute : route services x.operation.request = .ok (k.resource cb))
    (hmem : .respond (.ok ⟨[]⟩) ∈ effs) :
    [.openStream k.setup.queue, .writeLabel (k.setup.label x.operation.request),
      .respond (.ok ⟨[]⟩)] <+: effs := by
  obtain ⟨rest, hrest⟩ := h.soFar.exists_transcript
  generalize hall : effs ++ rest = all at hrest
  have hok : HandleEffect.respond (.ok ⟨[]⟩) ∈ all :=
    hall ▸ List.mem_append_left rest hmem
  cases hrest with
  | @established k' cb' hroute' =>
    rw [hroute, Except.ok.injEq, StreamKind.resource_inj] at hroute'
    obtain ⟨rfl, rfl⟩ := hroute'
    -- the response is the third of four, so the first three are there
    rcases effs with _ | ⟨a, _ | ⟨b, _ | ⟨r, effs⟩⟩⟩
    · cases hmem
    · cases hall
      simp at hmem
    · cases hall
      simp at hmem
    · injection hall with ha hall
      injection hall with hb hall
      injection hall with hr
      exact ⟨effs, by rw [ha, hb, hr]; rfl⟩
  | called hroute' =>
    rw [hroute] at hroute'
    cases k <;> cases hroute'
  | _ => simp at hok

/-- The response that an operation has read was sent in its conversation. -/
theorem Recorded.mem_of_response {effs : List HandleEffect} {s : Connection} {c : Nat}
    {x : Exchange} (h : Recorded services peerId effs s.exchanges[c]?)
    (hx : s.exchanges[c]? = some x) {r : ResourceResponse} (hr : x.response = some r) :
    .respond r ∈ effs := by
  rw [hx] at h
  have hresponse : r ∈ x.response.toList := by rw [hr]; simp
  exact mem_of_response? (Records.responses h ▸ hresponse)

/-- The label of a stream was written by its handler. -/
theorem Recorded.mem_of_label {effs : List HandleEffect} {s : Connection} {owner : Nat}
    (h : Recorded services peerId effs s.exchanges[owner]?) {label : StreamLabel}
    (hl : s.labelOf owner = some label) : .writeLabel label ∈ effs := by
  obtain ⟨y, hy, hyl⟩ := Option.bind_eq_some_iff.mp hl
  rw [hy] at h
  have hlabel : label ∈ y.label.toList := by rw [hyl]; simp
  exact mem_of_label? (Records.labels h ▸ hlabel)

section Results

variable {ls : List Label} {shown : Nat → List HandleEffect} {s : Connection} {c : Nat}
  {x : Exchange}

/-- What an operation has read justifies a success. -/
theorem Heard.justified (hheard : Heard s x) (hx : s.exchanges[c]? = some x)
    (hshown : ∀ d : Nat, Recorded services peerId (shown d) s.exchanges[d]?) {v : Success}
    (hr : x.client = .returned (.ok v)) :
    Justified services peerId ls shown c x.operation (.ok v) := by
  have hrecords := hshown c
  rw [hx] at hrecords
  rw [Heard, hr] at hheard
  rcases v with resp | owner
  · rcases (Records.answers hrecords _ hheard.2).of_ok with ⟨cb, hroute, hcalled⟩ | ⟨hroute, rfl⟩
    · exact .called hroute hcalled
    · obtain ⟨k, cb, hroute⟩ := hroute
      exact .accepted hroute
        (Records.accepted hrecords hroute ((hshown c).mem_of_response hx hheard.2))
  · obtain ⟨⟨resp, hresp⟩, label, hlabel, htakes⟩ := hheard
    exact .stream ((hshown c).mem_of_response hx hresp) ((hshown owner).mem_of_label hlabel) htakes

/-- What an operation has read justifies an error of the server, and it makes up no other. -/
theorem Heard.refused (hheard : Heard s x) (hx : s.exchanges[c]? = some x)
    (hshown : ∀ d : Nat, Recorded services peerId (shown d) s.exchanges[d]?) {e : ClientError}
    (hr : x.client = .returned (.error e)) :
    Justified services peerId ls shown c x.operation (.error e) ∨
      (∃ m, e = .connection m) ∨ ∃ m, e = .protocol m := by
  have hrecords := hshown c
  rw [hx] at hrecords
  rw [Heard, hr] at hheard
  rcases e with e | e | e | e | e
  · exact hheard.elim
  · exact hheard.elim
  · have hanswers := Records.answers hrecords _ hheard
    exact .inl (.refused hanswers.of_error ((hshown c).mem_of_response hx hheard))
  · exact .inr (.inl ⟨e, rfl⟩)
  · exact .inr (.inr ⟨e, rfl⟩)

/-- A stream that is offered was opened by its handler. -/
theorem opened_of_offered (hs : (machine services peerId).run ls = some s) {owner : Nat}
    (h : s.Offered owner) : ∃ q, .openStream q ∈
      (machine services peerId).outputs (effectsOf services peerId owner) new ls := by
  have hnew : ¬ new.Offered owner := by
    rintro (⟨q, hq⟩ | ⟨c, x, hx, -⟩)
    · cases hq
    · cases hx
  obtain ⟨eff, heff, q, rfl⟩ := Machine.exists_output_of_change
    (M := machine services peerId) (P := Offered owner)
    (fun s l t hs ht hoffered ↦ (moves_of_step ht).offered hs hoffered) hs hnew h
  exact ⟨q, heff⟩

/-- **What made an operation fail justifies its error**, and goes on to do so. -/
theorem Fails.justified {ls₁ ls₂ : List Label} {l : Label} {u t : Connection} {x : Exchange}
    {e : ClientError} (hf : Fails u c x l e) (hx : u.exchanges[c]? = some x)
    (hu : (machine services peerId).run ls₁ = some u)
    (ht : (machine services peerId).runFrom u (l :: ls₂) = some t)
    (he : (∃ m, e = .connection m) ∨ ∃ m, e = .protocol m) :
    Justified services peerId (ls₁ ++ l :: ls₂)
      (fun d ↦ (machine services peerId).outputs (effectsOf services peerId d) new
        (ls₁ ++ l :: ls₂)) c x.operation (.error e) := by
  have hrun : (machine services peerId).run (ls₁ ++ l :: ls₂) = some t :=
    Machine.runFrom_append_of hu ht
  have hearlier : ∀ {d : Nat} {eff : HandleEffect},
      eff ∈ (machine services peerId).outputs (effectsOf services peerId d) new ls₁ →
      eff ∈ (machine services peerId).outputs (effectsOf services peerId d) new
        (ls₁ ++ l :: ls₂) := by
    intro d eff heff
    have happend := @Machine.outputs_append _ _ _ (machine services peerId)
      (effectsOf services peerId d) _ _ _ (l :: ls₂) hu
    exact happend ▸ List.mem_append_left _ heff
  -- an operation that reads a label has read its response
  have hsucceeded : ∀ {owner : Nat}, x.client = .awaitingLabel owner → ∃ resp,
      .respond (.ok resp) ∈ (machine services peerId).outputs (effectsOf services peerId c) new
        (ls₁ ++ l :: ls₂) := by
    intro owner hp
    have hheard := heard_of_run hu hx
    rw [Heard, hp] at hheard
    obtain ⟨resp, hresp⟩ := hheard
    exact ⟨resp, hearlier ((recorded_of_run hu c).mem_of_response hx hresp)⟩
  cases hf with
  | refused => rcases he with ⟨m, hm⟩ | ⟨m, hm⟩ <;> cases hm
  | failed hev => exact .connection (List.mem_append_right _ List.mem_cons_self) hev
  | unanswered hdone hresp =>
    obtain ⟨y, hy, -, hnone⟩ := Silent.of_run ht ⟨x, hx, hdone, hresp⟩
    refine .unanswered fun r hr ↦ ?_
    have hrecords := recorded_of_run hrun c
    rw [hy] at hrecords
    have hresponses := Records.responses hrecords
    rw [hnone] at hresponses
    exact List.not_mem_nil
      (hresponses ▸ List.mem_filterMap.mpr ⟨_, hr, by rw [HandleEffect.response?]⟩)
  | @unlabelled owner hp hl =>
    obtain ⟨resp, hresp⟩ := hsucceeded hp
    obtain ⟨q, hq⟩ := opened_of_offered hu (.inr ⟨c, x, hx, hp⟩)
    obtain ⟨y, hy, hgaveUp⟩ := (recorded_of_run hu owner).gaveUp hq hl
    obtain ⟨z, hz, hnone, -⟩ := GaveUp.of_run ht ⟨y, hy, hgaveUp⟩
    refine .unlabelled hresp (hearlier hq) fun label hlabel ↦ ?_
    have hrecords := recorded_of_run hrun owner
    rw [hz] at hrecords
    have hlabels := Records.labels hrecords
    rw [hnone] at hlabels
    exact List.not_mem_nil
      (hlabels ▸ List.mem_filterMap.mpr ⟨_, hlabel, by rw [HandleEffect.label?]⟩)
  | @mislabelled owner label e hp hl hr =>
    obtain ⟨resp, hresp⟩ := hsucceeded hp
    obtain ⟨message, rfl⟩ := handshake_error hr
    exact .mislabelled hresp (hearlier ((recorded_of_run hu owner).mem_of_label hl)) hr

end Results

/-- A call beside a subscription, which is not read before the call has returned. -/
def answeredRun : List Label :=
  [.start (.call "demo" "ping" []), .start (Operation.counter 0), .client 1 .next, .client 0 .next,
    .server 0 .read, .server 1 .read, .server 0 .prepared, .server 0 (.admitted true),
    .server 0 (.returned (.ok ⟨[7]⟩)), .server 0 (.sent true), .client 0 .next]

end Connection

end Zel
