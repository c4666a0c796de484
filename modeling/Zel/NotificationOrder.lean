import Zel.Lib.Carries
import Zel.Lib.SerdeJson
import Zel.NotificationDelivery

/-!
# Notifications in order

On a notification stream at most one item is under way: a `send` returns when its item has been
acknowledged, and the next one starts after it.  So the receiver takes the items in the order in
which they were sent, each once, and the end after all of them.  The one thing that makes an item
disappear is that its frame is longer than the codec takes: `send` refuses it, says so, and puts
nothing on the stream.

The runs are the steady ones, and the item type reads back what it wrote.

## What is here

* `started`, `accepted` — the values whose `send` was started, and those of them that can be framed.
* `Ledger` — what was yielded, what is held and what is on its way is what was accepted.
* `InOrder` — what a receiver can rely on; `notifications_in_order` — **it holds in every state**.
* `refused_item_is_skipped` — an item that is refused leaves a gap.
-/

set_option autoImplicit false

namespace Zel

namespace NotificationStream

variable {Item : Type}

/-! ## What was sent -/

/-- The value of the `send` in flight. -/
def ClientPhase.current : ClientPhase Item → List Item
  | .sending v _ | .flushing v | .awaiting v => [v]
  | .idle | .completing | .finishing | .closed => []

/-- The values whose `send` was started, in order. -/
def started (s : NotificationStream Item) : List Item :=
  s.sends.map Prod.fst ++ s.client.current

/-- The value has a frame, and the codec takes it. -/
def sendable (codec : ItemCodec Item) (v : Item) : Bool :=
  match codec.toVec v with
  | .ok b => decide (FitsFrame (NotificationMsg.data b).toJson)
  | .error _ => false

/-- The values whose `send` was started and that can be framed. -/
def accepted (codec : ItemCodec Item) (s : NotificationStream Item) : List Item :=
  s.started.filter (sendable codec)

/-- The client sends no more: it has said so, or is gone. -/
def ClientPhase.over : ClientPhase Item → Bool
  | .finishing | .closed => true
  | .idle | .sending _ _ | .flushing _ | .awaiting _ | .completing => false

/-! ## Where the items are -/

/-- The item that `next` has taken and not returned. -/
def ServerPhase.held : ServerPhase Item → List Item
  | .acking v | .ackFlushing v => [v]
  | .outside | .reading | .gone => []

/-- The value whose frame `send` has yet to queue. -/
def ClientPhase.unsent (codec : ItemCodec Item) : ClientPhase Item → List Item
  | .sending v _ => [v].filter (sendable codec)
  | _ => []

/-- A frame of the call in flight may be in the buffer. -/
def ClientPhase.flushes : ClientPhase Item → Bool
  | .flushing _ | .finishing => true
  | .idle | .sending _ _ | .awaiting _ | .completing | .closed => false

/-- The frames of a notification stream. -/
def frameKinds (codec : ItemCodec Item) : FrameKinds Json Item where
  item j v := ∃ b, j = (NotificationMsg.data b).toJson ∧ codec.fromSlice b = .ok v
  skipped _ := False
  last j := j = NotificationMsg.completed.toJson

/-- What was yielded, what is held and what is on its way is what was accepted. -/
structure Ledger (codec : ItemCodec Item) (s : NotificationStream Item) (vs coming : List Item)
    (closed : Bool) (n : Nat) : Prop where
  returned : Yields s.nexts vs n
  carries : Carries (frameKinds codec) s.data.contents coming closed
  sent : vs ++ s.server.held ++ coming ++ s.client.unsent codec = s.accepted codec
  taken : s.taken.length = vs.length + s.server.held.length
  closed : closed = true → s.client.over = true
  last : n ≠ 0 → s.data.contents = [] ∧ s.server.held = [] ∧ s.client.over = true

/-- What the two directions hold, beside the items. -/
structure Wires (codec : ItemCodec Item) (s : NotificationStream Item) : Prop where
  encoded : ∀ v b, s.client = .sending v b → codec.toVec v = .ok b
  buffer : s.client.flushes = false → s.data.buffer = []
  /-- Only acknowledgments are on their way back. -/
  replies : ∀ j ∈ s.replies.contents, j = NotificationMsg.ack.toJson
  acks : s.answers.length = (acked s.sends).length + s.replies.contents.length

/-- The invariant of the steady runs. -/
structure Orderly (codec : ItemCodec Item) (s : NotificationStream Item) : Prop
    extends Balanced s, Wires codec s where
  ledger : ∃ vs coming closed n, Ledger codec s vs coming closed n

theorem orderly_new (codec : ItemCodec Item) : Orderly codec (new : NotificationStream Item) where
  toBalanced := balanced_new
  toWires := ⟨nofun, fun _ ↦ rfl, nofun, rfl⟩
  ledger := ⟨[], [], false, 0, rfl, .nil, rfl, rfl, nofun, absurd rfl⟩

/-! ## Small facts -/

variable {codec : ItemCodec Item}

theorem accepted_eq (s : NotificationStream Item) :
    s.accepted codec =
      (s.sends.map Prod.fst).filter (sendable codec) ++ s.client.current.filter (sendable codec) :=
  List.filter_append _ _

theorem sendable_of_fits {v : Item} {b : Bytes} (hv : codec.toVec v = .ok b)
    (hfit : FitsFrame (NotificationMsg.data b).toJson) : sendable codec v = true := by
  simp [sendable, hv, hfit]

theorem not_sendable_of_refused {v : Item} {b : Bytes} (hv : codec.toVec v = .ok b)
    (hbig : ¬ FitsFrame (NotificationMsg.data b).toJson) : sendable codec v = false := by
  simp [sendable, hv, hbig]

theorem not_sendable_of_error {v : Item} {e : String} (hv : codec.toVec v = .error e) :
    sendable codec v = false := by
  simp [sendable, hv]

theorem fits_of_not_refused {v : Item} {b : Bytes}
    (h : (ClientPhase.sending v b).refused = none) :
    FitsFrame (NotificationMsg.data b).toJson := by
  by_contra hbig
  simp [ClientPhase.refused, hbig] at h

@[simp] theorem replyResult_ack :
    replyResult codec NotificationMsg.ack.toJson = .ok () := by
  simp [replyResult]

/-- A client that goes on sending has not ended the stream. -/
theorem Ledger.not_over {s : NotificationStream Item} {vs coming : List Item} {closed : Bool}
    {n : Nat} (hl : Ledger codec s vs coming closed n) (ho : s.client.over = false) :
    closed = false ∧ n = 0 := by
  constructor
  · cases hc : closed with
    | false => rfl
    | true =>
      have := hl.closed hc
      rw [ho] at this
      cases this
  · by_contra hn
    have := (hl.last hn).2.2
    rw [ho] at this
    cases this

/-- A step of the client that moves no frame. -/
theorem Ledger.client {s : NotificationStream Item} {vs coming : List Item} {closed : Bool}
    {n : Nat} (hl : Ledger codec s vs coming closed n) {p : ClientPhase Item}
    {sends : List (Item × Except ClientError Unit)} {data : Channel Json}
    {replies : Channel Json} (hdata : data.contents = s.data.contents)
    (hsent : ∀ xs, xs ++ s.client.unsent codec = s.accepted codec →
      xs ++ p.unsent codec = accepted codec { s with client := p, sends := sends })
    (hover : s.client.over = true → p.over = true) :
    Ledger codec { s with client := p, sends := sends, data := data, replies := replies }
      vs coming closed n where
  returned := hl.returned
  carries := hdata ▸ hl.carries
  sent := hsent _ hl.sent
  taken := hl.taken
  closed h := hover (hl.closed h)
  last hn := by
    obtain ⟨hcontents, hheld, ho⟩ := hl.last hn
    exact ⟨hdata.trans hcontents, hheld, hover ho⟩

/-- A step of the server that moves no frame. -/
theorem Ledger.server {s : NotificationStream Item} {vs coming : List Item} {closed : Bool}
    {n : Nat} (hl : Ledger codec s vs coming closed n) {p : ServerPhase Item}
    {replies : Channel Json} {answers : List NotificationMsg} (hheld : p.held = s.server.held) :
    Ledger codec { s with server := p, replies := replies, answers := answers }
      vs coming closed n where
  returned := hl.returned
  carries := hl.carries
  sent := by
    show vs ++ p.held ++ coming ++ _ = _
    rw [hheld]
    exact hl.sent
  taken := by
    show s.taken.length = vs.length + p.held.length
    rw [hheld]
    exact hl.taken
  closed := hl.closed
  last hn := by
    obtain ⟨hcontents, hnone, ho⟩ := hl.last hn
    exact ⟨hcontents, hheld.trans hnone, ho⟩

/-- **A frame is queued.** -/
theorem Ledger.enqueue {codec : RoundTripCodec Item} {s : NotificationStream Item}
    {vs coming : List Item} {closed : Bool} {n : Nat}
    (hl : Ledger codec.toItemCodec s vs coming closed n)
    (hencoded : ∀ v b, s.client = .sending v b → codec.toVec v = .ok b)
    (hfit : s.client.refused = none) {p : ClientPhase Item} {m : NotificationMsg}
    (hc : s.client.enqueue = some (p, m)) :
    ∃ coming closed, Ledger codec.toItemCodec
      { s with client := p, data := s.data.push m.toJson } vs coming closed n := by
  have hsent := hl.sent
  rw [accepted_eq] at hsent
  rcases ClientPhase.enqueue_eq_some hc with ⟨v, b, hclient, rfl, rfl⟩ | ⟨hclient, rfl, rfl⟩
  · obtain ⟨rfl, rfl⟩ := hl.not_over (by rw [hclient]; rfl)
    rw [hclient] at hfit hsent
    have hv := hencoded v b hclient
    have hsend := sendable_of_fits hv (fits_of_not_refused hfit)
    refine ⟨coming ++ [v], false, hl.returned, ?_, ?_, hl.taken, nofun, absurd rfl⟩
    · show Carries _ (s.data.push _).contents _ _
      rw [Channel.contents_push]
      exact hl.carries.concat_item ⟨b, rfl, codec.round_trip v b hv⟩
    · rw [accepted_eq]
      simp only [ClientPhase.unsent, ClientPhase.current, List.filter_cons_of_pos hsend,
        List.filter_nil, List.append_nil, ← List.append_assoc] at hsent ⊢
      exact hsent
  · obtain ⟨rfl, rfl⟩ := hl.not_over (by rw [hclient]; rfl)
    rw [hclient] at hsent
    refine ⟨coming, true, hl.returned, ?_, ?_, hl.taken, fun _ ↦ rfl, absurd rfl⟩
    · show Carries _ (s.data.push _).contents _ _
      rw [Channel.contents_push]
      exact hl.carries.concat_last rfl
    · rw [accepted_eq]
      exact hsent

/-- **A frame is read** by `next`. -/
theorem Ledger.read {s : NotificationStream Item} {vs coming : List Item} {closed : Bool}
    {n : Nat} (hl : Ledger codec s vs coming closed n) {j : Json} {c : Channel Json}
    (hread : s.server = .reading) (hd : s.data.pop = some (j, c)) :
    ∃ vs coming closed n, Ledger codec { s with
      server := (receive codec j).phase
      data := c
      nexts := s.nexts ++ (receive codec j).result
      taken := s.taken ++ (payload j).toList } vs coming closed n := by
  obtain ⟨hret, hcarries, hsent, htaken, hclosed, hlast⟩ := hl
  rw [Channel.contents_of_pop hd] at hcarries hlast
  have hn : n = 0 := by
    by_contra hn
    cases (hlast hn).1
  subst hn
  rw [hread] at hsent htaken
  generalize hrest : c.contents = frames at hcarries
  cases hcarries with
  | last hj =>
    cases hj
    refine ⟨vs, [], false, 1, ?_, hrest ▸ .nil, hsent, ?_, nofun, fun _ ↦
      ⟨hrest, by simp [receive, Received.phase, ServerPhase.held], hclosed rfl⟩⟩
    · simpa [receive, Received.result] using hret.concat_end
    · simpa [receive, Received.phase, ServerPhase.held] using htaken
  | skipped hj => exact hj.elim
  | @item _ _ v vs' e hj hcarries =>
    obtain ⟨b, rfl, hv⟩ := hj
    refine ⟨vs, vs', closed, 0, ?_, hrest ▸ hcarries, ?_, ?_, hclosed, absurd rfl⟩
    · simpa [receive_data (payload_data b), hv, Received.result] using hret
    · show vs ++ (receive codec _).phase.held ++ vs' ++ _ = s.accepted codec
      rw [← hsent, receive_data (payload_data b), hv]
      simp [Received.phase, ServerPhase.held]
    · show (s.taken ++ _).length = vs.length + (receive codec _).phase.held.length
      rw [receive_data (payload_data b), hv, payload_data]
      simp only [ServerPhase.held, List.length_nil, Nat.add_zero] at htaken
      simp [Received.phase, ServerPhase.held, htaken]

/-- Every `Data` frame that `next` takes decodes. -/
theorem Orderly.readsDecodable {s : NotificationStream Item} (hs : Orderly codec s)
    (l : Label Item) : ReadsDecodable codec s l := by
  cases l with
  | read =>
    intro j c b hd hj
    obtain ⟨vs, coming, closed, n, hl⟩ := hs.ledger
    have hc := hl.carries
    rw [Channel.contents_of_pop hd] at hc
    generalize c.contents = frames at hc
    cases hc with
    | last hj' =>
      cases hj'
      simp at hj
    | skipped hj' => exact hj'.elim
    | item hj' =>
      obtain ⟨b', rfl, hv⟩ := hj'
      rw [payload_data, Option.some_inj] at hj
      exact ⟨_, hj ▸ hv⟩
  | _ => trivial

/-! ## Every step keeps the order -/

/-- A `send` that returns was the one in flight. -/
theorem accepted_of_return {s : NotificationStream Item} {v : Item}
    (hcur : s.client.current = [v]) (r : Except ClientError Unit) :
    accepted codec { s with client := .idle, sends := s.sends ++ [(v, r)] } = s.accepted codec := by
  rw [accepted_eq, accepted_eq, hcur]
  simp [ClientPhase.current]

/-- **A step of a steady run keeps the ledger.** -/
theorem Moves.ledger {codec : RoundTripCodec Item} {s t : NotificationStream Item}
    {l : Label Item} (hm : Moves codec.toItemCodec s l t) (hl : l.steady = true)
    (hs : Orderly codec.toItemCodec s) :
    ∃ vs coming closed n, Ledger codec.toItemCodec t vs coming closed n := by
  obtain ⟨vs, coming, closed, n, hledger⟩ := hs.ledger
  cases hm with
  | @send v b hidle hv =>
    refine ⟨vs, coming, closed, n, hledger.client rfl (fun xs hxs ↦ ?_) (by rw [hidle]; exact id)⟩
    rw [accepted_eq, hidle] at hxs
    rw [accepted_eq]
    simp only [ClientPhase.unsent, ClientPhase.current, List.filter_nil, List.append_nil] at hxs ⊢
    rw [hxs]
  | @sendFail v e hidle hv =>
    refine ⟨vs, coming, closed, n, hledger.client (p := s.client) rfl (fun xs hxs ↦ ?_) id⟩
    rw [hxs, accepted_eq, accepted_eq]
    simp [not_sendable_of_error hv]
  | complete hidle =>
    refine ⟨vs, coming, closed, n, hledger.client rfl (fun xs hxs ↦ ?_) (by rw [hidle]; exact id)⟩
    rw [accepted_eq, hidle] at hxs
    rw [accepted_eq]
    exact hxs
  | enqueue hfit hc =>
    obtain ⟨coming', closed', hledger'⟩ := hledger.enqueue hs.encoded hfit hc
    exact ⟨vs, coming', closed', n, hledger'⟩
  | @refused v hv =>
    obtain ⟨b, hsending, hbig⟩ := ClientPhase.refused_eq_some hv
    have hno := not_sendable_of_refused (hs.encoded v b hsending) hbig
    refine ⟨vs, coming, closed, n,
      hledger.client rfl (fun xs hxs ↦ ?_) (by rw [hsending]; exact id)⟩
    rw [accepted_of_return (by rw [hsending]; rfl), ← hxs, hsending]
    simp [ClientPhase.unsent, hno]
  | flush _ hd =>
    have hmoved : Ledger codec.toItemCodec { s with data := _ } vs coming closed n :=
      hledger.client (p := s.client) (Channel.contents_of_flush hd) (fun _ hxs ↦ hxs) id
    exact ⟨vs, coming, closed, n, hmoved⟩
  | @flushed p hc hd =>
    refine ⟨vs, coming, closed, n, hledger.client rfl (fun xs hxs ↦ ?_) ?_⟩
    · rw [accepted_eq] at hxs ⊢
      rcases ClientPhase.flushed_eq_some hc with ⟨v, hclient, rfl⟩ | ⟨hclient, rfl⟩ <;>
        rw [hclient] at hxs <;> exact hxs
    · rcases ClientPhase.flushed_eq_some hc with ⟨v, hclient, rfl⟩ | ⟨hclient, rfl⟩ <;>
        rw [hclient] <;> exact id
  | @reply v j c hwait hr =>
    refine ⟨vs, coming, closed, n, hledger.client rfl (fun xs hxs ↦ ?_) (by rw [hwait]; exact id)⟩
    rw [accepted_of_return (by rw [hwait]; rfl), ← hxs, hwait]
    rfl
  | replyEof _ hgone => exact absurd hgone hs.stays
  | dropSend => cases hl
  | hangUp hidle =>
    refine ⟨vs, coming, closed, n, hledger.client rfl (fun xs hxs ↦ ?_) fun _ ↦ rfl⟩
    rw [accepted_eq, hidle] at hxs
    rw [accepted_eq]
    exact hxs
  | call hout => exact ⟨vs, coming, closed, n, hledger.server (by rw [hout]; rfl)⟩
  | read hread hd => exact hledger.read hread hd
  | eof hread hc hd =>
    have hempty : s.data.contents = [] := by
      rw [Channel.contents, hd, hs.buffer (by rw [hc]; rfl)]
      rfl
    have hmoved : Ledger codec.toItemCodec { s with server := .outside } vs coming closed n :=
      hledger.server (by rw [hread]; rfl)
    exact ⟨vs, coming, closed, n + 1, hmoved.returned.concat_end, hmoved.carries, hmoved.sent,
      hmoved.taken, hmoved.closed, fun _ ↦ ⟨hempty, rfl, by rw [hc]; rfl⟩⟩
  | enqueueAck hack => exact ⟨vs, coming, closed, n, hledger.server (by rw [hack]; rfl)⟩
  | flushAck =>
    exact ⟨vs, coming, closed, n, hledger.server rfl⟩
  | @ackFlushed v hack =>
    obtain ⟨hret, hcarries, hsent, htaken, hclosed, hlast⟩ := hledger
    rw [hack] at hsent htaken hlast
    have hn : n = 0 := by
      by_contra hn
      cases (hlast hn).2.1
    subst hn
    refine ⟨vs ++ [v], coming, closed, 0, hret.concat_item v, hcarries, ?_, ?_, hclosed,
      absurd rfl⟩
    · show vs ++ [v] ++ [] ++ coming ++ _ = s.accepted codec.toItemCodec
      rw [← hsent]
      simp [ServerPhase.held]
    · simpa [ServerPhase.held] using htaken
  | dropNext => cases hl
  | handlerReturn => cases hl

/-- A step of the client that moves no frame. -/
theorem Wires.client {s : NotificationStream Item} (hs : Wires codec s) {p : ClientPhase Item}
    {sends : List (Item × Except ClientError Unit)}
    (hencoded : ∀ v b, p = .sending v b → codec.toVec v = .ok b)
    (hbuffer : p.flushes = false → s.data.buffer = [])
    (hsends : (acked sends).length = (acked s.sends).length) :
    Wires codec { s with client := p, sends := sends } where
  encoded := hencoded
  buffer := hbuffer
  replies := hs.replies
  acks := by
    rw [hsends]
    exact hs.acks

/-- **A step of a steady run keeps the rest of the invariant.** -/
theorem Moves.wires {s t : NotificationStream Item} {l : Label Item} (hm : Moves codec s l t)
    (hl : l.steady = true) (hs : Orderly codec s) : Wires codec t := by
  have hw := hs.toWires
  cases hm with
  | @send v b hidle hv =>
    refine hw.client (fun w b' he ↦ ?_) (fun _ ↦ hw.buffer (by rw [hidle]; rfl)) rfl
    cases he
    exact hv
  | sendFail => exact hw.client hw.encoded hw.buffer (by rw [acked_concat_error])
  | complete hidle => exact hw.client nofun (fun _ ↦ hw.buffer (by rw [hidle]; rfl)) rfl
  | @enqueue p m hfit hc =>
    rcases ClientPhase.enqueue_eq_some hc with ⟨v, b, -, rfl, -⟩ | ⟨-, rfl, -⟩ <;>
      exact ⟨nofun, nofun, hw.replies, hw.acks⟩
  | refused hv =>
    obtain ⟨b, hsending, -⟩ := ClientPhase.refused_eq_some hv
    exact hw.client nofun (fun _ ↦ hw.buffer (by rw [hsending]; rfl)) (by rw [acked_concat_error])
  | @flush d hwrites hd =>
    refine ⟨hw.encoded, fun hf ↦ ?_, hw.replies, hw.acks⟩
    have hempty := hw.buffer hf
    rw [Channel.flush, hempty] at hd
    cases hd
  | @flushed p hc hd =>
    refine hw.client ?_ (fun _ ↦ hd) rfl
    rcases ClientPhase.flushed_eq_some hc with ⟨v, -, rfl⟩ | ⟨-, rfl⟩ <;> exact nofun
  | @reply v j c hwait hr =>
    have hcontents := Channel.contents_of_pop hr
    have hj : j = NotificationMsg.ack.toJson := hw.replies j (by rw [hcontents]; simp)
    subst hj
    refine ⟨nofun, fun _ ↦ hw.buffer (by rw [hwait]; rfl), fun j hj ↦ ?_, ?_⟩
    · exact hw.replies j (by rw [hcontents]; exact List.mem_cons_of_mem _ hj)
    · have hacks := hw.acks
      rw [hcontents, List.length_cons] at hacks
      show s.answers.length =
        (acked (s.sends ++ [(v, replyResult codec _)])).length + c.contents.length
      rw [replyResult_ack, acked_concat_ok, List.length_append, List.length_singleton]
      omega
  | replyEof _ hgone => exact absurd hgone hs.stays
  | dropSend => cases hl
  | hangUp hidle => exact hw.client nofun (fun _ ↦ hw.buffer (by rw [hidle]; rfl)) rfl
  | @read j c hread hd =>
    refine ⟨hw.encoded, fun hf ↦ ?_, hw.replies, hw.acks⟩
    exact (Channel.buffer_of_pop hd).trans (hw.buffer hf)
  | enqueueAck hack =>
    refine ⟨hw.encoded, hw.buffer, fun j hj ↦ ?_, ?_⟩
    · rw [Channel.contents_push] at hj
      rcases List.mem_append.mp hj with hj | hj
      · exact hw.replies j hj
      · exact List.mem_singleton.mp hj
    · have hacks := hw.acks
      simp only [Channel.contents_push, List.length_append, List.length_singleton]
      omega
  | flushAck _ hr =>
    refine ⟨hw.encoded, hw.buffer, fun j hj ↦ ?_, ?_⟩
    · rw [Channel.contents_of_flush hr] at hj
      exact hw.replies j hj
    · rw [Channel.contents_of_flush hr]
      exact hw.acks
  | dropNext => cases hl
  | handlerReturn => cases hl
  | _ => exact ⟨hw.encoded, hw.buffer, hw.replies, hw.acks⟩

theorem Moves.orderly {codec : RoundTripCodec Item} {s t : NotificationStream Item}
    {l : Label Item} (hm : Moves codec.toItemCodec s l t) (hl : l.steady = true)
    (hs : Orderly codec.toItemCodec s) : Orderly codec.toItemCodec t where
  toBalanced := hm.balanced hl hs.toBalanced (hs.readsDecodable l)
  toWires := hm.wires hl hs
  ledger := hm.ledger hl hs

/-! ## The order -/

/-- What a receiver can rely on. -/
structure InOrder (codec : ItemCodec Item) (s : NotificationStream Item) : Prop where
  /-- `next` has returned a prefix of what was accepted, each item as `Ok`, and the end only when
  the client sends no more and after all of it. -/
  items : ∃ vs n, Yields s.nexts vs n ∧ vs <+: s.accepted codec ∧
    (n ≠ 0 → s.client.over = true ∧ vs = s.accepted codec)
  /-- The client has read at most as many acknowledgments as `next` has consumed `Data` frames. -/
  acks : (acked s.sends).length ≤ s.taken.length
  started : s.taken.length ≤ s.started.length
  returned : s.taken.length ≤ s.sends.length + 1

theorem ClientPhase.unsent_of_over {p : ClientPhase Item} (h : p.over = true) :
    p.unsent codec = [] := by
  cases p with
  | sending v b => cases h
  | _ => rfl

theorem ClientPhase.current_length_le (p : ClientPhase Item) : p.current.length ≤ 1 := by
  cases p <;> simp [current]

theorem Orderly.inOrder {s : NotificationStream Item} (hs : Orderly codec s) :
    InOrder codec s := by
  obtain ⟨vs, coming, closed, n, hl⟩ := hs.ledger
  have htaken : s.taken.length ≤ s.started.length := by
    have hlen := congrArg List.length hl.sent
    have hfilter := List.length_filter_le (sendable codec) s.started
    have hcount := hl.taken
    simp only [List.length_append, accepted] at hlen
    omega
  constructor
  · refine ⟨vs, n, hl.returned, ⟨s.server.held ++ (coming ++ s.client.unsent codec), ?_⟩,
      fun hn ↦ ?_⟩
    · rw [← hl.sent, List.append_assoc, List.append_assoc]
    · obtain ⟨hcontents, hheld, hover⟩ := hl.last hn
      have hsent := hl.sent
      have hcarries := hl.carries
      rw [hcontents] at hcarries
      rw [hcarries.nil_items, hheld, ClientPhase.unsent_of_over hover] at hsent
      simp only [List.append_nil] at hsent
      exact ⟨hover, hsent⟩
  · have hcount := hs.count
    have hacks := hs.acks
    omega
  · exact htaken
  · have hcur := s.client.current_length_le
    simp only [started, List.length_append, List.length_map] at htaken
    omega

/-- **Notifications arrive in order.**  In every state of a steady run over an item type that reads
back what it wrote: `next` has returned a prefix of the values that were sent and can be framed; the
client has read at most as many acknowledgments as `next` has consumed `Data` frames, which are at
most as many as `send`s were started and at most one more than have returned; and `next` has
returned `None` only after all of the items. -/
theorem notifications_in_order (codec : RoundTripCodec Item) (ls : List (Label Item)) :
    (steadyMachine codec.toItemCodec).Along (InOrder codec.toItemCodec) new ls := by
  have h := Machine.along_of_invariant (M := steadyMachine codec.toItemCodec)
    (I := Orderly codec.toItemCodec)
    (fun _ _ _ hs ht ↦ (moves_of_steady ht).1.orderly (moves_of_steady ht).2 hs)
    (orderly_new codec.toItemCodec) ls
  exact h.mono fun _ hs ↦ hs.inOrder

/-! ## An item that is refused -/

/-- Four mebibytes never fit a `Data` frame. -/
theorem not_fits_of_length {b : Bytes} (h : maxFrameLength ≤ 2 * b.length) :
    ¬ FitsFrame (NotificationMsg.data b).toJson := by
  have hle := Json.le_textLength_ofBytes b
  rw [FitsFrame, NotificationMsg.toJson, Json.textLength_field]
  omega

/-- A `send` that is refused leaves the stream as it was. -/
theorem run_refused {codec : ItemCodec Item} {v : Item} {b : Bytes} (hv : codec.toVec v = .ok b)
    (hbig : ¬ FitsFrame (NotificationMsg.data b).toJson) :
    (steadyMachine codec).run [.send v, .enqueue] =
      some { new with sends := [(v, .error (.connection frameTooBig))] } := by
  have hstart : (new : NotificationStream Item).step codec (.send v) =
      some { new with client := .sending v b } := by
    simp only [step, new, hv]
  have hrefused : (ClientPhase.sending v b).refused = some v := if_neg hbig
  refine Machine.runFrom_cons_eq_some.mpr ⟨{ new with client := .sending v b }, hstart, ?_⟩
  rw [Machine.runFrom_singleton]
  simp only [steadyMachine, Label.steady, if_true, step, hrefused]
  rfl

/-- Items of the type `Vec<bool>`. -/
def boolsCodec : RoundTripCodec (List Bool) where
  toVec v := .ok (SerdeJson.boolsText v)
  fromSlice b :=
    match SerdeJson.readBools .array b with
    | some v => .ok v
    | none => .error "invalid value"
  envelopeError _ := "invalid value"
  round_trip v b h := by
    cases h
    simp only [SerdeJson.readBools_boolsText]

/-- An empty item is sent after that, and the receiver returns it. -/
def emptyItemRun : List (Label (List Bool)) :=
  [.send [], .enqueue, .flush, .flushed, .call, .read, .enqueueAck, .flushAck, .ackFlushed]

/-- **An item that is too long is skipped**: what `next` returns is no prefix of what was sent. -/
theorem refused_item_is_skipped :
    ∃ s, (steadyMachine boolsCodec.toItemCodec).run
        ([.send (List.replicate (4 * 1024 * 1024) true), .enqueue] ++ emptyItemRun) = some s ∧
      ¬ delivered s.nexts <+: s.started := by
  have key : ∀ v : List Bool, v ≠ [] →
      ¬ FitsFrame (NotificationMsg.data (SerdeJson.boolsText v)).toJson →
      ∃ s, (steadyMachine boolsCodec.toItemCodec).run ([.send v, .enqueue] ++ emptyItemRun) =
        some s ∧ ¬ delivered s.nexts <+: s.started := by
    intro v hne hbig
    refine ⟨_, Machine.runFrom_append_of (run_refused rfl hbig) rfl, ?_⟩
    rintro ⟨ws, hws⟩
    cases hws
    exact hne rfl
  refine key _ ?_ (not_fits_of_length ?_)
  · exact List.ne_nil_of_length_pos (by rw [List.length_replicate]; decide)
  · have hlong := SerdeJson.length_le_boolsText (List.replicate (4 * 1024 * 1024) true)
    rw [List.length_replicate] at hlong
    exact Nat.le_trans (by decide) (Nat.mul_le_mul_left 2 hlong)

end NotificationStream

end Zel
