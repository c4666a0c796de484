import Mathlib.Data.List.Forall2
import Zel.NotificationOrder

/-!
# Replies of a handler of one's own

A notification resource that is registered by hand gets the two halves of its stream and a
`NotificationSink`, and answers each item as it likes: `ack()` or `error(message)`
(`protocol/streaming.rs`).  The client knows no item numbers: a `send` takes the next reply for its
own (`protocol/client.rs`).  That works as long as the handler answers no item twice, since a client
has one `send` in flight at most.  Then the results of its calls are, one by one, the answers that
the handler gave to these very items; only after the handler is gone a `send` may end without one.

The sink's frames pass the codec too: an error message that is too long is refused, and the item
still waits for its answer.

The connection stays up.  A handler that returns drops both its halves: a `send` that waits finds
the reply stream ended, maybe inside a frame, and one that writes may find its own stream stopped.

## What is here

* `Answer` — what the sink sends, and what `send` makes of it.
* `RawNotification`, `step`, `machine` — the stream with such a handler; `Moves` its inversion.
* `Matched` — where the answers are; `sends_answered` — **every result is the item's own**.
-/

set_option autoImplicit false

namespace Zel

open NotificationStream

/-! ## Answers -/

/-- The two methods of `NotificationSink` that send. -/
inductive Answer where
  /-- `ack()` -/
  | ack
  /-- `error(error_msg)` -/
  | error (message : String)
  deriving DecidableEq

/-- The message that the sink sends. -/
def Answer.msg : Answer → NotificationMsg
  | .ack => .ack
  | .error message => .error message

/-- What the answer is to the `send` that reads it. -/
def Answer.result : Answer → Except ClientError Unit
  | .ack => .ok ()
  | .error message => .error (.protocol ("Server error: " ++ message))

theorem replyResult_msg {Item : Type} (codec : ItemCodec Item) (a : Answer) :
    replyResult codec a.msg.toJson = a.result := by
  cases a <;> simp [replyResult, Answer.msg, Answer.result]

/-! ## The stream -/

namespace RawNotification

/-- Where the handler stands. -/
inductive ServerPhase where
  /-- In no call of its sink. -/
  | listening
  /-- In `ack` or `error`, whose frame is not queued. -/
  | answering (a : Answer)
  /-- The frame is queued and the sink flushes. -/
  | flushing
  /-- The handler has returned. -/
  | gone
  deriving DecidableEq

end RawNotification

open RawNotification in
/-- A notification stream whose handler uses its `NotificationSink` directly. -/
structure RawNotification (Item : Type) where
  client : ClientPhase Item
  server : RawNotification.ServerPhase
  /-- The payload of the last `Data` frame, until it is answered. -/
  item : Option Bytes
  data : Channel Json
  replies : Channel Json
  /-- The results of the calls of `send`. -/
  sends : List (Item × Except ClientError Unit)
  /-- The answers that were queued, with the items that were open then. -/
  answers : List (Option Bytes × Answer)

namespace RawNotification

variable {Item : Type}

/-- The stream once the handshake is over. -/
def new : RawNotification Item := ⟨.idle, .listening, none, .empty, .empty, [], []⟩

/-- The steps of the two parties. -/
inductive Label (Item : Type) where
  /-- `send(v)` is called. -/
  | send (v : Item)
  /-- `complete()` is called. -/
  | complete
  /-- The client's frame is queued, or refused. -/
  | enqueue
  | flush
  | flushed
  /-- `send` reads its reply. -/
  | reply
  /-- `send` finds the reply stream ended. -/
  | replyEof
  /-- `send` finds it ended inside a frame. -/
  | replyCut (e : String)
  /-- The handler is gone and has stopped the stream, so that a write fails. -/
  | writeFail (e : String)
  /-- The call in flight is dropped. -/
  | dropSend
  /-- The sender is dropped. -/
  | hangUp
  /-- The handler reads a frame. -/
  | read
  /-- The handler calls `ack` or `error`. -/
  | answer (a : Answer)
  /-- The sink's frame is queued, or refused. -/
  | enqueueAnswer
  | flushAnswer
  | answerFlushed
  /-- The call of the sink is dropped. -/
  | dropAnswer
  /-- The handler returns. -/
  | handlerReturn

/-- What is left of a client whose write has failed, and the item whose `send` ends with that. -/
def interrupted : ClientPhase Item → Option (ClientPhase Item × Option Item)
  | .sending v _ | .flushing v => some (.idle, some v)
  | .completing | .finishing => some (.closed, none)
  | .idle | .awaiting _ | .closed => none

variable (codec : ItemCodec Item)

/-- One step.  The client is that of every notification stream, but for the writes that fail. -/
def step (s : RawNotification Item) : Label Item → Option (RawNotification Item)
  | .send v =>
    match s.client, codec.toVec v with
    | .idle, .ok b => some { s with client := .sending v b }
    | .idle, .error e => some { s with sends := s.sends ++ [(v, .error (.serialization e))] }
    | _, _ => none
  | .complete =>
    match s.client with
    | .idle => some { s with client := .completing }
    | _ => none
  | .enqueue =>
    match s.client.refused with
    | some v => some { s with
        client := .idle
        sends := s.sends ++ [(v, .error (.connection frameTooBig))] }
    | none => s.client.enqueue.map fun (p, m) ↦
        { s with client := p, data := s.data.push m.toJson }
  | .flush => if s.client.writes then s.data.flush.map fun d ↦ { s with data := d } else none
  | .flushed =>
    if s.data.buffer = [] then s.client.flushed.map fun p ↦ { s with client := p } else none
  | .reply =>
    match s.client, s.replies.pop with
    | .awaiting v, some (j, c) => some { s with
        client := .idle
        replies := c
        sends := s.sends ++ [(v, replyResult codec j)] }
    | _, _ => none
  | .replyEof =>
    match s.client, s.server, s.replies.wire with
    | .awaiting v, .gone, [] => some { s with
        client := .idle
        sends := s.sends ++ [(v, .error (.protocol "No acknowledgment received"))] }
    | _, _, _ => none
  | .replyCut e =>
    match s.client, s.server, s.replies.wire, s.replies.buffer with
    | .awaiting v, .gone, [], _ :: _ => some { s with
        client := .idle
        sends := s.sends ++ [(v, .error (.connection e))] }
    | _, _, _, _ => none
  | .writeFail e =>
    match s.server, s.data.buffer with
    | .gone, _ :: _ => (interrupted s.client).map fun (p, v) ↦ { s with
        client := p
        sends := s.sends ++ v.toList.map fun v ↦ (v, .error (.connection e)) }
    | _, _ => none
  | .dropSend => s.client.dropped.map fun p ↦ { s with client := p }
  | .hangUp =>
    match s.client with
    | .idle => some { s with client := .closed }
    | _ => none
  | .read =>
    match s.server, s.data.pop with
    | .listening, some (j, c) => some { s with data := c, item := (payload j).or s.item }
    | _, _ => none
  | .answer a =>
    match s.server with
    | .listening => some { s with server := .answering a }
    | _ => none
  | .enqueueAnswer =>
    match s.server with
    | .answering a =>
      if FitsFrame a.msg.toJson then
        some { s with
          server := .flushing
          item := none
          replies := s.replies.push a.msg.toJson
          answers := s.answers ++ [(s.item, a)] }
      else some { s with server := .listening }
    | _ => none
  | .flushAnswer =>
    match s.server with
    | .answering _ | .flushing => s.replies.flush.map fun c ↦ { s with replies := c }
    | _ => none
  | .answerFlushed =>
    match s.server, s.replies.buffer with
    | .flushing, [] => some { s with server := .listening }
    | _, _ => none
  | .dropAnswer =>
    match s.server with
    | .answering _ | .flushing => some { s with server := .listening }
    | _ => none
  | .handlerReturn =>
    match s.server with
    | .listening => some { s with server := .gone }
    | _ => none

/-- All runs of a stream. -/
def machine : Machine (RawNotification Item) (Label Item) := ⟨new, step codec⟩

/-- The steps, one constructor for each way a label can move the stream. -/
inductive Moves (s : RawNotification Item) : Label Item → RawNotification Item → Prop
  | send {v : Item} {b : Bytes} (hc : s.client = .idle) (hv : codec.toVec v = .ok b) :
      Moves s (.send v) { s with client := .sending v b }
  | sendFail {v : Item} {e : String} (hc : s.client = .idle) (hv : codec.toVec v = .error e) :
      Moves s (.send v) { s with sends := s.sends ++ [(v, .error (.serialization e))] }
  | complete (hc : s.client = .idle) : Moves s .complete { s with client := .completing }
  | enqueue {p : ClientPhase Item} {m : NotificationMsg} (hfit : s.client.refused = none)
      (hc : s.client.enqueue = some (p, m)) :
      Moves s .enqueue { s with client := p, data := s.data.push m.toJson }
  | refused {v : Item} (hv : s.client.refused = some v) : Moves s .enqueue { s with
        client := .idle
        sends := s.sends ++ [(v, .error (.connection frameTooBig))] }
  | flush {d : Channel Json} (hd : s.data.flush = some d) : Moves s .flush { s with data := d }
  | flushed {p : ClientPhase Item} (hc : s.client.flushed = some p) :
      Moves s .flushed { s with client := p }
  | reply {v : Item} {j : Json} {c : Channel Json} (hc : s.client = .awaiting v)
      (hr : s.replies.pop = some (j, c)) : Moves s .reply { s with
        client := .idle, replies := c, sends := s.sends ++ [(v, replyResult codec j)] }
  | replyEof {v : Item} (hc : s.client = .awaiting v) (hs : s.server = .gone)
      (hr : s.replies.wire = []) : Moves s .replyEof { s with
        client := .idle
        sends := s.sends ++ [(v, .error (.protocol "No acknowledgment received"))] }
  | replyCut {v : Item} {e : String} (hc : s.client = .awaiting v) (hs : s.server = .gone)
      (hr : s.replies.wire = []) : Moves s (.replyCut e) { s with
        client := .idle, sends := s.sends ++ [(v, .error (.connection e))] }
  | writeFail {p : ClientPhase Item} {v : Option Item} {e : String} (hs : s.server = .gone)
      (hd : s.data.buffer ≠ []) (hc : interrupted s.client = some (p, v)) :
      Moves s (.writeFail e) { s with
        client := p
        sends := s.sends ++ v.toList.map fun v ↦ (v, .error (.connection e)) }
  | dropSend {p : ClientPhase Item} (hc : s.client.dropped = some p) :
      Moves s .dropSend { s with client := p }
  | hangUp (hc : s.client = .idle) : Moves s .hangUp { s with client := .closed }
  | read {j : Json} {c : Channel Json} (hs : s.server = .listening)
      (hd : s.data.pop = some (j, c)) :
      Moves s .read { s with data := c, item := (payload j).or s.item }
  | answer {a : Answer} (hs : s.server = .listening) :
      Moves s (.answer a) { s with server := .answering a }
  | enqueueAnswer {a : Answer} (hs : s.server = .answering a) (hfit : FitsFrame a.msg.toJson) :
      Moves s .enqueueAnswer { s with
        server := .flushing
        item := none
        replies := s.replies.push a.msg.toJson
        answers := s.answers ++ [(s.item, a)] }
  | refuseAnswer {a : Answer} (hs : s.server = .answering a) (hbig : ¬ FitsFrame a.msg.toJson) :
      Moves s .enqueueAnswer { s with server := .listening }
  | flushAnswer {c : Channel Json} (hs : s.server ≠ .gone) (hr : s.replies.flush = some c) :
      Moves s .flushAnswer { s with replies := c }
  | answerFlushed (hs : s.server = .flushing) :
      Moves s .answerFlushed { s with server := .listening }
  | dropAnswer (hs : s.server ≠ .gone) : Moves s .dropAnswer { s with server := .listening }
  | handlerReturn (hs : s.server = .listening) : Moves s .handlerReturn { s with server := .gone }

variable {codec}

theorem moves_of_step {s t : RawNotification Item} {l : Label Item}
    (h : s.step codec l = some t) : Moves codec s l t := by
  cases l with
  | send v =>
    simp only [step] at h
    split at h
    · rename_i b hc hv; cases h; exact .send hc hv
    · rename_i e hc hv; cases h; exact .sendFail hc hv
    · cases h
  | complete =>
    simp only [step] at h
    split at h
    · rename_i hc; cases h; exact .complete hc
    · cases h
  | enqueue =>
    simp only [step] at h
    split at h
    · rename_i v hv; cases h; exact .refused hv
    · rename_i hfit
      obtain ⟨⟨p, m⟩, hc, rfl⟩ := Option.map_eq_some_iff.mp h
      exact .enqueue hfit hc
  | flush =>
    simp only [step] at h
    split at h
    · obtain ⟨d, hd, rfl⟩ := Option.map_eq_some_iff.mp h
      exact .flush hd
    · cases h
  | flushed =>
    simp only [step] at h
    split at h
    · obtain ⟨p, hc, rfl⟩ := Option.map_eq_some_iff.mp h
      exact .flushed hc
    · cases h
  | reply =>
    simp only [step] at h
    split at h
    · rename_i v j c hc hr; cases h; exact .reply hc hr
    · cases h
  | replyEof =>
    simp only [step] at h
    split at h
    · rename_i v hc hs hr; cases h; exact .replyEof hc hs hr
    · cases h
  | replyCut e =>
    simp only [step] at h
    split at h
    · rename_i v _ _ hc hs hr _; cases h; exact .replyCut hc hs hr
    · cases h
  | writeFail e =>
    simp only [step] at h
    split at h
    · rename_i hs hd
      obtain ⟨⟨p, v⟩, hc, rfl⟩ := Option.map_eq_some_iff.mp h
      exact .writeFail hs (by simp [hd]) hc
    · cases h
  | dropSend =>
    obtain ⟨p, hc, rfl⟩ := Option.map_eq_some_iff.mp h
    exact .dropSend hc
  | hangUp =>
    simp only [step] at h
    split at h
    · rename_i hc; cases h; exact .hangUp hc
    · cases h
  | read =>
    simp only [step] at h
    split at h
    · rename_i j c hs hd; cases h; exact .read hs hd
    · cases h
  | answer a =>
    simp only [step] at h
    split at h
    · rename_i hs; cases h; exact .answer hs
    · cases h
  | enqueueAnswer =>
    simp only [step] at h
    split at h
    · rename_i a hs
      split at h
      · rename_i hfit; cases h; exact .enqueueAnswer hs hfit
      · rename_i hbig; cases h; exact .refuseAnswer hs hbig
    · cases h
  | flushAnswer =>
    simp only [step] at h
    split at h
    · rename_i a hs
      obtain ⟨c, hr, rfl⟩ := Option.map_eq_some_iff.mp h
      exact .flushAnswer (by simp [hs]) hr
    · rename_i hs
      obtain ⟨c, hr, rfl⟩ := Option.map_eq_some_iff.mp h
      exact .flushAnswer (by simp [hs]) hr
    · cases h
  | answerFlushed =>
    simp only [step] at h
    split at h
    · rename_i hs _; cases h; exact .answerFlushed hs
    · cases h
  | dropAnswer =>
    simp only [step] at h
    split at h
    · rename_i a hs; cases h; exact .dropAnswer (by simp [hs])
    · rename_i hs; cases h; exact .dropAnswer (by simp [hs])
    · cases h
  | handlerReturn =>
    simp only [step] at h
    split at h
    · rename_i hs; cases h; exact .handlerReturn hs
    · cases h

/-- A write fails for a `send`, queued or not, or for `complete`. -/
theorem interrupted_eq_some {c p : ClientPhase Item} {v : Option Item}
    (h : interrupted c = some (p, v)) :
    (∃ w b, c = .sending w b ∧ p = .idle ∧ v = some w) ∨
      (∃ w, c = .flushing w ∧ p = .idle ∧ v = some w) ∨
      ((c = .completing ∨ c = .finishing) ∧ p = .closed ∧ v = none) := by
  cases c with
  | sending w b => cases h; exact .inl ⟨w, b, rfl, rfl, rfl⟩
  | flushing w => cases h; exact .inr (.inl ⟨w, rfl, rfl, rfl⟩)
  | completing => cases h; exact .inr (.inr ⟨.inl rfl, rfl, rfl⟩)
  | finishing => cases h; exact .inr (.inr ⟨.inr rfl, rfl, rfl⟩)
  | idle | awaiting _ | closed => cases h

/-! ## Where the answers are -/

/-- The payload of the `send` that waits for its reply, or is about to. -/
def waits (codec : ItemCodec Item) : ClientPhase Item → List Bytes
  | .flushing v | .awaiting v => (codec.toVec v).toOption.toList
  | _ => []

/-- The result of a `send` is the answer to its item. -/
def AnsweredBy (codec : ItemCodec Item) (x : Item × Except ClientError Unit)
    (y : Bytes × Answer) : Prop := codec.toVec x.1 = .ok y.1 ∧ x.2 = y.2.result

/-- What a `send` comes to when it finds the handler gone: the replies have ended, or they have
inside a frame, or its own frame can not be written. -/
def FoundGone (r : Except ClientError Unit) : Prop :=
  r = .error (.protocol "No acknowledgment received") ∨ ∃ e, r = .error (.connection e)

/-- The answers that were read, those on their way, and the item without one are all the items
that were sent. -/
structure Placed (codec : ItemCodec Item) (s : RawNotification Item)
    (replied pending : List (Bytes × Answer))
    (answered unanswered : List (Item × Except ClientError Unit)) : Prop where
  answers : s.answers = (replied ++ pending).map (Prod.map some id)
  replies : s.replies.contents = pending.map fun x ↦ x.2.msg.toJson
  sends : s.sends.filter (fun x ↦ sendable codec x.1) = answered ++ unanswered
  correct : List.Forall₂ (AnsweredBy codec) answered replied
  few : pending.length ≤ 1
  /-- The item in flight is on its way to the handler, with it, or on its way back. -/
  alive : s.server ≠ .gone → unanswered = [] ∧
    s.data.contents.filterMap payload ++ s.item.toList ++ pending.map Prod.fst =
      waits codec s.client
  ended : ∀ x ∈ unanswered, s.server = .gone ∧ FoundGone x.2
  /-- A last answer may be on the wire when the handler goes. -/
  gone : s.server = .gone → s.replies.wire = [] ∨
    unanswered = [] ∧ s.data.contents.filterMap payload = [] ∧
      pending.map Prod.fst = waits codec s.client

/-- The invariant of the careful runs. -/
structure Matched (codec : ItemCodec Item) (s : RawNotification Item) : Prop where
  encoded : ∀ v b, s.client = .sending v b → codec.toVec v = .ok b
  framed : ∀ v, s.client = .flushing v ∨ s.client = .awaiting v → sendable codec v = true
  /-- Until the end is queued, only items are. -/
  buffered : s.client = .finishing ∨ s.client = .closed ∨
    ∀ j ∈ s.data.buffer, (payload j).isSome = true
  owed : ∀ a, s.server = .answering a → s.item.isSome = true
  placed : ∃ replied pending answered unanswered,
    Placed codec s replied pending answered unanswered

theorem matched_new (codec : ItemCodec Item) : Matched codec (new : RawNotification Item) where
  encoded := by simp [new]
  framed := by simp [new]
  buffered := by simp [new, Channel.empty]
  owed := by simp [new]
  placed :=
    ⟨[], [], [], [], rfl, rfl, rfl, .nil, by simp, fun _ ↦ ⟨rfl, rfl⟩, by simp, by simp [new]⟩

theorem waits_length_le (codec : ItemCodec Item) (p : ClientPhase Item) :
    (waits codec p).length ≤ 1 := by
  cases p with
  | flushing v | awaiting v => rw [waits]; cases codec.toVec v <;> simp [Except.toOption]
  | _ => exact Nat.zero_le 1

variable {replied pending : List (Bytes × Answer)}
  {answered unanswered : List (Item × Except ClientError Unit)}

/-- A step of the client that moves no item. -/
theorem Placed.client {s : RawNotification Item}
    (hs : Placed codec s replied pending answered unanswered) {p : ClientPhase Item}
    {data : Channel Json} {sends : List (Item × Except ClientError Unit)}
    (hp : waits codec p = waits codec s.client)
    (hdata : data.contents.filterMap payload = s.data.contents.filterMap payload)
    (hsends : sends.filter (fun x ↦ sendable codec x.1) =
      s.sends.filter fun x ↦ sendable codec x.1) :
    Placed codec { s with client := p, data := data, sends := sends }
      replied pending answered unanswered where
  answers := hs.answers
  replies := hs.replies
  sends := hsends.trans hs.sends
  correct := hs.correct
  few := hs.few
  alive ha := by
    obtain ⟨hnone, heq⟩ := hs.alive ha
    exact ⟨hnone, by rw [hdata, hp, heq]⟩
  ended := hs.ended
  gone hg := by
    rw [hp, hdata]
    exact hs.gone hg

/-- A step of the handler that moves no item. -/
theorem Placed.server {s : RawNotification Item}
    (hs : Placed codec s replied pending answered unanswered) {p : ServerPhase}
    {replies : Channel Json} (ha : s.server ≠ .gone) (hp : p ≠ .gone)
    (hreplies : replies.contents = s.replies.contents) :
    Placed codec { s with server := p, replies := replies } replied pending answered
      unanswered where
  answers := hs.answers
  replies := hreplies.trans hs.replies
  sends := hs.sends
  correct := hs.correct
  few := hs.few
  alive _ := hs.alive ha
  ended x hx := absurd (hs.ended x hx).1 ha
  gone hg := absurd hg hp

/-- **An item goes on its way.** -/
theorem Placed.enqueue {s : RawNotification Item}
    (hs : Placed codec s replied pending answered unanswered) {v : Item} {b : Bytes}
    (hc : s.client = .sending v b) (hv : codec.toVec v = .ok b) :
    Placed codec
      { s with client := .flushing v, data := s.data.push (NotificationMsg.data b).toJson }
      replied pending answered unanswered where
  answers := hs.answers
  replies := hs.replies
  sends := hs.sends
  correct := hs.correct
  few := hs.few
  alive ha := by
    obtain ⟨hnone, heq⟩ := hs.alive ha
    rw [hc] at heq
    simp only [waits, List.append_eq_nil_iff] at heq
    obtain ⟨⟨hdata, hitem⟩, hpending⟩ := heq
    refine ⟨hnone, ?_⟩
    simp [waits, hv, hdata, hitem, hpending, Except.toOption]
  ended := hs.ended
  gone hg := by
    rcases hs.gone hg with hwire | ⟨-, -, heq⟩
    · exact Or.inl hwire
    · -- nothing was in flight, so the wire is empty
      rw [hc] at heq
      have hpending : pending = [] := List.map_eq_nil_iff.mp heq
      have hcontents := hs.replies
      rw [hpending] at hcontents
      exact Or.inl (List.append_eq_nil_iff.mp hcontents).1

/-- **The handler takes a frame.** -/
theorem Placed.read {s : RawNotification Item}
    (hs : Placed codec s replied pending answered unanswered) {j : Json} {c : Channel Json}
    (ha : s.server ≠ .gone) (hd : s.data.pop = some (j, c)) :
    Placed codec { s with data := c, item := (payload j).or s.item }
      replied pending answered unanswered where
  answers := hs.answers
  replies := hs.replies
  sends := hs.sends
  correct := hs.correct
  few := hs.few
  alive _ := by
    obtain ⟨hnone, heq⟩ := hs.alive ha
    refine ⟨hnone, ?_⟩
    have hlen := waits_length_le codec s.client
    rw [← heq, Channel.contents_of_pop hd] at hlen
    rw [← heq, Channel.contents_of_pop hd]
    cases hj : payload j with
    | none => simp [hj]
    | some b =>
      -- one item is in flight, so this is all there was
      simp only [List.filterMap_cons, hj, List.length_append, List.length_cons,
        List.length_map] at hlen
      have hrest : c.contents.filterMap payload = [] := List.eq_nil_of_length_eq_zero (by omega)
      have hitem : s.item.toList = [] := List.eq_nil_of_length_eq_zero (by omega)
      simp [hj, hrest, hitem]
  ended := hs.ended
  gone hg := absurd hg ha

/-- An item that waits for its answer is the only one in flight. -/
theorem Placed.pending_eq_nil {s : RawNotification Item}
    (hs : Placed codec s replied pending answered unanswered) {b : Bytes} (ha : s.server ≠ .gone)
    (hitem : s.item = some b) : pending = [] := by
  have hlen := waits_length_le codec s.client
  rw [← (hs.alive ha).2, hitem] at hlen
  simp only [Option.toList_some, List.length_append, List.length_singleton,
    List.length_map] at hlen
  exact List.eq_nil_of_length_eq_zero (by omega)

/-- **The item's answer goes on its way.** -/
theorem Placed.enqueueAnswer {s : RawNotification Item}
    (hs : Placed codec s replied pending answered unanswered) {a : Answer} {b : Bytes}
    (ha : s.server ≠ .gone) (hitem : s.item = some b) :
    Placed codec { s with
      server := .flushing
      item := none
      replies := s.replies.push a.msg.toJson
      answers := s.answers ++ [(s.item, a)] } replied (pending ++ [(b, a)]) answered
      unanswered where
  answers := by simp [hs.answers, hitem]
  replies := by simp [hs.replies]
  sends := hs.sends
  correct := hs.correct
  few := by
    rw [hs.pending_eq_nil ha hitem]
    exact Nat.le_refl 1
  alive _ := by
    obtain ⟨hnone, heq⟩ := hs.alive ha
    refine ⟨hnone, ?_⟩
    rw [← heq, hitem, hs.pending_eq_nil ha hitem]
    simp
  ended x hx := absurd (hs.ended x hx).1 ha
  gone := by simp

/-- With an answer on its way to the `send` that waits, nothing else is in flight. -/
theorem eq_nil_of_waits {v : Item} {xs : List Bytes} {b : Bytes} {a : Answer}
    {rest : List (Bytes × Answer)}
    (h : xs ++ ((b, a) :: rest).map Prod.fst = waits codec (.awaiting v)) :
    xs = [] ∧ rest = [] ∧ codec.toVec v = .ok b := by
  have hlen := waits_length_le codec (.awaiting v)
  rw [← h] at hlen
  simp only [List.map_cons, List.length_append, List.length_cons, List.length_map] at hlen
  have hxs : xs = [] := List.eq_nil_of_length_eq_zero (by omega)
  have hrest : rest = [] := List.eq_nil_of_length_eq_zero (by omega)
  rw [hxs, hrest] at h
  refine ⟨hxs, hrest, ?_⟩
  cases he : codec.toVec v with
  | ok b' => simpa [waits, he, Except.toOption, eq_comm] using h
  | error e => simp [waits, he, Except.toOption] at h

/-- **A reply is read** by the `send` of its item. -/
theorem Placed.reply {s : RawNotification Item}
    (hs : Placed codec s replied pending answered unanswered) {v : Item} {j : Json}
    {c : Channel Json} (hc : s.client = .awaiting v) (hv : sendable codec v = true)
    (hr : s.replies.pop = some (j, c)) :
    ∃ replied pending answered, Placed codec { s with
      client := .idle, replies := c, sends := s.sends ++ [(v, replyResult codec j)] }
      replied pending answered [] := by
  have hcontents := hs.replies
  rw [Channel.contents_of_pop hr] at hcontents
  obtain ⟨⟨b, a⟩, rest, rfl⟩ : ∃ x rest, pending = x :: rest := by
    cases pending with
    | nil => cases hcontents
    | cons x rest => exact ⟨x, rest, rfl⟩
  obtain ⟨rfl, hrest⟩ := List.cons_eq_cons.mp hcontents
  have hwire : s.replies.wire ≠ [] := by
    intro he
    simp [Channel.pop, he] at hr
  -- the answer that is read is the one to this item
  have hall : unanswered = [] ∧ rest = [] ∧ codec.toVec v = .ok b ∧
      (s.server ≠ .gone → s.data.contents.filterMap payload = [] ∧ s.item = none) := by
    by_cases hg : s.server = .gone
    · rcases hs.gone hg with he | ⟨hnone, -, heq⟩
      · exact absurd he hwire
      · rw [hc] at heq
        obtain ⟨-, hnil, hb⟩ := eq_nil_of_waits ((List.nil_append _).trans heq)
        exact ⟨hnone, hnil, hb, fun ha ↦ absurd hg ha⟩
    · obtain ⟨hnone, heq⟩ := hs.alive hg
      rw [hc] at heq
      obtain ⟨hxs, hnil, hb⟩ := eq_nil_of_waits heq
      obtain ⟨hdata, hitem⟩ := List.append_eq_nil_iff.mp hxs
      exact ⟨hnone, hnil, hb, fun _ ↦ ⟨hdata, by simpa using hitem⟩⟩
  obtain ⟨rfl, rfl, hb, hempty⟩ := hall
  refine ⟨replied ++ [(b, a)], [], answered ++ [(v, a.result)], ?_, ?_, ?_, ?_, by simp,
    fun ha ↦ ?_, by simp, fun _ ↦ Or.inl ?_⟩
  · rw [hs.answers, List.append_nil]
  · simpa using hrest
  · have hsends := hs.sends
    rw [List.append_nil] at hsends
    simp [hsends, hv, replyResult_msg]
  · exact List.rel_append hs.correct (.cons ⟨hb, rfl⟩ .nil)
  · obtain ⟨hdata, hitem⟩ := hempty ha
    exact ⟨rfl, by simp [hdata, hitem, waits]⟩
  · have hnil : c.contents = [] := by simpa using hrest
    exact (List.append_eq_nil_iff.mp hnil).1

/-- A `send` finds the handler gone, which has left no answer behind. -/
theorem Placed.foundGone {s : RawNotification Item}
    (hs : Placed codec s replied pending answered unanswered) {v : Item}
    {r : Except ClientError Unit} (hr : FoundGone r) (hg : s.server = .gone)
    (hv : sendable codec v = true) (hwire : s.replies.wire = []) :
    Placed codec { s with client := .idle, sends := s.sends ++ [(v, r)] }
      replied pending answered (unanswered ++ [(v, r)]) where
  answers := hs.answers
  replies := hs.replies
  sends := by simp [hs.sends, hv]
  correct := hs.correct
  few := hs.few
  alive ha := absurd hg ha
  ended x hx := by
    rcases List.mem_append.mp hx with hx | hx
    · exact hs.ended x hx
    · rw [List.mem_singleton.mp hx]
      exact ⟨hg, hr⟩
  gone _ := Or.inl hwire

/-- What is left to write is an item. -/
theorem payloads_ne_nil {data : Channel Json} (hd : data.buffer ≠ [])
    (hitems : ∀ j ∈ data.buffer, (payload j).isSome = true) :
    data.contents.filterMap payload ≠ [] := by
  obtain ⟨j, rest, hj⟩ := List.exists_cons_of_ne_nil hd
  have hmem : j ∈ data.buffer := by simp [hj]
  obtain ⟨b, hb⟩ := Option.isSome_iff_exists.mp (hitems j hmem)
  exact List.ne_nil_of_mem
    (List.mem_filterMap.mpr ⟨j, List.mem_append.mpr (.inr hmem), hb⟩)

/-- While an item is not yet written, no answer is on the wire. -/
theorem Placed.wire_eq_nil {s : RawNotification Item}
    (hs : Placed codec s replied pending answered unanswered) (hg : s.server = .gone)
    (hnone : s.data.contents.filterMap payload = [] → waits codec s.client = []) :
    s.replies.wire = [] := by
  rcases hs.gone hg with hwire | ⟨-, hdata, heq⟩
  · exact hwire
  · rw [hnone hdata] at heq
    have hcontents := hs.replies
    rw [List.map_eq_nil_iff.mp heq] at hcontents
    exact (List.append_eq_nil_iff.mp hcontents).1

/-- The handler returns. -/
theorem Placed.handlerReturn {s : RawNotification Item}
    (hs : Placed codec s replied pending answered unanswered) (ha : s.server ≠ .gone) :
    Placed codec { s with server := .gone } replied pending answered unanswered where
  answers := hs.answers
  replies := hs.replies
  sends := hs.sends
  correct := hs.correct
  few := hs.few
  alive hne := absurd rfl hne
  ended x hx := absurd (hs.ended x hx).1 ha
  gone _ := by
    obtain ⟨hnone, heq⟩ := hs.alive ha
    cases pending with
    | nil => exact Or.inl (List.append_eq_nil_iff.mp hs.replies).1
    | cons x rest =>
      have hlen := waits_length_le codec s.client
      rw [← heq] at hlen
      simp only [List.map_cons, List.length_append, List.length_cons] at hlen
      have hdata : s.data.contents.filterMap payload = [] :=
        List.eq_nil_of_length_eq_zero (by omega)
      have hitem : s.item.toList = [] := List.eq_nil_of_length_eq_zero (by omega)
      refine Or.inr ⟨hnone, hdata, ?_⟩
      rw [← heq, hdata, hitem]
      rfl

/-! ## Every result is the item's own -/

/-- No `send` is dropped, and the handler answers only an item that waits for its answer. -/
def Careful (s : RawNotification Item) : Label Item → Prop
  | .dropSend => False
  | .answer _ => s.item.isSome = true
  | _ => True

/-- Before the end is queued, the client's buffer holds items only. -/
theorem Matched.items {s : RawNotification Item} (hs : Matched codec s)
    (hc : s.client ≠ .finishing ∧ s.client ≠ .closed) :
    ∀ j ∈ s.data.buffer, (payload j).isSome = true := by
  rcases hs.buffered with hfinishing | hclosed | hitems
  · exact absurd hfinishing hc.1
  · exact absurd hclosed hc.2
  · exact hitems

/-- A step of the client that queues no item and ends no `send` with a reply. -/
theorem Matched.client {s : RawNotification Item} (hs : Matched codec s) {p : ClientPhase Item}
    {data : Channel Json} {sends : List (Item × Except ClientError Unit)}
    (hencoded : ∀ v b, p = .sending v b → codec.toVec v = .ok b)
    (hframed : ∀ v, p = .flushing v ∨ p = .awaiting v → sendable codec v = true)
    (hbuffered : p = .finishing ∨ p = .closed ∨ ∀ j ∈ data.buffer, (payload j).isSome = true)
    (hp : waits codec p = waits codec s.client)
    (hdata : data.contents.filterMap payload = s.data.contents.filterMap payload)
    (hsends : sends.filter (fun x ↦ sendable codec x.1) =
      s.sends.filter fun x ↦ sendable codec x.1) :
    Matched codec { s with client := p, data := data, sends := sends } where
  encoded := hencoded
  framed := hframed
  buffered := hbuffered
  owed := hs.owed
  placed := by
    obtain ⟨replied, pending, answered, unanswered, hplaced⟩ := hs.placed
    exact ⟨replied, pending, answered, unanswered, hplaced.client hp hdata hsends⟩

/-- A step of the handler that queues no answer. -/
theorem Matched.server {s : RawNotification Item} (hs : Matched codec s) {p : ServerPhase}
    {replies : Channel Json} (ha : s.server ≠ .gone) (hp : p ≠ .gone)
    (howed : ∀ a, p = .answering a → s.item.isSome = true)
    (hreplies : replies.contents = s.replies.contents) :
    Matched codec { s with server := p, replies := replies } where
  encoded := hs.encoded
  framed := hs.framed
  buffered := hs.buffered
  owed := howed
  placed := by
    obtain ⟨replied, pending, answered, unanswered, hplaced⟩ := hs.placed
    exact ⟨replied, pending, answered, unanswered, hplaced.server ha hp hreplies⟩

/-- **A careful step keeps the answers with their items.** -/
theorem Moves.matched {s t : RawNotification Item} {l : Label Item} (h : Moves codec s l t)
    (hl : Careful s l) (hs : Matched codec s) : Matched codec t := by
  obtain ⟨replied, pending, answered, unanswered, hplaced⟩ := hs.placed
  cases h with
  | @send v b hc hv =>
    refine hs.client ?_ (by simp) (.inr (.inr (hs.items (by simp [hc])))) (by rw [hc]; rfl) rfl rfl
    rintro v' b' he
    cases he
    exact hv
  | @sendFail v e hc hv =>
    refine hs.client (p := s.client) hs.encoded hs.framed hs.buffered rfl rfl ?_
    simp [not_sendable_of_error hv]
  | complete hc =>
    exact hs.client (by simp) (by simp) (.inr (.inr (hs.items (by simp [hc])))) (by rw [hc]; rfl)
      rfl rfl
  | @enqueue p m hfit hc =>
    rcases ClientPhase.enqueue_eq_some hc with ⟨v, b, hsending, rfl, rfl⟩ | ⟨hdone, rfl, rfl⟩
    · have hv := hs.encoded v b hsending
      rw [hsending] at hfit
      have hsend := sendable_of_fits hv (fits_of_not_refused hfit)
      refine ⟨by simp, ?_, .inr (.inr ?_), hs.owed, _, _, _, _, hplaced.enqueue hsending hv⟩
      · rintro v' (he | he)
        · cases he
          exact hsend
        · cases he
      · intro j hj
        rcases List.mem_append.mp hj with hj | hj
        · exact hs.items (by simp [hsending]) j hj
        · rw [List.mem_singleton.mp hj]
          simp
    · exact hs.client (by simp) (by simp) (.inl rfl) (by rw [hdone]; rfl) (by simp) rfl
  | @refused v hv =>
    obtain ⟨b, hsending, hbig⟩ := ClientPhase.refused_eq_some hv
    refine hs.client (by simp) (by simp) (.inr (.inr (hs.items (by simp [hsending]))))
      (by rw [hsending]; rfl) rfl ?_
    simp [not_sendable_of_refused (hs.encoded v b hsending) hbig]
  | flush hd =>
    obtain ⟨first, hfirst⟩ := Channel.buffer_of_flush hd
    refine hs.client (p := s.client) hs.encoded hs.framed ?_ rfl
      (by rw [Channel.contents_of_flush hd]) rfl
    rcases hs.buffered with hfinishing | hclosed | hitems
    · exact .inl hfinishing
    · exact .inr (.inl hclosed)
    · refine .inr (.inr fun j hj ↦ hitems j ?_)
      rw [hfirst]
      exact List.mem_cons_of_mem first hj
  | @flushed p hc =>
    rcases ClientPhase.flushed_eq_some hc with ⟨v, hflush, rfl⟩ | ⟨hdone, rfl⟩
    · refine hs.client (by simp) ?_ (.inr (.inr (hs.items (by simp [hflush]))))
        (by rw [hflush]; rfl) rfl rfl
      rintro v' (he | he)
      · cases he
      · cases he
        exact hs.framed v (Or.inl hflush)
    · exact hs.client (by simp) (by simp) (.inr (.inl rfl)) (by rw [hdone]; rfl) rfl rfl
  | @reply v j c hc hr =>
    obtain ⟨replied', pending', answered', hplaced'⟩ :=
      hplaced.reply hc (hs.framed v (Or.inr hc)) hr
    exact ⟨by simp, by simp, .inr (.inr (hs.items (by simp [hc]))), hs.owed, _, _, _, _, hplaced'⟩
  | @replyEof v hc hg hr =>
    exact ⟨by simp, by simp, .inr (.inr (hs.items (by simp [hc]))), hs.owed, _, _, _, _,
      hplaced.foundGone (.inl rfl) hg (hs.framed v (Or.inr hc)) hr⟩
  | @replyCut v e hc hg hr =>
    exact ⟨by simp, by simp, .inr (.inr (hs.items (by simp [hc]))), hs.owed, _, _, _, _,
      hplaced.foundGone (.inr ⟨e, rfl⟩) hg (hs.framed v (Or.inr hc)) hr⟩
  | @writeFail p v e hg hd hc =>
    rcases interrupted_eq_some hc with ⟨v, b, hsending, rfl, rfl⟩ | ⟨v, hflush, rfl, rfl⟩ |
      ⟨hdone, rfl, rfl⟩
    · -- the frames of an earlier item are in the way of this one
      have hitems := hs.items (by simp [hsending])
      rcases hv : sendable codec v with _ | _
      · exact hs.client (by simp) (by simp) (.inr (.inr hitems)) (by rw [hsending]; rfl) rfl
          (by simp [hv])
      · have hwire := hplaced.wire_eq_nil hg fun _ ↦ by rw [hsending]; rfl
        exact ⟨by simp, by simp, .inr (.inr hitems), hs.owed, _, _, _, _,
          hplaced.foundGone (.inr ⟨e, rfl⟩) hg hv hwire⟩
    · have hitems := hs.items (by simp [hflush])
      have hwire := hplaced.wire_eq_nil hg fun hnone ↦ absurd hnone (payloads_ne_nil hd hitems)
      exact ⟨by simp, by simp, .inr (.inr hitems), hs.owed, _, _, _, _,
        hplaced.foundGone (.inr ⟨e, rfl⟩) hg (hs.framed v (Or.inl hflush)) hwire⟩
    · refine hs.client (by simp) (by simp) (.inr (.inl rfl)) ?_ rfl (by simp)
      rcases hdone with hdone | hdone <;> rw [hdone] <;> rfl
  | dropSend => exact absurd hl id
  | hangUp hc =>
    exact hs.client (by simp) (by simp) (.inr (.inl rfl)) (by rw [hc]; rfl) rfl rfl
  | read hread hd =>
    refine ⟨hs.encoded, hs.framed, ?_, fun a ha ↦ ?_, _, _, _, _,
      hplaced.read (by simp [hread]) hd⟩
    · rw [Channel.buffer_of_pop hd]
      exact hs.buffered
    · cases hread.symm.trans ha
  | answer hlisten => exact hs.server (by simp [hlisten]) (by simp) (fun _ _ ↦ hl) rfl
  | enqueueAnswer hanswer hfit =>
    obtain ⟨b, hb⟩ := Option.isSome_iff_exists.mp (hs.owed _ hanswer)
    exact ⟨hs.encoded, hs.framed, hs.buffered, by simp, _, _, _, _,
      hplaced.enqueueAnswer (by simp [hanswer]) hb⟩
  | refuseAnswer hanswer => exact hs.server (by simp [hanswer]) (by simp) (by simp) rfl
  | flushAnswer ha hr =>
    exact hs.server (p := s.server) ha ha hs.owed (Channel.contents_of_flush hr)
  | answerFlushed hflush => exact hs.server (by simp [hflush]) (by simp) (by simp) rfl
  | dropAnswer ha => exact hs.server ha (by simp) (by simp) rfl
  | handlerReturn hlisten =>
    exact ⟨hs.encoded, hs.framed, hs.buffered, by simp, _, _, _, _,
      hplaced.handlerReturn (by simp [hlisten])⟩

/-- Of the values that could be framed, those whose `send` has returned got, in order, the answers
that the handler gave to these items; at most one more answer is on its way, and the `send`s after
these found the handler gone. -/
def GetOwnAnswers (codec : ItemCodec Item) (s : RawNotification Item) : Prop :=
  ∃ (replied pending : List (Bytes × Answer))
    (answered unanswered : List (Item × Except ClientError Unit)),
    s.answers = (replied ++ pending).map (Prod.map some id) ∧ pending.length ≤ 1 ∧
      s.sends.filter (fun x ↦ sendable codec x.1) = answered ++ unanswered ∧
      List.Forall₂ (AnsweredBy codec) answered replied ∧
      ∀ x ∈ unanswered, s.server = .gone ∧ FoundGone x.2

/-- **Every result is the item's own**, in every state of every run in which no `send` is dropped
and the handler answers no item twice. -/
theorem sends_answered (codec : ItemCodec Item) {ls : List (Label Item)}
    (hcareful : (machine codec).Meets Careful new ls) :
    (machine codec).Along (GetOwnAnswers codec) new ls := by
  have halong := Machine.along_of_meets (M := machine codec) (I := Matched codec)
    (fun _ _ _ hs hl ht ↦ (moves_of_step ht).matched hl hs) (matched_new codec) hcareful
  refine halong.mono fun s hs ↦ ?_
  obtain ⟨replied, pending, answered, unanswered, hplaced⟩ := hs.placed
  exact ⟨replied, pending, answered, unanswered, hplaced.answers, hplaced.few, hplaced.sends,
    hplaced.correct, hplaced.ended⟩

/-- One item is acknowledged, and the next one refused by the handler. -/
def answeredRun : List (Label Bytes) :=
  [.send [1], .enqueue, .flush, .flushed, .read, .answer .ack, .enqueueAnswer, .flushAnswer,
    .answerFlushed, .reply, .send [2], .enqueue, .flush, .flushed, .read, .answer (.error "no"),
    .enqueueAnswer, .flushAnswer, .reply]

theorem careful_answeredRun :
    (machine bytesCodec.toItemCodec).Meets Careful new answeredRun := by
  iterate 5 refine (Machine.meets_cons_of_step rfl).mpr ⟨trivial, ?_⟩
  refine (Machine.meets_cons_of_step rfl).mpr ⟨rfl, ?_⟩
  iterate 9 refine (Machine.meets_cons_of_step rfl).mpr ⟨trivial, ?_⟩
  refine (Machine.meets_cons_of_step rfl).mpr ⟨rfl, ?_⟩
  iterate 3 refine (Machine.meets_cons_of_step rfl).mpr ⟨trivial, ?_⟩
  trivial

theorem sends_answered_answeredRun :
    (machine bytesCodec.toItemCodec).Along (GetOwnAnswers bytesCodec.toItemCodec) new
      answeredRun :=
  sends_answered bytesCodec.toItemCodec careful_answeredRun

/-- A second answer to the first item is the result of the second `send`. -/
example : ((machine bytesCodec.toItemCodec).run
    [.send [1], .enqueue, .flush, .flushed, .read, .answer .ack, .enqueueAnswer, .flushAnswer,
      .answerFlushed, .reply, .answer (.error "late"), .enqueueAnswer, .flushAnswer,
      .send [2], .enqueue, .flush, .flushed, .reply]).map (·.sends) =
    some [([1], .ok ()), ([2], .error (.protocol "Server error: late"))] := rfl

/-- Once the handler is gone, the next `send` can not be written. -/
example : ((machine bytesCodec.toItemCodec).run
    [.handlerReturn, .send [1], .enqueue, .writeFail "stopped by peer"]).map (·.sends) =
    some [([1], .error (.connection "stopped by peer"))] := rfl

end RawNotification

end Zel
