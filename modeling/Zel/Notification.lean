import Zel.Lib.Channel
import Zel.Lib.Machine
import Zel.Types

/-!
# Notification streams

One established notification stream: `NotificationSender::send` and `complete` on the client
(`protocol/client.rs`), the generated `Receiver::next` and `NotificationSink::ack` on the server
(`render/types.rs`, `protocol/streaming.rs`).  The steps end at the await points: a `send` waits for
room in its buffer, queues its frame, unless that is too long for the codec, flushes, and waits for
the reply; a `next` waits for a frame, and, once it has one that decodes, does the same for its
acknowledgment before it returns the item.  A future can be dropped wherever it waits; what it had
queued stays queued and goes out with the next flush of that direction.

Frames are the JSON of `NotificationMsg`; how items are written and read is a parameter, since an
item can encode and yet fail to decode.

## What is here

* `ItemCodec` — the item type's `to_vec` and `from_slice`; `RoundTripCodec` — one that reads back
  what it wrote.
* `NotificationStream`, `step`, `machine` — the stream and its runs.
* `Moves` — the inversion of `step`.
-/

set_option autoImplicit false

namespace Zel

/-- `NotificationError` -/
inductive NotificationError where
  | serialization (message : String)
  | deserialization (message : String)
  | send (message : String)
  | receive (message : String)
  | protocol (message : String)
  deriving DecidableEq

/-- `serde_json` at the item type. -/
structure ItemCodec (Item : Type) where
  /-- `to_vec` -/
  toVec : Item → Except String Bytes
  /-- `from_slice` -/
  fromSlice : Bytes → Except String Item
  /-- The error text for a frame that is no message. -/
  envelopeError : Json → String

/-- An item type that is read back as it was written. -/
structure RoundTripCodec (Item : Type) extends ItemCodec Item where
  round_trip : ∀ v b, toVec v = .ok b → fromSlice b = .ok v

/-- Byte strings that travel as they are, for examples. -/
def bytesCodec : RoundTripCodec Bytes where
  toVec := .ok
  fromSlice := .ok
  envelopeError _ := "invalid value"
  round_trip _ _ h := h.symm

namespace NotificationStream

variable {Item : Type}

/-! ## The parties -/

/-- Where the `NotificationSender` stands. -/
inductive ClientPhase (Item : Type) where
  /-- No call is in flight. -/
  | idle
  /-- `send` waits for room in its buffer. -/
  | sending (v : Item) (data : Bytes)
  /-- `send` has queued its frame and flushes. -/
  | flushing (v : Item)
  /-- `send` waits for the reply. -/
  | awaiting (v : Item)
  /-- `complete` waits for room in its buffer. -/
  | completing
  /-- `complete` has queued its frame and flushes. -/
  | finishing
  /-- The sender is gone. -/
  | closed

/-- Where the server's handler stands. -/
inductive ServerPhase (Item : Type) where
  /-- Not in `next`. -/
  | outside
  /-- `next` waits for a frame. -/
  | reading
  /-- `ack` waits for room in its buffer. -/
  | acking (v : Item)
  /-- `ack` has queued its frame and flushes. -/
  | ackFlushing (v : Item)
  /-- The handler has returned. -/
  | gone

/-- What `next` returns. -/
abbrev NextResult (Item : Type) := Option (Except NotificationError Item)

end NotificationStream

open NotificationStream in
/-- A notification stream: the two parties, the two directions, and what has happened. -/
structure NotificationStream (Item : Type) where
  client : ClientPhase Item
  server : ServerPhase Item
  /-- The frames from the client. -/
  data : Channel Json
  /-- The frames from the server. -/
  replies : Channel Json
  /-- The results of the calls of `send`. -/
  sends : List (Item × Except ClientError Unit)
  /-- The results of the calls of `next`. -/
  nexts : List (NextResult Item)
  /-- The payloads of the `Data` frames that `next` has consumed. -/
  taken : List Bytes
  /-- The messages that were queued as replies. -/
  answers : List NotificationMsg

namespace NotificationStream

variable {Item : Type}

/-- The stream once the handshake is over. -/
def new : NotificationStream Item :=
  ⟨.idle, .outside, .empty, .empty, [], [], [], []⟩

/-! ## What the parties make of a frame -/

/-- The payload of a `Data` frame. -/
def payload (j : Json) : Option Bytes :=
  match NotificationMsg.fromJson j with
  | some (.data b) => some b
  | _ => none

/-- What a frame does to `next`. -/
inductive Received (Item : Type) where
  /-- `next` returns. -/
  | returns (r : NextResult Item)
  /-- The item is to be acknowledged. -/
  | item (v : Item)
  /-- The frame is ignored. -/
  | ignored

/-- The body of the loop in `next`, up to the acknowledgment. -/
def receive (codec : ItemCodec Item) (j : Json) : Received Item :=
  match NotificationMsg.fromJson j with
  | none => .returns (some (.error (.deserialization (codec.envelopeError j))))
  | some (.data b) =>
    match codec.fromSlice b with
    | .ok v => .item v
    | .error e => .returns (some (.error (.deserialization e)))
  | some .completed | some .serverShutdown => .returns none
  | some _ => .ignored

/-- What `send` makes of the reply. -/
def replyResult (codec : ItemCodec Item) (j : Json) : Except ClientError Unit :=
  match NotificationMsg.fromJson j with
  | none => .error (.serialization (codec.envelopeError j))
  | some .ack => .ok ()
  | some (.error e) => .error (.protocol ("Server error: " ++ e))
  | some _ => .error (.protocol "Unexpected message type")

/-! ## The steps -/

/-- The steps of the two parties. -/
inductive Label (Item : Type) where
  /-- `send(v)` is called. -/
  | send (v : Item)
  /-- `complete()` is called. -/
  | complete
  /-- The client's frame is queued, or refused. -/
  | enqueue
  /-- A frame of the client's buffer goes to the wire. -/
  | flush
  /-- The client's buffer is empty. -/
  | flushed
  /-- `send` reads its reply. -/
  | reply
  /-- `send` finds the reply stream ended. -/
  | replyEof
  /-- The call in flight is dropped. -/
  | dropSend
  /-- The sender is dropped. -/
  | hangUp
  /-- `next()` is called. -/
  | call
  /-- `next` reads a frame. -/
  | read
  /-- `next` finds the stream ended. -/
  | eof
  /-- The acknowledgment is queued. -/
  | enqueueAck
  /-- A frame of the server's buffer goes to the wire. -/
  | flushAck
  /-- The server's buffer is empty, and `next` returns the item. -/
  | ackFlushed
  /-- The `next` in flight is dropped. -/
  | dropNext
  /-- The handler returns. -/
  | handlerReturn

/-- The client writes: its buffer can move. -/
def ClientPhase.writes : ClientPhase Item → Bool
  | .sending _ _ | .flushing _ | .completing | .finishing => true
  | _ => false

/-- The server writes: its buffer can move. -/
def ServerPhase.writes : ServerPhase Item → Bool
  | .acking _ | .ackFlushing _ => true
  | _ => false

/-- What is left of the client when the call in flight is dropped; `complete` takes the sender with
it. -/
def ClientPhase.dropped : ClientPhase Item → Option (ClientPhase Item)
  | .sending _ _ | .flushing _ | .awaiting _ => some .idle
  | .completing | .finishing => some .closed
  | .idle | .closed => none

/-- The frame of the call in flight is queued. -/
def ClientPhase.enqueue : ClientPhase Item → Option (ClientPhase Item × NotificationMsg)
  | .sending v b => some (.flushing v, .data b)
  | .completing => some (.finishing, .completed)
  | _ => none

/-- The value whose frame the codec refuses, because it is too long. -/
def ClientPhase.refused : ClientPhase Item → Option Item
  | .sending v b => if FitsFrame (NotificationMsg.data b).toJson then none else some v
  | _ => none

/-- The flush of the call in flight is over. -/
def ClientPhase.flushed : ClientPhase Item → Option (ClientPhase Item)
  | .flushing v => some (.awaiting v)
  | .finishing => some .closed
  | _ => none

/-- `next` is dropped. -/
def ServerPhase.dropped : ServerPhase Item → Option (ServerPhase Item)
  | .reading | .acking _ | .ackFlushing _ => some .outside
  | .outside | .gone => none

/-- The server's phase after a frame. -/
def Received.phase : Received Item → ServerPhase Item
  | .returns _ => .outside
  | .item v => .acking v
  | .ignored => .reading

/-- The result that a frame gives `next` at once. -/
def Received.result : Received Item → List (NextResult Item)
  | .returns r => [r]
  | _ => []

variable (codec : ItemCodec Item)

/-- One step. -/
def step (s : NotificationStream Item) : Label Item → Option (NotificationStream Item)
  | .send v =>
    match s.client, codec.toVec v with
    | .idle, .ok b => some { s with client := .sending v b }
    | .idle, .error e => some { s with sends := s.sends ++ [(v, .error (.serialization e))] }
    | _, _ => none
  | .complete =>
    match s.client with
    | .idle => some { s with client := .completing }
    | _ => none
  | .enqueue =>
    match s.client.refused with
    | some v => some { s with
        client := .idle
        sends := s.sends ++ [(v, .error (.connection frameTooBig))] }
    | none => s.client.enqueue.map fun (p, m) ↦
        { s with client := p, data := s.data.push m.toJson }
  | .flush => if s.client.writes then s.data.flush.map fun d ↦ { s with data := d } else none
  | .flushed =>
    if s.data.buffer = [] then s.client.flushed.map fun p ↦ { s with client := p } else none
  | .reply =>
    match s.client, s.replies.pop with
    | .awaiting v, some (j, c) => some { s with
        client := .idle
        replies := c
        sends := s.sends ++ [(v, replyResult codec j)] }
    | _, _ => none
  | .replyEof =>
    match s.client, s.server, s.replies.wire with
    | .awaiting v, .gone, [] => some { s with
        client := .idle
        sends := s.sends ++ [(v, .error (.protocol "No acknowledgment received"))] }
    | _, _, _ => none
  | .dropSend => s.client.dropped.map fun p ↦ { s with client := p }
  | .hangUp =>
    match s.client with
    | .idle => some { s with client := .closed }
    | _ => none
  | .call =>
    match s.server with
    | .outside => some { s with server := .reading }
    | _ => none
  | .read =>
    match s.server, s.data.pop with
    | .reading, some (j, c) => some { s with
        server := (receive codec j).phase
        data := c
        nexts := s.nexts ++ (receive codec j).result
        taken := s.taken ++ (payload j).toList }
    | _, _ => none
  | .eof =>
    match s.server, s.client, s.data.wire with
    | .reading, .closed, [] => some { s with server := .outside, nexts := s.nexts ++ [none] }
    | _, _, _ => none
  | .enqueueAck =>
    match s.server with
    | .acking v => some { s with
        server := .ackFlushing v
        replies := s.replies.push NotificationMsg.ack.toJson
        answers := s.answers ++ [.ack] }
    | _ => none
  | .flushAck =>
    if s.server.writes then s.replies.flush.map fun c ↦ { s with replies := c } else none
  | .ackFlushed =>
    match s.server, s.replies.buffer with
    | .ackFlushing v, [] => some { s with server := .outside, nexts := s.nexts ++ [some (.ok v)] }
    | _, _ => none
  | .dropNext => s.server.dropped.map fun p ↦ { s with server := p }
  | .handlerReturn =>
    match s.server with
    | .outside => some { s with server := .gone }
    | _ => none

/-- All runs of a stream. -/
def machine : Machine (NotificationStream Item) (Label Item) := ⟨new, step codec⟩

/-! ## What a step does -/

/-- The steps, one constructor for each way a label can move the stream. -/
inductive Moves (s : NotificationStream Item) : Label Item → NotificationStream Item → Prop
  | send {v : Item} {b : Bytes} (hc : s.client = .idle) (hv : codec.toVec v = .ok b) :
      Moves s (.send v) { s with client := .sending v b }
  | sendFail {v : Item} {e : String} (hc : s.client = .idle) (hv : codec.toVec v = .error e) :
      Moves s (.send v) { s with sends := s.sends ++ [(v, .error (.serialization e))] }
  | complete (hc : s.client = .idle) : Moves s .complete { s with client := .completing }
  | enqueue {p : ClientPhase Item} {m : NotificationMsg} (hfit : s.client.refused = none)
      (hc : s.client.enqueue = some (p, m)) :
      Moves s .enqueue { s with client := p, data := s.data.push m.toJson }
  | refused {v : Item} (hv : s.client.refused = some v) : Moves s .enqueue { s with
        client := .idle
        sends := s.sends ++ [(v, .error (.connection frameTooBig))] }
  | flush {d : Channel Json} (hc : s.client.writes = true) (hd : s.data.flush = some d) :
      Moves s .flush { s with data := d }
  | flushed {p : ClientPhase Item} (hc : s.client.flushed = some p) (hd : s.data.buffer = []) :
      Moves s .flushed { s with client := p }
  | reply {v : Item} {j : Json} {c : Channel Json} (hc : s.client = .awaiting v)
      (hr : s.replies.pop = some (j, c)) : Moves s .reply { s with
        client := .idle, replies := c, sends := s.sends ++ [(v, replyResult codec j)] }
  | replyEof {v : Item} (hc : s.client = .awaiting v) (hs : s.server = .gone)
      (hr : s.replies.wire = []) : Moves s .replyEof { s with
        client := .idle
        sends := s.sends ++ [(v, .error (.protocol "No acknowledgment received"))] }
  | dropSend {p : ClientPhase Item} (hc : s.client.dropped = some p) :
      Moves s .dropSend { s with client := p }
  | hangUp (hc : s.client = .idle) : Moves s .hangUp { s with client := .closed }
  | call (hs : s.server = .outside) : Moves s .call { s with server := .reading }
  | read {j : Json} {c : Channel Json} (hs : s.server = .reading)
      (hd : s.data.pop = some (j, c)) : Moves s .read { s with
        server := (receive codec j).phase
        data := c
        nexts := s.nexts ++ (receive codec j).result
        taken := s.taken ++ (payload j).toList }
  | eof (hs : s.server = .reading) (hc : s.client = .closed) (hd : s.data.wire = []) :
      Moves s .eof { s with server := .outside, nexts := s.nexts ++ [none] }
  | enqueueAck {v : Item} (hs : s.server = .acking v) : Moves s .enqueueAck { s with
        server := .ackFlushing v
        replies := s.replies.push NotificationMsg.ack.toJson
        answers := s.answers ++ [.ack] }
  | flushAck {c : Channel Json} (hs : s.server.writes = true) (hr : s.replies.flush = some c) :
      Moves s .flushAck { s with replies := c }
  | ackFlushed {v : Item} (hs : s.server = .ackFlushing v) (hr : s.replies.buffer = []) :
      Moves s .ackFlushed { s with server := .outside, nexts := s.nexts ++ [some (.ok v)] }
  | dropNext {p : ServerPhase Item} (hs : s.server.dropped = some p) :
      Moves s .dropNext { s with server := p }
  | handlerReturn (hs : s.server = .outside) : Moves s .handlerReturn { s with server := .gone }

/-- Only a `send` that has yet to queue its frame is refused. -/
theorem ClientPhase.refused_eq_some {p : ClientPhase Item} {v : Item} (h : p.refused = some v) :
    ∃ b, p = .sending v b ∧ ¬ FitsFrame (NotificationMsg.data b).toJson := by
  cases p with
  | sending w b =>
    rw [refused] at h
    split at h
    · cases h
    · rename_i hbig
      cases h
      exact ⟨b, rfl, hbig⟩
  | _ => cases h

/-- What is queued is the item of a `send`, or the end. -/
theorem ClientPhase.enqueue_eq_some {p q : ClientPhase Item} {m : NotificationMsg}
    (h : p.enqueue = some (q, m)) :
    (∃ v b, p = .sending v b ∧ q = .flushing v ∧ m = .data b) ∨
      p = .completing ∧ q = .finishing ∧ m = .completed := by
  cases p with
  | sending v b =>
    cases h
    exact Or.inl ⟨v, b, rfl, rfl, rfl⟩
  | completing =>
    cases h
    exact Or.inr ⟨rfl, rfl, rfl⟩
  | _ => cases h

/-- After the flush a `send` waits for its answer, and the end is the end. -/
theorem ClientPhase.flushed_eq_some {p q : ClientPhase Item} (h : p.flushed = some q) :
    (∃ v, p = .flushing v ∧ q = .awaiting v) ∨ p = .finishing ∧ q = .closed := by
  cases p with
  | flushing v =>
    cases h
    exact Or.inl ⟨v, rfl, rfl⟩
  | finishing =>
    cases h
    exact Or.inr ⟨rfl, rfl⟩
  | _ => cases h

/-- A client whose call was dropped is between two calls, or has none left. -/
theorem ClientPhase.dropped_eq_some {p q : ClientPhase Item} (h : p.dropped = some q) :
    q = .idle ∨ q = .closed := by
  cases p with
  | sending | flushing | awaiting =>
    cases h
    exact Or.inl rfl
  | completing | finishing =>
    cases h
    exact Or.inr rfl
  | idle | closed => cases h

variable {codec}

theorem moves_of_step {s t : NotificationStream Item} {l : Label Item}
    (h : s.step codec l = some t) : Moves codec s l t := by
  cases l with
  | send v =>
    simp only [step] at h
    split at h
    · rename_i b hc hv; cases h; exact .send hc hv
    · rename_i e hc hv; cases h; exact .sendFail hc hv
    · cases h
  | complete =>
    simp only [step] at h
    split at h
    · rename_i hc; cases h; exact .complete hc
    · cases h
  | enqueue =>
    simp only [step] at h
    split at h
    · rename_i v hv; cases h; exact .refused hv
    · rename_i hfit
      obtain ⟨⟨p, m⟩, hc, rfl⟩ := Option.map_eq_some_iff.mp h
      exact .enqueue hfit hc
  | flush =>
    simp only [step] at h
    split at h
    · rename_i hc
      obtain ⟨d, hd, rfl⟩ := Option.map_eq_some_iff.mp h
      exact .flush hc hd
    · cases h
  | flushed =>
    simp only [step] at h
    split at h
    · rename_i hd
      obtain ⟨p, hc, rfl⟩ := Option.map_eq_some_iff.mp h
      exact .flushed hc hd
    · cases h
  | reply =>
    simp only [step] at h
    split at h
    · rename_i v j c hc hr; cases h; exact .reply hc hr
    · cases h
  | replyEof =>
    simp only [step] at h
    split at h
    · rename_i v hc hs hr; cases h; exact .replyEof hc hs hr
    · cases h
  | dropSend =>
    obtain ⟨p, hc, rfl⟩ := Option.map_eq_some_iff.mp h
    exact .dropSend hc
  | hangUp =>
    simp only [step] at h
    split at h
    · rename_i hc; cases h; exact .hangUp hc
    · cases h
  | call =>
    simp only [step] at h
    split at h
    · rename_i hs; cases h; exact .call hs
    · cases h
  | read =>
    simp only [step] at h
    split at h
    · rename_i j c hs hd; cases h; exact .read hs hd
    · cases h
  | eof =>
    simp only [step] at h
    split at h
    · rename_i hs hc hd; cases h; exact .eof hs hc hd
    · cases h
  | enqueueAck =>
    simp only [step] at h
    split at h
    · rename_i v hs; cases h; exact .enqueueAck hs
    · cases h
  | flushAck =>
    simp only [step] at h
    split at h
    · rename_i hs
      obtain ⟨c, hr, rfl⟩ := Option.map_eq_some_iff.mp h
      exact .flushAck hs hr
    · cases h
  | ackFlushed =>
    simp only [step] at h
    split at h
    · rename_i v hs hr; cases h; exact .ackFlushed hs hr
    · cases h
  | dropNext =>
    obtain ⟨p, hs, rfl⟩ := Option.map_eq_some_iff.mp h
    exact .dropNext hs
  | handlerReturn =>
    simp only [step] at h
    split at h
    · rename_i hs; cases h; exact .handlerReturn hs
    · cases h

end NotificationStream

end Zel
