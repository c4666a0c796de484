import Zel.Lib.Carries
import Zel.Lib.FrameStream
import Zel.Notification

/-!
# Subscription streams

One established subscription: `SubscriptionSink::send` and `close` on the server
(`protocol/streaming.rs`), and on the client `SubscriptionStream::poll_next` (`protocol/client.rs`)
under the `poll_next` of the generated typed stream (`render/types.rs`).  An item travels as JSON
within the JSON of a `SubscriptionMsg` within a frame.  The bytes of a frame leave the sink's buffer
and arrive in pieces of any size; the client's task polls whenever it runs, and is suspended when a
poll has found nothing and until something arrives.

The stream starts behind the `Established` frame, which `subscribe` has read with the same
`FramedRead`.  The typed stream skips further ones, so any number of them may come first here.

## What is here

* `Subscription.step`, `Subscription.machine` — a subscription and its runs.
* `Subscription.Ledger` — what was yielded and what the frames still carry is what was sent.
* `Subscription.subscription_delivers` — **the client gets what was sent**: at any time a prefix,
  and in the end exactly the items whose `send` returned `Ok`, in order, and then `None`.
-/

set_option autoImplicit false

namespace Zel

/-- `SubscriptionError` -/
inductive SubscriptionError where
  | serialization (message : String)
  | send (message : String)
  deriving DecidableEq

/-- `std::task::Poll` -/
inductive Poll (α : Type) where
  | ready (a : α)
  | pending

/-- The bytes of a frame: the length header and the text. -/
def frameSize (j : Json) : Nat := 4 + j.textLength

namespace Subscription

/-! ## The parties -/

/-- Where the `SubscriptionSink` stands. -/
inductive SinkPhase (Item : Type) where
  /-- No call is in flight. -/
  | idle
  /-- `send` has encoded its frame and flushes. -/
  | sending (v : Item)
  /-- `close` has encoded its frame and flushes. -/
  | closing
  /-- The sink is gone, and its stream finished. -/
  | gone

/-- Where the client's task stands. -/
inductive TaskPhase where
  /-- It runs, or was woken. -/
  | ready
  /-- Its last poll has found nothing, and nothing has arrived since. -/
  | suspended
  deriving DecidableEq

end Subscription

open Subscription in
/-- A subscription: the two parties, the stream, and what has happened. -/
structure Subscription (Item : Type) where
  sink : SinkPhase Item
  stream : FrameStream frameSize
  /-- The end of the stream has arrived. -/
  ended : Bool
  task : TaskPhase
  /-- The results of the calls of `send`. -/
  sends : List (Item × Except SubscriptionError Unit)
  /-- What the polls of the typed stream yielded. -/
  polled : List (Option (Except ClientError Item))

namespace Subscription

variable {Item : Type}

/-- A stream of which the client has yet to skip these `Established` frames. -/
def new (greetings : List (String × String)) : Subscription Item :=
  ⟨.idle, .flushed (greetings.map fun (s, r) ↦ (SubscriptionMsg.established s r).toJson), false,
    .ready, [], []⟩

/-! ## The client's polls -/

/-- `SubscriptionStream::poll_next`, from what its `FramedRead` gives. -/
def streamPollNext (codec : ItemCodec Item) :
    FrameStream.FrameRead frameSize → Poll (Option (Except ClientError SubscriptionMsg))
  | .frame j _ =>
    match SubscriptionMsg.fromJson j with
    | some msg => .ready (some (.ok msg))
    | none => .ready (some (.error (.serialization (codec.envelopeError j))))
  | .broken => .ready (some (.error (.connection "bytes remaining on stream")))
  | .eof => .ready none
  | .pending => .pending

/-- The generated `poll_next`, from what the inner stream gives; and whether it calls
`wake_by_ref`. -/
def pollNext (codec : ItemCodec Item) :
    Poll (Option (Except ClientError SubscriptionMsg)) →
      Poll (Option (Except ClientError Item)) × Bool
  | .ready (some (.ok (.data data))) =>
    match codec.fromSlice data with
    | .ok value => (.ready (some (.ok value)), false)
    | .error e => (.ready (some (.error (.serialization e))), false)
  | .ready (some (.ok .stopped)) => (.ready none, false)
  | .ready (some (.ok .serverShutdown)) => (.ready none, false)
  | .ready (some (.ok (.established _ _))) => (.pending, true)
  | .ready (some (.error e)) => (.ready (some (.error e)), false)
  | .ready none => (.ready none, false)
  | .pending => (.pending, false)

/-- What a read leaves of the stream. -/
def afterRead (c : FrameStream frameSize) :
    FrameStream.FrameRead frameSize → FrameStream frameSize
  | .frame _ rest => rest
  | _ => c

/-- The client's task polls the typed stream. -/
def poll (codec : ItemCodec Item) (s : Subscription Item) : Subscription Item :=
  let read := s.stream.next s.ended
  let s := { s with stream := afterRead s.stream read }
  match pollNext codec (streamPollNext codec read) with
  | (.ready r, _) => { s with task := .ready, polled := s.polled ++ [r] }
  | (.pending, true) => { s with task := .ready }
  | (.pending, false) => { s with task := .suspended }

section

variable (codec : ItemCodec Item) (s : Subscription Item)

/-! A poll is the client's affair: it leaves the sink alone. -/

@[simp] theorem poll_sink : (s.poll codec).sink = s.sink := by
  dsimp only [poll]
  split <;> rfl

@[simp] theorem poll_ended : (s.poll codec).ended = s.ended := by
  dsimp only [poll]
  split <;> rfl

@[simp] theorem poll_sends : (s.poll codec).sends = s.sends := by
  dsimp only [poll]
  split <;> rfl

@[simp] theorem poll_stream :
    (s.poll codec).stream = afterRead s.stream (s.stream.next s.ended) := by
  dsimp only [poll]
  split <;> rfl

end

/-! ## The steps -/

/-- The steps of the two parties and of the network. -/
inductive Label (Item : Type) where
  /-- `send(v)` is called. -/
  | send (v : Item)
  /-- `close()` is called. -/
  | close
  /-- `k` bytes of the sink's buffer go to the stream. -/
  | flush (k : Nat)
  /-- The sink's buffer is empty, and the call in flight returns. -/
  | flushed
  /-- The sink is dropped. -/
  | drop
  /-- `k` bytes arrive, which wakes the client's task. -/
  | arrive (k : Nat)
  /-- The end of the stream arrives, which wakes the client's task. -/
  | finish
  /-- The client's task, which runs, polls. -/
  | poll
  /-- The client's task polls without having been woken. -/
  | spurious

/-- A call of the sink is in flight. -/
def SinkPhase.writes : SinkPhase Item → Bool
  | .sending _ | .closing => true
  | .idle | .gone => false

variable (codec : ItemCodec Item)

/-- One step. -/
def step (s : Subscription Item) : Label Item → Option (Subscription Item)
  | .send v =>
    match s.sink, codec.toVec v with
    | .idle, .ok b =>
      let frame := (SubscriptionMsg.data b).toJson
      if FitsFrame frame then some { s with sink := .sending v, stream := s.stream.push frame }
      else some { s with sends := s.sends ++ [(v, .error (.send frameTooBig))] }
    | .idle, .error e => some { s with sends := s.sends ++ [(v, .error (.serialization e))] }
    | _, _ => none
  | .close =>
    match s.sink with
    | .idle => some { s with
        sink := .closing
        stream := s.stream.push SubscriptionMsg.stopped.toJson }
    | _ => none
  | .flush k =>
    if s.sink.writes then (s.stream.flush k).map fun c ↦ { s with stream := c } else none
  | .flushed =>
    if s.stream.buffered = 0 then
      match s.sink with
      | .sending v => some { s with sink := .idle, sends := s.sends ++ [(v, .ok ())] }
      | .closing => some { s with sink := .gone }
      | _ => none
    else none
  | .drop =>
    match s.sink with
    | .idle => some { s with sink := .gone }
    | _ => none
  | .arrive k => (s.stream.arrive k).map fun c ↦ { s with stream := c, task := .ready }
  | .finish =>
    match s.sink with
    | .gone => if s.stream.inFlight = 0 then some { s with ended := true, task := .ready } else none
    | _ => none
  | .poll => if s.task = .ready then some (s.poll codec) else none
  | .spurious => if s.task = .suspended then some (s.poll codec) else none

/-- All runs of a subscription. -/
def machine (greetings : List (String × String)) : Machine (Subscription Item) (Label Item) :=
  ⟨new greetings, step codec⟩

/-! ## What a step does -/

/-- The steps, one constructor for each way a label can move the stream. -/
inductive Moves (s : Subscription Item) : Label Item → Subscription Item → Prop
  | send {v : Item} {b : Bytes} (hs : s.sink = .idle) (hv : codec.toVec v = .ok b)
      (hfit : FitsFrame (SubscriptionMsg.data b).toJson) : Moves s (.send v) { s with
        sink := .sending v, stream := s.stream.push (SubscriptionMsg.data b).toJson }
  | refused {v : Item} {b : Bytes} (hs : s.sink = .idle) (hv : codec.toVec v = .ok b)
      (hbig : ¬ FitsFrame (SubscriptionMsg.data b).toJson) :
      Moves s (.send v) { s with sends := s.sends ++ [(v, .error (.send frameTooBig))] }
  | sendFail {v : Item} {e : String} (hs : s.sink = .idle) (hv : codec.toVec v = .error e) :
      Moves s (.send v) { s with sends := s.sends ++ [(v, .error (.serialization e))] }
  | close (hs : s.sink = .idle) : Moves s .close { s with
        sink := .closing, stream := s.stream.push SubscriptionMsg.stopped.toJson }
  | flush {k : Nat} {c : FrameStream frameSize} (hs : s.sink.writes = true)
      (hc : s.stream.flush k = some c) : Moves s (.flush k) { s with stream := c }
  | sent {v : Item} (hs : s.sink = .sending v) (hb : s.stream.buffered = 0) :
      Moves s .flushed { s with sink := .idle, sends := s.sends ++ [(v, .ok ())] }
  | closed (hs : s.sink = .closing) (hb : s.stream.buffered = 0) :
      Moves s .flushed { s with sink := .gone }
  | drop (hs : s.sink = .idle) : Moves s .drop { s with sink := .gone }
  | arrive {k : Nat} {c : FrameStream frameSize} (hc : s.stream.arrive k = some c) :
      Moves s (.arrive k) { s with stream := c, task := .ready }
  | finish (hs : s.sink = .gone) (hf : s.stream.inFlight = 0) :
      Moves s .finish { s with ended := true, task := .ready }
  | poll (ht : s.task = .ready) : Moves s .poll (s.poll codec)
  | spurious (ht : s.task = .suspended) : Moves s .spurious (s.poll codec)

variable {codec}

theorem moves_of_step {s t : Subscription Item} {l : Label Item} (h : s.step codec l = some t) :
    Moves codec s l t := by
  cases l with
  | send v =>
    simp only [step] at h
    split at h
    · rename_i b hs hv
      split at h
      · rename_i hfit; cases h; exact .send hs hv hfit
      · rename_i hbig; cases h; exact .refused hs hv hbig
    · rename_i e hs hv; cases h; exact .sendFail hs hv
    · cases h
  | close =>
    simp only [step] at h
    split at h
    · rename_i hs; cases h; exact .close hs
    · cases h
  | flush k =>
    simp only [step] at h
    split at h
    · rename_i hs
      obtain ⟨c, hc, rfl⟩ := Option.map_eq_some_iff.mp h
      exact .flush hs hc
    · cases h
  | flushed =>
    simp only [step] at h
    split at h
    · rename_i hb
      split at h
      · rename_i v hs; cases h; exact .sent hs hb
      · rename_i hs; cases h; exact .closed hs hb
      · cases h
    · cases h
  | drop =>
    simp only [step] at h
    split at h
    · rename_i hs; cases h; exact .drop hs
    · cases h
  | arrive k =>
    obtain ⟨c, hc, rfl⟩ := Option.map_eq_some_iff.mp h
    exact .arrive hc
  | finish =>
    simp only [step] at h
    split at h
    · rename_i hs
      split at h
      · rename_i hf; cases h; exact .finish hs hf
      · cases h
    · cases h
  | poll =>
    simp only [step] at h
    split at h
    · rename_i ht; cases h; exact .poll ht
    · cases h
  | spurious =>
    simp only [step] at h
    split at h
    · rename_i ht; cases h; exact .spurious ht
    · cases h

/-! ## What the frames carry -/

/-- The frames of a subscription. -/
def frameKinds (codec : ItemCodec Item) : FrameKinds Json Item where
  item j v := ∃ b, j = (SubscriptionMsg.data b).toJson ∧ codec.fromSlice b = .ok v
  skipped j := ∃ service resource, j = (SubscriptionMsg.established service resource).toJson
  last j := j = SubscriptionMsg.stopped.toJson

theorem carries_greetings (codec : ItemCodec Item) (greetings : List (String × String)) :
    Carries (frameKinds codec)
      (greetings.map fun (s, r) ↦ (SubscriptionMsg.established s r).toJson) [] false := by
  refine Carries.of_skipped fun j hj ↦ ?_
  obtain ⟨g, -, rfl⟩ := List.mem_map.mp hj
  exact ⟨g.1, g.2, rfl⟩

/-! ## What was sent, and what was yielded -/

/-- The values whose `send` has returned `Ok`. -/
def accepted (s : Subscription Item) : List Item :=
  s.sends.filterMap fun
    | (v, .ok ()) => some v
    | (_, .error _) => none

/-- The value whose `send` is under way. -/
def SinkPhase.inHand : SinkPhase Item → List Item
  | .sending v => [v]
  | _ => []

/-- The sink takes no more values. -/
def SinkPhase.over : SinkPhase Item → Bool
  | .closing | .gone => true
  | .idle | .sending _ => false

/-! ## The invariant -/

/-- What was yielded and what the frames still carry is what was sent. -/
structure Ledger (codec : ItemCodec Item) (s : Subscription Item) (vs coming : List Item)
    (closed : Bool) (n : Nat) : Prop where
  yielded : Yields s.polled vs n
  carries : Carries (frameKinds codec) s.stream.frames coming closed
  sent : vs ++ coming = s.accepted ++ s.sink.inHand
  /-- `Stopped` is the last frame. -/
  closed : closed = true → s.sink.over = true
  /-- The end comes last. -/
  last : n ≠ 0 → s.stream.frames = [] ∧ s.sink.over = true

/-- What holds in every state. -/
structure Inv (codec : ItemCodec Item) (s : Subscription Item) : Prop where
  ledger : ∃ vs coming closed n, Ledger codec s vs coming closed n
  /-- A call of the sink returns when its frame is flushed. -/
  flushed : s.sink.writes = false → s.stream.buffered = 0
  ended : s.ended = true → s.sink = .gone ∧ s.stream.inFlight = 0
  /-- No wake-up is lost: a suspended task has nothing to read. -/
  awake : s.task = .suspended → s.stream.next s.ended = .pending

theorem inv_new (codec : ItemCodec Item) (greetings : List (String × String)) :
    Inv codec (new greetings) where
  ledger := ⟨[], [], false, 0, rfl, carries_greetings codec greetings, rfl, nofun, absurd rfl⟩
  flushed _ := rfl
  ended := nofun
  awake := nofun

/-- A `send` that fails leaves everything as it was. -/
theorem accepted_concat_error (s : Subscription Item) (v : Item) (e : SubscriptionError) :
    accepted { s with sends := s.sends ++ [(v, .error e)] } = s.accepted := by
  simp [accepted]

theorem accepted_concat_ok (s : Subscription Item) (v : Item) :
    accepted { s with sends := s.sends ++ [(v, .ok ())], sink := .idle } = s.accepted ++ [v] := by
  simp [accepted]

/-- An item at the head of the stream is yielded. -/
theorem poll_data {codec : ItemCodec Item} {s : Subscription Item} {v : Item} {b : Bytes}
    {rest : FrameStream frameSize} (hv : codec.fromSlice b = .ok v)
    (h : s.stream.next s.ended = .frame (SubscriptionMsg.data b).toJson rest) :
    s.poll codec = { s with
      stream := rest, task := .ready, polled := s.polled ++ [some (.ok v)] } := by
  simp [poll, h, streamPollNext, pollNext, afterRead, hv]

/-- An `Established` frame is skipped, and the task stays awake. -/
theorem poll_established {codec : ItemCodec Item} {s : Subscription Item}
    {service resource : String} {rest : FrameStream frameSize}
    (h : s.stream.next s.ended =
      .frame (SubscriptionMsg.established service resource).toJson rest) :
    s.poll codec = { s with stream := rest, task := .ready } := by
  simp [poll, h, streamPollNext, pollNext, afterRead]

/-- `Stopped` ends the stream. -/
theorem poll_stopped {codec : ItemCodec Item} {s : Subscription Item}
    {rest : FrameStream frameSize}
    (h : s.stream.next s.ended = .frame SubscriptionMsg.stopped.toJson rest) :
    s.poll codec = { s with stream := rest, task := .ready, polled := s.polled ++ [none] } := by
  simp [poll, h, streamPollNext, pollNext, afterRead]

/-- So does its own end. -/
theorem poll_eof {codec : ItemCodec Item} {s : Subscription Item}
    (h : s.stream.next s.ended = .eof) :
    s.poll codec = { s with task := .ready, polled := s.polled ++ [none] } := by
  simp [poll, h, streamPollNext, pollNext, afterRead]

theorem poll_pending {codec : ItemCodec Item} {s : Subscription Item}
    (h : s.stream.next s.ended = .pending) : s.poll codec = { s with task := .suspended } := by
  simp [poll, h, streamPollNext, pollNext, afterRead]

/-- Only a poll that finds nothing suspends the task; one that skips a frame has woken it. -/
theorem poll_suspended {codec : ItemCodec Item} {s : Subscription Item}
    (h : (s.poll codec).task = .suspended) : s.stream.next s.ended = .pending := by
  cases hread : s.stream.next s.ended with
  | pending => rfl
  | eof => simp [poll, hread, streamPollNext, pollNext] at h
  | broken => simp [poll, hread, streamPollNext, pollNext] at h
  | frame j rest =>
    cases hm : SubscriptionMsg.fromJson j with
    | none => simp [poll, hread, hm, streamPollNext, pollNext] at h
    | some m =>
      cases m with
      | data b =>
        cases hv : codec.fromSlice b <;> simp [poll, hread, hm, hv, streamPollNext, pollNext] at h
      | _ => simp [poll, hread, hm, streamPollNext, pollNext] at h

/-- What a poll can find. -/
theorem Inv.next_cases {codec : ItemCodec Item} {s : Subscription Item} (hs : Inv codec s) :
    (∃ j rest, s.stream.next s.ended = .frame j rest) ∨
      (s.stream.frames = [] ∧ s.ended = true ∧ s.stream.next s.ended = .eof) ∨
      s.stream.next s.ended = .pending := by
  cases he : s.ended with
  | false =>
    rcases FrameStream.next_false s.stream with hpend | hframe
    · exact Or.inr (Or.inr hpend)
    · exact Or.inl hframe
  | true =>
    -- when the end has arrived, so has everything else
    obtain ⟨hsink, hflight⟩ := hs.ended he
    have hbuf := hs.flushed (by rw [hsink]; rfl)
    cases hframes : s.stream.frames with
    | nil => exact Or.inr (Or.inl ⟨rfl, rfl, FrameStream.next_of_drained hframes⟩)
    | cons j frames =>
      obtain ⟨rest, hrest⟩ := FrameStream.next_of_arrived true hframes hbuf hflight
      exact Or.inl ⟨j, rest, hrest⟩

/-- A poll keeps the ledger. -/
theorem Inv.ledger_poll {codec : ItemCodec Item} {s : Subscription Item} (hs : Inv codec s) :
    ∃ vs coming closed n, Ledger codec (s.poll codec) vs coming closed n := by
  obtain ⟨vs, coming, closed, n, hy, hc, hsent, hclosed, hlast⟩ := hs.ledger
  rcases hs.next_cases with ⟨j, rest, hread⟩ | ⟨hframes, he, hread⟩ | hread
  · obtain ⟨hframes, -, -⟩ := FrameStream.next_eq_frame hread
    have hn : n = 0 := by
      by_contra hn
      rw [(hlast hn).1] at hframes
      cases hframes
    subst hn
    rw [hframes] at hc
    generalize hrest : rest.frames = frames at hc
    cases hc with
    | last hstop =>
      cases hstop
      rw [poll_stopped hread]
      exact ⟨vs, [], false, 1, hy.concat_end, hrest ▸ .nil, hsent, nofun, fun _ ↦
        ⟨hrest, hclosed rfl⟩⟩
    | skipped hest hcarry =>
      obtain ⟨service, resource, rfl⟩ := hest
      rw [poll_established hread]
      exact ⟨vs, coming, closed, 0, hy, hrest ▸ hcarry, hsent, hclosed, absurd rfl⟩
    | @item _ frames v vs' e hdata hcarry =>
      obtain ⟨b, rfl, hv⟩ := hdata
      rw [poll_data hv hread]
      refine ⟨vs ++ [v], vs', closed, 0, hy.concat_item v, hrest ▸ hcarry, ?_, hclosed,
        absurd rfl⟩
      rw [List.append_assoc]
      exact hsent
  · rw [poll_eof hread]
    have hover : s.sink.over = true := by
      rw [(hs.ended he).1]
      rfl
    exact ⟨vs, coming, closed, n + 1, hy.concat_end, hc, hsent, hclosed, fun _ ↦
      ⟨hframes, hover⟩⟩
  · rw [poll_pending hread]
    exact ⟨vs, coming, closed, n, hy, hc, hsent, hclosed, hlast⟩

theorem Inv.poll {codec : ItemCodec Item} {s : Subscription Item} (hs : Inv codec s) :
    Inv codec (s.poll codec) where
  ledger := hs.ledger_poll
  flushed hw := by
    rw [poll_sink] at hw
    rw [poll_stream]
    have hbuf := hs.flushed hw
    cases hread : s.stream.next s.ended with
    | frame j rest => exact (FrameStream.next_eq_frame hread).2.1.trans hbuf
    | _ => exact hbuf
  ended he := by
    rw [poll_ended] at he
    obtain ⟨hsink, hflight⟩ := hs.ended he
    rw [poll_sink, poll_stream]
    refine ⟨hsink, ?_⟩
    cases hread : s.stream.next s.ended with
    | frame j rest => exact (FrameStream.next_eq_frame hread).2.2.trans hflight
    | _ => exact hflight
  awake ht := by
    have hread := poll_suspended ht
    rw [poll_pending hread]
    exact hread

/-- A call of the sink that has encoded its frame: `vs` is what it adds to what is sent. -/
theorem Ledger.push {codec : ItemCodec Item} {s : Subscription Item} {vs coming : List Item}
    {closed : Bool} {n : Nat} (hl : Ledger codec s vs coming closed n) (hs : s.sink = .idle)
    {sink : SinkPhase Item} {frame : Json} {coming' : List Item} {closed' : Bool}
    (hc : Carries (frameKinds codec) s.stream.frames coming false →
      Carries (frameKinds codec) (s.stream.frames ++ [frame]) coming' closed')
    (hsent : coming' = coming ++ sink.inHand) (hclosed : closed' = true → sink.over = true) :
    Ledger codec { s with sink := sink, stream := s.stream.push frame } vs coming' closed' n := by
  have hopen : closed = false := by
    cases hclosed : closed with
    | false => rfl
    | true =>
      have hover := hl.closed hclosed
      rw [hs] at hover
      cases hover
  have hn : n = 0 := by
    by_contra hn
    have hover := (hl.last hn).2
    rw [hs] at hover
    cases hover
  subst hopen hn
  refine ⟨hl.yielded, hc hl.carries, ?_, hclosed, absurd rfl⟩
  have hbefore := hl.sent
  rw [hs] at hbefore
  show vs ++ coming' = s.accepted ++ sink.inHand
  rw [hsent, ← List.append_assoc, hbefore]
  simp [SinkPhase.inHand]

/-- The parts of the state that the ledger is about. -/
theorem Ledger.congr {codec : ItemCodec Item} {s t : Subscription Item} {vs coming : List Item}
    {closed : Bool} {n : Nat} (hl : Ledger codec s vs coming closed n)
    (hpolled : t.polled = s.polled) (hframes : t.stream.frames = s.stream.frames)
    (hsent : t.accepted ++ t.sink.inHand = s.accepted ++ s.sink.inHand)
    (hover : s.sink.over = true → t.sink.over = true) : Ledger codec t vs coming closed n where
  yielded := hpolled.trans hl.yielded
  carries := hframes ▸ hl.carries
  sent := hl.sent.trans hsent.symm
  closed h := hover (hl.closed h)
  last hn := ⟨hframes.trans (hl.last hn).1, hover (hl.last hn).2⟩

/-- While the sink is there the end of the stream has not arrived. -/
theorem Inv.not_ended {codec : ItemCodec Item} {s : Subscription Item} (hs : Inv codec s)
    (hsink : s.sink ≠ .gone) : s.ended = false := by
  cases he : s.ended with
  | false => rfl
  | true => exact absurd (hs.ended he).1 hsink

/-- A suspended task stays so rightly when nothing new can be read. -/
theorem Inv.awake_of_pop {codec : ItemCodec Item} {s : Subscription Item} (hs : Inv codec s)
    (hsink : s.sink ≠ .gone) {c : FrameStream frameSize}
    (hc : s.stream.pop = none → c.pop = none) (ht : s.task = .suspended) :
    c.next s.ended = .pending := by
  have hread := hs.awake ht
  rw [hs.not_ended hsink] at hread ⊢
  exact FrameStream.next_eq_pending_iff.mpr (hc (FrameStream.next_eq_pending_iff.mp hread))

theorem frameSize_pos (j : Json) : 0 < frameSize j := Nat.add_pos_left (by decide) _

/-- **Every step keeps the invariant.** -/
theorem Moves.inv {codec : RoundTripCodec Item} {s t : Subscription Item} {l : Label Item}
    (h : Moves codec.toItemCodec s l t) (hs : Inv codec.toItemCodec s) :
    Inv codec.toItemCodec t := by
  obtain ⟨vs, coming, closed, n, hl⟩ := hs.ledger
  cases h with
  | @send v b hsink hv hfit =>
    have hgone : s.sink ≠ .gone := by simp [hsink]
    refine ⟨⟨vs, coming ++ [v], false, n, hl.push hsink (fun hc ↦
      hc.concat_item ⟨b, rfl, codec.round_trip v b hv⟩) rfl nofun⟩, nofun, fun he ↦ ?_, fun ht ↦ ?_⟩
    · exact absurd (hs.ended he).1 hgone
    · exact hs.awake_of_pop hgone
        (fun hp ↦ FrameStream.pop_push_of_none hp (frameSize_pos _)) ht
  | @refused v b hsink =>
    refine ⟨⟨vs, coming, closed, n, hl.congr rfl rfl ?_ id⟩, hs.flushed, hs.ended, hs.awake⟩
    rw [accepted_concat_error]
  | @sendFail v e hsink =>
    refine ⟨⟨vs, coming, closed, n, hl.congr rfl rfl ?_ id⟩, hs.flushed, hs.ended, hs.awake⟩
    rw [accepted_concat_error]
  | close hsink =>
    have hgone : s.sink ≠ .gone := by simp [hsink]
    refine ⟨⟨vs, coming, true, n, hl.push hsink (fun hc ↦ hc.concat_last rfl)
      (by simp [SinkPhase.inHand]) (fun _ ↦ rfl)⟩, nofun, fun he ↦ ?_, fun ht ↦ ?_⟩
    · exact absurd (hs.ended he).1 hgone
    · exact hs.awake_of_pop hgone
        (fun hp ↦ FrameStream.pop_push_of_none hp (frameSize_pos _)) ht
  | @flush k c hw hc =>
    have hgone : s.sink ≠ .gone := fun hg ↦ by simp [hg, SinkPhase.writes] at hw
    refine ⟨⟨vs, coming, closed, n, hl.congr rfl (FrameStream.flush_eq_some hc).1 rfl id⟩,
      fun hw' ↦ absurd (hw.symm.trans hw') (by simp), fun he ↦ ?_, fun ht ↦ ?_⟩
    · exact absurd (hs.ended he).1 hgone
    · exact hs.awake_of_pop hgone (FrameStream.pop_flush_of_none hc) ht
  | @sent v hsink hb =>
    refine ⟨⟨vs, coming, closed, n, hl.congr rfl rfl ?_ ?_⟩, fun _ ↦ hb, fun he ↦ ?_, hs.awake⟩
    · rw [accepted_concat_ok, hsink]
      simp [SinkPhase.inHand]
    · rw [hsink]
      exact nofun
    · rw [(hs.ended he).1] at hsink
      cases hsink
  | closed hsink hb =>
    refine ⟨⟨vs, coming, closed, n, hl.congr rfl rfl ?_ fun _ ↦ rfl⟩, fun _ ↦ hb, fun he ↦ ?_,
      hs.awake⟩
    · rw [hsink]
      rfl
    · exact ⟨rfl, (hs.ended he).2⟩
  | drop hsink =>
    refine ⟨⟨vs, coming, closed, n, hl.congr rfl rfl ?_ fun _ ↦ rfl⟩, fun _ ↦ ?_, fun he ↦ ?_,
      hs.awake⟩
    · rw [hsink]
      rfl
    · exact hs.flushed (by rw [hsink]; rfl)
    · exact ⟨rfl, (hs.ended he).2⟩
  | @arrive k c hc =>
    obtain ⟨hframes, hbuf, hflight⟩ := FrameStream.arrive_eq_some hc
    refine ⟨⟨vs, coming, closed, n, hl.congr rfl hframes rfl id⟩,
      fun hw ↦ hbuf.trans (hs.flushed hw), fun he ↦ ?_, nofun⟩
    obtain ⟨hsink, hzero⟩ := hs.ended he
    have hle : c.inFlight + k = 0 := hflight.trans hzero
    exact ⟨hsink, Nat.eq_zero_of_add_eq_zero_right hle⟩
  | finish hsink hf =>
    exact ⟨⟨vs, coming, closed, n, hl.congr rfl rfl rfl id⟩, hs.flushed, fun _ ↦ ⟨hsink, hf⟩,
      nofun⟩
  | poll => exact hs.poll
  | spurious => exact hs.poll

/-! ## Delivery -/

theorem SinkPhase.inHand_of_over {p : SinkPhase Item} (h : p.over = true) : p.inHand = [] := by
  cases p with
  | closing => rfl
  | gone => rfl
  | idle => cases h
  | sending v => cases h

/-- When the end was yielded, everything else was. -/
theorem Ledger.all {codec : ItemCodec Item} {s : Subscription Item} {vs coming : List Item}
    {closed : Bool} {n : Nat} (hl : Ledger codec s vs coming closed n)
    (hframes : s.stream.frames = []) (hover : s.sink.over = true) : vs = s.accepted := by
  have hsent := hl.sent
  have hc := hl.carries
  rw [hframes] at hc
  rw [hc.nil_items, SinkPhase.inHand_of_over hover, List.append_nil, List.append_nil] at hsent
  exact hsent

/-- The polls have yielded all items that were sent, and the end. -/
def Done (vs : List Item) (s : Subscription Item) : Prop := ∃ n, n ≠ 0 ∧ Yields s.polled vs n

/-- Once the end of the stream has arrived the task is awake. -/
theorem Inv.step_poll {codec : ItemCodec Item} {s : Subscription Item} (hs : Inv codec s)
    (he : s.ended = true) : s.step codec .poll = some (s.poll codec) := by
  have htask : s.task = .ready := by
    cases ht : s.task with
    | ready => rfl
    | suspended =>
      have hended := FrameStream.next_eq_pending (hs.awake ht)
      rw [he] at hended
      cases hended
  exact if_pos htask

/-- From then on it polls until it has yielded everything. -/
theorem Inv.leads {codec : ItemCodec Item} {greetings : List (String × String)}
    {frames : List Json} {s : Subscription Item} (hs : Inv codec s) (he : s.ended = true)
    (hframes : s.stream.frames = frames) :
    (machine codec greetings).Leads .poll (Done s.accepted) s := by
  induction frames generalizing s with
  | nil =>
    rcases hs.next_cases with ⟨j, rest, hread⟩ | ⟨-, -, hread⟩ | hread
    · rw [(FrameStream.next_eq_frame hread).1] at hframes
      cases hframes
    · refine .step (hs.step_poll he) (.here ?_)
      obtain ⟨vs, coming, closed, n, hl⟩ := hs.ledger
      have hall := hl.all hframes (by rw [(hs.ended he).1]; rfl)
      refine ⟨n + 1, Nat.succ_ne_zero n, ?_⟩
      rw [poll_eof hread, ← hall]
      exact hl.yielded.concat_end
    · rw [FrameStream.next_eq_pending hread] at he
      cases he
  | cons j frames ih =>
    rcases hs.next_cases with ⟨j', rest, hread⟩ | ⟨hnil, -, -⟩ | hread
    · have hrest := (FrameStream.next_eq_frame hread).1
      rw [hframes, List.cons.injEq] at hrest
      have haccepted : (s.poll codec).accepted = s.accepted := by
        rw [accepted, poll_sends]
        rfl
      have hleads := ih hs.poll (by rw [poll_ended, he])
        (by rw [poll_stream, hread]; exact hrest.2.symm)
      rw [haccepted] at hleads
      exact .step (hs.step_poll he) hleads
    · rw [hnil] at hframes
      cases hframes
    · rw [FrameStream.next_eq_pending hread] at he
      cases he

/-- What the client gets of a subscription. -/
structure Delivers (codec : ItemCodec Item) (greetings : List (String × String))
    (s : Subscription Item) : Prop where
  /-- The polls have yielded a prefix of what was sent, each item as `Ok`, and the end only after
  all of it. -/
  order : ∃ vs n, Yields s.polled vs n ∧ vs <+: s.accepted ++ s.sink.inHand ∧
    (n ≠ 0 → s.sink.over = true ∧ vs = s.accepted)
  /-- A task that is suspended has nothing to read. -/
  awake : s.task = .suspended → s.stream.next s.ended = .pending
  /-- Once the sink is gone and the end of its stream has arrived, polling yields what is left of
  the items whose `send` returned `Ok`, and then the end. -/
  complete : s.ended = true → (machine codec greetings).Leads .poll (Done s.accepted) s

theorem Inv.delivers {codec : ItemCodec Item} (greetings : List (String × String))
    {s : Subscription Item} (hs : Inv codec s) : Delivers codec greetings s where
  order := by
    obtain ⟨vs, coming, closed, n, hl⟩ := hs.ledger
    refine ⟨vs, n, hl.yielded, ⟨coming, hl.sent⟩, fun hn ↦ ?_⟩
    obtain ⟨hframes, hover⟩ := hl.last hn
    exact ⟨hover, hl.all hframes hover⟩
  awake := hs.awake
  complete he := hs.leads he rfl

/-- **The client gets what was sent.**  In every run of a subscription, whatever `send` refuses,
however the bytes are cut into pieces and whenever the client polls: the typed stream has yielded a
prefix of the values whose `send` returned `Ok`, or is under way, and `None` only after all of them;
and once the sink is closed or dropped and its stream has arrived, polling yields exactly those
values and then `None`. -/
theorem subscription_delivers (codec : RoundTripCodec Item) (greetings : List (String × String))
    (ls : List (Label Item)) :
    (machine codec.toItemCodec greetings).Along (Delivers codec.toItemCodec greetings)
      (new greetings) ls := by
  have hinv := Machine.along_of_invariant (M := machine codec.toItemCodec greetings)
    (I := Inv codec.toItemCodec) (fun _ _ _ hs ht ↦ (moves_of_step ht).inv hs)
    (inv_new codec.toItemCodec greetings) ls
  exact hinv.mono fun _ hs ↦ hs.delivers greetings

/-- An item arrives in two pieces, with a poll in between, and then the stream is closed. -/
example : ((machine bytesCodec.toItemCodec []).run
    [.send [7], .flush 16, .flushed, .arrive 10, .poll, .arrive 6, .poll, .close, .flush 13,
      .flushed, .arrive 13, .finish, .poll]).map Subscription.polled =
    some [some (.ok [7]), none] := by
  rfl

end Subscription

end Zel
