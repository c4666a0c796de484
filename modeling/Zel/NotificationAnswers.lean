import Zel.Notification

/-!
# Every notification is answered

A `send` blocks until the server has answered its frame, so a frame that `next` consumes without an
answer leaves both sides waiting.  `next` acknowledges an item before it returns it; the exit it
takes when an item does not decode writes no answer.

The runs here are the steady ones: no future is dropped and the handler keeps calling `next`,
whatever it returned.

## What is here

* `Answered`, `Deadlocked` — what is promised, and what is to be excluded.
* `Balanced` — while a `send` waits, exactly one `Data` frame, owed answer or answer is on its way,
  and otherwise none is.
* `never_deadlocks_iff` — **a run keeps the promise** and never deadlocks if and only if every
  `Data` frame that `next` takes decodes.
* `undecodable_deadlocks` — a non-finite number leaves both sides waiting.
-/

set_option autoImplicit false

namespace Zel

namespace NotificationStream

variable {Item : Type} {codec : ItemCodec Item}

/-! ## Steady runs -/

/-- The steps of a run in which no future is dropped and the handler does not return. -/
def Label.steady : Label Item → Bool
  | .dropSend | .dropNext | .handlerReturn => false
  | _ => true

/-- The steady runs. -/
def steadyMachine (codec : ItemCodec Item) : Machine (NotificationStream Item) (Label Item) :=
  ⟨new, fun s l ↦ if l.steady then s.step codec l else none⟩

theorem moves_of_steady {s t : NotificationStream Item} {l : Label Item}
    (h : (steadyMachine codec).step s l = some t) : Moves codec s l t ∧ l.steady = true := by
  simp only [steadyMachine] at h
  split at h
  · rename_i hl
    exact ⟨moves_of_step h, hl⟩
  · cases h

/-! ## What is promised -/

/-- An item was taken and its acknowledgment is not queued yet. -/
def ServerPhase.owed : ServerPhase Item → Nat
  | .acking _ => 1
  | _ => 0

/-- A reply that ends a `send`. -/
def IsAnswer : NotificationMsg → Prop
  | .ack | .error _ => True
  | _ => False

/-- Every `Data` frame that `next` has consumed has its one answer, except for an item that it is
about to acknowledge. -/
structure Answered (s : NotificationStream Item) : Prop where
  count : s.taken.length = s.answers.length + s.server.owed
  answer : ∀ m ∈ s.answers, IsAnswer m

/-- The client waits for an answer, the handler waits for a frame, and nothing is on its way. -/
structure Deadlocked (s : NotificationStream Item) : Prop where
  client : ∃ v, s.client = .awaiting v
  server : s.server = .reading
  data : s.data.contents = []
  replies : s.replies.contents = []

/-- A frame that `next` takes decodes, if it is a `Data` frame. -/
def ReadsDecodable (codec : ItemCodec Item) (s : NotificationStream Item) : Label Item → Prop
  | .read => ∀ j c b, s.data.pop = some (j, c) → payload j = some b →
      ∃ v, codec.fromSlice b = .ok v
  | _ => True

/-! ## What is on its way -/

/-- A `send` has queued its frame and has not returned. -/
def ClientPhase.waits : ClientPhase Item → Nat
  | .flushing _ | .awaiting _ => 1
  | _ => 0

/-- The `Data` frames, owed answers and answers that are on their way. -/
def inTransit (s : NotificationStream Item) : Nat :=
  s.data.contents.countP (fun j ↦ (payload j).isSome) + s.server.owed + s.replies.contents.length

/-- The invariant of the steady runs whose frames decode. -/
structure Balanced (s : NotificationStream Item) : Prop extends Answered s where
  stays : s.server ≠ .gone
  transit : s.inTransit = s.client.waits

theorem balanced_new : Balanced (new : NotificationStream Item) :=
  ⟨⟨rfl, by simp [new]⟩, by simp [new], rfl⟩

/-- While the client waits, something is on its way. -/
theorem Balanced.not_deadlocked {s : NotificationStream Item} (hs : Balanced s) :
    ¬ Deadlocked s := by
  rintro ⟨⟨v, hc⟩, hserver, hd, hr⟩
  have h := hs.transit
  rw [inTransit, hd, hr, hserver, hc] at h
  cases h

@[simp] theorem payload_data (b : Bytes) : payload (NotificationMsg.data b).toJson = some b := by
  simp [payload]

@[simp] theorem payload_completed : payload NotificationMsg.completed.toJson = none := by
  simp [payload]

/-- A frame that is no `Data` frame costs no answer. -/
theorem receive_owed_of_payload_none {j : Json} (h : payload j = none) :
    (receive codec j).phase.owed = 0 ∧ (receive codec j).phase ≠ .gone := by
  unfold receive
  unfold payload at h
  split <;> simp_all [Received.phase, ServerPhase.owed]

theorem receive_data {j : Json} {b : Bytes} (h : payload j = some b) :
    receive codec j = match codec.fromSlice b with
      | .ok v => .item v
      | .error e => .returns (some (.error (.deserialization e))) := by
  unfold payload at h
  split at h
  · rename_i b' hj
    cases h
    cases hb : codec.fromSlice b with
    | ok v => simp [receive, hj, hb]
    | error e => simp [receive, hj, hb]
  · cases h

/-- A client that queues its frame has none on its way, and then has one if it is a `send`. -/
theorem enqueue_waits {p q : ClientPhase Item} {m : NotificationMsg}
    (h : p.enqueue = some (q, m)) :
    p.waits = 0 ∧ q.waits = [m.toJson].countP (fun j ↦ (payload j).isSome) := by
  rcases ClientPhase.enqueue_eq_some h with ⟨v, b, rfl, rfl, rfl⟩ | ⟨rfl, rfl, rfl⟩ <;>
    simp [ClientPhase.waits]

theorem flushed_waits {p q : ClientPhase Item} (h : p.flushed = some q) : q.waits = p.waits := by
  rcases ClientPhase.flushed_eq_some h with ⟨v, rfl, rfl⟩ | ⟨rfl, rfl⟩ <;> rfl

/-- **A step of a steady run keeps the balance**, if the frame that `next` takes decodes. -/
theorem Moves.balanced {s t : NotificationStream Item} {l : Label Item} (hm : Moves codec s l t)
    (hl : l.steady = true) (hs : Balanced s) (hc : ReadsDecodable codec s l) : Balanced t := by
  have hcount := hs.count
  have htransit := hs.transit
  unfold inTransit at htransit
  cases hm with
  | send hidle =>
    rw [hidle] at htransit
    exact ⟨⟨hs.count, hs.answer⟩, hs.stays, htransit⟩
  | sendFail => exact ⟨⟨hs.count, hs.answer⟩, hs.stays, hs.transit⟩
  | complete hidle =>
    rw [hidle] at htransit
    exact ⟨⟨hs.count, hs.answer⟩, hs.stays, htransit⟩
  | refused hv =>
    obtain ⟨b, hsending, -⟩ := ClientPhase.refused_eq_some hv
    rw [hsending] at htransit
    exact ⟨⟨hs.count, hs.answer⟩, hs.stays, htransit⟩
  | enqueue _ henq =>
    obtain ⟨hbefore, hafter⟩ := enqueue_waits henq
    refine ⟨⟨hs.count, hs.answer⟩, hs.stays, ?_⟩
    simp only [inTransit, Channel.contents_push, List.countP_append]
    omega
  | flush _ hd =>
    refine ⟨⟨hs.count, hs.answer⟩, hs.stays, ?_⟩
    simp only [inTransit, Channel.contents_of_flush hd]
    exact htransit
  | flushed hp =>
    exact ⟨⟨hs.count, hs.answer⟩, hs.stays, htransit.trans (flushed_waits hp).symm⟩
  | reply hwait hr =>
    refine ⟨⟨hs.count, hs.answer⟩, hs.stays, ?_⟩
    rw [hwait, Channel.contents_of_pop hr, List.length_cons] at htransit
    simp only [inTransit, ClientPhase.waits] at htransit ⊢
    omega
  | replyEof _ hgone => exact absurd hgone hs.stays
  | dropSend => cases hl
  | hangUp hidle =>
    rw [hidle] at htransit
    exact ⟨⟨hs.count, hs.answer⟩, hs.stays, htransit⟩
  | call hout =>
    rw [hout] at hcount htransit
    exact ⟨⟨hcount, hs.answer⟩, by simp, htransit⟩
  | @read j c hread hd =>
    rw [hread] at hcount htransit
    rw [Channel.contents_of_pop hd, List.countP_cons] at htransit
    cases hj : payload j with
    | none =>
      have hnone : (receive codec j).phase.owed = 0 ∧ (receive codec j).phase ≠ .gone :=
        receive_owed_of_payload_none hj
      obtain ⟨howed, hgone⟩ := hnone
      simp only [hj, Option.isSome_none, ServerPhase.owed] at htransit hcount
      refine ⟨⟨?_, hs.answer⟩, hgone, ?_⟩
      · simp only [Option.toList_none, List.append_nil, howed]
        exact hcount
      · simp only [inTransit, howed]
        simpa using htransit
    | some b =>
      obtain ⟨v, hv⟩ := hc j c b hd hj
      simp only [hj, Option.isSome_some, if_true, ServerPhase.owed] at htransit hcount
      rw [receive_data hj, hv]
      refine ⟨⟨?_, hs.answer⟩, by simp [Received.phase], ?_⟩
      · simp only [Option.toList_some, List.length_append, List.length_singleton, Received.phase,
          ServerPhase.owed]
        omega
      · simp only [inTransit, Received.phase, ServerPhase.owed]
        omega
  | eof hread =>
    rw [hread] at hcount htransit
    exact ⟨⟨hcount, hs.answer⟩, by simp, htransit⟩
  | enqueueAck hack =>
    rw [hack] at hcount htransit
    simp only [ServerPhase.owed] at hcount htransit
    refine ⟨⟨?_, ?_⟩, by simp, ?_⟩
    · simp only [List.length_append, List.length_singleton, ServerPhase.owed]
      omega
    · intro m hmem
      rcases List.mem_append.mp hmem with hmem | hmem
      · exact hs.answer m hmem
      · rw [List.mem_singleton.mp hmem]
        trivial
    · simp only [inTransit, Channel.contents_push, List.length_append, List.length_singleton,
        ServerPhase.owed]
      omega
  | flushAck _ hr =>
    refine ⟨⟨hs.count, hs.answer⟩, hs.stays, ?_⟩
    simp only [inTransit, Channel.contents_of_flush hr]
    exact htransit
  | ackFlushed hack =>
    rw [hack] at hcount htransit
    exact ⟨⟨hcount, hs.answer⟩, by simp, htransit⟩
  | dropNext => cases hl
  | handlerReturn => cases hl

/-- A frame that does not decode is consumed without an answer. -/
theorem Moves.not_answered {s t : NotificationStream Item} {l : Label Item}
    (hm : Moves codec s l t) (hs : Balanced s) (hc : ¬ ReadsDecodable codec s l) :
    ¬ Answered t := by
  have hcount := hs.count
  cases hm with
  | @read j c hread hd =>
    simp only [ReadsDecodable, not_forall, not_exists] at hc
    obtain ⟨j', c', b, hd', hj, hno⟩ := hc
    rw [hd] at hd'
    cases hd'
    rw [hread] at hcount
    intro hans
    have hcount' := hans.count
    rw [receive_data hj] at hcount'
    cases hb : codec.fromSlice b with
    | ok v => exact hno v hb
    | error e =>
      simp only [hb, hj, Received.phase, ServerPhase.owed, Option.toList_some, List.length_append,
        List.length_singleton] at hcount hcount'
      omega
  | _ => exact absurd trivial hc

/-- **When a notification stream cannot deadlock.**  In every state of a steady run each `Data`
frame that `next` has consumed has exactly one answer, and client and handler do not wait for each
other, if and only if every `Data` frame that `next` takes decodes as the item type. -/
theorem never_deadlocks_iff (codec : ItemCodec Item) (ls : List (Label Item)) :
    (steadyMachine codec).Along (fun s ↦ Answered s ∧ ¬ Deadlocked s) new ls ↔
      (steadyMachine codec).Meets (ReadsDecodable codec) new ls :=
  Machine.along_iff_meets (I := Balanced)
    (fun _ _ _ hs hc ht ↦ (moves_of_steady ht).1.balanced (moves_of_steady ht).2 hs hc)
    (fun _ hs ↦ ⟨hs.toAnswered, hs.not_deadlocked⟩)
    (fun _ _ _ hs hc ht hgood ↦ (moves_of_steady ht).1.not_answered hs hc hgood.1)
    balanced_new ls

/-! ## A number that is not finite -/

/-- Two values of `f64`. -/
inductive Sample where
  | zero
  | nan
  deriving DecidableEq

/-- `serde_json` writes `0.0` as it is and every non-finite number as `null`, which it does not
read back as a number. -/
def sampleCodec : ItemCodec Sample where
  toVec
    | .zero => .ok [48, 46, 48]
    | .nan => .ok [110, 117, 108, 108]
  fromSlice b :=
    if b = [48, 46, 48] then .ok .zero
    else .error "invalid type: null, expected f64 at line 1 column 4"
  envelopeError _ := "invalid value"

/-- The handler calls `next` again after it returned the error. -/
def nanRun : List (Label Sample) :=
  [.call, .send .nan, .enqueue, .flush, .flushed, .read, .call]

/-- **A notification stream can deadlock**, on an item that encodes and does not decode. -/
theorem undecodable_deadlocks :
    ∃ s, (steadyMachine sampleCodec).run nanRun = some s ∧ ¬ Answered s ∧ Deadlocked s :=
  ⟨_, rfl, fun h ↦ absurd h.count (by decide), ⟨.nan, rfl⟩, rfl, rfl, rfl⟩

end NotificationStream

end Zel
