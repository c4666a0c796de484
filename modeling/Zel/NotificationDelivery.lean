import Zel.NotificationAnswers

/-!
# Acknowledged means delivered

A `send` that returns `Ok(())` should mean that `next` returned its value.  Acknowledgments carry no
identity and are queued before `next` returns, so a future that is dropped can break this: a dropped
`send` leaves an acknowledgment behind that the next one takes for its own, and a dropped `next`
loses an item that it has acknowledged.

## What is here

* `acked`, `delivered`, `AckedDelivered` — the promise, for finished runs.
* `Careful` — the condition: items decode as themselves, a `send` queues its frame only when nothing
  of an earlier one is left, and `next` is not dropped once its acknowledgment is queued.
* `Current` — where the frame of the call in flight is.
* `acked_delivered` — **the promise is kept** in every run whose steps are careful.
* `acked_not_delivered`, `stale_acknowledgment` — the two ways to lose an acknowledged item.
-/

set_option autoImplicit false

namespace Zel

namespace NotificationStream

variable {Item : Type} {codec : ItemCodec Item}

/-! ## The promise -/

/-- The values whose `send` returned `Ok(())`, in order. -/
def acked (sends : List (Item × Except ClientError Unit)) : List Item :=
  sends.filterMap fun r ↦ match r with
    | (v, .ok ()) => some v
    | (_, .error _) => none

/-- The values that `next` returned, in order. -/
def delivered (nexts : List (NextResult Item)) : List Item :=
  nexts.filterMap fun r ↦ match r with
    | some (.ok v) => some v
    | _ => none

/-- No call is in flight on either side. -/
def Finished (s : NotificationStream Item) : Prop :=
  (s.client = .idle ∨ s.client = .closed) ∧ (s.server = .outside ∨ s.server = .gone)

/-- **The promise**, for a run that ends in this state. -/
def AckedDelivered (s : NotificationStream Item) : Prop :=
  s.Finished → (acked s.sends).Sublist (delivered s.nexts)

/-! ## Frames on their way -/

/-- The item that a frame will give `next`, if any. -/
def Received.item? : Received Item → Option Item
  | .item v => some v
  | _ => none

/-- The items that `next` will take from the frames on their way. -/
def inFlight (codec : ItemCodec Item) (frames : List Json) : List Item :=
  frames.filterMap fun j ↦ (receive codec j).item?

/-- Nothing that was queued is left that could still be acknowledged or is an unread answer. -/
structure Settled (codec : ItemCodec Item) (s : NotificationStream Item) : Prop where
  data : inFlight codec s.data.contents = []
  server : ∀ v, s.server ≠ .acking v
  replies : s.replies.contents = []

/-- The careful steps. -/
def Careful (codec : ItemCodec Item) (s : NotificationStream Item) : Label Item → Prop
  | .send v => ∀ b w, codec.toVec v = .ok b → codec.fromSlice b = .ok w → w = v
  | .enqueue => (∃ v b, s.client = .sending v b) → s.Settled codec
  | .dropNext => ∀ v, s.server ≠ .ackFlushing v
  | _ => True

/-- The item that was acknowledged and is not returned yet. -/
def ServerPhase.pending : ServerPhase Item → List Item
  | .ackFlushing v => [v]
  | _ => []

/-- Where the frame of the `send` of `v` is that has queued it and has not returned. -/
inductive Current (flight : List Item) (server : ServerPhase Item) (replies : List Json)
    (acks returned : List Item) (v : Item) : Prop
  | onItsWay (hf : flight = [v]) (hs : ∀ u, server ≠ .acking u) (hr : replies = [])
  | taken (hf : flight = []) (hs : server = .acking v) (hr : replies = [])
  | answered (hf : flight = []) (hs : ∀ u, server ≠ .acking u)
      (hsub : (acks ++ [v]).Sublist (returned ++ server.pending))
  /-- It did not decode, or its `next` was dropped. -/
  | lost (hf : flight = []) (hs : ∀ u, server ≠ .acking u) (hr : replies = [])

/-- The invariant of the careful runs. -/
structure Kept (codec : ItemCodec Item) (s : NotificationStream Item) : Prop where
  faithful : ∀ v b, s.client = .sending v b → ∀ w, codec.fromSlice b = .ok w → w = v
  base : (acked s.sends).Sublist (delivered s.nexts ++ s.server.pending)
  current : ∀ v, s.client = .flushing v ∨ s.client = .awaiting v →
    Current (inFlight codec s.data.contents) s.server s.replies.contents (acked s.sends)
      (delivered s.nexts) v

theorem kept_new : Kept codec (new : NotificationStream Item) := by
  refine ⟨fun v b h ↦ ?_, ?_, fun v h ↦ ?_⟩
  · cases h
  · exact List.Sublist.refl _
  · rcases h with h | h <;> cases h

/-- **In a finished state** the invariant is the promise. -/
theorem Kept.ackedDelivered {s : NotificationStream Item} (hs : Kept codec s) :
    s.AckedDelivered := by
  rintro ⟨-, hserver⟩
  have h := hs.base
  rcases hserver with hserver | hserver <;> rw [hserver] at h <;>
    simpa [ServerPhase.pending] using h

/-! ## What the steps do to the logs -/

@[simp] theorem acked_concat_ok (xs : List (Item × Except ClientError Unit)) (v : Item) :
    acked (xs ++ [(v, .ok ())]) = acked xs ++ [v] := by
  simp [acked]

@[simp] theorem acked_concat_error (xs : List (Item × Except ClientError Unit)) (v : Item)
    (e : ClientError) : acked (xs ++ [(v, .error e)]) = acked xs := by
  simp [acked]

@[simp] theorem delivered_concat_ok (xs : List (NextResult Item)) (v : Item) :
    delivered (xs ++ [some (.ok v)]) = delivered xs ++ [v] := by
  simp [delivered]

@[simp] theorem delivered_concat_none (xs : List (NextResult Item)) :
    delivered (xs ++ [none]) = delivered xs := by
  simp [delivered]

/-- `next` returns an item only after its acknowledgment. -/
theorem delivered_receive (xs : List (NextResult Item)) (j : Json) :
    delivered (xs ++ (receive codec j).result) = delivered xs := by
  have hresult : delivered (receive codec j).result = [] := by
    unfold receive
    split
    · rfl
    · split <;> rfl
    all_goals rfl
  rw [delivered, List.filterMap_append]
  exact (congrArg _ hresult).trans (List.append_nil _)

theorem inFlight_cons (j : Json) (js : List Json) :
    inFlight codec (j :: js) = (receive codec j).item?.toList ++ inFlight codec js := by
  unfold inFlight
  cases h : (receive codec j).item? with
  | none => simp [h]
  | some v => simp [h]

theorem inFlight_concat (js : List Json) (j : Json) :
    inFlight codec (js ++ [j]) = inFlight codec js ++ (receive codec j).item?.toList := by
  rw [inFlight, List.filterMap_append]
  exact congrArg _ ((inFlight_cons j []).trans (List.append_nil _))

/-- A frame that gives an item leads to its acknowledgment, and no other frame leads to one. -/
theorem receive_item?_eq_some {j : Json} {v : Item} :
    (receive codec j).item? = some v ↔ (receive codec j).phase = .acking v := by
  cases receive codec j <;> simp [Received.item?, Received.phase]

theorem pending_receive (j : Json) : (receive codec j).phase.pending = [] := by
  cases receive codec j <;> rfl

/-! ## Steps -/

/-- The server moves between phases in which it neither owes nor holds an acknowledgment. -/
theorem Current.server {flight : List Item} {p q : ServerPhase Item} {replies : List Json}
    {acks returned : List Item} {v : Item} (h : Current flight p replies acks returned v)
    (hp : ∀ u, p ≠ .acking u) (hq : ∀ u, q ≠ .acking u) (hpend : q.pending = p.pending) :
    Current flight q replies acks returned v := by
  cases h with
  | onItsWay hf _ hr => exact .onItsWay hf hq hr
  | taken _ hs => exact absurd hs (hp v)
  | answered hf _ hsub => exact .answered hf hq (hpend ▸ hsub)
  | lost hf _ hr => exact .lost hf hq hr

/-- A step of the client that ends or does not touch the call in flight. -/
theorem Kept.client {s : NotificationStream Item} (hs : Kept codec s) {p : ClientPhase Item}
    {sends : List (Item × Except ClientError Unit)} (hsends : acked sends = acked s.sends)
    (hf : ∀ v b, p = .sending v b → ∀ w, codec.fromSlice b = .ok w → w = v)
    (hcur : ∀ v, p = .flushing v ∨ p = .awaiting v →
      s.client = .flushing v ∨ s.client = .awaiting v) :
    Kept codec { s with client := p, sends := sends } := by
  refine ⟨hf, ?_, fun v hv ↦ ?_⟩
  · show (acked sends).Sublist _
    rw [hsends]
    exact hs.base
  · show Current _ _ _ (acked sends) _ v
    rw [hsends]
    exact hs.current v (hcur v hv)

/-- A `next` returns, or is called, without an acknowledgment being queued. -/
theorem Kept.server {s : NotificationStream Item} (hs : Kept codec s) {p : ServerPhase Item}
    {nexts : List (NextResult Item)}
    (hnexts : delivered nexts ++ p.pending = delivered s.nexts ++ s.server.pending)
    (hp : ∀ u, s.server ≠ .acking u) (hq : ∀ u, p ≠ .acking u) :
    Kept codec { s with server := p, nexts := nexts } := by
  refine ⟨hs.faithful, ?_, fun v hv ↦ ?_⟩
  · show (acked s.sends).Sublist (delivered nexts ++ p.pending)
    rw [hnexts]
    exact hs.base
  · cases hs.current v hv with
    | onItsWay hf _ hr => exact .onItsWay hf hq hr
    | taken _ hserver => exact absurd hserver (hp v)
    | answered hf _ hsub =>
      refine .answered hf hq ?_
      show (acked s.sends ++ [v]).Sublist (delivered nexts ++ p.pending)
      rw [hnexts]
      exact hsub
    | lost hf _ hr => exact .lost hf hq hr

/-- **A frame is queued** when nothing is left of an earlier one. -/
theorem Kept.enqueue {s : NotificationStream Item} (hs : Kept codec s) {v : Item} {b : Bytes}
    (hc : s.client = .sending v b) (hsettled : s.Settled codec) :
    Kept codec
      { s with client := .flushing v, data := s.data.push (NotificationMsg.data b).toJson } := by
  have hflight : inFlight codec (s.data.push (NotificationMsg.data b).toJson).contents =
      (receive codec (NotificationMsg.data b).toJson).item?.toList := by
    rw [Channel.contents_push, inFlight_concat, hsettled.data, List.nil_append]
  refine ⟨by simp, hs.base, fun w hw ↦ ?_⟩
  have hwv : w = v := by
    rcases hw with hw | hw <;> cases hw
    rfl
  subst hwv
  cases hb : codec.fromSlice b with
  | ok u =>
    have hu : u = w := hs.faithful w b hc u hb
    subst hu
    refine .onItsWay ?_ hsettled.server hsettled.replies
    show inFlight codec (s.data.push _).contents = _
    rw [hflight, receive_data (payload_data b), hb]
    rfl
  | error e =>
    refine .lost ?_ hsettled.server hsettled.replies
    show inFlight codec (s.data.push _).contents = _
    rw [hflight, receive_data (payload_data b), hb]
    rfl

/-- **A frame is read** by `next`. -/
theorem Kept.read {s : NotificationStream Item} (hs : Kept codec s) {j : Json} {c : Channel Json}
    (hread : s.server = .reading) (hd : s.data.pop = some (j, c)) (taken : List Bytes) :
    Kept codec { s with
      server := (receive codec j).phase
      data := c
      nexts := s.nexts ++ (receive codec j).result
      taken := taken } := by
  have hbase := hs.base
  rw [hread] at hbase
  refine ⟨hs.faithful, ?_, fun v hv ↦ ?_⟩
  · show (acked s.sends).Sublist (delivered (s.nexts ++ _) ++ (receive codec j).phase.pending)
    rw [delivered_receive, pending_receive]
    exact hbase
  · have hcur := hs.current v hv
    rw [Channel.contents_of_pop hd, inFlight_cons, hread] at hcur
    show Current (inFlight codec c.contents) (receive codec j).phase s.replies.contents
      (acked s.sends) (delivered (s.nexts ++ _)) v
    rw [delivered_receive]
    cases hj : (receive codec j).item? with
    | none =>
      have hno : ∀ u, (receive codec j).phase ≠ .acking u := fun u hu ↦ by
        rw [receive_item?_eq_some.mpr hu] at hj
        cases hj
      rw [hj, Option.toList_none, List.nil_append] at hcur
      exact hcur.server (by simp) hno (pending_receive j)
    | some u =>
      rw [hj, Option.toList_some, List.singleton_append] at hcur
      cases hcur with
      | onItsWay hf _ hr =>
        obtain ⟨rfl, hrest⟩ := List.cons.inj hf
        exact .taken hrest (receive_item?_eq_some.mp hj) hr
      | taken hf => cases hf
      | answered hf => cases hf
      | lost hf => cases hf

/-- **An acknowledgment is queued.** -/
theorem Kept.enqueueAck {s : NotificationStream Item} (hs : Kept codec s) {u : Item}
    (hack : s.server = .acking u) (replies : Channel Json) (answers : List NotificationMsg) :
    Kept codec { s with server := .ackFlushing u, replies := replies, answers := answers } := by
  have hpend : s.server.pending = [] := by rw [hack]; rfl
  have hbase := hs.base
  rw [hpend, List.append_nil] at hbase
  refine ⟨hs.faithful, hbase.trans (List.sublist_append_left _ _), fun v hv ↦ ?_⟩
  cases hs.current v hv with
  | onItsWay _ hno => exact absurd hack (hno u)
  | taken hf hserver =>
    rw [hack] at hserver
    cases hserver
    exact .answered hf (by simp) (hbase.append (List.Sublist.refl [u]))
  | answered _ hno => exact absurd hack (hno u)
  | lost _ hno => exact absurd hack (hno u)

/-- **A careful step keeps the invariant.** -/
theorem Moves.kept {s t : NotificationStream Item} {l : Label Item} (hm : Moves codec s l t)
    (hs : Kept codec s) (hc : Careful codec s l) : Kept codec t := by
  cases hm with
  | @send v b hidle hv =>
    refine hs.client rfl (fun w b' hw u hu ↦ ?_) (by simp)
    cases hw
    exact hc b u hv hu
  | sendFail => exact hs.client (acked_concat_error _ _ _) hs.faithful fun _ h ↦ h
  | complete => exact hs.client rfl (by simp) (by simp)
  | refused => exact hs.client (acked_concat_error _ _ _) (by simp) (by simp)
  | @enqueue p m _ henq =>
    rcases ClientPhase.enqueue_eq_some henq with ⟨v, b, hclient, rfl, rfl⟩ | ⟨-, rfl, rfl⟩
    · exact hs.enqueue hclient (hc ⟨v, b, hclient⟩)
    · exact ⟨by simp, hs.base, by simp⟩
  | flush _ hd =>
    refine ⟨hs.faithful, hs.base, fun v hv ↦ ?_⟩
    show Current (inFlight codec _) _ _ _ _ v
    rw [Channel.contents_of_flush hd]
    exact hs.current v hv
  | @flushed p hp hd =>
    rcases ClientPhase.flushed_eq_some hp with ⟨w, hclient, rfl⟩ | ⟨-, rfl⟩
    · refine hs.client rfl (by simp) (fun v hv ↦ ?_)
      rcases hv with hv | hv <;> cases hv
      exact Or.inl hclient
    · exact hs.client rfl (by simp) (by simp)
  | @reply v j c hwait hr =>
    have hcur := hs.current v (Or.inr hwait)
    rw [Channel.contents_of_pop hr] at hcur
    refine ⟨by simp, ?_, by simp⟩
    show (acked (s.sends ++ [(v, replyResult codec j)])).Sublist _
    cases hres : replyResult codec j with
    | ok =>
      rw [acked_concat_ok]
      cases hcur with
      | answered _ _ hsub => exact hsub
      | onItsWay _ _ hr' => cases hr'
      | taken _ _ hr' => cases hr'
      | lost _ _ hr' => cases hr'
    | error e =>
      rw [acked_concat_error]
      exact hs.base
  | replyEof => exact hs.client (acked_concat_error _ _ _) (by simp) (by simp)
  | @dropSend p hp =>
    rcases ClientPhase.dropped_eq_some hp with rfl | rfl <;>
      exact hs.client rfl (by simp) (by simp)
  | hangUp => exact hs.client rfl (by simp) (by simp)
  | call hout => exact hs.server (by rw [hout]; rfl) (by simp [hout]) (by simp)
  | read hread hd => exact hs.read hread hd _
  | eof hread =>
    exact hs.server (by rw [hread, delivered_concat_none]; rfl) (by simp [hread]) (by simp)
  | enqueueAck hack => exact hs.enqueueAck hack _ _
  | flushAck _ hr =>
    refine ⟨hs.faithful, hs.base, fun v hv ↦ ?_⟩
    show Current _ _ _ _ _ v
    rw [Channel.contents_of_flush hr]
    exact hs.current v hv
  | @ackFlushed v hack =>
    refine hs.server ?_ (by simp [hack]) (by simp)
    rw [hack, delivered_concat_ok]
    simp [ServerPhase.pending]
  | @dropNext p hp =>
    cases hserver : s.server with
    | reading =>
      rw [hserver] at hp
      cases hp
      exact hs.server (by rw [hserver]; rfl) (by simp [hserver]) (by simp)
    | acking u =>
      rw [hserver] at hp
      cases hp
      have hbase := hs.base
      rw [hserver] at hbase
      refine ⟨hs.faithful, hbase, fun v hv ↦ ?_⟩
      cases hs.current v hv with
      | taken hf _ hr => exact .lost hf (by simp) hr
      | onItsWay _ hno => exact absurd hserver (hno u)
      | answered _ hno => exact absurd hserver (hno u)
      | lost _ hno => exact absurd hserver (hno u)
    | ackFlushing u => exact absurd hserver (hc u)
    | _ => rw [hserver] at hp; cases hp
  | handlerReturn hout => exact hs.server (by rw [hout]; rfl) (by simp [hout]) (by simp)

/-- **Acknowledged means delivered**, in every run whose steps are careful: whenever no call is in
flight, the values whose `send` returned `Ok(())` are, in order, a subsequence of the values that
`next` returned. -/
theorem acked_delivered (codec : ItemCodec Item) {ls : List (Label Item)}
    (h : (machine codec).Meets (Careful codec) new ls) :
    (machine codec).Along AckedDelivered new ls :=
  (Machine.along_of_meets (I := Kept codec) (fun _ _ _ hs hc ht ↦ (moves_of_step ht).kept hs hc)
    kept_new h).mono fun _ hs ↦ hs.ackedDelivered

/-- A value is sent, taken, acknowledged and returned; the reply is read last. -/
def deliveredRun : List (Label Sample) :=
  [.call, .send .zero, .enqueue, .flush, .flushed, .read, .enqueueAck, .flushAck, .ackFlushed,
    .reply]

theorem careful_deliveredRun :
    (machine sampleCodec).Meets (Careful sampleCodec) new deliveredRun := by
  refine (Machine.meets_cons_of_step rfl).mpr ⟨trivial, ?_⟩
  refine (Machine.meets_cons_of_step rfl).mpr ⟨fun b w hb hw ↦ ?_, ?_⟩
  · cases hb
    cases hw
    rfl
  refine (Machine.meets_cons_of_step rfl).mpr ⟨fun _ ↦ ⟨rfl, by simp, rfl⟩, ?_⟩
  -- the other steps are careful whatever the state
  iterate 7 refine (Machine.meets_cons_of_step rfl).mpr ⟨trivial, ?_⟩
  trivial

/-- The rule at work on that run. -/
theorem acked_deliveredRun : (machine sampleCodec).Along AckedDelivered new deliveredRun :=
  acked_delivered sampleCodec careful_deliveredRun

/-- `next` is dropped, in a `select!`, after its acknowledgment went out. -/
def droppedNextRun : List (Label Sample) :=
  [.call, .send .zero, .enqueue, .flush, .flushed, .read, .enqueueAck, .flushAck, .dropNext, .reply]

/-- **An acknowledged item can be lost** with the `next` that acknowledged it. -/
theorem acked_not_delivered :
    ∃ s, (machine sampleCodec).run droppedNextRun = some s ∧ ¬ AckedDelivered s := by
  refine ⟨_, rfl, fun h ↦ ?_⟩
  have hsub := h ⟨Or.inl rfl, Or.inl rfl⟩
  cases hsub

/-- A `send` is dropped while it waits, and the next one reads the answer that was meant for it,
before its own frame is taken. -/
def staleAckRun : List (Label Sample) :=
  [.call, .send .zero, .enqueue, .flush, .flushed, .dropSend, .read, .enqueueAck, .flushAck,
    .ackFlushed, .send .nan, .enqueue, .flush, .flushed, .reply]

/-- **A stale acknowledgment** makes a `send` return `Ok(())` whose item nobody has read. -/
theorem stale_acknowledgment :
    ∃ s, (machine sampleCodec).run staleAckRun = some s ∧ ¬ AckedDelivered s := by
  refine ⟨_, rfl, fun h ↦ ?_⟩
  have hsub := h ⟨Or.inl rfl, Or.inl rfl⟩
  revert hsub
  decide

end NotificationStream

end Zel
