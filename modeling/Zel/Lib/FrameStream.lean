import Mathlib.Algebra.BigOperators.Group.List.Basic
import Mathlib.Algebra.Ring.Nat
import Mathlib.Data.List.Basic

/-!
# Frames on a byte stream

One direction of a reliable byte stream that carries frames.  The writer's frames become bytes in
its buffer, the buffer is flushed to the stream piece by piece, the bytes arrive piece by piece, and
the reader takes a frame once all its bytes have arrived.  How the bytes are cut into pieces has
nothing to do with where the frames end.  The bytes are counted, not spelled out: that a frame is
read as it was written is the codec's business.

## What is here

* `FrameStream` — the frames between writer and reader, with the bytes accounted for.
* `FrameRead`, `FrameStream.next` — what polling the reader gives.
* `next_of_arrived`, `next_of_drained` — when all bytes have arrived the reader gets every frame,
  and then the end of the stream.
-/

set_option autoImplicit false

/-- One direction of a byte stream; `size` is the number of bytes that a frame takes. -/
structure FrameStream {α : Type*} (size : α → Nat) where
  /-- The frames that the reader has yet to take, oldest first. -/
  frames : List α
  /-- The bytes in the writer's buffer. -/
  buffered : Nat
  /-- The bytes on their way. -/
  inFlight : Nat
  /-- The bytes in the reader's buffer. -/
  arrived : Nat
  /-- No byte is lost or made up. -/
  balanced : buffered + inFlight + arrived = (frames.map size).sum

namespace FrameStream

variable {α : Type*} {size : α → Nat}

/-- Frames that the writer has flushed already. -/
def flushed (frames : List α) : FrameStream size :=
  ⟨frames, 0, (frames.map size).sum, 0, by omega⟩

/-- The writer encodes a frame. -/
def push (c : FrameStream size) (a : α) : FrameStream size where
  frames := c.frames ++ [a]
  buffered := c.buffered + size a
  inFlight := c.inFlight
  arrived := c.arrived
  balanced := by
    have := c.balanced
    simp only [List.map_append, List.sum_append, List.map_cons, List.map_nil, List.sum_singleton]
    omega

/-- `k` bytes of the writer's buffer go to the stream. -/
def flush (c : FrameStream size) (k : Nat) : Option (FrameStream size) :=
  if h : k ≤ c.buffered then
    some ⟨c.frames, c.buffered - k, c.inFlight + k, c.arrived, by have := c.balanced; omega⟩
  else none

/-- `k` bytes arrive. -/
def arrive (c : FrameStream size) (k : Nat) : Option (FrameStream size) :=
  if h : k ≤ c.inFlight then
    some ⟨c.frames, c.buffered, c.inFlight - k, c.arrived + k, by have := c.balanced; omega⟩
  else none

/-- The reader takes the oldest frame if it is complete. -/
def pop : FrameStream size → Option (α × FrameStream size)
  | ⟨[], _, _, _, _⟩ => none
  | ⟨a :: as, buffered, inFlight, arrived, balanced⟩ =>
    if h : size a ≤ arrived then
      some (a, ⟨as, buffered, inFlight, arrived - size a, by
        rw [List.map_cons, List.sum_cons] at balanced
        omega⟩)
    else none

/-- What polling the reader gives. -/
inductive FrameRead (size : α → Nat) where
  | frame (a : α) (rest : FrameStream size)
  | eof
  /-- The stream ends within a frame. -/
  | broken
  | pending

/-- The reader is polled; `ended` says whether it has seen the end of the stream. -/
def next (c : FrameStream size) (ended : Bool) : FrameRead size :=
  match c.pop with
  | some (a, rest) => .frame a rest
  | none => if ended then (if c.arrived = 0 then .eof else .broken) else .pending

/-! ## The frames -/

/-- Flushing does not change the frames, and takes its bytes from the buffer. -/
theorem flush_eq_some {c d : FrameStream size} {k : Nat} (h : c.flush k = some d) :
    d.frames = c.frames ∧ d.buffered + k = c.buffered ∧ d.inFlight = c.inFlight + k := by
  unfold flush at h
  split at h
  · rename_i hk
    cases h
    exact ⟨rfl, Nat.sub_add_cancel hk, rfl⟩
  · cases h

/-- Neither does the arrival of bytes. -/
theorem arrive_eq_some {c d : FrameStream size} {k : Nat} (h : c.arrive k = some d) :
    d.frames = c.frames ∧ d.buffered = c.buffered ∧ d.inFlight + k = c.inFlight := by
  unfold arrive at h
  split at h
  · rename_i hk
    cases h
    exact ⟨rfl, rfl, Nat.sub_add_cancel hk⟩
  · cases h

theorem pop_eq_some {c d : FrameStream size} {a : α} (h : c.pop = some (a, d)) :
    c.frames = a :: d.frames ∧ d.buffered = c.buffered ∧ d.inFlight = c.inFlight := by
  obtain ⟨frames, buffered, inFlight, arrived, balanced⟩ := c
  cases frames with
  | nil => cases h
  | cons a' as =>
    rw [pop] at h
    split at h
    · cases h
      exact ⟨rfl, rfl, rfl⟩
    · cases h

/-- When all bytes have arrived the oldest frame is complete. -/
theorem pop_of_arrived {c : FrameStream size} {a : α} {as : List α} (hc : c.frames = a :: as)
    (hb : c.buffered = 0) (hf : c.inFlight = 0) : ∃ d, c.pop = some (a, d) := by
  obtain ⟨frames, buffered, inFlight, arrived, balanced⟩ := c
  cases hc
  have ha : size a ≤ arrived := by
    have hb' : buffered = 0 := hb
    have hf' : inFlight = 0 := hf
    have hsum := balanced
    rw [List.map_cons, List.sum_cons] at hsum
    omega
  exact ⟨_, by rw [pop, dif_pos ha]⟩

/-- A new frame does not complete an older one, nor is it complete itself. -/
theorem pop_push_of_none {c : FrameStream size} {a : α} (h : c.pop = none) (ha : 0 < size a) :
    (c.push a).pop = none := by
  obtain ⟨frames, buffered, inFlight, arrived, balanced⟩ := c
  cases frames with
  | nil =>
    have hsum := balanced
    rw [List.map_nil, List.sum_nil] at hsum
    have hsize : ¬ size a ≤ arrived := by omega
    exact dif_neg hsize
  | cons a' as =>
    rw [pop] at h
    split at h
    · cases h
    · rename_i hsize
      exact dif_neg hsize

/-- Bytes that leave the writer complete no frame. -/
theorem pop_flush_of_none {c d : FrameStream size} {k : Nat} (hd : c.flush k = some d)
    (h : c.pop = none) : d.pop = none := by
  obtain ⟨frames, buffered, inFlight, arrived, balanced⟩ := c
  unfold flush at hd
  split at hd
  · cases hd
    cases frames with
    | nil => rfl
    | cons a' as =>
      rw [pop] at h
      split at h
      · cases h
      · rename_i hsize
        exact dif_neg hsize
  · cases hd

/-! ## The reader -/

theorem next_eq_frame {c d : FrameStream size} {ended : Bool} {a : α}
    (h : c.next ended = .frame a d) :
    c.frames = a :: d.frames ∧ d.buffered = c.buffered ∧ d.inFlight = c.inFlight := by
  unfold next at h
  split at h
  · rename_i hp
    cases h
    exact pop_eq_some hp
  · split at h
    · split at h <;> cases h
    · cases h

/-- The reader waits only for what has not ended. -/
theorem next_eq_pending {c : FrameStream size} {ended : Bool} (h : c.next ended = .pending) :
    ended = false := by
  unfold next at h
  split at h
  · cases h
  · split at h
    · split at h <;> cases h
    · rename_i hend
      simpa using hend

/-- Without the end of the stream the reader gets a frame or waits. -/
theorem next_false (c : FrameStream size) :
    c.next false = .pending ∨ ∃ a d, c.next false = .frame a d := by
  unfold next
  split
  · exact Or.inr ⟨_, _, rfl⟩
  · exact Or.inl rfl

theorem next_eq_pending_iff {c : FrameStream size} :
    c.next false = .pending ↔ c.pop = none := by
  unfold next
  split <;> simp_all

/-- When all bytes have arrived the reader gets the oldest frame. -/
theorem next_of_arrived {c : FrameStream size} (ended : Bool) {a : α} {as : List α}
    (hc : c.frames = a :: as) (hb : c.buffered = 0) (hf : c.inFlight = 0) :
    ∃ d, c.next ended = .frame a d := by
  obtain ⟨d, hd⟩ := pop_of_arrived hc hb hf
  exact ⟨d, by rw [next, hd]⟩

/-- When no frame is left the reader gets the end of the stream, or waits for it. -/
theorem next_of_drained {c : FrameStream size} {ended : Bool} (hc : c.frames = []) :
    c.next ended = if ended then .eof else .pending := by
  obtain ⟨frames, buffered, inFlight, arrived, balanced⟩ := c
  cases hc
  have ha : arrived = 0 := by
    rw [List.map_nil, List.sum_nil] at balanced
    omega
  cases ended
  · rfl
  · simp [next, pop, ha]

end FrameStream
