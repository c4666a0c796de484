import Mathlib.Data.List.Basic

/-!
# Buffered FIFO directions

One direction of a stream behind a framed writer.  A frame that is pushed goes to the writer's
buffer, a flush moves frames from there to the wire, in order, and the reader takes them from the
wire.  Frames are neither lost nor reordered: what a channel holds is a queue, and flushing does not
change it.
-/

set_option autoImplicit false

/-- One direction: the writer's buffer and the frames on the wire, oldest first. -/
structure Channel (α : Type*) where
  buffer : List α
  wire : List α

namespace Channel

variable {α : Type*}

/-- An empty direction. -/
def empty : Channel α := ⟨[], []⟩

/-- All frames that are on their way, oldest first. -/
def contents (c : Channel α) : List α := c.wire ++ c.buffer

/-- The writer queues a frame. -/
def push (c : Channel α) (a : α) : Channel α := { c with buffer := c.buffer ++ [a] }

/-- The writer's oldest frame goes to the wire. -/
def flush (c : Channel α) : Option (Channel α) :=
  match c.buffer with
  | [] => none
  | a :: as => some ⟨as, c.wire ++ [a]⟩

/-- The reader takes the oldest frame. -/
def pop (c : Channel α) : Option (α × Channel α) :=
  match c.wire with
  | [] => none
  | a :: as => some (a, { c with wire := as })

@[simp] theorem contents_push (c : Channel α) (a : α) :
    (c.push a).contents = c.contents ++ [a] := by
  simp [contents, push]

/-- Flushing changes nothing for the reader. -/
theorem contents_of_flush {c d : Channel α} (h : c.flush = some d) : d.contents = c.contents := by
  unfold flush at h
  split at h
  · cases h
  · rename_i a as hbuf
    cases h
    simp [contents, hbuf]

/-- The frame that leaves the buffer is its first. -/
theorem buffer_of_flush {c d : Channel α} (h : c.flush = some d) :
    ∃ a, c.buffer = a :: d.buffer := by
  unfold flush at h
  split at h
  · cases h
  · rename_i a as hbuf
    cases h
    exact ⟨a, hbuf⟩

/-- The reader takes frames from the front of the queue. -/
theorem contents_of_pop {c d : Channel α} {a : α} (h : c.pop = some (a, d)) :
    c.contents = a :: d.contents := by
  unfold pop at h
  split at h
  · cases h
  · rename_i b bs hwire
    cases h
    simp [contents, hwire]

/-- The reader leaves the writer's buffer alone. -/
theorem buffer_of_pop {c d : Channel α} {a : α} (h : c.pop = some (a, d)) :
    d.buffer = c.buffer := by
  unfold pop at h
  split at h <;> cases h
  rfl

end Channel
