import PstHsm.Loops
import Mathlib.Tactic.Common

/-!
# Frames on a stream

A frame is a header of fixed size followed by a payload, whose length the header states
or refuses to state. The frames of a stream are split off one after the other until
what is left does not start with a complete frame. A sequence of frames written one
after the other is split back exactly when each header states its payload's length.
-/

namespace PstHsm.Frames

open Loops

universe u
variable {α : Type u}

/-- How many elements a header has, and the payload length it states. -/
structure Format (α : Type u) where
  headerSize : Nat
  positive : 0 < headerSize
  lengthOf : List α → Option Nat

/-- A header and a payload. -/
abbrev Frame (α : Type u) := List α × List α

/-- A frame as it goes over the stream. -/
def written (frame : Frame α) : List α := frame.1 ++ frame.2

namespace Format

variable (format : Format α)

/-- The header has its size and states the payload's length. -/
def Carries (frame : Frame α) : Prop :=
  frame.1.length = format.headerSize ∧ format.lengthOf frame.1 = some frame.2.length

/-- Split off the frame at the front of a stream, if a complete one is there. -/
def split (stream : List α) : Option (Frame α × List α) :=
  if stream.length < format.headerSize then none
  else
    match format.lengthOf (stream.take format.headerSize) with
    | none => none
    | some length =>
      let body := stream.drop format.headerSize
      if body.length < length then none
      else some ((stream.take format.headerSize, body.take length), body.drop length)

/-- What was split off carries its length, and the stream is its parts. -/
theorem split_sound {stream after : List α} {frame : Frame α}
    (taken : format.split stream = some (frame, after)) :
    format.Carries frame ∧ stream = written frame ++ after := by
  rw [split] at taken
  split at taken
  · cases taken
  · split at taken
    · cases taken
    · dsimp only at taken
      split at taken
      · cases taken
      · rename_i whole _ length stated enough
        have headerLength : (stream.take format.headerSize).length = format.headerSize := by
          rw [List.length_take]
          omega
        have bodyLength : ((stream.drop format.headerSize).take length).length = length := by
          rw [List.length_take]
          omega
        cases taken
        refine ⟨⟨headerLength, ?_⟩, ?_⟩
        · rw [bodyLength, stated]
        · rw [written, List.append_assoc, List.take_append_drop, List.take_append_drop]

/-- A frame that carries its length is split off whatever follows it. -/
theorem split_written {frame : Frame α} (carries : format.Carries frame) (after : List α) :
    format.split (written frame ++ after) = some (frame, after) := by
  obtain ⟨header, payload⟩ := frame
  obtain ⟨size, stated⟩ := carries
  have front : (written (header, payload) ++ after).take format.headerSize = header := by
    rw [written, List.append_assoc, List.take_left' size]
  have back : (written (header, payload) ++ after).drop format.headerSize = payload ++ after := by
    rw [written, List.append_assoc, List.drop_left' size]
  have enough : ¬ (written (header, payload) ++ after).length < format.headerSize := by
    rw [← size, written, List.length_append, List.length_append]
    omega
  have complete : ¬ (payload ++ after).length < payload.length := by
    rw [List.length_append]
    omega
  have stating : format.lengthOf header = some payload.length := stated
  rw [split, if_neg enough, front, back, stating]
  dsimp only
  rw [if_neg complete, List.take_left, List.drop_left]

/-- A frame takes something from the stream. -/
theorem split_shorter {stream after : List α} {frame : Frame α}
    (taken : format.split stream = some (frame, after)) : after.length < stream.length := by
  obtain ⟨⟨size, _⟩, rfl⟩ := format.split_sound taken
  have positive := format.positive
  simp only [written, List.length_append]
  omega

/-- A whole header that states a length fails only for want of a payload. -/
theorem split_none {stream : List α} {length : Nat} (stopped : format.split stream = none)
    (whole : format.headerSize ≤ stream.length)
    (stated : format.lengthOf (stream.take format.headerSize) = some length) :
    (stream.drop format.headerSize).length < length := by
  rw [split, if_neg (Nat.not_lt.mpr whole), stated] at stopped
  by_contra complete
  dsimp only at stopped
  rw [if_neg complete] at stopped
  cases stopped

/-- There is no frame in an empty stream. -/
@[simp] theorem split_nil : format.split [] = none := by
  have positive := format.positive
  simp [split, positive]

/-- Splitting frames off a stream until none is left. -/
def reader : Loop (List α) (Frame α) where
  next := format.split
  measure := List.length
  lowers := format.split_shorter

/-- The complete frames at the front of a stream. -/
def frames (stream : List α) : List (Frame α) := format.reader.items stream

/-- What follows them. -/
def rest (stream : List α) : List α := format.reader.last stream

/-- Without a first frame there are none. -/
theorem frames_none {stream : List α} (stopped : format.split stream = none) :
    format.frames stream = [] := format.reader.items_stopped stopped

/-- And all of the stream is left. -/
theorem rest_none {stream : List α} (stopped : format.split stream = none) :
    format.rest stream = stream := format.reader.last_stopped stopped

/-- A first frame is followed by those of the rest. -/
theorem frames_split {stream after : List α} {frame : Frame α}
    (taken : format.split stream = some (frame, after)) :
    format.frames stream = frame :: format.frames after := format.reader.items_passed taken

/-- And what is left is left of the rest. -/
theorem rest_split {stream after : List α} {frame : Frame α}
    (taken : format.split stream = some (frame, after)) :
    format.rest stream = format.rest after := format.reader.last_passed taken

/-- Every frame of a stream carries its length. -/
theorem frames_carry (stream : List α) : ∀ frame ∈ format.frames stream, format.Carries frame :=
  format.reader.items_hold (fun _ => True)
    (fun _ _ _ _ taken => ⟨(format.split_sound taken).1, trivial⟩) stream trivial

/-- A stream is its frames and the rest. -/
theorem frames_whole (stream : List α) :
    (format.frames stream).flatMap written ++ format.rest stream = stream := by
  induction stream using format.reader.passes with
  | stopped stream stopped =>
    rw [format.frames_none stopped, format.rest_none stopped, List.flatMap_nil, List.nil_append]
  | passed stream frame after taken induction =>
    rw [format.frames_split taken, format.rest_split taken, List.flatMap_cons, List.append_assoc,
      induction]
    exact (format.split_sound taken).2.symm

/-- Frames that carry their lengths are split back, whatever follows them. -/
theorem frames_written {sequence : List (Frame α)} (tail : List α)
    (carry : ∀ frame ∈ sequence, format.Carries frame) :
    format.frames (sequence.flatMap written ++ tail) = sequence ++ format.frames tail := by
  induction sequence with
  | nil => rfl
  | cons frame others induction =>
    have first := carry frame List.mem_cons_self
    have later : ∀ other ∈ others, format.Carries other :=
      fun other member => carry other (List.mem_cons_of_mem _ member)
    rw [List.flatMap_cons, List.append_assoc,
      format.frames_split (format.split_written first _), induction later, List.cons_append]

/-- Nothing is left of frames that carry their lengths. -/
theorem rest_written {sequence : List (Frame α)}
    (carry : ∀ frame ∈ sequence, format.Carries frame) :
    format.rest (sequence.flatMap written) = [] := by
  have whole := format.frames_whole (sequence.flatMap written)
  have split := format.frames_written [] carry
  rw [List.append_nil, format.frames_none format.split_nil, List.append_nil] at split
  rw [split] at whole
  exact List.append_right_eq_self.mp whole

/-- A written sequence is split back exactly when every frame carries its length. -/
theorem frames_written_iff (sequence : List (Frame α)) :
    format.frames (sequence.flatMap written) = sequence ∧
        format.rest (sequence.flatMap written) = [] ↔
      ∀ frame ∈ sequence, format.Carries frame := by
  constructor
  · intro split frame member
    rw [← split.1] at member
    exact format.frames_carry _ frame member
  · intro carry
    have split := format.frames_written [] carry
    rw [List.append_nil, format.frames_none format.split_nil, List.append_nil] at split
    exact ⟨split, format.rest_written carry⟩

end Format

end PstHsm.Frames
