import Mathlib.Data.List.Basic
import Mathlib.Data.List.Infix

/-
  Streams of length-prefixed frames.

  A frame is a header of fixed size that tells the length of
  its payload, and the payload.  `nextFrame` takes the first
  complete frame that is not empty off a stream; the frames
  of a stream are the longest prefix that consists of such
  frames, and every stream has exactly one such splitting.

  Main declarations:
    * `Framing.Header` and `Framing.frame`
    * `Framing.nextFrame_frame`
    * `Framing.Frames`
    * `Framing.split` and `Framing.frames_split`
    * `Framing.frames_unique`
-/

------------------------------------------------------------
-- Frames
------------------------------------------------------------

namespace Framing

variable {β : Type}

/- How a payload length below a bound is written down. -/
structure Header (β : Type) where
  size : Nat
  bound : Nat
  encode : Nat → List β
  decode : List β → Nat
  length_encode : ∀ n, (encode n).length = size
  decode_encode : ∀ n, n < bound → decode (encode n) = n
  encode_decode :
    ∀ bs, bs.length = size → encode (decode bs) = bs
  decode_lt : ∀ bs, bs.length = size → decode bs < bound

variable (h : Header β)

/- A payload behind its length. -/
def frame (p : List β) : List β :=
  h.encode p.length ++ p

/- A payload that fills a frame. -/
def IsPayload (p : List β) : Prop :=
  p ≠ [] ∧ p.length < h.bound

/- The length that a stream announces. -/
def announced (stream : List β) : Nat :=
  h.decode (stream.take h.size)

/-
  The payload of the first frame, unless the stream is cut
  off within it or the frame is empty, and what follows.
-/
def nextFrame
    (stream : List β) : Option (List β × List β) :=
  if stream.length < h.size then
    none
  else if announced h stream = 0 then
    none
  else if (stream.drop h.size).length < announced h stream then
    none
  else
    some ((stream.drop h.size).take (announced h stream),
      (stream.drop h.size).drop (announced h stream))

theorem length_frame
    (p : List β) :
    (frame h p).length = h.size + p.length := by
  rw [frame, List.length_append, h.length_encode]

theorem take_frame
    (p rest : List β) :
    (frame h p ++ rest).take h.size = h.encode p.length := by
  rw [frame, List.append_assoc, ← h.length_encode p.length,
    List.take_left]

theorem drop_frame
    (p rest : List β) :
    (frame h p ++ rest).drop h.size = p ++ rest := by
  rw [frame, List.append_assoc, ← h.length_encode p.length,
    List.drop_left]

/- A stream that begins with a frame announces its length. -/
theorem announced_frame
    {p : List β}
    (hLength : p.length < h.bound)
    (rest : List β) :
    announced h (frame h p ++ rest) = p.length := by
  rw [announced, take_frame, h.decode_encode _ hLength]

theorem nextFrame_frame
    {p : List β}
    (hPayload : IsPayload h p)
    (rest : List β) :
    nextFrame h (frame h p ++ rest) = some (p, rest) := by
  rcases hPayload with ⟨hNonempty, hLength⟩
  have hAnnounced := announced_frame h hLength rest
  have hPos : p.length ≠ 0 := by
    simpa using hNonempty
  have hHeader : ¬ (frame h p ++ rest).length < h.size := by
    rw [List.length_append, length_frame]
    omega
  have hBody : ¬ (p ++ rest).length < p.length := by
    rw [List.length_append]
    omega
  rw [nextFrame, if_neg hHeader, hAnnounced, if_neg hPos,
    drop_frame, if_neg hBody, List.take_left, List.drop_left]

/- What is taken off a stream is a frame at its front. -/
theorem eq_frame_of_nextFrame
    {stream p rest : List β}
    (hNext : nextFrame h stream = some (p, rest)) :
    stream = frame h p ++ rest ∧ IsPayload h p := by
  rw [nextFrame] at hNext
  split at hNext
  next => cases hNext
  next hHeader =>
    split at hNext
    next => cases hNext
    next hZero =>
      split at hNext
      next => cases hNext
      next hBody =>
        rcases Prod.mk.inj (Option.some.inj hNext) with
          ⟨rfl, rfl⟩
        have hSize : (stream.take h.size).length = h.size := by
          rw [List.length_take]
          omega
        have hLength :
            ((stream.drop h.size).take
                (announced h stream)).length =
              announced h stream := by
          rw [List.length_take]
          omega
        refine ⟨?_, ?_, ?_⟩
        · rw [frame, hLength, announced,
            h.encode_decode _ hSize, List.append_assoc,
            List.take_append_drop, List.take_append_drop]
        · intro hNil
          rw [hNil] at hLength
          exact hZero hLength.symm
        · rw [hLength]
          exact h.decode_lt _ hSize

end Framing

------------------------------------------------------------
-- Splitting A Stream
------------------------------------------------------------

namespace Framing

variable {β : Type}
variable (h : Header β)

/- The payloads that are taken off a stream until none is. -/
inductive Frames : List β → List (List β) → Prop
  | stop
      {stream : List β}
      (hNone : nextFrame h stream = none) :
      Frames stream []
  | more
      {stream p rest : List β}
      {ps : List (List β)}
      (hNext : nextFrame h stream = some (p, rest))
      (hRest : Frames rest ps) :
      Frames stream (p :: ps)

/- A frame that is taken off makes the stream shorter. -/
theorem length_lt_of_nextFrame
    {stream p rest : List β}
    (hNext : nextFrame h stream = some (p, rest)) :
    rest.length < stream.length := by
  rcases eq_frame_of_nextFrame h hNext with
    ⟨rfl, hNonempty, -⟩
  have hPos : p.length ≠ 0 := by
    simpa using hNonempty
  rw [List.length_append, length_frame]
  omega

/- Take off at most so many frames. -/
def splitWithin :
    Nat → List β → List (List β) × List β
| 0, stream => ([], stream)
| count + 1, stream =>
    match nextFrame h stream with
    | none => ([], stream)
    | some (p, rest) =>
        (p :: (splitWithin count rest).1,
          (splitWithin count rest).2)

/- The payloads of a stream and what is left of it. -/
def split (stream : List β) : List (List β) × List β :=
  splitWithin h stream.length stream

/- No stream has more frames than bytes. -/
theorem splitWithin_eq
    {count : Nat}
    {stream : List β}
    (hCount : stream.length ≤ count) :
    splitWithin h count stream = split h stream := by
  induction hLength : stream.length using Nat.strong_induction_on
    generalizing stream count with
  | _ n ih =>
      cases hNext : nextFrame h stream with
      | none =>
          rw [split]
          cases count <;> cases stream.length <;>
            simp [splitWithin, hNext]
      | some front =>
          have hLt := length_lt_of_nextFrame h hNext
          rcases
              Nat.exists_eq_add_of_lt (Nat.zero_lt_of_lt hLt)
              with ⟨m, hm⟩
          rcases
              Nat.exists_eq_add_of_lt
                (Nat.lt_of_lt_of_le (Nat.zero_lt_of_lt hLt) hCount)
              with ⟨c, hc⟩
          have hHere :=
            ih front.2.length (hLength ▸ hLt)
              (show front.2.length ≤ c by omega) rfl
          have hThere :=
            ih front.2.length (hLength ▸ hLt)
              (show front.2.length ≤ m by omega) rfl
          rw [split, hc, hm, Nat.zero_add, Nat.zero_add,
            splitWithin, splitWithin, hNext]
          dsimp only
          rw [hHere, hThere]

theorem split_of_none
    {stream : List β}
    (hNone : nextFrame h stream = none) :
    split h stream = ([], stream) := by
  rw [← splitWithin_eq h (Nat.le_succ stream.length),
    splitWithin, hNone]

theorem split_of_some
    {stream p rest : List β}
    (hNext : nextFrame h stream = some (p, rest)) :
    split h stream =
      (p :: (split h rest).1, (split h rest).2) := by
  have hLt := length_lt_of_nextFrame h hNext
  rw [← splitWithin_eq h (Nat.le_succ stream.length),
    splitWithin, hNext]
  dsimp only
  rw [splitWithin_eq h (Nat.le_of_lt hLt)]

/- Splitting finds the frames of a stream. -/
theorem frames_split
    (stream : List β) :
    Frames h stream (split h stream).1 := by
  induction hLength : stream.length using Nat.strong_induction_on
    generalizing stream with
  | _ n ih =>
      cases hNext : nextFrame h stream with
      | none =>
          rw [split_of_none h hNext]
          exact .stop hNext
      | some front =>
          have hLt := length_lt_of_nextFrame h hNext
          rw [split_of_some h hNext]
          exact .more hNext
            (ih front.2.length (hLength ▸ hLt) front.2 rfl)

theorem frames_unique
    {stream : List β}
    {ps qs : List (List β)}
    (hPs : Frames h stream ps)
    (hQs : Frames h stream qs) :
    ps = qs := by
  induction hPs generalizing qs with
  | stop hNone =>
      cases hQs with
      | stop => rfl
      | more hNext =>
          rw [hNone] at hNext
          cases hNext
  | more hNext _ ih =>
      cases hQs with
      | stop hNone =>
          rw [hNone] at hNext
          cases hNext
      | more hNext' hRest' =>
          rw [hNext] at hNext'
          rcases Prod.mk.inj (Option.some.inj hNext') with
            ⟨rfl, rfl⟩
          rw [ih hRest']

end Framing
