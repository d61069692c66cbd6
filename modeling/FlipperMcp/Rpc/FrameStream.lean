import FlipperMcp.Rpc.Framing

/-! # Runs of receiving calls

Successive calls of `_receive_main_message` on one transport. Frames that arrive
before the timeouts are decoded in order whatever their cuts
(`receiveMainMessages_frames`). With timeouts between the calls the run keeps to
the frame boundaries as long as no timeout falls inside a frame
(`callsWith_inOrder`): a call whose time runs out there has already consumed the
length in front of the payload, and the next call takes payload bytes for a length
(`callsWith_not_inOrder`).
-/

namespace FlipperMcp

open Coroutine

namespace ProtobufRPC

/-- `n` successive calls of `_receive_main_message`. -/
def receiveMainMessages (pb : Protobuf) (timeout : Time) : ℕ → Link (List (Option Main))
  | 0 => pure []
  | n + 1 => do
      let msg ← receiveMainMessage pb timeout
      let msgs ← receiveMainMessages pb timeout n
      pure (msg :: msgs)

/-- **Lossless framing.** Frames that arrive before the timeouts, cut into any
chunks, are decoded in order by as many calls, and what follows them is kept. -/
theorem receiveMainMessages_frames {σ ρ : Type} {E : LinkEnv σ} {chunks : σ → List Bytes}
    {rest : σ → ρ} (pb : Protobuf) (arrivals : Arrivals E chunks rest) (timeout : Time)
    (payloads : List Bytes)
    (sized : ∀ payload ∈ payloads, 1 ≤ payload.length ∧ payload.length ≤ 1000000)
    (s : Host) (w : σ) (extra : Bytes)
    (stream : s.rxBuffer ++ (chunks w).flatten = payloads.flatMap delimited ++ extra) :
    let o := run E (receiveMainMessages pb timeout payloads.length) s w
    o.result = .ok (payloads.map pb.parseFromString) ∧
      o.host.rxBuffer ++ (chunks o.world).flatten = extra ∧ SameButBuffer s o.host := by
  suffices calls : wp E (fun _ => True) (receiveMainMessages pb timeout payloads.length)
      (fun result s' w' => result = .ok (payloads.map pb.parseFromString) ∧
        unread chunks s' w' = extra ∧ SameButBuffer s s') s w from calls.2
  have quiet : Quiet (fun _ : LinkEvent σ => True) := fun _ _ => trivial
  induction payloads generalizing s w with
  | nil => exact wp_ret.mpr ⟨rfl, stream, .refl s⟩
  | cons payload payloads ih =>
      obtain ⟨positive, bounded⟩ := sized payload (List.mem_cons_self ..)
      have later : ∀ other ∈ payloads, 1 ≤ other.length ∧ other.length ≤ 1000000 :=
        fun other member => sized other (List.mem_cons_of_mem _ member)
      have nonempty : payload ≠ [] := List.length_pos_iff.mp positive
      rw [List.flatMap_cons, List.append_assoc] at stream
      refine wp.bind (wp_receiveMainMessage_frame pb arrivals quiet timeout bounded stream) ?_ ?_
      · intro msg s' w' reached
        obtain ⟨buffer, -, returned, after⟩ := reached
        rw [messageIn_of_ne_nil pb nonempty] at returned
        obtain rfl := Except.ok.inj returned
        refine wp.bind (ih later s' w' after) ?_ ?_
        · intro msgs s'' w'' reached
          obtain ⟨returned, kept, buffer'⟩ := reached
          obtain rfl := Except.ok.inj returned
          exact wp_ret.mpr ⟨rfl, kept, buffer.trans buffer'⟩
        · intro e s'' w'' reached
          exact absurd reached.1 (by exact fun failed => by cases failed)
      · intro e s' w' reached
        exact absurd reached.2.2.1 (by exact fun failed => by cases failed)

/-- Two frames in four chunks, one of them empty, the cuts inside a length and
inside a payload; one further byte stays. -/
theorem receiveMainMessages_frames_cut :
    (run chunkQueue (receiveMainMessages Protobuf.wire (5 / 2) 2)
      { transport := .usb }
      [[4], [8, 1], [], [16, 1, 2, 8], [2, 9]]).result =
      .ok ([[8, 1, 16, 1], [8, 2]].map Protobuf.wire.parseFromString) :=
  (receiveMainMessages_frames Protobuf.wire chunkQueue_arrivals (5 / 2) [[8, 1, 16, 1], [8, 2]]
    (by decide) { transport := .usb } [[4], [8, 1], [], [16, 1, 2, 8], [2, 9]] [9]
    (by decide)).1

/-- Successive calls of `_receive_main_message`, with the chunks that arrive
during each of them; its time runs out when it has received them all. -/
def callsWith (pb : Protobuf) (timeout : Time) :
    List (List Bytes) → Host → List Bytes → List (Option Main) × Host × List Bytes
  | [], s, queue => ([], s, queue)
  | arrived :: later, s, queue =>
      let o := run chunkQueue (receiveMainMessage pb timeout) s (queue ++ arrived)
      let calls := callsWith pb timeout later o.host o.world
      (o.result.toOption.join :: calls.1, calls.2)

/-- What a call can read before its time runs out is nothing, or begins with a
whole frame of at most 1,000,000 bytes. -/
def NoneOrWhole (available : Bytes) : Prop :=
  available = [] ∨ ∃ payload later : Bytes, payload.length ≤ 1000000 ∧
    available = delimited payload ++ later

/-- No call of the run times out inside a frame. -/
def NoTimeoutInside (pb : Protobuf) (timeout : Time) :
    List (List Bytes) → Host → List Bytes → Prop
  | [], _, _ => True
  | arrived :: later, s, queue =>
      NoneOrWhole (s.rxBuffer ++ (queue ++ arrived).flatten) ∧
        let o := run chunkQueue (receiveMainMessage pb timeout) s (queue ++ arrived)
        NoTimeoutInside pb timeout later o.host o.world

/-- The messages a run of calls returned are frames the device sent, in order. -/
def InOrder (pb : Protobuf) (frames : List Bytes) (returned : List (Option Main)) : Prop :=
  (returned.filterMap id).Sublist (frames.filterMap pb.parseFromString)

theorem messageIn_sublist (pb : Protobuf) (frames : List Bytes) :
    (frames.filterMap (messageIn pb)).Sublist (frames.filterMap pb.parseFromString) := by
  induction frames with
  | nil => exact .slnil
  | cons payload frames ih =>
      by_cases empty : payload = []
      · subst empty
        rw [List.filterMap_cons_none (messageIn_nil pb), List.filterMap_cons]
        split
        · exact ih
        · exact ih.cons _
      · rw [List.filterMap_cons, List.filterMap_cons, messageIn_of_ne_nil pb empty]
        cases pb.parseFromString payload with
        | none => exact ih
        | some msg => exact ih.cons_cons msg

/-- One call keeps to the frame boundaries. -/
theorem receiveMainMessage_boundary (pb : Protobuf) (timeout : Time) {frames : List Bytes}
    {s : Host} {queue : List Bytes} {later : Bytes}
    (stream : s.rxBuffer ++ queue.flatten ++ later = frames.flatMap delimited)
    (whole : NoneOrWhole (s.rxBuffer ++ queue.flatten)) :
    let o := run chunkQueue (receiveMainMessage pb timeout) s queue
    ∃ taken left, frames = taken ++ left ∧
      o.host.rxBuffer ++ o.world.flatten ++ later = left.flatMap delimited ∧
      o.result.toOption.join.toList = taken.filterMap (messageIn pb) := by
  have quiet : Quiet (fun _ : LinkEvent (List Bytes) => True) := fun _ _ => trivial
  rcases whole with silent | ⟨payload, behind, bounded, available⟩
  · obtain ⟨-, -, -, returned, after⟩ :=
      wp_receiveMainMessage_silent pb chunkQueue_arrivals quiet timeout silent
    refine ⟨[], frames, rfl, ?_, ?_⟩
    · rw [silent, List.nil_append] at stream
      rw [← stream]
      exact congrArg (· ++ later) after
    · rw [returned]
      rfl
  · obtain ⟨-, -, -, returned, after⟩ :=
      wp_receiveMainMessage_frame pb chunkQueue_arrivals quiet timeout bounded available
    rw [available, List.append_assoc] at stream
    cases frames with
    | nil =>
        rw [List.flatMap_nil, delimited_eq] at stream
        exact absurd (List.append_eq_nil_iff.mp stream).1 (Base128.frame_ne_nil payload)
    | cons sent frames =>
        rw [List.flatMap_cons, delimited_eq, delimited_eq] at stream
        obtain ⟨rfl, rest⟩ := Base128.frame_append_inj stream
        refine ⟨[payload], frames, rfl, ?_, ?_⟩
        · rw [← rest]
          exact congrArg (· ++ later) after
        · rw [returned]
          change (messageIn pb payload).toList = _
          cases made : messageIn pb payload with
          | none => rw [List.filterMap_cons_none made, List.filterMap_nil, Option.toList_none]
          | some msg => rw [List.filterMap_cons_some made, List.filterMap_nil, Option.toList_some]

/-- **No timeout inside a frame, no loss of step.** In a run whose calls each
find nothing or a whole frame, the messages returned are the frames sent, in
order, and the stream stays at a frame boundary. -/
theorem callsWith_inOrder (pb : Protobuf) (timeout : Time) (frames : List Bytes)
    (schedule : List (List Bytes)) (s : Host) (queue : List Bytes) (later : Bytes)
    (stream : s.rxBuffer ++ queue.flatten ++ (schedule.flatten.flatten ++ later) =
      frames.flatMap delimited)
    (inside : NoTimeoutInside pb timeout schedule s queue) :
    let calls := callsWith pb timeout schedule s queue
    InOrder pb frames calls.1 ∧
      ∃ taken left, frames = taken ++ left ∧
        calls.2.1.rxBuffer ++ calls.2.2.flatten ++ later = left.flatMap delimited ∧
        calls.1.filterMap id = taken.filterMap (messageIn pb) := by
  suffices boundary : ∃ taken left, frames = taken ++ left ∧
      (callsWith pb timeout schedule s queue).2.1.rxBuffer ++
        (callsWith pb timeout schedule s queue).2.2.flatten ++ later = left.flatMap delimited ∧
      (callsWith pb timeout schedule s queue).1.filterMap id = taken.filterMap (messageIn pb) by
    obtain ⟨taken, left, rfl, rest, returned⟩ := boundary
    refine ⟨?_, taken, left, rfl, rest, returned⟩
    unfold InOrder
    rw [returned, List.filterMap_append]
    exact (messageIn_sublist pb taken).trans (List.sublist_append_left ..)
  induction schedule generalizing frames s queue with
  | nil =>
      rw [List.flatten_nil, List.flatten_nil, List.nil_append] at stream
      exact ⟨[], frames, rfl, stream, rfl⟩
  | cons arrived schedule ih =>
      obtain ⟨whole, inside⟩ := inside
      rw [List.flatten_cons, List.flatten_append, ← List.append_assoc, ← List.append_assoc,
        List.append_assoc s.rxBuffer, ← List.flatten_append, List.append_assoc] at stream
      obtain ⟨taken, left, rfl, rest, returned⟩ :=
        receiveMainMessage_boundary pb timeout stream whole
      obtain ⟨taken', left', rfl, rest', returned'⟩ := ih left _ _ rest inside
      refine ⟨taken ++ taken', left', (List.append_assoc ..).symm, rest', ?_⟩
      rw [callsWith, List.filterMap_append, ← returned, ← returned']
      generalize (run chunkQueue (receiveMainMessage pb timeout) s
        (queue ++ arrived)).result.toOption.join = msg
      cases msg <;> rfl

/-- A whole frame, then nothing, then the next frame in two chunks. -/
theorem callsWith_inOrder_silence :
    InOrder Protobuf.wire [[8, 1, 16, 1], [8, 2]]
      (callsWith Protobuf.wire (5 / 2) [[[4, 8, 1, 16, 1]], [], [[2], [8, 2]]]
        { transport := .usb } []).1 :=
  (callsWith_inOrder Protobuf.wire (5 / 2) [[8, 1, 16, 1], [8, 2]]
    [[[4, 8, 1, 16, 1]], [], [[2], [8, 2]]] { transport := .usb } [] [] (by decide)
    ⟨.inr ⟨[8, 1, 16, 1], [], by decide, by decide +kernel⟩, .inl (by decide +kernel),
      .inr ⟨[8, 2], [], by decide, by decide +kernel⟩, trivial⟩).1

/-- The time of the first call runs out behind the length of the only frame, a
ping response whose data looks like a frame. The third call returns that. -/
theorem callsWith_not_inOrder :
    ¬ ∀ (pb : Protobuf) (timeout : Time) (frames : List Bytes) (schedule : List (List Bytes))
        (s : Host) (queue : List Bytes) (later : Bytes),
      s.rxBuffer ++ queue.flatten ++ (schedule.flatten.flatten ++ later) =
          frames.flatMap delimited →
        InOrder pb frames (callsWith pb timeout schedule s queue).1 := by
  intro claimed
  have returned := claimed Protobuf.wire (5 / 2) [[8, 5, 50, 8, 10, 6, 0, 0, 0, 2, 16, 5]]
    [[[12]], [[8, 5, 50, 8, 10, 6, 0, 0, 0, 2, 16, 5]], []] { transport := .usb }
    [] [] (by decide)
  revert returned
  unfold InOrder
  decide +kernel

end ProtobufRPC

end FlipperMcp
