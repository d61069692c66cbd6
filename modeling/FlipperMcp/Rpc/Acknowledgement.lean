import FlipperMcp.Rpc.FrameInTime
import FlipperMcp.Rpc.WriteBudget

/-! # The acknowledgement of a write

`storage_write` has a timeout of 15 s or more, since a write behind a large one may take about
10 s to be acknowledged. But `_storage_write_internal` waits 2.5 s for the acknowledgement, and
that wait is what decides (`storageWrite_acknowledged_iff`).
-/

namespace FlipperMcp

open Coroutine

namespace ProtobufRPC

variable {pb : Protobuf} {self : Handle} {path : String} {content : Bytes} {s : Host}
  {w : Timeline}

/-- A message that acknowledges a write, in a frame the host accepts. -/
structure Acknowledges (ack : Main) : Prop where
  ok : ack.commandStatus = .ok
  nonempty : ack.serializeToString ≠ []
  sized : ack.serializeToString.length ≤ 1000000

/-- A write has returned true and has left nothing in the stream. -/
structure Settled (o : Outcome Host linkSignature Exn Timeline Bool) : Prop where
  result : o.result = .ok true
  buffer : o.host.rxBuffer = []
  inbox : o.world.inbox = []

theorem defaultTimeout_pos : 0 < defaultTimeout := by
  unfold defaultTimeout
  norm_num

/-- The wait for an acknowledgement that comes in time. -/
theorem run_acknowledgement_in_time {ack : Main} {arrival : Time} (acknowledges : Acknowledges ack)
    (empty : s.rxBuffer = []) (inbox : w.inbox = [(arrival, framed ack)])
    (after : w.now ≤ arrival) (soon : arrival ≤ w.now + defaultTimeout) (before : w.Before arrival) :
    Settled (run timedLink (acknowledgement pb) s w) := by
  have top : max w.now arrival = arrival := max_eq_right after
  have ready : Ready (framed ack) defaultTimeout arrival [] s w :=
    ⟨before, .inr ⟨empty, arrival, top.symm, inbox, soon⟩⟩
  obtain ⟨result, host, there⟩ := run_receiveMainMessage_in_time pb defaultTimeout_pos
    acknowledges.nonempty acknowledges.sized ready
  unfold acknowledgement
  rw [run_bind_pure]
  refine ⟨?_, ?_, there.inbox⟩
  · dsimp only
    rw [result]
    show Except.ok (decide (ack.commandStatus = .ok)) = _
    rw [acknowledges.ok, decide_eq_true rfl]
  · dsimp only
    rw [host]

/-- The wait for one that comes too late. -/
theorem run_acknowledgement_late {ack : Main} {arrival : Time} (empty : s.rxBuffer = [])
    (inbox : w.inbox = [(arrival, framed ack)]) (late : w.now + defaultTimeout < arrival)
    (before : w.Before (w.now + defaultTimeout)) :
    let o := run timedLink (acknowledgement pb) s w
    o.result = .ok false ∧ o.world.inbox = w.inbox := by
  have quiet : w.Quiet defaultTimeout := by
    intro next member
    rw [inbox] at member
    rw [List.mem_singleton.mp member]
    exact late
  obtain ⟨result, -, elapsed⟩ := Idles.receiveMainMessage pb defaultTimeout_pos s w empty quiet before
  unfold acknowledgement
  rw [run_bind_pure]
  dsimp only
  rw [result]
  exact ⟨rfl, elapsed.inbox⟩

/-- What comes before does not matter. -/
theorem settled_after (trace : List (LinkEvent Timeline))
    (o : Outcome Host linkSignature Exn Timeline Bool) : Settled (o.after trace) ↔ Settled o :=
  ⟨fun settled => ⟨settled.result, settled.buffer, settled.inbox⟩,
    fun settled => ⟨settled.result, settled.buffer, settled.inbox⟩⟩

/-- Only a body that returns true makes a timed method return it. -/
theorem timedResult_eq_true {result : Except Exn Bool} :
    timedResult false result = .ok true ↔ result = .ok true := by
  constructor
  · intro returned
    cases result with
    | ok value => exact returned
    | error e =>
        unfold timedResult orFailure at returned
        by_cases caught : e.isException
        · simp only [caught, ↓reduceIte, Link.timedOut] at returned
          cases returned
        · simp only [caught, Bool.false_eq_true, ↓reduceIte] at returned
          cases e <;> cases returned
  · intro returned
    rw [returned, timedResult_ok]

/-- A write ends as its body does under the timer. -/
theorem settled_storageWriteBody :
    Settled (run timedLink (storageWriteBody pb self path content) s w) ↔
      Settled (run timedLink (storageWriteInternal pb self path content) s
        { w with timer := some (w.now + writeBudget content) }) := by
  obtain ⟨result, host, world⟩ := @run_timed Timeline Bool timedLink (writeBudget content) false
    (storageWriteInternal pb self path content) s w
  have started : (timedLink (.startTimeout (writeBudget content)) w).2 =
      { w with timer := some (w.now + writeBudget content) } := rfl
  have stopped : ∀ w' : Timeline, (timedLink .stopTimeout w').2.inbox = w'.inbox := fun _ => rfl
  rw [started] at result host world
  unfold storageWriteBody
  constructor
  · intro settled
    refine ⟨timedResult_eq_true.mp (result.symm.trans settled.result), ?_, ?_⟩
    · rw [← host]
      exact settled.buffer
    · rw [← stopped, ← world]
      exact settled.inbox
  · intro settled
    refine ⟨result.trans (timedResult_eq_true.mpr settled.result), ?_, ?_⟩
    · exact (congrArg Host.rxBuffer host).trans settled.buffer
    · exact (congrArg Timeline.inbox world).trans ((stopped _).trans settled.inbox)

/-- A write that has its session waits for the acknowledgement behind the pauses. -/
theorem settled_storageWriteInternal
    (returned : (writeNegotiation pb self content s w).result = .ok ())
    (before : (writeNegotiation pb self content s w).world.Before
      ((writeNegotiation pb self content s w).world.now +
        pacing (nextCommandId self s) path (chunk content writeChunkSize))) :
    Settled (run timedLink (storageWriteInternal pb self path content) s
        { w with timer := some (w.now + writeBudget content) }) ↔
      Settled (run timedLink (acknowledgement pb) (writeHost pb self content s w)
        { (writeNegotiation pb self content s w).world with
          now := (writeNegotiation pb self content s w).world.now +
            pacing (nextCommandId self s) path (chunk content writeChunkSize) }) := by
  obtain ⟨trace, -, split⟩ := @run_writeChunks_in_time pb (nextCommandId self s) path _
    (chunk_ne_nil (by decide)) (writeHost pb self content s w) _ before
  rw [run_storageWriteInternal_negotiated returned, split, settled_after, settled_after]

/-- **The acknowledgement of a write, behind any negotiation.** Once the session is up and the
fragments are sent, the write succeeds exactly if the acknowledgement comes within 2.5 s. -/
theorem settled_iff_soon {ack : Main} {arrival : Time} (acknowledges : Acknowledges ack)
    (returned : (writeNegotiation pb self content s w).result = .ok ())
    (empty : (writeNegotiation pb self content s w).host.rxBuffer = [])
    (inbox : (writeNegotiation pb self content s w).world.inbox = [(arrival, framed ack)])
    (after : (writeNegotiation pb self content s w).world.now +
      pacing (nextCommandId self s) path (chunk content writeChunkSize) ≤ arrival)
    (early : arrival < w.now + writeBudget content) :
    Settled (run timedLink (storageWriteBody pb self path content) s w) ↔
      arrival ≤ (writeNegotiation pb self content s w).world.now +
        pacing (nextCommandId self s) path (chunk content writeChunkSize) + defaultTimeout := by
  have timer := @writeNegotiation_timer pb self content s w
  have buffer : (writeHost pb self content s w).rxBuffer = [] := empty
  have before : ∀ time, time ≤ arrival → (writeNegotiation pb self content s w).world.Before time := by
    intro time le limit set
    rw [timer, Option.mem_some_iff] at set
    rw [← set]
    exact lt_of_le_of_lt le early
  rw [settled_storageWriteBody, settled_storageWriteInternal returned (before _ after)]
  by_cases soon : arrival ≤ (writeNegotiation pb self content s w).world.now +
      pacing (nextCommandId self s) path (chunk content writeChunkSize) + defaultTimeout
  · refine iff_of_true ?_ soon
    exact run_acknowledgement_in_time acknowledges buffer inbox after soon (before _ le_rfl)
  · refine iff_of_false ?_ soon
    rw [not_le] at soon
    intro settled
    have late := @run_acknowledgement_late pb (writeHost pb self content s w)
      { (writeNegotiation pb self content s w).world with
        now := (writeNegotiation pb self content s w).world.now +
          pacing (nextCommandId self s) path (chunk content writeChunkSize) } ack arrival buffer
      inbox soon (before _ soon.le)
    have returned := settled.result
    rw [late.1] at returned
    cases returned

/-- The acknowledgement a device sends for the first command. -/
def written : Main := { commandId := 1 }

theorem written_acknowledges : Acknowledges written := ⟨rfl, by decide, by decide⟩

end ProtobufRPC

end FlipperMcp
