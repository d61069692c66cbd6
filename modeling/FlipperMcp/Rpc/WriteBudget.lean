import FlipperMcp.Rpc.ChunkedWrite
import FlipperMcp.Rpc.Timeline
import Mathlib.Tactic.Linarith
import Mathlib.Tactic.NormNum

/-! # The time budget of a write

`_storage_write_internal` pauses behind every fragment but the last for as long as the device
takes to store it. A fragment's frame is its data and its path with a few bytes around them,
so all the pauses and the wait for the acknowledgement fit in the timeout of `storage_write`
(`pacing_le_budget`).
-/

namespace FlipperMcp

open Coroutine Tagged

namespace ProtobufRPC

section Frames

variable {path : String} {data : Bytes}

/-- The file of a fragment carries its data only. -/
theorem fragmentFile_fields (data : Bytes) :
    File.fields { data := data } = Tagged.bytes 4 data := by
  have empty : encodeText "" = [] := by decide
  simp [File.fields, enumField, stringField, enumCode, uint, Tagged.bytes, empty]

/-- The bytes of a fragment's message around its data and its path. -/
theorem length_serialize_le (commandId : UInt32) (hasNext : Bool)
    (short : (encodeText path).length ≤ 255) (small : data.length ≤ 1024) :
    (writeRequest commandId path data hasNext).serializeToString.length ≤
      data.length + (encodeText path).length + 20 := by
  have named : (encode (stringField 1 path)).length ≤ (encodeText path).length + 3 := by
    unfold stringField Tagged.bytes
    by_cases empty : encodeText path = []
    · rw [if_pos empty]
      exact Nat.zero_le _
    · rw [if_neg empty]
      exact length_bytes_le (by decide) (by omega)
  have held : (encode (File.fields { data := data })).length ≤ data.length + 3 := by
    rw [fragmentFile_fields]
    unfold Tagged.bytes
    by_cases empty : data = []
    · rw [if_pos empty]
      exact Nat.zero_le _
    · rw [if_neg empty]
      exact length_bytes_le (by decide) (by omega)
  have file : (encode (message 2 (File.fields { data := data }))).length ≤ data.length + 6 :=
    (length_bytes_le (by decide) (by omega)).trans (Nat.add_le_add_right held 3)
  have request := encode_append (stringField 1 path) (message 2 (File.fields { data := data }))
  have content : (encode (Content.fields (.storageWriteRequest path { data := data }))).length ≤
      data.length + (encodeText path).length + 12 := by
    refine (length_bytes_le (by decide) ?_).trans ?_
    · rw [request, List.length_append]
      omega
    · rw [request, List.length_append]
      omega
  have id : (encode (uint 1 commandId.toNat)).length ≤ 6 :=
    length_uint_le (by decide) (commandId.toNat_lt.trans (by decide))
  have status : encode (enumField 2 CommandStatus.ok) = [] := by decide
  have announced : (encode (boolField 3 hasNext)).length ≤ 2 := by
    cases hasNext <;> decide
  unfold Main.serializeToString Main.fields Main.header writeRequest
  simp only [encode_append, List.length_append, status, List.length_nil]
  omega

/-- A fragment's frame holds its data and its path. -/
theorem le_length_framed (commandId : UInt32) (path : String) (data : Bytes) (hasNext : Bool) :
    data.length + (encodeText path).length ≤
      (framed (writeRequest commandId path data hasNext)).length := by
  have named : (encodeText path).length ≤ (encode (stringField 1 path)).length := by
    unfold stringField Tagged.bytes
    by_cases empty : encodeText path = []
    · rw [empty]
      exact Nat.zero_le _
    · rw [if_neg empty]
      exact le_length_bytes _
  have held : data.length ≤ (encode (File.fields { data := data })).length := by
    rw [fragmentFile_fields]
    unfold Tagged.bytes
    by_cases empty : data = []
    · rw [empty]
      exact Nat.zero_le _
    · rw [if_neg empty]
      exact le_length_bytes _
  have file : data.length ≤ (encode (message 2 (File.fields { data := data }))).length :=
    held.trans (le_length_bytes _)
  have request := encode_append (stringField 1 path) (message 2 (File.fields { data := data }))
  have content : data.length + (encodeText path).length ≤
      (encode (Content.fields (.storageWriteRequest path { data := data }))).length := by
    refine le_trans ?_ (le_length_bytes _)
    rw [request, List.length_append]
    omega
  have payload : data.length + (encodeText path).length ≤
      (writeRequest commandId path data hasNext).serializeToString.length := by
    unfold Main.serializeToString Main.fields writeRequest
    rw [encode_append, List.length_append]
    exact content.trans (Nat.le_add_left ..)
  rw [framed, delimited_eq]
  exact payload.trans (Base128.le_length_frame _)

/-- A fragment's frame is little more than its data and its path. -/
theorem length_framed_le (commandId : UInt32) (hasNext : Bool)
    (short : (encodeText path).length ≤ 255) (small : data.length ≤ 1024) :
    (framed (writeRequest commandId path data hasNext)).length ≤
      data.length + (encodeText path).length + 22 := by
  have payload := length_serialize_le commandId hasNext short small
  have fits : (writeRequest commandId path data hasNext).serializeToString.length < 128 ^ (1 + 1) := by
    omega
  have framing := Base128.length_frame_le fits
  rw [framed, delimited_eq]
  omega

end Frames

section Pacing

variable {path : String} {content : Bytes}

/-- The pause behind a fragment that is not the last. -/
def fragmentPause (commandId : UInt32) (path : String) (data : Bytes) : Time :=
  (framed (writeRequest commandId path data true)).length / writeThroughput

/-- The pauses of a write. -/
def pacing (commandId : UInt32) (path : String) : List Bytes → Time
  | [] => 0
  | [_] => 0
  | data :: chunks => fragmentPause commandId path data + pacing commandId path chunks

theorem fragmentPause_nonneg (commandId : UInt32) (path : String) (data : Bytes) :
    0 ≤ fragmentPause commandId path data :=
  div_nonneg (Nat.cast_nonneg _) (Nat.cast_nonneg _)

theorem pacing_nonneg (commandId : UInt32) (path : String) (chunks : List Bytes) :
    0 ≤ pacing commandId path chunks := by
  fun_induction pacing commandId path chunks with
  | case1 => rfl
  | case2 _ => rfl
  | case3 data chunks _ ih => exact add_nonneg (fragmentPause_nonneg ..) ih

/-- The pauses are at most those of all the data, and of the path and 22 bytes once for every
fragment but the last. -/
theorem pacing_le (commandId : UInt32) (short : (encodeText path).length ≤ 255)
    {chunks : List Bytes} (small : ∀ data ∈ chunks, data.length ≤ 1024) :
    pacing commandId path chunks ≤ ((chunks.flatten.length +
      (chunks.length - 1) * ((encodeText path).length + 22) : ℕ) : Time) / writeThroughput := by
  have positive : (0 : Time) < writeThroughput := by decide
  fun_induction pacing commandId path chunks with
  | case1 => exact div_nonneg (Nat.cast_nonneg _) (Nat.cast_nonneg _)
  | case2 last => exact div_nonneg (Nat.cast_nonneg _) (Nat.cast_nonneg _)
  | case3 data chunks further ih =>
      have first := length_framed_le commandId true short (small data (List.mem_cons_self ..))
      have later := ih fun data member => small data (List.mem_cons_of_mem _ member)
      refine (add_le_add_right later _).trans ?_
      unfold fragmentPause
      rw [← add_div, ← Nat.cast_add, div_le_div_iff_of_pos_right positive, Nat.cast_le]
      obtain ⟨next, chunks, rfl⟩ := List.exists_cons_of_ne_nil fun none => further none
      simp only [List.flatten_cons, List.length_append, List.length_cons, Nat.add_sub_cancel,
        Nat.add_one_mul] at first ⊢
      omega

/-- They are at least those of the data and the path of all fragments but the last. -/
theorem le_pacing (commandId : UInt32) (path : String) (chunks : List Bytes) :
    ((chunks.dropLast.flatten.length + (chunks.length - 1) * (encodeText path).length : ℕ) : Time) /
      writeThroughput ≤ pacing commandId path chunks := by
  have positive : (0 : Time) < writeThroughput := by decide
  fun_induction pacing commandId path chunks with
  | case1 => simp
  | case2 last => simp
  | case3 data chunks further ih =>
      have first := le_length_framed commandId path data true
      refine le_trans ?_ (add_le_add_right ih _)
      unfold fragmentPause
      rw [← add_div, ← Nat.cast_add, div_le_div_iff_of_pos_right positive, Nat.cast_le]
      obtain ⟨next, chunks, rfl⟩ := List.exists_cons_of_ne_nil fun none => further none
      simp only [List.dropLast_cons_cons, List.flatten_cons, List.length_append, List.length_cons,
        Nat.add_sub_cancel, Nat.add_one_mul]
      omega

/-- A content has a fragment for every 1,024 bytes, and one more. -/
theorem length_chunk_le (content : Bytes) :
    1024 * ((chunk content writeChunkSize).length - 1) ≤ content.length := by
  unfold chunk
  by_cases empty : content = []
  · rw [if_pos empty, List.length_singleton]
    exact Nat.zero_le _
  · rw [if_neg empty, List.length_map, List.length_range, writeChunkSize]
    omega

/-- All the data but that of one fragment is in the fragments before the last. -/
theorem length_dropLast_chunk (content : Bytes) :
    content.length ≤ (chunk content writeChunkSize).dropLast.flatten.length + writeChunkSize := by
  have some_ : chunk content writeChunkSize ≠ [] := chunk_ne_nil (by decide)
  have whole : (chunk content writeChunkSize).flatten = content := chunk_flatten (by decide)
  have last := chunk_small (List.getLast_mem some_)
  have split := congrArg List.flatten (List.dropLast_append_getLast some_)
  rw [List.flatten_append, List.flatten_singleton, whole] at split
  have sum := congrArg List.length split
  rw [List.length_append] at sum
  generalize writeChunkSize = size at *
  omega

theorem length_chunk (nonempty : content ≠ []) :
    (chunk content writeChunkSize).length = (content.length + writeChunkSize - 1) / writeChunkSize := by
  unfold chunk
  rw [if_neg nonempty, List.length_map, List.length_range]

/-- **The pauses and the wait fit.** -/
theorem pacing_le_budget (commandId : UInt32) (short : (encodeText path).length ≤ 255)
    (content : Bytes) :
    pacing commandId path (chunk content writeChunkSize) + defaultTimeout ≤
      max 15 ((content.length : Time) / 40000) := by
  have paused := pacing_le commandId short fun data member =>
    @chunk_small content writeChunkSize data member
  rw [chunk_flatten (by decide)] at paused
  have fragments := length_chunk_le content
  have bounded : content.length + ((chunk content writeChunkSize).length - 1) *
      ((encodeText path).length + 22) ≤ content.length +
        ((chunk content writeChunkSize).length - 1) * 277 :=
    Nat.add_le_add_left (Nat.mul_le_mul_left _ (by omega)) _
  generalize (chunk content writeChunkSize).length - 1 = more at paused fragments bounded
  have whole : (1024 * more : Time) ≤ content.length := by exact_mod_cast fragments
  have sum : pacing commandId path (chunk content writeChunkSize) ≤
      (content.length + more * 277) / 80000 := by
    refine paused.trans ?_
    rw [writeThroughput, Nat.cast_ofNat, div_le_div_iff_of_pos_right (by norm_num)]
    exact_mod_cast bounded
  rw [defaultTimeout]
  by_cases few : content.length ≤ 600000
  · refine le_trans ?_ (le_max_left _ _)
    have small : (content.length : Time) ≤ 600000 := by exact_mod_cast few
    linarith
  · refine le_trans ?_ (le_max_right _ _)
    have large : (600000 : Time) < content.length := by exact_mod_cast not_le.mp few
    linarith

end Pacing

section Run

variable {pb : Protobuf} {commandId : UInt32} {path : String} {chunks : List Bytes}

/-- The wait for the acknowledgement of a write. -/
def acknowledgement (pb : Protobuf) : Link Bool := do
  let response ← receiveMainMessage pb defaultTimeout
  pure (isOk response)

theorem writeChunks_last (data : Bytes) :
    writeChunks pb commandId path [data] =
      sendRequest (writeRequest commandId path data false) >>= fun _ => acknowledgement pb := rfl

theorem writeChunks_more {data : Bytes} (further : chunks ≠ []) :
    writeChunks pb commandId path (data :: chunks) =
      sendRequest (writeRequest commandId path data true) >>= fun _ =>
        Link.sleep (fragmentPause commandId path data) >>= fun _ =>
          writeChunks pb commandId path chunks := by
  obtain ⟨next, chunks, rfl⟩ := List.exists_cons_of_ne_nil further
  rfl

theorem pacing_more {data : Bytes} (further : chunks ≠ []) :
    pacing commandId path (data :: chunks) =
      fragmentPause commandId path data + pacing commandId path chunks := by
  obtain ⟨next, chunks, rfl⟩ := List.exists_cons_of_ne_nil further
  rfl

theorem writeFrames_more {data : Bytes} (further : chunks ≠ []) :
    writeFrames commandId path (data :: chunks) =
      writeRequest commandId path data true :: writeFrames commandId path chunks := by
  obtain ⟨next, chunks, rfl⟩ := List.exists_cons_of_ne_nil further
  rfl

/-- A fragment written, which takes no time. -/
def sentEvent (frame : Main) (s : Host) (w : Timeline) : LinkEvent Timeline :=
  ⟨s, w, LinkOp.send .request (framed frame), .ok ()⟩

theorem ownSends_sent (frame : Main) (s : Host) (w : Timeline) (trace : List (LinkEvent Timeline)) :
    ownSends (sentEvent frame s w :: trace) = delivered frame :: ownSends trace := rfl

theorem run_sendRequest_bind {α : Type} (frame : Main) (k : Unit → Link α) (s : Host) (w : Timeline) :
    run timedLink (sendRequest frame >>= k) s w =
      (run timedLink (k ()) s w).after [sentEvent frame s w] := by
  unfold sendRequest
  rw [run_bind, Link.run_send]
  rfl

/-- A pause behind a fragment. -/
def pauseEvent (seconds : Time) (s : Host) (w : Timeline) : LinkEvent Timeline :=
  ⟨s, w, LinkOp.sleep seconds, (w.wake (w.now + seconds)).1⟩

theorem ownSends_pause (seconds : Time) (s : Host) (w : Timeline)
    (trace : List (LinkEvent Timeline)) :
    ownSends (pauseEvent seconds s w :: trace) = ownSends trace := rfl

theorem run_sleep_bind {α : Type} {seconds : Time} (k : Unit → Link α) (s : Host) {w : Timeline}
    (before : w.Before (w.now + seconds)) :
    run timedLink (Link.sleep seconds >>= k) s w =
      (run timedLink (k ()) s { w with now := w.now + seconds }).after [pauseEvent seconds s w] := by
  have paused : timedLink (.sleep seconds) w = (.ok (), { w with now := w.now + seconds }) :=
    Timeline.wake_in_time before
  unfold pauseEvent
  rw [Timeline.wake_in_time before, run_bind, Link.run_sleep, paused]
  rfl

theorem run_sleep_cut {α : Type} {seconds limit : Time} (k : Unit → Link α) (s : Host) {w : Timeline}
    (set : w.timer = some limit) (late : limit ≤ w.now + seconds) :
    run timedLink (Link.sleep seconds >>= k) s w =
      ⟨.error .cancelledError, s, { w with now := limit }, [pauseEvent seconds s w]⟩ := by
  have paused : timedLink (.sleep seconds) w = (.error .cancelledError, { w with now := limit }) :=
    Timeline.wake_late set late
  unfold pauseEvent
  rw [Timeline.wake_late set late, run_bind, Link.run_sleep, paused]
  rfl

/-- **In time.** When the timer is not up before the last fragment, all of them are sent, and
then the acknowledgement is waited for. -/
theorem run_writeChunks_in_time (some_ : chunks ≠ []) (s : Host) (w : Timeline)
    (before : w.Before (w.now + pacing commandId path chunks)) :
    ∃ trace, ownSends trace = (writeFrames commandId path chunks).map delivered ∧
      run timedLink (writeChunks pb commandId path chunks) s w =
        (run timedLink (acknowledgement pb) s
          { w with now := w.now + pacing commandId path chunks }).after trace := by
  induction chunks generalizing w with
  | nil => exact absurd rfl some_
  | cons data chunks ih =>
      by_cases further : chunks = []
      · subst further
        refine ⟨[sentEvent (writeRequest commandId path data false) s w], rfl, ?_⟩
        rw [writeChunks_last, run_sendRequest_bind, pacing, add_zero]
      · rw [writeChunks_more further, pacing_more further, writeFrames_more further]
        rw [pacing_more further] at before
        have nonneg := pacing_nonneg commandId path chunks
        have awake : w.Before (w.now + fragmentPause commandId path data) :=
          fun limit set => lt_of_le_of_lt (by linarith) (before limit set)
        obtain ⟨trace, sent, rest⟩ := ih further
          { w with now := w.now + fragmentPause commandId path data } fun limit set => by
            have late := before limit set
            simp only [add_assoc]
            exact late
        refine ⟨sentEvent (writeRequest commandId path data true) s w ::
          pauseEvent (fragmentPause commandId path data) s w :: trace, ?_, ?_⟩
        · rw [ownSends_sent, ownSends_pause, sent, List.map_cons]
        · rw [run_sendRequest_bind, run_sleep_bind _ s awake, rest, Outcome.after_after,
            Outcome.after_after]
          simp only [add_assoc]
          rfl

/-- **Cut off.** When the timer is up before, the write ends there, with fragments left to send. -/
theorem run_writeChunks_cut (s : Host) (w : Timeline) {limit : Time} (set : w.timer = some limit)
    (late : limit ≤ w.now + pacing commandId path chunks) (early : w.now < limit) :
    let o := run timedLink (writeChunks pb commandId path chunks) s w
    o.result = .error .cancelledError ∧ o.world = { w with now := limit } ∧
      ∃ done, ownSends o.trace = done.map delivered ∧ done ≠ [] ∧
        done <+: writeFrames commandId path chunks ∧
        done.length < (writeFrames commandId path chunks).length := by
  induction chunks generalizing w with
  | nil =>
      rw [pacing, add_zero] at late
      exact absurd late (not_le.mpr early)
  | cons data chunks ih =>
      by_cases further : chunks = []
      · subst further
        rw [pacing, add_zero] at late
        exact absurd late (not_le.mpr early)
      · rw [writeChunks_more further, run_sendRequest_bind, writeFrames_more further]
        rw [pacing_more further] at late
        by_cases asleep : limit ≤ w.now + fragmentPause commandId path data
        · rw [run_sleep_cut _ s set asleep]
          refine ⟨rfl, rfl, [writeRequest commandId path data true], rfl, List.cons_ne_nil _ _, ?_, ?_⟩
          · exact List.cons_prefix_cons.mpr ⟨rfl, List.nil_prefix⟩
          · obtain ⟨next, chunks, rfl⟩ := List.exists_cons_of_ne_nil further
            have more := congrArg List.length (@writeFrames_data commandId path (next :: chunks))
            rw [List.length_map, List.length_cons] at more
            rw [List.length_singleton, List.length_cons, more]
            omega
        · rw [not_le] at asleep
          have awake : w.Before (w.now + fragmentPause commandId path data) := by
            intro other set'
            rw [set, Option.mem_some_iff] at set'
            exact set' ▸ asleep
          rw [run_sleep_bind _ s awake]
          obtain ⟨result, world, done, sent, -, part, short⟩ := ih
            { w with now := w.now + fragmentPause commandId path data } set
            (by rw [add_assoc]; exact late) asleep
          refine ⟨result, world, writeRequest commandId path data true :: done, ?_,
            List.cons_ne_nil _ _, ?_, ?_⟩
          · rw [Outcome.after_trace, Outcome.after_trace, List.singleton_append, ownSends_sent,
              List.singleton_append, ownSends_pause, sent, List.map_cons]
          · exact List.cons_prefix_cons.mpr ⟨rfl, part⟩
          · rw [List.length_cons, List.length_cons]
            exact Nat.succ_lt_succ short

variable {self : Handle} {content : Bytes}

/-- The timeout of a write. -/
def writeBudget (content : Bytes) : Time := max 15 (content.length / 40000)

/-- The run of the negotiation of a write, under its timer. -/
def writeNegotiation (pb : Protobuf) (self : Handle) (content : Bytes) (s : Host) (w : Timeline) :
    Outcome Host linkSignature Exn Timeline Unit :=
  run timedLink (ensureRpcSessionStarted pb self) s
    { w with timer := some (w.now + writeBudget content) }

theorem writeNegotiation_timer (s : Host) (w : Timeline) :
    (writeNegotiation pb self content s w).world.timer = some (w.now + writeBudget content) :=
  ensureRpcSessionStarted_timer ..

theorem ownSends_negotiation (s : Host) (w : Timeline) :
    ownSends (writeNegotiation pb self content s w).trace = [] := by
  apply ownSends_eq_nil
  intro event member request
  have own := (ensureRpcSessionStarted_within pb self).trace _ _ _ event member
  revert own request
  cases event.op with
  | send origin _ => cases origin <;> first | exact fun request _ => request | exact fun _ own => own
  | _ => exact fun request _ => request

/-- The host of a write behind its negotiation. -/
def writeHost (pb : Protobuf) (self : Handle) (content : Bytes) (s : Host) (w : Timeline) : Host :=
  (writeNegotiation pb self content s w).host.updateRpc self fun rpc =>
    { rpc with commandId := (rpc.commandId + 1) % 0xFFFFFFFF }

/-- The chunks of a write are sent behind its negotiation. -/
theorem run_storageWriteInternal_negotiated {s : Host} {w : Timeline}
    (returned : (writeNegotiation pb self content s w).result = .ok ()) :
    run timedLink (storageWriteInternal pb self path content) s
        { w with timer := some (w.now + writeBudget content) } =
      (run timedLink (writeChunks pb (nextCommandId self s) path (chunk content writeChunkSize))
        (writeHost pb self content s w) (writeNegotiation pb self content s w).world).after
          (writeNegotiation pb self content s w).trace := by
  have kept := ((ensureRpcSessionStarted_within pb self).host (NegotiationChanges.refl self)
    (fun first second => first.trans second) timedLink s
      { w with timer := some (w.now + writeBudget content) }).commandId
  have counted : nextCommandId self s =
      UInt32.ofNat ((writeHost pb self content s w).objects self).commandId := by
    rw [writeHost, Host.updateRpc_objects_self, nextCommandId, writeNegotiation, kept]
  unfold storageWriteInternal
  rw [run_bind, counted]
  unfold writeHost writeNegotiation at *
  simp only [returned]
  rfl

/-- What `storage_write` does is what it does under its timer. -/
theorem run_storageWriteBody (s : Host) (w : Timeline) :
    let o := run timedLink (storageWriteInternal pb self path content) s
      { w with timer := some (w.now + writeBudget content) }
    (run timedLink (storageWriteBody pb self path content) s w).result =
        timedResult false o.result ∧
      ownSends (run timedLink (storageWriteBody pb self path content) s w).trace =
        ownSends o.trace := by
  unfold storageWriteBody timed
  rw [run_guarded, run_waitFor, run_guarded]
  refine ⟨rfl, ?_⟩
  dsimp only
  rw [ownSends_append]
  exact List.append_nil _

/-- **The budget of a write.** All its pauses and the wait for the acknowledgement fit in it. So
a write that has its session within 2.5 s sends all its fragments before its timer is up. -/
theorem storageWrite_sends_in_budget (pb : Protobuf) (self : Handle) (path : String)
    (content : Bytes) (short : (encodeText path).length ≤ 255) (s : Host) (w : Timeline) :
    (∀ commandId, pacing commandId path (chunk content writeChunkSize) + defaultTimeout ≤
      max 15 ((content.length : Time) / 40000)) ∧
    ((writeNegotiation pb self content s w).result = .ok () →
      (writeNegotiation pb self content s w).world.now < w.now + 5 / 2 →
      ownSends (run timedLink (storageWriteBody pb self path content) s w).trace =
        (writeFrames (nextCommandId self s) path (chunk content writeChunkSize)).map delivered) := by
  refine ⟨fun commandId => pacing_le_budget commandId short content, fun returned soon => ?_⟩
  have paused := pacing_le_budget (nextCommandId self s) short content
  have before : (writeNegotiation pb self content s w).world.Before
      ((writeNegotiation pb self content s w).world.now +
        pacing (nextCommandId self s) path (chunk content writeChunkSize)) := by
    intro limit set
    rw [writeNegotiation_timer, Option.mem_some_iff] at set
    rw [← set, writeBudget]
    rw [defaultTimeout] at paused
    linarith
  obtain ⟨trace, sent, split⟩ := @run_writeChunks_in_time pb (nextCommandId self s) path _
    (chunk_ne_nil (by decide)) (writeHost pb self content s w) _ before
  have silent := ownSends_listens (E := timedLink) (receiveMainMessage_listens pb defaultTimeout)
  rw [(run_storageWriteBody s w).2, run_storageWriteInternal_negotiated returned, split,
    Outcome.after_trace, Outcome.after_trace, ownSends_append, ownSends_append,
    ownSends_negotiation, List.nil_append, sent]
  unfold acknowledgement
  rw [run_bind_pure, silent, List.append_nil]

end Run

/-- With the session up, a content of 2,500 bytes goes out in three fragments. -/
theorem storageWrite_sends_in_budget_up :
    ownSends (run timedLink (storageWriteBody Protobuf.wire 0 "/ext/a" (List.replicate 2500 7))
        sessionUp { now := 0 }).trace =
      (writeFrames 1 "/ext/a" (chunk (List.replicate 2500 7) writeChunkSize)).map delivered :=
  (storageWrite_sends_in_budget Protobuf.wire 0 "/ext/a" (List.replicate 2500 7) (by decide +kernel)
    sessionUp { now := 0 }).2 (by decide +kernel) (by decide +kernel)

/-- A device whose only message answers the probe of the third attempt. -/
def slowToStart : Timeline where
  now := 0
  inbox := [(13 / 2, framed { commandId := 1, content := .systemPingResponse probeData })]

/-- A write whose negotiation leaves too little of its budget is cut off between two fragments. -/
theorem storageWrite_cut_off :
    let path := String.ofList (List.replicate 255 'a')
    let content := List.replicate 600000 (0 : UInt8)
    let o := run timedLink (storageWriteBody Protobuf.wire 0 path content)
      { transport := .usb } slowToStart
    (encodeText path).length = 255 ∧ o.result = .ok false ∧
      ∃ done, ownSends o.trace = done.map delivered ∧ done ≠ [] ∧
        done <+: writeFrames 1 path (chunk content writeChunkSize) ∧
        done.length < (writeFrames 1 path (chunk content writeChunkSize)).length := by
  intro path content o
  have nonempty : content ≠ [] := by
    rw [List.ne_nil_iff_length_pos, List.length_replicate]
    decide
  have long : content.length = 600000 := List.length_replicate
  have named : (encodeText path).length = 255 := by decide +kernel
  have budget : writeBudget content = 15 := by
    rw [writeBudget, long]
    decide +kernel
  have negotiation : writeNegotiation Protobuf.wire 0 content { transport := .usb } slowToStart =
      run timedLink (ensureRpcSessionStarted Protobuf.wire 0) { transport := .usb }
        { slowToStart with timer := some (slowToStart.now + 15) } := by
    rw [writeNegotiation, budget]
  have returned : (writeNegotiation Protobuf.wire 0 content { transport := .usb } slowToStart).result =
      .ok () := by
    rw [negotiation]
    decide +kernel
  have started : (writeNegotiation Protobuf.wire 0 content { transport := .usb }
      slowToStart).world.now = 13 / 2 := by
    rw [negotiation]
    decide +kernel
  have set := @writeNegotiation_timer Protobuf.wire 0 content { transport := .usb } slowToStart
  have start : slowToStart.now = 0 := rfl
  rw [budget, start, zero_add] at set
  have paused := le_pacing 1 path (chunk content writeChunkSize)
  have full := length_dropLast_chunk content
  have count : (chunk content writeChunkSize).length = 586 := by
    rw [length_chunk nonempty, long]
    decide
  have bytes : 748151 ≤ (chunk content writeChunkSize).dropLast.flatten.length +
      ((chunk content writeChunkSize).length - 1) * (encodeText path).length := by
    have size : writeChunkSize = 1024 := rfl
    rw [long] at full
    rw [count, named]
    omega
  have late : (15 : Time) ≤ (writeNegotiation Protobuf.wire 0 content { transport := .usb }
      slowToStart).world.now + pacing 1 path (chunk content writeChunkSize) := by
    have cast : (748151 : Time) ≤ ((chunk content writeChunkSize).dropLast.flatten.length +
        ((chunk content writeChunkSize).length - 1) * (encodeText path).length : ℕ) := by
      exact_mod_cast bytes
    rw [writeThroughput, Nat.cast_ofNat, div_le_iff₀ (by norm_num)] at paused
    rw [started]
    linarith
  have early : (writeNegotiation Protobuf.wire 0 content { transport := .usb }
      slowToStart).world.now < 15 := by
    rw [started]
    norm_num
  have cut := @run_writeChunks_cut Protobuf.wire 1 path (chunk content writeChunkSize)
    (writeHost Protobuf.wire 0 content { transport := .usb } slowToStart) _ _ set late early
  obtain ⟨result, -, done, sent, some_, part, short⟩ := cut
  have body := @run_storageWriteBody Protobuf.wire path 0 content { transport := .usb } slowToStart
  rw [run_storageWriteInternal_negotiated returned] at body
  have counted : nextCommandId 0 { transport := .usb } = 1 := by decide
  rw [counted] at body
  refine ⟨named, ?_, done, ?_, some_, part, short⟩
  · rw [body.1, Outcome.after_result, result]
    rfl
  · rw [body.2, Outcome.after_trace, ownSends_append, ownSends_negotiation, List.nil_append]
    exact sent

end ProtobufRPC

end FlipperMcp
