import FlipperMcp.Rpc.Footprint
import FlipperMcp.Rpc.Handlers

/-! # The chunked write

`_storage_write_internal` cuts a content into chunks and sends one request frame for each;
only the last is acknowledged. The chunks reassemble to the content (`chunk_flatten`). A run
sends the frames of all of them, unless one cannot be sent or the task is cancelled
(`WriteEnds`), so what it sends reassembles to the content (`storageWrite_reassembles`).
-/

namespace FlipperMcp

open Coroutine

namespace ProtobufRPC

section Chunks

/-- The first `n` chunks cover the first `n * size` bytes. -/
theorem flatten_chunks (content : Bytes) (size n : ℕ) :
    ((List.range n).map fun i => (content.drop (i * size)).take size).flatten =
      content.take (n * size) := by
  induction n with
  | zero => rw [Nat.zero_mul, List.take_zero]; rfl
  | succ n ih =>
      rw [List.range_succ, List.map_append, List.flatten_append, ih, List.map_singleton,
        List.flatten_singleton, Nat.succ_mul, List.take_add]

variable {content : Bytes} {size : ℕ}

/-- **The chunks reassemble.** -/
theorem chunk_flatten (positive : 0 < size) : (chunk content size).flatten = content := by
  unfold chunk
  by_cases empty : content = []
  · rw [if_pos empty, empty]
    rfl
  · rw [if_neg empty, flatten_chunks]
    apply List.take_of_length_le
    have covered := Nat.div_add_mod (content.length + size - 1) size
    have remainder := Nat.mod_lt (content.length + size - 1) positive
    rw [Nat.mul_comm] at covered
    omega

theorem chunk_ne_nil (positive : 0 < size) : chunk content size ≠ [] := by
  unfold chunk
  by_cases empty : content = []
  · rw [if_pos empty]
    exact List.cons_ne_nil _ _
  · rw [if_neg empty]
    have some_ : 0 < (content.length + size - 1) / size := by
      apply Nat.div_pos _ positive
      have := List.length_pos_iff.mpr empty
      omega
    intro none_
    rw [List.map_eq_nil_iff, List.range_eq_nil] at none_
    omega

theorem chunk_small {data : Bytes} (member : data ∈ chunk content size) : data.length ≤ size := by
  unfold chunk at member
  by_cases empty : content = []
  · rw [if_pos empty, List.mem_singleton] at member
    rw [member]
    exact Nat.zero_le _
  · rw [if_neg empty] at member
    obtain ⟨i, -, rfl⟩ := List.mem_map.mp member
    exact List.length_take_le ..

end Chunks

/-- The frames of a content: all but the last announce another. -/
def writeFrames (commandId : UInt32) (path : String) : List Bytes → List Main
  | [] => []
  | [last] => [writeRequest commandId path last false]
  | data :: chunks => writeRequest commandId path data true :: writeFrames commandId path chunks

/-- The data of a `WriteRequest`. -/
def writtenData (frame : Main) : Bytes :=
  match frame.content with
  | .storageWriteRequest _ file => file.data
  | _ => []

/-- The frames of one write of a content to a path, as the device reassembles them. -/
structure Reassembles (commandId : UInt32) (path : String) (content : Bytes)
    (frames : List Main) : Prop where
  nonempty : frames ≠ []
  request : ∀ frame ∈ frames, frame.commandId = commandId ∧
    ∃ data, frame.content = .storageWriteRequest path { data := data }
  more : ∀ frame ∈ frames.dropLast, frame.hasNext = true
  last : ∀ frame ∈ frames.getLast?, frame.hasNext = false
  small : ∀ frame ∈ frames, (writtenData frame).length ≤ 1024
  whole : (frames.map writtenData).flatten = content
  empty : content = [] → frames = [writeRequest commandId path [] false]

section Frames

variable {commandId : UInt32} {path : String} {chunks : List Bytes}

theorem writeFrames_data (chunks : List Bytes) :
    (writeFrames commandId path chunks).map writtenData = chunks := by
  fun_induction writeFrames commandId path chunks with
  | case1 => rfl
  | case2 last => rfl
  | case3 data chunks _ ih =>
      rw [List.map_cons, ih]
      rfl

theorem writeFrames_request (chunks : List Bytes) :
    ∀ frame ∈ writeFrames commandId path chunks, frame.commandId = commandId ∧
      ∃ data ∈ chunks, frame.content = .storageWriteRequest path { data := data } := by
  fun_induction writeFrames commandId path chunks with
  | case1 => exact fun _ none_ => nomatch none_
  | case2 last =>
      intro frame member
      rw [List.mem_singleton] at member
      exact member ▸ ⟨rfl, last, List.mem_singleton_self last, rfl⟩
  | case3 data chunks _ ih =>
      intro frame member
      rcases List.mem_cons.mp member with rfl | later
      · exact ⟨rfl, data, List.mem_cons_self .., rfl⟩
      · obtain ⟨own, data, inside, content⟩ := ih frame later
        exact ⟨own, data, List.mem_cons_of_mem _ inside, content⟩

/-- All frames but one announce another, and the one comes last. -/
theorem writeFrames_concat (some_ : chunks ≠ []) :
    ∃ more last, writeFrames commandId path chunks = more ++ [last] ∧
      (∀ frame ∈ more, frame.hasNext = true) ∧ last.hasNext = false := by
  fun_induction writeFrames commandId path chunks with
  | case1 => exact absurd rfl some_
  | case2 last =>
      refine ⟨[], _, rfl, ?_, rfl⟩
      exact fun _ none_ => nomatch none_
  | case3 data chunks further ih =>
      obtain ⟨more, last, split, announced, ended⟩ := ih (by
        rintro rfl
        exact further rfl)
      refine ⟨writeRequest commandId path data true :: more, last, ?_, ?_, ended⟩
      · rw [split, List.cons_append]
      · intro frame member
        rcases List.mem_cons.mp member with rfl | later
        · rfl
        · exact announced frame later

/-- The frames of the chunks of a content reassemble to it. -/
theorem writeFrames_reassembles (commandId : UInt32) (path : String) (content : Bytes) :
    Reassembles commandId path content
      (writeFrames commandId path (chunk content writeChunkSize)) := by
  have positive : 0 < writeChunkSize := by decide
  obtain ⟨more, last, split, announced, ended⟩ := @writeFrames_concat commandId path _
    (@chunk_ne_nil content _ positive)
  have request := @writeFrames_request commandId path (chunk content writeChunkSize)
  constructor
  · rw [split]
    exact List.append_ne_nil_of_right_ne_nil _ (List.cons_ne_nil _ _)
  · intro frame member
    obtain ⟨own, data, -, named⟩ := request frame member
    exact ⟨own, data, named⟩
  · rw [split, List.dropLast_concat]
    exact announced
  · intro frame member
    rw [split, List.getLast?_concat] at member
    exact Option.some.inj member ▸ ended
  · intro frame member
    obtain ⟨-, data, inside, named⟩ := request frame member
    unfold writtenData
    rw [named]
    exact chunk_small inside
  · rw [writeFrames_data, chunk_flatten positive]
  · intro empty
    rw [empty]
    rfl

end Frames

section Run

variable {σ α β : Type} {E : LinkEnv σ}

/-- The own request an event wrote, with its outcome. -/
def ownSend (event : LinkEvent σ) : Option (Bytes × Except Exn Unit) :=
  match event.op, event.answer with
  | .send .request data, answer => some (data, answer)
  | _, _ => none

/-- The own requests of a run, with their outcomes. -/
def ownSends (trace : List (LinkEvent σ)) : List (Bytes × Except Exn Unit) :=
  trace.filterMap ownSend

/-- A frame that was sent. -/
def delivered (frame : Main) : Bytes × Except Exn Unit := (framed frame, .ok ())

/-- `asyncio.sleep` raises only cancellation. -/
def SleepsUndisturbed (E : LinkEnv σ) : Prop :=
  ∀ seconds w, ResultAllowed (fun e => e.isException = false) (E (.sleep seconds) w).1

/-- Only cancellation leaves it. -/
def OnlyCancelled (E : LinkEnv σ) (c : Link α) : Prop :=
  ∀ s w, ResultAllowed (fun e => e.isException = false) (run E c s w).result

namespace OnlyCancelled

theorem pure (value : α) : OnlyCancelled E (Pure.pure value : Link α) := fun _ _ => .ok value

theorem modify (update : Host → Host) : OnlyCancelled E (Coro.modify update) := fun _ _ => .ok ()

theorem get : OnlyCancelled E Coro.get := fun s _ => .ok s

theorem sleep (sleeps : SleepsUndisturbed E) (seconds : Time) : OnlyCancelled E (Link.sleep seconds) := by
  intro s w
  rw [Link.run_sleep]
  exact sleeps seconds w

theorem bind {c : Link α} {k : α → Link β} (first : OnlyCancelled E c)
    (rest : ∀ value, OnlyCancelled E (k value)) : OnlyCancelled E (c >>= k) := by
  intro s w
  rw [run_bind]
  cases ended : (run E c s w).result with
  | ok value => exact rest value _ _
  | error e => exact .error (first s w e ended)

theorem attempt (c : Link α) : OnlyCancelled E c.attempt := by
  intro s w
  rw [run_attempt]
  exact .ok _

theorem orElse (body : Link α) {fallback : Link α} (handled : OnlyCancelled E fallback) :
    OnlyCancelled E (Link.orElse body fallback) := by
  intro s w
  unfold Link.orElse
  rw [run_tryExcept]
  cases ended : (run E body s w).result with
  | ok value =>
      simp only [ended]
      exact .ok value
  | error e =>
      by_cases exception : e.isException = true
      · simp only [exception, ↓reduceIte]
        exact handled _ _
      · simp only [exception, Bool.false_eq_true, ↓reduceIte, ended]
        exact .error (Bool.eq_false_iff.mpr exception)

variable (pb : Protobuf) (self : Handle)

theorem drainHostRx (maxSeconds : Time) : OnlyCancelled E (ProtobufRPC.drainHostRx maxSeconds) :=
  orElse _ (pure ())

theorem probeRpc (timeout : Time) : OnlyCancelled E (ProtobufRPC.probeRpc pb timeout) :=
  orElse _ ((drainHostRx _).bind fun _ => pure _)

theorem monotonic : OnlyCancelled E Link.monotonic := (attempt _).bind fun _ => pure _

theorem startSessionAttempts (sleeps : SleepsUndisturbed E) (attempts : ℕ) :
    OnlyCancelled E (ProtobufRPC.startSessionAttempts pb attempts) := by
  have attempted : OnlyCancelled E (startSessionAttempt pb) :=
    (orElse _ (pure ())).bind fun _ => (drainHostRx _).bind fun _ => (modify _).bind fun _ =>
      (sleep sleeps _).bind fun _ => probeRpc pb _
  induction attempts with
  | zero => exact pure false
  | succ attempts ih =>
      apply attempted.bind
      intro ok
      cases ok with
      | true => exact pure true
      | false => exact ih

theorem startSession (sleeps : SleepsUndisturbed E) :
    OnlyCancelled E (ProtobufRPC.startSession pb self) := by
  apply (startSessionAttempts pb sleeps 3).bind
  intro ok
  apply (modify _).bind
  intro _
  cases ok with
  | true => exact pure ()
  | false => exact monotonic.bind fun _ => modify _

/-- The negotiation reports its failures by the flag. -/
theorem ensureRpcSessionStarted (sleeps : SleepsUndisturbed E) :
    OnlyCancelled E (ProtobufRPC.ensureRpcSessionStarted pb self) := by
  have decided : ∀ probed : Bool, OnlyCancelled E
      (if probed then setSessionStarted self true else ProtobufRPC.startSession pb self) := by
    intro probed
    cases probed with
    | true => exact modify _
    | false => exact startSession pb self sleeps
  have negotiated : OnlyCancelled E (negotiate pb self) := by
    apply (modify _).bind
    intro _
    apply (sleep sleeps _).bind
    intro _
    apply get.bind
    intro s
    by_cases bridge : s.transport.isWifiTransport = true
    · simp only [bridge, ↓reduceIte]
      exact modify _
    · by_cases forced : s.forceStart = true
      · simp only [bridge, forced, Bool.false_eq_true, ↓reduceIte]
        exact decided false
      · simp only [bridge, forced, Bool.false_eq_true, ↓reduceIte]
        exact (probeRpc pb _).bind decided
  have cooled : OnlyCancelled E (coolingDown self) := by
    apply get.bind
    intro s
    cases (s.objects self).lastNegotiationFailure with
    | none => exact pure false
    | some failure => exact monotonic.bind fun _ => pure _
  apply get.bind
  intro s
  by_cases up : (s.objects self).rpcSessionStarted = true
  · simp only [up, ↓reduceIte]
    exact pure ()
  · simp only [up, Bool.false_eq_true, ↓reduceIte]
    apply cooled.bind
    intro cooling
    cases cooling with
    | true => exact pure ()
    | false => exact negotiated

end OnlyCancelled

/-- The last frame is answered by the first message received behind it: the run ends with
its status. -/
structure Acknowledged (pb : Protobuf) (E : LinkEnv σ) (frames : List Main)
    (o : Outcome Host linkSignature Exn σ Bool) : Prop where
  answered : ∃ last ∈ frames.getLast?, ∃ before event,
    event.op = LinkOp.send .request (framed last) ∧
    o.trace = before ++ event ::
      (run E (receiveMainMessage pb defaultTimeout) event.host (E event.op event.world).2).trace ∧
    o.result = (run E (receiveMainMessage pb defaultTimeout) event.host
      (E event.op event.world).2).result.map isOk

/-- How a write of these frames ends: they are all sent, or one of them fails, or the run is
cancelled between two of them. -/
inductive WriteEnds (pb : Protobuf) (E : LinkEnv σ) (frames : List Main)
    (o : Outcome Host linkSignature Exn σ Bool) : Prop
  | sent (all : ownSends o.trace = frames.map delivered) (answer : Acknowledged pb E frames o)
  | failed (done : List Main) (frame : Main) (error : Exn) (part : done ++ [frame] <+: frames)
      (sends : ownSends o.trace = done.map delivered ++ [(framed frame, .error error)])
      (raised : o.result = .error error)
  | cancelled (done : List Main) (error : Exn) (part : done <+: frames)
      (sends : ownSends o.trace = done.map delivered) (raised : o.result = .error error)
      (uncaught : error.isException = false)

theorem ownSends_append (first second : List (LinkEvent σ)) :
    ownSends (first ++ second) = ownSends first ++ ownSends second :=
  List.filterMap_append ..

/-- A frame sent before the others. -/
theorem WriteEnds.after {pb : Protobuf} {frames : List Main}
    {o : Outcome Host linkSignature Exn σ Bool} (h : WriteEnds pb E frames o) {frame : Main} {earlier : List (LinkEvent σ)} (first : ownSends earlier = [delivered frame]) :
    WriteEnds pb E (frame :: frames) (o.after earlier) := by
  have sends : ownSends (o.after earlier).trace = delivered frame :: ownSends o.trace := by
    rw [Outcome.after_trace, ownSends_append, first, List.singleton_append]
  cases h with
  | sent all answer =>
      refine .sent (by rw [sends, all, List.map_cons]) ⟨?_⟩
      obtain ⟨last, final, before, event, own, split, result⟩ := answer.answered
      refine ⟨last, ?_, earlier ++ before, event, own, ?_, result⟩
      · rw [List.getLast?_cons, Option.mem_def.mp final]
        rfl
      · rw [Outcome.after_trace, split, List.append_assoc]
  | failed done other error part sent raised =>
      refine .failed (frame :: done) other error (List.cons_prefix_cons.mpr ⟨rfl, part⟩) ?_ raised
      rw [sends, sent, List.map_cons, List.cons_append]
  | cancelled done error part sent raised uncaught =>
      refine .cancelled (frame :: done) error (List.cons_prefix_cons.mpr ⟨rfl, part⟩) ?_ raised uncaught
      rw [sends, sent, List.map_cons]

/-- What is no own request leaves no trace among them. -/
theorem ownSends_eq_nil {trace : List (LinkEvent σ)}
    (others : ∀ event ∈ trace, ¬ LinkOp.IsRequest event.op) : ownSends trace = [] := by
  apply List.filterMap_eq_nil_iff.mpr
  intro event member
  have other := others event member
  rcases event with ⟨host, world, op, answer⟩
  cases op with
  | send origin data => cases origin <;> first | rfl | exact absurd trivial other
  | _ => rfl

theorem ownSends_listens {c : Link α} (listens : Listens c) (s : Host) (w : σ) :
    ownSends (run E c s w).trace = [] :=
  ownSends_eq_nil fun event member =>
    LinkOp.not_isRequest_of_isRead (listens.trace E s w event member)

/-- A send that fails ends the run. -/
theorem WriteEnds.first_failed (pb : Protobuf) {frames : List Main} {frame : Main}
    (first : frames.head? = some frame) (k : Unit → Link Bool) {s : Host} {w : σ} {error : Exn}
    (failed : (E (.send .request (framed frame)) w).1 = .error error) :
    WriteEnds pb E frames (run E (sendRequest frame >>= k) s w) := by
  obtain ⟨rest, rfl⟩ := List.head?_eq_some_iff.mp first
  unfold sendRequest
  rw [run_bind, Link.run_send]
  simp only [failed]
  exact .failed [] frame error ⟨rest, rfl⟩ rfl rfl

/-- The last frame, and its answer. -/
theorem run_last (pb : Protobuf) (frame : Main) (s : Host) (w : σ) :
    WriteEnds pb E [frame] (run E (do
      sendRequest frame
      let response ← receiveMainMessage pb defaultTimeout
      pure (isOk response)) s w) := by
  rcases sent : (E (.send .request (framed frame)) w).1 with e | _
  · exact .first_failed pb rfl _ sent
  · unfold sendRequest
    rw [run_bind, Link.run_send]
    simp only [sent, run_bind_pure]
    have silent := ownSends_listens (E := E) (receiveMainMessage_listens pb defaultTimeout) s
      (E (.send .request (framed frame)) w).2
    refine .sent ?_ ⟨frame, rfl, [], ⟨s, w, .send .request (framed frame), .ok ()⟩, rfl, rfl, rfl⟩
    rw [Outcome.after_trace, ownSends_append, silent]
    rfl

/-- A frame that is not the last, and the pause behind it. -/
theorem run_paced (pb : Protobuf) (sleeps : SleepsUndisturbed E) (frame : Main) (pause : Time)
    {frames : List Main} {rest : Link Bool} (later : ∀ s w, WriteEnds pb E frames (run E rest s w))
    (s : Host) (w : σ) :
    WriteEnds pb E (frame :: frames) (run E (do
      sendRequest frame
      Link.sleep pause
      rest) s w) := by
  rcases sent : (E (.send .request (framed frame)) w).1 with e | _
  · exact .first_failed pb rfl _ sent
  · unfold sendRequest
    rw [run_bind, Link.run_send]
    simp only [sent]
    rw [run_bind, Link.run_sleep]
    have undisturbed := sleeps pause (E (.send .request (framed frame)) w).2
    cases slept : (E (.sleep pause) (E (.send .request (framed frame)) w).2).1 with
    | error e => exact .cancelled [frame] e ⟨_, rfl⟩ rfl rfl (undisturbed e slept)
    | ok _ =>
        simp only [Outcome.after_after]
        exact (later _ _).after rfl

/-- **One run of the loop.** -/
theorem run_writeChunks (pb : Protobuf) (sleeps : SleepsUndisturbed E) (commandId : UInt32)
    (path : String) {chunks : List Bytes} (some_ : chunks ≠ []) (s : Host) (w : σ) :
    WriteEnds pb E (writeFrames commandId path chunks)
      (run E (writeChunks pb commandId path chunks) s w) := by
  fun_induction writeFrames commandId path chunks generalizing s w with
  | case1 => exact absurd rfl some_
  | case2 last =>
      unfold writeChunks
      exact run_last pb (writeRequest commandId path last false) s w
  | case3 data chunks further ih =>
      cases chunks with
      | nil => exact absurd rfl further
      | cons next chunks =>
          unfold writeChunks
          exact run_paced pb sleeps _ _ (ih (List.cons_ne_nil _ _)) s w

/-- What happened before the frames. -/
theorem WriteEnds.behind {pb : Protobuf} {frames : List Main}
    {o : Outcome Host linkSignature Exn σ Bool} (h : WriteEnds pb E frames o)
    {earlier : List (LinkEvent σ)} (silent : ownSends earlier = []) :
    WriteEnds pb E frames (o.after earlier) := by
  have sends : ownSends (o.after earlier).trace = ownSends o.trace := by
    rw [Outcome.after_trace, ownSends_append, silent, List.nil_append]
  cases h with
  | sent all answer =>
      refine .sent (sends.trans all) ⟨?_⟩
      obtain ⟨last, final, before, event, own, split, result⟩ := answer.answered
      refine ⟨last, final, earlier ++ before, event, own, ?_, result⟩
      rw [Outcome.after_trace, split, List.append_assoc]
  | failed done frame error part sent raised =>
      exact .failed done frame error part (sends.trans sent) raised
  | cancelled done error part sent raised uncaught =>
      exact .cancelled done error part (sends.trans sent) raised uncaught

/-- The command id of the next request of an object. -/
def nextCommandId (self : Handle) (s : Host) : UInt32 :=
  UInt32.ofNat (((s.objects self).commandId + 1) % 0xFFFFFFFF)

/-- **One run of the body**, with the command id that comes next. -/
theorem run_storageWriteInternal (pb : Protobuf) (self : Handle) (sleeps : SleepsUndisturbed E)
    (path : String) (content : Bytes) (s : Host) (w : σ) :
    WriteEnds pb E (writeFrames (nextCommandId self s) path (chunk content writeChunkSize))
      (run E (storageWriteInternal pb self path content) s w) := by
  have negotiates := ensureRpcSessionStarted_within pb self
  have silent : ownSends (run E (ensureRpcSessionStarted pb self) s w).trace = [] := by
    apply ownSends_eq_nil
    intro event member request
    have own := negotiates.trace E s w event member
    revert own request
    cases event.op with
    | send origin _ => cases origin <;> first | exact fun request _ => request | exact fun _ own => own
    | _ => exact fun request _ => request
  have kept := (negotiates.host (NegotiationChanges.refl self)
    (fun first second => first.trans second) E s w).commandId
  unfold storageWriteInternal
  rw [run_bind]
  cases ensured : (run E (ensureRpcSessionStarted pb self) s w).result with
  | error e =>
      refine .cancelled [] e (List.nil_prefix) silent rfl ?_
      exact OnlyCancelled.ensureRpcSessionStarted pb self sleeps s w e ensured
  | ok _ =>
      simp only
      apply WriteEnds.behind _ silent
      generalize (run E (ensureRpcSessionStarted pb self) s w).host = s₁ at kept
      generalize (run E (ensureRpcSessionStarted pb self) s w).world = w₁
      have counted : nextCommandId self s = UInt32.ofNat
          ((s₁.updateRpc self fun rpc =>
            { rpc with commandId := (rpc.commandId + 1) % 0xFFFFFFFF }).objects self).commandId := by
        rw [Host.updateRpc_objects_self, nextCommandId, kept]
      rw [counted]
      exact run_writeChunks pb sleeps _ path (chunk_ne_nil (by decide)) _ w₁

theorem delivered_ok {frames : List Main} : ∀ send ∈ frames.map delivered, send.2 = .ok () := by
  intro send member
  obtain ⟨frame, -, rfl⟩ := List.mem_map.mp member
  rfl

/-- Some of the frames, from the first on, carry some of the content. -/
theorem written_prefix {commandId : UInt32} {path : String} {content : Bytes} {some_ : List Main}
    (part : some_ <+: writeFrames commandId path (chunk content writeChunkSize)) :
    (some_.map writtenData).flatten <+: content := by
  obtain ⟨later, split⟩ := part
  have whole := (writeFrames_reassembles commandId path content).whole
  rw [← split, List.map_append, List.flatten_append] at whole
  exact ⟨_, whole⟩

/-- What the handler makes of an answer is true exactly when the answer has status OK. -/
theorem value_iff_ok {received : Except Exn (Option Main)} {value : Bool}
    (returned : orFailure false (received.map isOk) = .ok value) :
    value = true ↔ ∃ msg, received = .ok (some msg) ∧ msg.commandStatus = CommandStatus.ok := by
  rcases received with e | - | msg
  · by_cases exception : e.isException = true
    · simp only [orFailure, Except.map, exception, ↓reduceIte] at returned
      obtain rfl := Except.ok.inj returned
      exact ⟨nofun, fun ⟨_, impossible, _⟩ => nomatch impossible⟩
    · simp only [orFailure, Except.map, exception, Bool.false_eq_true, ↓reduceIte] at returned
      exact nomatch returned
  · obtain rfl := Except.ok.inj returned
    exact ⟨nofun, fun ⟨_, impossible, _⟩ => nomatch impossible⟩
  · obtain rfl := Except.ok.inj returned
    constructor
    · exact fun ok => ⟨msg, rfl, of_decide_eq_true ok⟩
    · rintro ⟨_, same, ok⟩
      obtain rfl := Option.some.inj (Except.ok.inj same)
      exact decide_eq_true ok

end Run

/-- **A write reassembles.** If every frame can be sent, the frames reassemble to the content
and the write reports the status of the first message behind the last of them. A frame that
cannot be sent makes the write fail, with a part of the content sent. -/
theorem storageWrite_reassembles {σ : Type} {E : LinkEnv σ} (pb : Protobuf) (self : Handle)
    (sleeps : SleepsUndisturbed E) (path : String) (content : Bytes) (s : Host) (w : σ) :
    let o := run E (guarded false (storageWriteInternal pb self path content)) s w
    ((∀ send ∈ ownSends o.trace, send.2 = .ok ()) → ∀ value, o.result = .ok value →
      ∃ frames last, ownSends o.trace = frames.map delivered ∧
        Reassembles (nextCommandId self s) path content frames ∧
        (∀ frame ∈ frames, pb.parseFromString frame.serializeToString = some frame) ∧
        frames.getLast? = some last ∧
        ∃ before event, event.op = LinkOp.send .request (framed last) ∧
          let answer := run E (receiveMainMessage pb defaultTimeout) event.host
            (E event.op event.world).2
          o.trace = before ++ event :: answer.trace ∧
          (value = true ↔
            ∃ msg, answer.result = .ok (some msg) ∧ msg.commandStatus = CommandStatus.ok)) ∧
    ∀ data e, (data, .error e) ∈ ownSends o.trace → e.isException = true →
      o.result = .ok false ∧
        ∃ sent frame, ownSends o.trace = sent.map delivered ++ [(framed frame, .error e)] ∧
          ((sent ++ [frame]).map writtenData).flatten <+: content := by
  dsimp only
  have ends := run_storageWriteInternal pb self sleeps path content s w
  rw [run_guarded]
  dsimp only
  generalize run E (storageWriteInternal pb self path content) s w = body at ends
  constructor
  · intro succeeded value returned
    cases ends with
    | sent all answer =>
        obtain ⟨last, final, before, event, own, split, answered⟩ := answer.answered
        refine ⟨_, last, all, writeFrames_reassembles _ path content,
          fun frame _ => pb.parse_serialize frame, final, before, event, own, split, ?_⟩
        rw [answered] at returned
        exact value_iff_ok returned
    | failed done frame error part sends raised =>
        rw [sends] at succeeded
        exact nomatch succeeded _ (List.mem_append_right _ (List.mem_singleton_self _))
    | cancelled done error part sends raised uncaught =>
        simp only [orFailure, raised, uncaught, Bool.false_eq_true, ↓reduceIte] at returned
        exact nomatch returned
  · intro data e failed exception
    cases ends with
    | sent all answer =>
        rw [all] at failed
        exact nomatch delivered_ok _ failed
    | failed done frame error part sends raised =>
        rw [sends] at failed
        rcases List.mem_append.mp failed with earlier | last
        · exact nomatch delivered_ok _ earlier
        · obtain ⟨rfl, same⟩ := Prod.mk.inj (List.mem_singleton.mp last)
          obtain rfl := Except.error.inj same
          refine ⟨?_, done, frame, sends, written_prefix part⟩
          simp only [orFailure, raised, exception, ↓reduceIte]
    | cancelled done error part sends raised uncaught =>
        rw [sends] at failed
        exact nomatch delivered_ok _ failed

/-- A silent device: three frames go out for a content of 2,500 bytes, and the write fails. -/
theorem storageWrite_reassembles_silent :
    let o := run chunkQueue (guarded false (storageWriteInternal Protobuf.wire 0 "/ext/a"
      (List.replicate 2500 7))) { transport := .wifi } []
    o.result = .ok false ∧ ∃ frames, ownSends o.trace = frames.map delivered ∧
      Reassembles 1 "/ext/a" (List.replicate 2500 7) frames := by
  have sleeps : SleepsUndisturbed chunkQueue := fun _ _ => .ok ()
  have returned : (run chunkQueue (guarded false (storageWriteInternal Protobuf.wire 0 "/ext/a"
      (List.replicate 2500 7))) { transport := .wifi } []).result = .ok false := by decide +kernel
  obtain ⟨reassembles, -⟩ := storageWrite_reassembles Protobuf.wire 0 sleeps "/ext/a"
    (List.replicate 2500 7) { transport := .wifi } []
  obtain ⟨frames, last, all, whole, -⟩ := reassembles (by decide +kernel) false returned
  exact ⟨returned, frames, all, whole⟩

end ProtobufRPC

end FlipperMcp
