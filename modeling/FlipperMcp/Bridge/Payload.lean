import FlipperMcp.Bridge.Deframer

/-! # Payloads across the bridge

`expansion_send_rpc` cuts a payload into DATA frames, and the receive side of another such
bridge passes on what the frames carry. Nothing is lost between them, wherever the stream is
cut; where a write fails, what has arrived is the beginning of the payload
(`payload_round_trip`).
-/

namespace FlipperMcp

open Coroutine

namespace Bridge

/-- A DATA frame, ahead of its checksum. -/
def dataFrame (piece : List UInt8) : List UInt8 :=
  expFrameData :: UInt8.ofNat piece.length :: piece

/-- What a DATA frame of `expansion_send_rpc` carries. -/
def IsPiece (piece : List UInt8) : Prop := piece ≠ [] ∧ piece.length ≤ expDataMaxPayload

/-- A chunk of the payload is a piece. -/
theorem isPiece_take {data : List UInt8} (nonempty : data ≠ []) :
    IsPiece (data.take expDataMaxPayload) := by
  refine ⟨?_, List.length_take_le ..⟩
  intro none_
  rcases List.take_eq_nil_iff.mp none_ with zero | none_
  · exact absurd zero (by decide)
  · exact nonempty none_

/-- A pass less is enough for what is left. -/
theorem length_drop_piece {data : List UInt8} {passes : ℕ} (nonempty : data ≠ [])
    (enough : data.length ≤ passes + 1) : (data.drop expDataMaxPayload).length ≤ passes := by
  have positive := List.length_pos_iff.mpr nonempty
  have most : expDataMaxPayload = 64 := rfl
  rw [List.length_drop]
  omega

/-- A write that is answered with its length has been made; one that is not has been made in
part at most. Nothing else is written. -/
structure WritesOutput {σ : Type} (E : Env uartSignature Empty σ) (output : σ → List UInt8) :
    Prop where
  write : ∀ part data w,
    ((E (.writeBytes part data) w).1 = .ok (data.length : ℤ) ∧
      output (E (.writeBytes part data) w).2 = output w ++ data) ∨
    ((E (.writeBytes part data) w).1 ≠ .ok (data.length : ℤ) ∧
      ∃ written, written <+: data ∧ output (E (.writeBytes part data) w).2 = output w ++ written)
  other : ∀ op w, op.isWrite = false → output (E op w).2 = output w

/-- A write that was not answered with its length. -/
def WriteFailed {S σ : Type} : Event S uartSignature Empty σ → Prop
  | ⟨_, _, .writeBytes _ data, answer⟩ => answer ≠ .ok (data.length : ℤ)
  | _ => False

/-- One part after another: nothing is raised. -/
theorem run_seq {σ α : Type} (E : Env uartSignature Empty σ) (c : Bridge Unit) (next : Bridge α)
    (s : Expansion) (w : σ) :
    run E (do
      c
      next) s w = (run E next (run E c s w).host (run E c s w).world).after (run E c s w).trace := by
  rw [run_bind]
  cases (run E c s w).result with
  | error error => exact error.elim
  | ok _ => rfl

/-- One operation, and what follows. -/
theorem run_op {σ α : Type} (E : Env uartSignature Empty σ) (op : UartOp) (next : Bridge α)
    (s : Expansion) (w : σ) :
    run E (perform op >>= fun _ => next) s w =
      (run E next s (E op w).2).after [⟨s, w, op, (E op w).1⟩] := by
  unfold perform
  rw [run_bind, run_perform]
  cases (E op w).1 with
  | error error => exact error.elim
  | ok _ => rfl

theorem run_delay {σ α : Type} (E : Env uartSignature Empty σ) (milliseconds : ℕ) (next : Bridge α)
    (s : Expansion) (w : σ) :
    run E (do
      perform (.delay milliseconds)
      next) s w = (run E next s (E (.delay milliseconds) w).2).after
        [⟨s, w, UartOp.delay milliseconds, (E (.delay milliseconds) w).1⟩] :=
  run_op E (.delay milliseconds) next s w

theorem run_rpcCallback {σ α : Type} (E : Env uartSignature Empty σ) (data : List UInt8)
    (next : Bridge α) (s : Expansion) (w : σ) :
    run E (do
      perform (.rpcCallback data)
      next) s w = (run E next s (E (.rpcCallback data) w).2).after
        [⟨s, w, UartOp.rpcCallback data, (E (.rpcCallback data) w).1⟩] :=
  run_op E (.rpcCallback data) next s w

section Sending

variable {σ : Type} {E : Env uartSignature Empty σ} {output : σ → List UInt8}

/-- What one frame leaves on the wire: all of it, or a part and an error. -/
inductive FrameSent (output : σ → List UInt8) (frame : List UInt8) (s : Expansion) (w : σ)
    (o : Outcome Expansion uartSignature Empty σ EspErr) : Prop
  | whole (host : o.host = s) (result : o.result = .ok .ok)
      (written : output o.world = output w ++ sealed frame)
      (made : ∀ event ∈ o.trace, ¬ WriteFailed event)
  | part (host : o.host = s) (result : o.result = .ok .fail) (part : List UInt8)
      (begins : part <+: sealed frame) (written : output o.world = output w ++ part)
      (failed : ∃ event ∈ o.trace, WriteFailed event)

/-- One `uart_write_bytes`, and what follows if it has written everything. -/
theorem run_write (writes : WritesOutput E output) (part : FramePart) (data : List UInt8)
    (next : Bridge EspErr) (s : Expansion) (w : σ) :
    (∃ event w', ¬ WriteFailed event ∧ output w' = output w ++ data ∧
      run E (writeAll part data next) s w = (run E next s w').after [event]) ∨
    (∃ event w' written, WriteFailed event ∧ written <+: data ∧ output w' = output w ++ written ∧
      run E (writeAll part data next) s w = ⟨.ok .fail, s, w', [event]⟩) := by
  unfold writeAll perform
  rw [run_bind, run_perform]
  rcases writes.write part data w with ⟨answered, written⟩ | ⟨short, made, begins, written⟩
  · refine .inl ⟨⟨s, w, .writeBytes part data, (E (.writeBytes part data) w).1⟩, _, ?_, written, ?_⟩
    · exact not_not.mpr answered
    · simp only [answered, ne_eq, not_true_eq_false, ↓reduceIte]
  · refine .inr ⟨⟨s, w, .writeBytes part data, (E (.writeBytes part data) w).1⟩, _, made, short,
      begins, written, ?_⟩
    obtain ⟨sent, answer⟩ : ∃ sent : ℤ, (E (.writeBytes part data) w).1 = .ok sent := by
      cases answer : (E (.writeBytes part data) w).1 with
      | error error => exact error.elim
      | ok sent => exact ⟨sent, rfl⟩
    have fewer : sent ≠ (data.length : ℤ) := fun same => short (by rw [answer, same])
    simp only [answer]
    rw [if_pos fewer]
    rfl

theorem run_sendFrame (writes : WritesOutput E output) (frame : List UInt8) (s : Expansion) (w : σ) :
    FrameSent output frame s w (run E (sendFrame frame) s w) := by
  rw [sendFrame_eq]
  rcases run_write writes .frame frame (writeAll .checksum [calcChecksum frame] awaitSent) s w with
    ⟨event, w₁, made, written, ran⟩ | ⟨event, w₁, part, failed, begins, written, ran⟩
  · rw [ran]
    rcases run_write writes .checksum [calcChecksum frame] awaitSent s w₁ with
      ⟨event', w₂, made', written', ran'⟩ | ⟨event', w₂, part, failed, begins, written', ran'⟩
    · have waited := run_bind_pure E (perform (.waitTxDone 100))
        (fun _ => EspErr.ok) s w₂
      rw [perform, run_perform] at waited
      rw [ran'.trans (congrArg (Outcome.after [event']) waited)]
      refine .whole rfl ?_ ?_ ?_
      · cases answer : (E (.waitTxDone 100) w₂).1 with
        | error error => exact error.elim
        | ok _ => rfl
      · simp only [Outcome.after_world]
        rw [writes.other _ _ rfl, written', written, List.append_assoc]
        rfl
      · intro other member
        simp only [Outcome.after_trace, List.cons_append, List.nil_append, List.mem_cons,
          List.not_mem_nil, or_false] at member
        rcases member with rfl | rfl | rfl
        · exact made
        · exact made'
        · exact id
    · rw [ran']
      refine .part rfl rfl (frame ++ part) ?_ ?_ ⟨event', ?_, failed⟩
      · exact (List.prefix_append_right_inj frame).mpr begins
      · rw [Outcome.after_world, written', written, List.append_assoc]
      · exact List.mem_cons_of_mem _ (List.mem_singleton_self _)
  · rw [ran]
    exact .part rfl rfl part (begins.trans (List.prefix_append ..)) written
      ⟨event, List.mem_singleton_self _, failed⟩

/-- What sending a payload leaves on the wire: DATA frames that carry its pieces, and a part of
one more where a write has failed. -/
structure Sent (output : σ → List UInt8) (payload : List UInt8) (w : σ)
    (o : Outcome Expansion uartSignature Empty σ EspErr) (pieces : List (List UInt8))
    (part : List UInt8) : Prop where
  sized : ∀ piece ∈ pieces, IsPiece piece
  written : output o.world =
    output w ++ (pieces.flatMap (fun piece => sealed (dataFrame piece)) ++ part)
  unfinished : ∃ piece, IsPiece piece ∧ part <+: sealed (dataFrame piece) ∧
    part ≠ sealed (dataFrame piece)
  begins : pieces.flatten <+: payload
  succeeded : (∀ event ∈ o.trace, ¬ WriteFailed event) →
    o.result = .ok .ok ∧ part = [] ∧ pieces.flatten = payload
  failed : (∃ event ∈ o.trace, WriteFailed event) → o.result = .ok .fail

theorem unfinished_nil : ∃ piece, IsPiece piece ∧ [] <+: sealed (dataFrame piece) ∧
    [] ≠ sealed (dataFrame piece) :=
  ⟨[0], ⟨List.cons_ne_nil _ _, by decide⟩, List.nil_prefix, (List.cons_ne_nil _ _).symm⟩

/-- Nothing to send. -/
theorem Sent.nil (s : Expansion) (w : σ) : Sent output [] w ⟨.ok .ok, s, w, []⟩ [] [] where
  sized := nofun
  written := (List.append_nil _).symm
  unfinished := unfinished_nil
  begins := List.nil_prefix
  succeeded _ := ⟨rfl, rfl, rfl⟩
  failed := fun ⟨_, member, _⟩ => nomatch member

/-- A piece ahead of what is sent later. -/
theorem Sent.cons {piece later : List UInt8} {w w' : σ} {o : Outcome Expansion uartSignature Empty σ EspErr}
    {pieces : List (List UInt8)} {part : List UInt8} (h : Sent output later w' o pieces part)
    (size : IsPiece piece) (written : output w' = output w ++ sealed (dataFrame piece))
    {earlier : List (Event Expansion uartSignature Empty σ)}
    (made : ∀ event ∈ earlier, ¬ WriteFailed event) :
    Sent output (piece ++ later) w (o.after earlier) (piece :: pieces) part where
  sized := by
    intro other member
    rcases List.mem_cons.mp member with rfl | member
    · exact size
    · exact h.sized other member
  written := by
    rw [Outcome.after_world, h.written, written, List.flatMap_cons]
    simp only [List.append_assoc]
  unfinished := h.unfinished
  begins := (List.prefix_append_right_inj piece).mpr h.begins
  succeeded := by
    intro none_
    obtain ⟨result, whole, flat⟩ := h.succeeded fun event member =>
      none_ event (List.mem_append_right _ member)
    exact ⟨result, whole, congrArg (piece ++ ·) flat⟩
  failed := by
    rintro ⟨event, member, failed⟩
    rcases List.mem_append.mp member with member | member
    · exact absurd failed (made event member)
    · exact h.failed ⟨event, member, failed⟩

/-- The chunking loop. -/
theorem run_sendRpcLoop (writes : WritesOutput E output) {passes : ℕ} {data : List UInt8}
    (enough : data.length ≤ passes) (s : Expansion) (w : σ) :
    ∃ pieces part, Sent output data w (run E (sendRpcLoop passes data) s w) pieces part := by
  induction passes generalizing data w with
  | zero =>
      obtain rfl := List.length_eq_zero_iff.mp (Nat.le_zero.mp enough)
      exact ⟨[], [], .nil s w⟩
  | succ passes ih =>
      unfold sendRpcLoop
      by_cases empty : data = []
      · subst empty
        exact ⟨[], [], .nil s w⟩
      · have size := isPiece_take empty
        have frame : sendDataFrame (data.take expDataMaxPayload) =
            sendFrame (dataFrame (data.take expDataMaxPayload)) :=
          if_neg (Nat.not_lt.mpr size.2)
        have sent := run_sendFrame writes (dataFrame (data.take expDataMaxPayload)) s w
        rw [if_neg empty, frame, run_bind]
        revert sent
        generalize run E (sendFrame (dataFrame (data.take expDataMaxPayload))) s w = o
        intro sent
        cases sent with
        | whole host result written made =>
            simp only [result, ne_eq, not_true_eq_false, ↓reduceIte]
            by_cases last : data.drop expDataMaxPayload = []
            · rw [if_pos last]
              have none_ : Sent output [] o.world ⟨.ok .ok, o.host, o.world, []⟩ [] [] := .nil _ _
              have one := none_.cons size written made
              rw [← last, List.take_append_drop] at one
              exact ⟨_, _, one⟩
            · rw [if_neg last, host, run_delay, Outcome.after_after]
              obtain ⟨pieces, part, later⟩ := ih (length_drop_piece empty enough) (E (.delay 10) o.world).2
              have paused : output (E (.delay 10) o.world).2 =
                  output w ++ sealed (dataFrame (data.take expDataMaxPayload)) := by
                rw [writes.other _ _ rfl, written]
              have unfailed : ∀ event ∈ o.trace ++ [⟨s, o.world, .delay 10, (E (.delay 10) o.world).1⟩],
                  ¬ WriteFailed event := by
                intro event member
                rcases List.mem_append.mp member with member | member
                · exact made event member
                · exact List.mem_singleton.mp member ▸ id
              have joined := later.cons size paused unfailed
              rw [List.take_append_drop] at joined
              exact ⟨_, _, joined⟩
        | part host result part begins written failed =>
            have stopped : ¬ ∀ event ∈ o.trace, ¬ WriteFailed event := fun made =>
              failed.elim fun event h => made event h.1 h.2
            simp only [result, ne_eq, reduceCtorEq, not_false_eq_true, ↓reduceIte, Coro.pure_eq,
              run_ret, Outcome.after, List.append_nil]
            by_cases whole : part = sealed (dataFrame (data.take expDataMaxPayload))
            · refine ⟨[data.take expDataMaxPayload], [], ?_, ?_, unfinished_nil, ?_, ?_, fun _ => rfl⟩
              · intro piece member
                exact List.mem_singleton.mp member ▸ size
              · rw [written, whole, List.flatMap_singleton, List.append_nil]
              · rw [List.flatten_singleton]
                exact List.take_prefix ..
              · exact fun made => absurd made stopped
            · refine ⟨[], part, fun _ member => absurd member List.not_mem_nil, written,
                ⟨_, size, begins, whole⟩, List.nil_prefix, ?_, fun _ => rfl⟩
              exact fun made => absurd made stopped

end Sending

/-- The receive side: the loop of `uart_rx_task` on one read after another. -/
def receive : List (List UInt8) → Bridge Unit
  | [] => pure ()
  | buf :: later => do
      takeBytes buf
      receive later

/-- `receive`, with a journal. -/
def receiveNoted : List (List UInt8) → Journalled Unit
  | [] => pure ()
  | buf :: later => do
      takeBytesNoted buf
      receiveNoted later

theorem ghosts_receive (chunks : List (List UInt8)) : Ghosts (receiveNoted chunks) (receive chunks) := by
  induction chunks with
  | nil => exact .pure ()
  | cons buf later ih => exact (ghosts_takeBytes buf).bind fun _ => ih

/-- What was passed to `s_rpc_callback`. -/
def passed {S σ : Type} (trace : List (Event S uartSignature Empty σ)) : List (List UInt8) :=
  trace.filterMap fun event => event.op.passed?

section Receiving

variable {σ : Type} {E : Env uartSignature Empty σ} {s : Expansion} {w : σ}

theorem passed_append {S : Type} (first second : List (Event S uartSignature Empty σ)) :
    passed (first ++ second) = passed first ++ passed second :=
  List.filterMap_append ..

theorem Sends.run {α : Type} {c : Bridge α} (h : Sends c) (E : Env uartSignature Empty σ)
    (s : Expansion) (w : σ) : passed (run E c s w).trace = [] ∧ (run E c s w).host = s := by
  constructor
  · exact List.filterMap_eq_nil_iff.mpr fun event member => (h.trace E s w event member).2
  · exact h.host (fun _ => rfl) (fun first second => second.trans first) E s w

/-- A frame whose checksum is right is dispatched. -/
theorem run_processFrame_sealed {frame : List UInt8} (nonempty : frame ≠ [])
    (held : (List.range (sealed frame).length).map s.rxBuf = sealed frame) :
    run E (processFrame (sealed frame).length) s w =
      run E (dispatchFrame s.rxBuf s.state) { s with lastRxTick := s.tick } w := by
  have length : (sealed frame).length = frame.length + 1 := by
    rw [sealed, List.length_append, List.length_singleton]
  have positive := List.length_pos_iff.mpr nonempty
  rw [length, List.range_succ, List.map_append, List.map_singleton, sealed] at held
  obtain ⟨body, checksum⟩ := List.append_inj' held rfl
  have right : calcChecksum ((List.range frame.length).map s.rxBuf) = s.rxBuf frame.length := by
    rw [body]
    exact (List.singleton_inj.mp checksum).symm
  rw [length]
  unfold processFrame
  rw [if_neg (by omega), run_bind, run_modify]
  simp only [Outcome.after_nil]
  rw [run_bind, run_get]
  simp only [Outcome.after_nil, Nat.add_sub_cancel, right, ne_eq, not_true_eq_false, ↓reduceIte]

/-- A DATA frame in an active session: its payload is passed on. -/
theorem run_processFrame_piece {piece : List UInt8} (size : IsPiece piece)
    (active : s.state = .rpcActive)
    (held : (List.range (sealed (dataFrame piece)).length).map s.rxBuf = sealed (dataFrame piece)) :
    passed (run E (processFrame (sealed (dataFrame piece)).length) s w).trace = [piece] ∧
      (run E (processFrame (sealed (dataFrame piece)).length) s w).host =
        { s with lastRxTick := s.tick } := by
  have length : (sealed (dataFrame piece)).length = piece.length + 3 := by
    simp only [sealed, dataFrame, List.length_append, List.length_cons, List.length_nil]
  have at_ : ∀ i, i < piece.length + 3 → s.rxBuf i = (sealed (dataFrame piece)).getD i 0 := by
    intro i inside
    rw [← held, length, List.getD_eq_getElem?_getD, List.getElem?_map, List.getElem?_range inside]
    rfl
  have most : expDataMaxPayload = 64 := rfl
  have small := size.2
  have positive := List.length_pos_iff.mpr size.1
  have front : s.rxBuf 0 = expFrameData := at_ 0 (by omega)
  have second : (s.rxBuf 1).toNat = piece.length := by
    rw [at_ 1 (by omega)]
    exact Nat.mod_eq_of_lt (by omega)
  have payload : ((List.range piece.length).map fun i => s.rxBuf (2 + i)) = piece := by
    apply List.ext_getElem
    · rw [List.length_map, List.length_range]
    · intro i inside inside'
      rw [List.getElem_map, List.getElem_range, at_ (2 + i) (by omega), Nat.add_comm]
      change (piece ++ [_]).getD i 0 = _
      rw [List.getD_eq_getElem?_getD, List.getElem?_append_left inside',
        List.getElem?_eq_getElem inside']
      rfl
  have nonempty : dataFrame piece ≠ [] := List.cons_ne_nil _ _
  have acknowledged : Sends (do
      let _ ← sendStatus expStatusOk) := (sends_sendFrame _).bind fun _ => .pure ()
  have forwards : forwardPayload s.rxBuf = perform (.rpcCallback piece) := by
    rw [← payload, ← second]
    exact if_pos (second ▸ positive)
  have dispatched : dispatchFrame s.rxBuf s.state = (do
      perform (.rpcCallback piece)
      let _ ← sendStatus expStatusOk) := by
    rw [← forwards, active]
    exact if_pos front
  rw [run_processFrame_sealed nonempty held, dispatched, run_rpcCallback]
  obtain ⟨silent, same⟩ := acknowledged.run E { s with lastRxTick := s.tick }
    (E (.rpcCallback piece) w).2
  constructor
  · rw [Outcome.after_trace, passed_append, silent]
    rfl
  · exact same

/-- The frames that carry these pieces. -/
def framesOf (pieces : List (List UInt8)) : List Item :=
  pieces.map fun piece => .frame (sealed (dataFrame piece))

/-- What the loop makes of frames that carry these pieces. -/
structure Passes (pieces : List (List UInt8)) (rest : List UInt8)
    (o : Outcome Expansion uartSignature Empty σ Unit) : Prop where
  passed : passed o.trace = pieces
  active : o.host.state = .rpcActive
  left : received o.host = rest

theorem run_extractFrames_pieces {passes : ℕ} {pieces : List (List UInt8)} {rest : List UInt8}
    (sized : ∀ piece ∈ pieces, IsPiece piece) (enough : s.rxLen ≤ passes)
    (bounded : s.rxLen ≤ rxBufSize) (active : s.state = .rpcActive)
    (parsed : deframer.parse (received s) = (framesOf pieces, rest)) :
    Passes pieces rest (run E (extractFrames passes) s w) := by
  induction passes generalizing pieces s w with
  | zero =>
      have empty : received s = [] :=
        List.length_eq_zero_iff.mp ((length_received s).trans (Nat.le_zero.mp enough))
      rw [empty, Recogniser.parse_nil] at parsed
      obtain ⟨none_, rfl⟩ := Prod.mk.inj parsed
      obtain rfl := List.map_eq_nil_iff.mp none_.symm
      exact ⟨rfl, active, empty⟩
  | succ passes ih =>
      cases found : nextItem (received s) with
      | none =>
          rw [Recogniser.parse_of_none (r := deframer) found] at parsed
          obtain ⟨none_, rfl⟩ := Prod.mk.inj parsed
          obtain rfl := List.map_eq_nil_iff.mp none_.symm
          rw [run_extractFrames_incomplete E _ w found]
          exact ⟨rfl, active, rfl⟩
      | some cut =>
          obtain ⟨item, left⟩ := cut
          rw [Recogniser.parse_of_some (r := deframer) found] at parsed
          obtain ⟨items, rfl⟩ := Prod.mk.inj parsed
          obtain ⟨piece, pieces, rfl, rfl, later⟩ := List.map_eq_cons_iff.mp items.symm
          obtain ⟨fits, held, behind⟩ := left_of_nextItem found
          rw [Item.bytes] at fits held behind
          have size := sized piece (List.mem_cons_self ..)
          have dispatched := @run_processFrame_piece σ E { s with dispatching := true } w piece size
            active held
          rw [run_extractFrames_succ, found]
          simp only
          rw [run_seq, run_modify, run_seq, run_seq, run_modify]
          revert dispatched
          generalize run E (processFrame _) _ w = o
          intro dispatched
          obtain ⟨passed_, host⟩ := dispatched
          have bytes : o.host.rxBuf = s.rxBuf := by rw [host]
          have length : o.host.rxLen = s.rxLen := by rw [host]
          obtain ⟨fewer, removed⟩ := received_removeFrame (s := o.host) (length ▸ fits)
            (length ▸ bounded)
          rw [received_eq bytes length, behind] at removed
          have shorter := nextItem_shrinks found
          rw [length_received, ← behind, List.length_drop, length_received] at shorter
          have rest_ := @ih (removeFrame (sealed (dataFrame piece)).length o.host) o.world pieces
            (fun other member => sized other (List.mem_cons_of_mem _ member)) (by omega) (by omega)
            (by rw [removeFrame, moveBytes, host]; exact active)
            (by rw [removed]; exact Prod.ext later.symm rfl)
          refine ⟨?_, rest_.active, rest_.left⟩
          simp only [Outcome.after_trace, List.nil_append, passed_append]
          rw [passed_, rest_.passed]
          rfl

/-- **The receive side.** However the stream of such frames is cut into reads, their payloads
are passed on one by one. -/
theorem run_receive {chunks pieces : List (List UInt8)} {rest : List UInt8}
    (read : ∀ buf ∈ chunks, buf.length ≤ readSize) (sized : ∀ piece ∈ pieces, IsPiece piece)
    (active : s.state = .rpcActive) (incomplete : nextItem (received s) = none)
    (parsed : deframer.parse (received s ++ chunks.flatten) = (framesOf pieces, rest)) :
    Passes pieces rest (run E (receive chunks) s w) := by
  induction chunks generalizing pieces s w with
  | nil =>
      rw [List.flatten_nil, List.append_nil, Recogniser.parse_of_none (r := deframer) incomplete]
        at parsed
      obtain ⟨none_, rfl⟩ := Prod.mk.inj parsed
      obtain rfl := List.map_eq_nil_iff.mp none_.symm
      exact ⟨rfl, active, rfl⟩
  | cons buf later ih =>
      have few := length_le_of_incomplete incomplete
      have small := read buf (List.mem_cons_self ..)
      rw [length_received] at few
      have fits : s.rxLen + buf.length ≤ rxBufSize := by
        unfold readSize at small
        unfold rxBufSize
        omega
      rw [List.flatten_cons, ← List.append_assoc, Recogniser.parse_append] at parsed
      obtain ⟨items, left⟩ := Prod.mk.inj parsed
      obtain ⟨first, second, rfl, one, two⟩ := List.map_eq_append_iff.mp items.symm
      have taken : Passes first (deframer.parse (received s ++ buf)).2 (run E (takeBytes buf) s w) := by
        unfold takeBytes
        by_cases empty : buf = []
        · subst empty
          rw [List.append_nil, Recogniser.parse_of_none (r := deframer) incomplete] at one
          obtain rfl := List.map_eq_nil_iff.mp one
          rw [List.append_nil, Recogniser.parse_of_none (r := deframer) incomplete]
          exact ⟨rfl, active, rfl⟩
        · have appended := received_appendBytes fits
          have length : (appendBytes buf s).rxLen = s.rxLen + buf.length := by
            rw [← length_received, appended, List.length_append, length_received]
          rw [if_neg empty, run_seq, run_modify]
          apply @run_extractFrames_pieces σ E (appendBytes buf s) w rxBufSize
          · exact fun piece member => sized piece (List.mem_append_left _ member)
          · exact length ▸ fits
          · exact length ▸ fits
          · exact active
          · rw [appended]
            exact Prod.ext one.symm rfl
      have again := @ih (run E (takeBytes buf) s w).host (run E (takeBytes buf) s w).world second
        (fun other member => read other (List.mem_cons_of_mem _ member))
        (fun piece member => sized piece (List.mem_append_right _ member)) taken.active
        (by rw [taken.left]; exact Recogniser.next_parse (r := deframer) _)
        (by rw [taken.left]; exact Prod.ext two.symm left)
      unfold receive
      rw [run_seq]
      refine ⟨?_, again.active, again.left⟩
      rw [Outcome.after_trace, passed_append, taken.passed, again.passed]

/-- What the journal has read is what was received. -/
theorem upholds_receive {chunks : List (List UInt8)} (read : ∀ buf ∈ chunks, buf.length ≤ readSize)
    {earlier : List Entry} {stream : List UInt8} {p : Expansion × List Entry}
    (h : Between earlier stream p) :
    Upholds receiving (receiveNoted chunks) (fun _ => Between earlier (stream ++ chunks.flatten)) p := by
  induction chunks generalizing stream p with
  | nil =>
      rw [List.flatten_nil, List.append_nil]
      exact h
  | cons buf later ih =>
      rw [List.flatten_cons, ← List.append_assoc]
      exact (upholds_takeBytes (read buf (List.mem_cons_self ..)) h).bind fun _ _ between =>
        ih (fun other member => read other (List.mem_cons_of_mem _ member)) between

end Receiving

section RoundTrip

variable {σ : Type} {E : Env uartSignature Empty σ} {output : σ → List UInt8}
  {payload part : List UInt8} {pieces : List (List UInt8)} {w : σ}
  {o : Outcome Expansion uartSignature Empty σ EspErr}

theorem isFrame_dataFrame {piece : List UInt8} (size : IsPiece piece) : IsFrame (dataFrame piece) :=
  .data piece size.2

/-- What was sent is parsed as its frames. -/
theorem Sent.parse (h : Sent output payload w o pieces part) :
    deframer.parse (pieces.flatMap (fun piece => sealed (dataFrame piece)) ++ part) =
      (framesOf pieces, part) := by
  have front : ∀ item ∈ framesOf pieces, deframer.next item.bytes = some (item, []) := by
    intro item member
    obtain ⟨piece, present, rfl⟩ := List.mem_map.mp member
    exact nextItem_sealed (isFrame_dataFrame (h.sized piece present))
  have whole := Recogniser.parse_flatMap Item.bytes front
  rw [framesOf, List.flatMap_map] at whole
  have incomplete : nextItem part = none := by
    obtain ⟨piece, size, ⟨missing, begins⟩, unfinished⟩ := h.unfinished
    cases found : nextItem part with
    | none => rfl
    | some cut =>
        obtain ⟨item, rest⟩ := cut
        have longer := nextItem_stable found missing
        rw [begins, nextItem_sealed (isFrame_dataFrame size)] at longer
        have none_ := (Prod.mk.inj (Option.some.inj longer)).2
        obtain ⟨-, rfl⟩ := List.append_eq_nil_iff.mp none_.symm
        rw [List.append_nil] at begins
        exact absurd begins unfinished
  rw [Recogniser.parse_append]
  simp only [Item.bytes] at whole
  rw [whole, List.nil_append, Recogniser.parse_of_none (r := deframer) incomplete, List.append_nil]
  rfl

/-- **Payloads across the bridge.** `expansion_send_rpc` writes DATA frames that carry its payload
in pieces, all of them if no write fails. Whatever was written, and however it is cut into reads,
the receive side of an active session passes on these pieces and nothing else; it skips no
byte, and no checksum is wrong, so the session stays active. -/
theorem payload_round_trip (writes : WritesOutput E output) (payload : List UInt8) (s : Expansion)
    (active : s.state = .rpcActive) (w : σ) :
    ∃ pieces part, Sent output payload w (run E (expansionSendRpc payload) s w) pieces part ∧
      ∀ {σ' : Type} (E' : Env uartSignature Empty σ') (s' : Expansion) (w' : σ')
        (chunks : List (List UInt8)), s'.state = .rpcActive → s'.rxLen = 0 →
        (∀ buf ∈ chunks, buf.length ≤ readSize) →
        output (run E (expansionSendRpc payload) s w).world = output w ++ chunks.flatten →
        Passes pieces part (run E' (receive chunks) s' w') ∧
          Ghosts (receiveNoted chunks) (receive chunks) ∧
          itemsOf (run E' (receiveNoted chunks) (s', []) w').host.2 = framesOf pieces := by
  obtain ⟨pieces, part, sent⟩ := run_sendRpcLoop writes (Nat.le_refl payload.length) s w
  have ran : run E (expansionSendRpc payload) s w = run E (sendRpcLoop payload.length payload) s w := by
    unfold expansionSendRpc
    rw [run_bind, run_get]
    simp only [active, ne_eq, not_true_eq_false, ↓reduceIte, Outcome.after_nil]
  rw [← ran] at sent
  refine ⟨pieces, part, sent, ?_⟩
  intro σ' E' s' w' chunks active' fresh read written
  have begins : received s' = [] := by rw [← List.length_eq_zero_iff, length_received, fresh]
  have stream : chunks.flatten = pieces.flatMap (fun piece => sealed (dataFrame piece)) ++ part :=
    List.append_cancel_left (written.symm.trans sent.written)
  have parse := sent.parse
  rw [← stream] at parse
  refine ⟨?_, ghosts_receive chunks, ?_⟩
  · apply run_receive read sent.sized active'
    · rw [begins]
      rfl
    · rw [begins, List.nil_append]
      exact parse
  · have between : Between [] [] (s', []) := by
      refine ⟨?_, ?_⟩
      · rw [begins]
        exact .start []
      · rw [begins]
        rfl
    have upheld := upholds_receive read between
    cases returned : (run E' (receiveNoted chunks) (s', []) w').result with
    | error error => exact error.elim
    | ok _ =>
        have ended := upheld.run (fun _ _ => trivial) (fun _ => Apart.refl) w' returned
        obtain ⟨recent, journal, whole, _⟩ := ended.parsed
        have deframed := ended.deframed.parse
        rw [List.nil_append] at journal whole
        rw [journal, whole, parse] at deframed
        rw [journal]
        exact (Prod.mk.inj deframed).1.symm

theorem uartOutput_writes : WritesOutput uartOutput id where
  write part data w := .inl (uartOutput_appends.write part data w)
  other := uartOutput_appends.other

/-- A byte, sent as one frame and received in two reads. -/
theorem payload_round_trip_byte :
    (run uartOutput (expansionSendRpc [7]) heartbeatDue []).world = [5, 1, 7, 3] ∧
      (passed (run uartOutput (receive [[5, 1], [7, 3]]) heartbeatDue []).trace).flatten = [7] := by
  have written : (run uartOutput (expansionSendRpc [7]) heartbeatDue []).world = [5, 1, 7, 3] := by
    decide +kernel
  refine ⟨written, ?_⟩
  obtain ⟨pieces, part, sent, received⟩ := payload_round_trip uartOutput_writes [7] heartbeatDue rfl []
  have made : ∀ event ∈ (run uartOutput (expansionSendRpc [7]) heartbeatDue []).trace,
      ¬ WriteFailed event := by
    intro event member
    have trace : (run uartOutput (expansionSendRpc [7]) heartbeatDue []).trace =
        [⟨heartbeatDue, [], .writeBytes .frame [5, 1, 7], .ok (3 : ℤ)⟩,
          ⟨heartbeatDue, [5, 1, 7], .writeBytes .checksum [3], .ok (1 : ℤ)⟩,
          ⟨heartbeatDue, [5, 1, 7, 3], .waitTxDone 100, .ok ()⟩] := rfl
    simp only [trace, List.mem_cons, List.not_mem_nil, or_false] at member
    rcases member with rfl | rfl | rfl
    · exact not_not.mpr rfl
    · exact not_not.mpr rfl
    · exact id
  obtain ⟨-, -, flat⟩ := sent.succeeded made
  obtain ⟨passes, -, -⟩ := received uartOutput heartbeatDue [] [[5, 1], [7, 3]] rfl rfl
    (by decide) written
  rw [passes.passed, flat]

end RoundTrip

end Bridge

end FlipperMcp
