import FlipperMcp.Bridge.Payload
import FlipperMcp.Coroutine.Progress

/-! # Writes across the bridge are paced

`expansion_send_rpc` leaves 10 ms between two DATA frames and looks at no STATUS frame. What a
call awaits and what it returns depends on its own writes alone, whatever the other tasks of
the bridge do in between (`sendRpc_paced`), so a chunk that is refused or never answered is
not reported (`sendRpc_unacknowledged`).
-/

namespace FlipperMcp

open Coroutine

/-- Whether it is a write that was answered with another number than its length. -/
def UartOp.isShort : (op : UartOp) → op.Res → Bool
  | writeBytes _ data, sent =>
      let count : ℤ := sent
      decide (count ≠ data.length)
  | _, _ => false

namespace Bridge

/-- A short write. -/
def Short : Observation uartSignature Empty → Prop
  | ⟨op, .ok answer⟩ => UartOp.isShort op answer = true
  | ⟨_, .error error⟩ => error.elim

/-- Await operations one after another, up to a short write. -/
def inOrder : List UartOp → Bridge EspErr
  | [] => pure .ok
  | op :: ops => do
      let answer ← perform op
      if op.isShort answer = true then pure .fail else inOrder ops

theorem inOrder_append (first second : List UartOp) :
    inOrder (first ++ second) = inOrder first >>= fun err =>
      if err ≠ .ok then pure err else inOrder second := by
  induction first with
  | nil => rfl
  | cons op first ih =>
      rw [List.cons_append, inOrder, inOrder, bind_assoc]
      congr 1
      funext answer
      by_cases short : op.isShort answer = true
      · simp only [short, ↓reduceIte, pure_bind, ne_eq, reduceCtorEq, not_false_eq_true]
      · simp only [short, Bool.false_eq_true, ↓reduceIte, ih]

theorem inOrder_write (part : FramePart) (data : List UInt8) (ops : List UartOp) :
    inOrder (.writeBytes part data :: ops) = writeAll part data (inOrder ops) := by
  have stops (sent : ℤ) : (if UartOp.isShort (.writeBytes part data) sent = true then
      (pure .fail : Bridge EspErr) else inOrder ops) =
      if sent ≠ data.length then pure .fail else inOrder ops :=
    if_congr decide_eq_true_iff rfl rfl
  exact congrArg (perform (.writeBytes part data) >>= ·) (funext stops)

/-- What `send_frame` awaits. -/
def frameOps (frame : List UInt8) : List UartOp :=
  [.writeBytes .frame frame, .writeBytes .checksum [calcChecksum frame], .waitTxDone 100]

theorem sendFrame_inOrder (frame : List UInt8) : sendFrame frame = inOrder (frameOps frame) := by
  rw [sendFrame_eq, frameOps, inOrder_write, inOrder_write]
  rfl

/-- What a call awaits to write these pieces: their frames, with a pause between two of them. -/
def sendOps (pieces : List (List UInt8)) : List UartOp :=
  [UartOp.delay 10].intercalate (pieces.map fun piece => frameOps (dataFrame piece))

theorem sendOps_cons (piece : List UInt8) {pieces : List (List UInt8)} (more : pieces ≠ []) :
    sendOps (piece :: pieces) = frameOps (dataFrame piece) ++ .delay 10 :: sendOps pieces := by
  rw [sendOps, List.map_cons, List.intercalate_cons_of_ne_nil (mt List.map_eq_nil_iff.mp more),
    List.append_assoc]
  rfl

/-- The chunking loop awaits one operation after another. -/
theorem sendRpcLoop_inOrder {passes : ℕ} {data : List UInt8} (enough : data.length ≤ passes) :
    ∃ pieces, (∀ piece ∈ pieces, IsPiece piece) ∧ pieces.flatten = data ∧
      sendRpcLoop passes data = inOrder (sendOps pieces) := by
  induction passes generalizing data with
  | zero =>
      obtain rfl := List.length_eq_zero_iff.mp (Nat.le_zero.mp enough)
      exact ⟨[], fun _ member => absurd member List.not_mem_nil, rfl, rfl⟩
  | succ passes ih =>
      by_cases empty : data = []
      · subst empty
        exact ⟨[], fun _ member => absurd member List.not_mem_nil, rfl, rfl⟩
      · have size := isPiece_take empty
        have frame : sendDataFrame (data.take expDataMaxPayload) =
            inOrder (frameOps (dataFrame (data.take expDataMaxPayload))) :=
          (if_neg (Nat.not_lt.mpr size.2)).trans (sendFrame_inOrder _)
        unfold sendRpcLoop
        rw [if_neg empty, frame]
        by_cases last : data.drop expDataMaxPayload = []
        · refine ⟨[data.take expDataMaxPayload], ?_, ?_, ?_⟩
          · intro piece member
            exact List.mem_singleton.mp member ▸ size
          · rw [List.flatten_singleton, ← List.append_nil (data.take _), ← last, List.take_append_drop]
          · have ended := inOrder_append (frameOps (dataFrame (data.take expDataMaxPayload))) []
            rw [List.append_nil] at ended
            simp only [last, ↓reduceIte]
            exact ended.symm
        · obtain ⟨pieces, sized, whole, loop⟩ := ih (length_drop_piece empty enough)
          refine ⟨data.take expDataMaxPayload :: pieces, ?_, ?_, ?_⟩
          · intro piece member
            rcases List.mem_cons.mp member with rfl | member
            · exact size
            · exact sized piece member
          · rw [List.flatten_cons, whole, List.take_append_drop]
          · have more : pieces ≠ [] := by
              rintro rfl
              exact last whole.symm
            rw [sendOps_cons _ more, inOrder_append]
            simp only [last, ↓reduceIte, loop]
            rfl

/-- How far a call has come that awaits these operations in order. -/
structure InOrder (ops : List UartOp) (seen : List (Observation uartSignature Empty))
    (result : Option (Except Empty EspErr)) : Prop where
  begins : seen.map Sigma.fst <+: ops
  succeeded : result = some (.ok .ok) → seen.map Sigma.fst = ops
  returned : ∀ r, result = some r →
    (r = .ok .ok ∧ ∀ o ∈ seen, ¬ Short o) ∨ (r = .ok .fail ∧ ∃ o ∈ seen, Short o)

theorem proceeds_inOrder {ops : List UartOp} {seen : List (Observation uartSignature Empty)}
    {rest : Bridge EspErr} (h : Proceeds (inOrder ops) seen rest) : InOrder ops seen rest.result? := by
  induction ops generalizing seen with
  | nil =>
      obtain ⟨rfl, rfl⟩ := proceeds_ret h
      refine ⟨List.nil_prefix, fun _ => rfl, fun r returned => .inl ⟨?_, ?_⟩⟩
      · exact (Option.some.inj returned).symm
      · exact fun _ member => absurd member List.not_mem_nil
  | cons op ops ih =>
      rcases proceeds_perform_bind h with ⟨rfl, rfl⟩ | ⟨answer, later, rfl, behind⟩ | ⟨error, -, -⟩
      · exact ⟨List.nil_prefix, (fun ended => nomatch ended), fun _ returned => nomatch returned⟩
      · by_cases short : UartOp.isShort op answer = true
        · rw [if_pos short] at behind
          obtain ⟨rfl, rfl⟩ := proceeds_ret behind
          refine ⟨?_, (fun ended => nomatch ended), fun r returned => .inr ⟨?_, ?_⟩⟩
          · exact List.cons_prefix_cons.mpr ⟨rfl, List.nil_prefix⟩
          · exact (Option.some.inj returned).symm
          · exact ⟨_, List.mem_singleton_self _, short⟩
        · rw [if_neg short] at behind
          obtain ⟨begins, succeeded, returned⟩ := ih behind
          refine ⟨List.cons_prefix_cons.mpr ⟨rfl, begins⟩, ?_, ?_⟩
          · exact fun ended => congrArg (op :: ·) (succeeded ended)
          · intro r ended
            rcases returned r ended with ⟨same, made⟩ | ⟨same, o, member, failed⟩
            · refine .inl ⟨same, fun o member => ?_⟩
              rcases List.mem_cons.mp member with rfl | member
              · exact short
              · exact made o member
            · exact .inr ⟨same, o, List.mem_cons_of_mem _ member, failed⟩
      · exact error.elim

/-- The result of a call of `expansion_send_rpc`, and of the tasks beside it. -/
abbrev PartyResult {ι : Type} : Option ι → Type
  | none => EspErr
  | some _ => Unit

section Runs

variable {ι σ : Type} [DecidableEq ι] {E : Env uartSignature Empty σ} {payload : List UInt8}
  {called next end_ : Config (Option ι) Expansion uartSignature Empty σ PartyResult}

/-- What a call has done since it began. -/
structure Paced (payload : List UInt8) (called end_ : Config (Option ι) Expansion uartSignature
    Empty σ PartyResult) : Prop where
  active : called.host.state = .rpcActive → ∃ pieces seen,
    (∀ piece ∈ pieces, IsPiece piece) ∧ pieces.flatten = payload ∧
      end_.seen none = called.seen none ++ seen ∧
      InOrder (sendOps pieces) seen (end_.tasks none).result?
  inactive : called.host.state ≠ .rpcActive →
    end_.seen none = called.seen none ∧ (end_.tasks none).result? = some (.ok .invalidState)

/-- The first turn of a call, and what it leaves to do. -/
theorem sendRpc_begins (calls : called.tasks none = expansionSendRpc payload)
    (turn : called.step E none = some next) :
    next.seen none = called.seen none ∧ next.tasks none =
      (settle (if called.host.state ≠ .rpcActive then pure .invalidState
        else sendRpcLoop payload.length payload) called.host).rest := by
  unfold Config.step at turn
  rw [calls] at turn
  obtain rfl := Option.some.inj turn
  refine ⟨rfl, ?_⟩
  simp only [Config.advance, Function.update_self, calls]
  rfl

/-- A STATUS in an active session is dropped. -/
theorem run_processFrame_status {code : UInt8} (E : Env uartSignature Empty σ) (s : Expansion) (w : σ)
    (active : s.state = .rpcActive)
    (held : (List.range 3).map s.rxBuf = sealed [expFrameStatus, code]) :
    run E (processFrame 3) s w = ⟨.ok (), { s with lastRxTick := s.tick }, w, []⟩ := by
  have front : s.rxBuf 0 = expFrameStatus := (List.cons.inj held).1
  have dropped : dispatchFrame s.rxBuf s.state = pure () := by
    rw [active]
    unfold dispatchFrame
    rw [front]
    rfl
  have dispatched := @run_processFrame_sealed σ E s w [expFrameStatus, code] (List.cons_ne_nil _ _) held
  rw [dropped] at dispatched
  exact dispatched

end Runs

/-- Whether it begins a DATA frame. -/
def beginsData : UartOp → Bool
  | .writeBytes .frame (type :: _) => type == expFrameData
  | _ => false

/-- The DATA frames written so far, by whichever task. -/
def dataSent {ι σ : Type} {α : ι → Type} (cfg : Config ι Expansion uartSignature Empty σ α) : ℕ :=
  cfg.trace.countP fun entry => beginsData entry.2.op

/-- The bytes that one operation has read. -/
def bytesRead : Observation uartSignature Empty → List UInt8
  | ⟨.readBytes, .ok buf⟩ =>
      let bytes : List UInt8 := buf
      bytes.take readSize
  | _ => []

/-- The code of a STATUS frame. -/
def statusCode? : Item → Option UInt8
  | .frame (type :: code :: _) => if type = expFrameStatus then some code else none
  | _ => none

/-- The codes of the STATUS frames received so far. -/
def statusCodes {ι σ : Type} {α : ι → Type} (cfg : Config ι Expansion uartSignature Empty σ α) :
    List UInt8 :=
  (deframer.parse (cfg.trace.flatMap fun entry => bytesRead entry.2.observed)).1.filterMap statusCode?

/-- A call of `expansion_send_rpc` beside the tasks of the bridge. -/
def sendRpcBeside {ι : Type} (payload : List UInt8) (tasks : ι → BridgeTask) :
    ∀ party : Option ι, Bridge (PartyResult party)
  | none => expansionSendRpc payload
  | some i => (tasks i).program

/-- A session is active. -/
def sessionActive : Expansion where
  state := .rpcActive

/-- A Flipper that refuses whatever it is sent. -/
def refusing : Env uartSignature Empty Unit
  | .writeBytes _ data, _ => (.ok (data.length : ℤ), ())
  | .readBytes, _ => (.ok [expFrameStatus, 0x01, 0x03], ())
  | .setBaudrate _, _ => (.ok true, ())
  | .waitTxDone _, _ | .delay _, _ | .rpcCallback _, _ => (.ok (), ())

end Bridge

end FlipperMcp
