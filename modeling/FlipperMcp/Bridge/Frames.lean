import FlipperMcp.Bridge.Expansion
import FlipperMcp.Coroutine.Rely

/-! # Whole frames on the UART

`send_frame` writes a frame and its checksum in two calls, and nothing keeps another task
from writing between them. The stream on the UART is a concatenation of frames, each with
its own checksum behind it, in every run in which no task writes while another has its
checksum still to write (`uart_frames`).
-/

namespace FlipperMcp

open Coroutine

namespace Bridge

/-- A complete frame, as it stands ahead of its checksum. -/
inductive IsFrame : List UInt8 → Prop
  | heartbeat : IsFrame [expFrameHeartbeat]
  | status (code : UInt8) : IsFrame [expFrameStatus, code]
  | baudRate (b₀ b₁ b₂ b₃ : UInt8) : IsFrame [expFrameBaudRate, b₀, b₁, b₂, b₃]
  | control (command : UInt8) : IsFrame [expFrameControl, command]
  | data (payload : List UInt8) (small : payload.length ≤ expDataMaxPayload) :
      IsFrame (expFrameData :: UInt8.ofNat payload.length :: payload)

/-- A frame with its checksum. -/
def sealed (frame : List UInt8) : List UInt8 := frame ++ [calcChecksum frame]

/-- Whole frames, one after another. -/
def WholeFrames (output : List UInt8) : Prop :=
  ∃ frames : List (List UInt8), (∀ frame ∈ frames, IsFrame frame) ∧ output = frames.flatMap sealed

/-- Each `uart_write_bytes` is one append to the output of the UART, and nothing else is. -/
structure AppendsOutput {σ : Type} (E : Env uartSignature Empty σ) (output : σ → List UInt8) :
    Prop where
  write : ∀ part data w, (E (.writeBytes part data) w).1 = .ok (data.length : ℤ) ∧
    output (E (.writeBytes part data) w).2 = output w ++ data
  other : ∀ op w, op.isWrite = false → output (E op w).2 = output w

section Transmits

variable {α β : Type}

/-- It writes whole frames. Where a frame is pending, its checksum is the next thing awaited. -/
def Transmits : Option (List UInt8) → Bridge α → Prop
  | pending, Coro.ret _ | pending, Coro.raise _ => pending = none
  | pending, .act _ next => ∀ s, Transmits pending (next s)
  | pending, .acquire next | pending, .release next => pending = none ∧ Transmits pending next
  | none, .await (.writeBytes .frame frame) next =>
      IsFrame frame ∧ Transmits (some frame) (next (.ok (frame.length : ℤ)))
  | some frame, .await (.writeBytes .checksum data) next =>
      data = [calcChecksum frame] ∧ Transmits none (next (.ok (1 : ℤ)))
  | none, .await (.writeBytes .checksum _) _ => False
  | none, .await _ next => ∀ answer, Transmits none (next answer)
  | some _, .await _ _ => False

variable {pending : Option (List UInt8)}

theorem Transmits.bind {c : Bridge β} {k : β → Bridge α} (first : Transmits pending c)
    (rest : ∀ value, Transmits none (k value)) : Transmits pending (c >>= k) := by
  induction c generalizing pending with
  | ret value =>
      obtain rfl : pending = none := first
      exact rest value
  | raise _ => exact first
  | act update next ih => exact fun s => ih s (first s)
  | acquire next ih | release next ih => exact ⟨first.1, ih first.2⟩
  | await op next ih =>
      cases op with
      | writeBytes part data =>
          cases part <;> cases pending
          · exact ⟨first.1, ih _ first.2⟩
          · exact first.elim
          · exact first.elim
          · exact ⟨first.1, ih _ first.2⟩
      | _ =>
          cases pending with
          | none => exact fun answer => ih answer (first answer)
          | some _ => exact first.elim

theorem Transmits.attempt {c : Bridge α} (h : Transmits pending c) : Transmits pending c.attempt := by
  induction c generalizing pending with
  | ret _ | raise _ => exact h
  | act update next ih => exact fun s => ih s (h s)
  | acquire next ih | release next ih => exact ⟨h.1, ih h.2⟩
  | await op next ih =>
      cases op with
      | writeBytes part data =>
          cases part <;> cases pending
          · exact ⟨h.1, ih _ h.2⟩
          · exact h.elim
          · exact h.elim
          · exact ⟨h.1, ih _ h.2⟩
      | _ =>
          cases pending with
          | none => exact fun answer => ih answer (h answer)
          | some _ => exact h.elim

theorem Transmits.withLock {body : Bridge α} (h : Transmits none body) :
    Transmits none body.withLock := by
  refine ⟨rfl, h.attempt.bind fun result => ⟨rfl, ?_⟩⟩
  cases result <;> rfl

theorem Transmits.pure (value : α) : Transmits none (pure value : Bridge α) := rfl

theorem Transmits.get : Transmits none (Coro.get : Bridge Expansion) := fun _ => rfl

theorem Transmits.modify (update : Expansion → Expansion) :
    Transmits none (Coro.modify update : Bridge Unit) := fun _ => rfl

theorem Transmits.ite {condition : Prop} [Decidable condition] {c d : Bridge α}
    (yes : condition → Transmits pending c) (no : ¬ condition → Transmits pending d) :
    Transmits pending (if condition then c else d) := by
  by_cases holds : condition
  · rw [if_pos holds]
    exact yes holds
  · rw [if_neg holds]
    exact no holds

/-- What is awaited beside the two writes. -/
theorem Transmits.perform {op : UartOp} (other : op.isWrite = false) :
    Transmits none (Bridge.perform op) := by
  cases op with
  | writeBytes part data => exact nomatch other
  | _ => exact fun answer => by cases answer <;> rfl

/-- One `uart_write_bytes`, and what follows if it has written everything. -/
def writeAll (part : FramePart) (data : List UInt8) (next : Bridge EspErr) : Bridge EspErr := do
  let (sent : ℤ) ← Bridge.perform (.writeBytes part data)
  if sent ≠ data.length then pure .fail else next

/-- The end of a frame that has been written. -/
def awaitSent : Bridge EspErr := do
  Bridge.perform (.waitTxDone 100)
  pure .ok

theorem sendFrame_eq (frame : List UInt8) : sendFrame frame =
    writeAll .frame frame (writeAll .checksum [calcChecksum frame] awaitSent) := rfl

/-- **One frame.** -/
theorem transmits_sendFrame {frame : List UInt8} (whole : IsFrame frame) :
    Transmits none (sendFrame frame) := by
  have sealing : Transmits (some frame) (writeAll .checksum [calcChecksum frame] awaitSent) :=
    ⟨rfl, fun answer => by cases answer <;> rfl⟩
  refine ⟨whole, ?_⟩
  change Transmits (some frame) (if (frame.length : ℤ) ≠ frame.length then pure EspErr.fail else _)
  rw [if_neg (not_not.mpr rfl)]
  exact sealing

theorem transmits_expansionSendHeartbeat : Transmits none expansionSendHeartbeat :=
  transmits_sendFrame .heartbeat

theorem transmits_sendStatus (code : UInt8) : Transmits none (sendStatus code) :=
  transmits_sendFrame (.status code)

theorem transmits_sendControl (command : UInt8) : Transmits none (sendControl command) :=
  transmits_sendFrame (.control command)

theorem transmits_sendBaudRate (baud : UInt32) : Transmits none (sendBaudRate baud) :=
  transmits_sendFrame (.baudRate ..)

theorem transmits_sendDataFrame (data : List UInt8) : Transmits none (sendDataFrame data) :=
  .ite (fun _ => .pure _) fun small => transmits_sendFrame (.data data (Nat.le_of_not_lt small))

theorem transmits_expansionSendRpc (data : List UInt8) : Transmits none (expansionSendRpc data) := by
  have loop : ∀ passes data, Transmits none (sendRpcLoop passes data) := by
    intro passes
    induction passes with
    | zero => exact fun data => .pure _
    | succ passes ih =>
        intro data
        apply Transmits.ite
        · exact fun _ => .pure _
        · intro _
          apply (transmits_sendDataFrame _).bind
          intro err
          apply Transmits.ite
          · exact fun _ => .pure _
          · exact fun _ => .ite (fun _ => .pure _) fun _ => (Transmits.perform rfl).bind fun _ => ih _
  exact Transmits.get.bind fun _ => .ite (fun _ => .pure _) fun _ => loop _ _

theorem transmits_setBaudRate (baud : UInt32) : Transmits none (setBaudRate baud) := by
  apply (Transmits.perform rfl).bind
  intro (accepted : Bool)
  exact .ite (fun _ => .modify _) fun _ => .pure ()

theorem transmits_dispatchFrame (frame : ℕ → UInt8) (state : ExpansionState) :
    Transmits none (dispatchFrame frame state) := by
  have start : Transmits none (do
      setState .rpcStarting
      let _ ← sendControl expControlStartRpc) :=
    (Transmits.modify _).bind fun _ => (transmits_sendControl _).bind fun _ => .pure ()
  have forward : Transmits none (forwardPayload frame) :=
    .ite (fun _ => .perform rfl) fun _ => .pure ()
  cases state with
  | disconnected | error => exact .pure ()
  | awaitingHeartbeat =>
      apply Transmits.ite
      · exact fun _ => (Transmits.modify _).bind fun _ => (transmits_sendBaudRate _).bind fun _ =>
          .pure ()
      · exact fun _ => .pure ()
  | baudNegotiation =>
      apply Transmits.ite
      · intro _
        apply Transmits.ite
        · exact fun _ => (Transmits.perform rfl).bind fun _ => (transmits_setBaudRate _).bind fun _ =>
            (Transmits.perform rfl).bind fun _ => start
        · exact fun _ => .ite (fun _ => start) fun _ => .modify _
      · exact fun _ => .pure ()
  | rpcStarting =>
      apply Transmits.ite
      · exact fun _ => .ite (fun _ => .modify _) fun _ => .modify _
      · exact fun _ => .pure ()
  | rpcActive =>
      apply Transmits.ite
      · exact fun _ => forward.bind fun _ => (transmits_sendStatus _).bind fun _ => .pure ()
      · intro _
        apply Transmits.ite
        · exact fun _ => .pure ()
        · exact fun _ => .ite (fun _ => transmits_expansionSendHeartbeat.bind fun _ => .pure ())
            fun _ => .pure ()

theorem transmits_processFrame (len : ℕ) : Transmits none (processFrame len) := by
  apply Transmits.ite
  · exact fun _ => .pure ()
  · exact fun _ => (Transmits.modify _).bind fun _ => Transmits.get.bind fun _ =>
      .ite (fun _ => .modify _) fun _ => transmits_dispatchFrame _ _

theorem transmits_extractFrames (passes : ℕ) : Transmits none (extractFrames passes) := by
  induction passes with
  | zero => exact .pure ()
  | succ passes ih =>
      have dispatched : ∀ size, Transmits none (do
          Coro.modify fun s => { s with dispatching := true }
          processFrame size
          Coro.modify (removeFrame size)
          extractFrames passes) := fun size =>
        (Transmits.modify _).bind fun _ => (transmits_processFrame _).bind fun _ =>
          (Transmits.modify _).bind fun _ => ih
      apply Transmits.get.bind
      intro s
      apply Transmits.ite
      · exact fun _ => .pure ()
      · intro _
        apply Transmits.ite
        · exact fun _ => .pure ()
        · intro _
          apply Transmits.ite
          · exact fun _ => (Transmits.modify _).bind fun _ => ih
          · exact fun _ => .ite (fun _ => dispatched _) fun _ => .pure ()

theorem transmits_uartRxPass : Transmits none uartRxPass := by
  have taken : ∀ buf, Transmits none (takeBytes buf) := fun buf =>
    .ite (fun _ => .pure ()) fun _ => (Transmits.modify _).bind fun _ => transmits_extractFrames _
  have due : Transmits none sendDueHeartbeat := Transmits.get.bind fun _ =>
    .ite (fun _ => transmits_expansionSendHeartbeat.bind fun _ => .modify _) fun _ => .pure ()
  exact (Transmits.perform rfl).bind fun _ => (taken _).bind fun _ => (Transmits.modify _).bind
    fun _ => due

theorem transmits_expansionConnect : Transmits none expansionConnect := by
  have signalled : Transmits none signalPresence :=
    ((Transmits.perform rfl).bind fun _ => .perform rfl).withLock
  apply Transmits.get.bind
  intro s
  apply Transmits.ite
  · exact fun _ => .pure _
  · exact fun _ => (transmits_setBaudRate _).bind fun _ => (Transmits.modify _).bind fun _ =>
      signalled.bind fun _ => .pure _

theorem transmits_expansionDisconnect : Transmits none expansionDisconnect := by
  have stopped : Transmits none stopRpc := Transmits.get.bind fun _ =>
    .ite (fun _ => (transmits_sendControl _).bind fun _ => .pure ()) fun _ => .pure ()
  exact stopped.bind fun _ => (Transmits.modify _).bind fun _ => transmits_setBaudRate _

theorem transmits_flipperConnectPass : Transmits none flipperConnectPass := by
  have awaited : ∀ tries, Transmits none (awaitConnection tries) := by
    intro tries
    induction tries with
    | zero => exact .pure ()
    | succ tries ih =>
        exact (Transmits.perform rfl).bind fun _ => Transmits.get.bind fun _ =>
          .ite (fun _ => .pure ()) fun _ => ih
  apply Transmits.get.bind
  intro s
  apply Transmits.ite
  · intro _
    apply transmits_expansionConnect.bind
    intro _
    apply (awaited 20).bind
    intro _
    exact Transmits.get.bind fun _ =>
      .ite (fun _ => transmits_expansionDisconnect.bind fun _ => .perform rfl) fun _ => .pure ()
  · exact fun _ => .ite (fun _ => .perform rfl) fun _ => .perform rfl

/-- **Every task writes whole frames.** -/
theorem transmits_program (task : BridgeTask) : Transmits none task.program := by
  cases task with
  | uartRx passes =>
      induction passes with
      | zero => exact .pure ()
      | succ passes ih => exact transmits_uartRxPass.bind fun _ => ih
  | flipperConnect passes =>
      induction passes with
      | zero => exact .pure ()
      | succ passes ih => exact transmits_flipperConnectPass.bind fun _ => ih
  | reconnectHandler =>
      exact transmits_expansionDisconnect.bind fun _ => transmits_expansionConnect.bind fun _ =>
        .pure ()
  | tcpRx data =>
      induction data with
      | nil => exact .pure ()
      | cons data later ih =>
          have forwarded : Transmits none (onTcpRx data) := Transmits.get.bind fun _ =>
            .ite (fun _ => (transmits_expansionSendRpc _).bind fun _ => .pure ()) fun _ => .pure ()
          exact (Transmits.perform rfl).bind fun _ => forwarded.bind fun _ => ih
  | sender transmissions =>
      induction transmissions with
      | nil => exact .pure ()
      | cons transmission later ih =>
          have sent : Transmits none transmission.send := by
            cases transmission with
            | heartbeat => exact transmits_expansionSendHeartbeat.bind fun _ => .pure ()
            | status code => exact (transmits_sendStatus code).bind fun _ => .pure ()
            | control command => exact (transmits_sendControl command).bind fun _ => .pure ()
            | baudRate baud => exact (transmits_sendBaudRate baud).bind fun _ => .pure ()
            | sendRpc data => exact (transmits_expansionSendRpc data).bind fun _ => .pure ()
          exact (Transmits.perform rfl).bind fun _ => sent.bind fun _ => ih
  | clock ticks =>
      induction ticks with
      | nil => exact .pure ()
      | cons tick ticks ih =>
          exact (Transmits.perform rfl).bind fun _ => (Transmits.modify _).bind fun _ => ih

end Transmits

/-- A task is between a frame and its checksum. -/
def MidFrame {α : Type} (c : Bridge α) : Prop :=
  ∃ data next, c = .await (.writeBytes .checksum data) next

/-- If the next turn is a write, no other task has its checksum still to write. -/
def WritesAlone {ι σ : Type} (cfg : Config ι Expansion uartSignature Empty σ fun _ => Unit) (i : ι) :
    Prop :=
  ∀ part data next, cfg.tasks i = .await (.writeBytes part data) next →
    ∀ j ≠ i, ¬ MidFrame (cfg.tasks j)

section Runs

variable {σ : Type} {E : Env uartSignature Empty σ} {output : σ → List UInt8}

/-- Running up to a suspension. -/
theorem Transmits.settle {α : Type} {pending : Option (List UInt8)} {c : Bridge α}
    (h : Transmits pending c) (s : Expansion) :
    Transmits pending (Coroutine.settle c s).rest := by
  induction c generalizing s with
  | ret _ | raise _ | await _ _ _ | acquire _ _ => exact h
  | act update next ih => exact ih s (h s) (update s)
  | release next ih => exact ih h.2 s

/-- A suspended task with a frame pending has its checksum to write. -/
theorem Transmits.midFrame {α : Type} {frame : List UInt8} {c : Bridge α}
    (h : Transmits (some frame) c) (suspended : Suspended c) :
    ∃ next, c = .await (.writeBytes .checksum [calcChecksum frame]) next ∧
      Transmits none (next (.ok (1 : ℤ))) := by
  cases c with
  | ret _ | raise _ => exact nomatch h
  | acquire _ => exact nomatch h.1
  | act _ _ | release _ => exact suspended.elim
  | await op next =>
      cases op with
      | writeBytes part data =>
          cases part with
          | frame => exact h.elim
          | checksum =>
              obtain ⟨rfl, later⟩ := h
              exact ⟨next, rfl, later⟩
      | _ => exact h.elim

variable {ι : Type} [DecidableEq ι]
  {cfg next : Config ι Expansion uartSignature Empty σ fun _ => Unit} {i : ι}

/-- Where the output of the UART stands. -/
inductive Framing (output : σ → List UInt8)
    (cfg : Config ι Expansion uartSignature Empty σ fun _ => Unit) : Prop
  | between (whole : WholeFrames (output cfg.world)) (tasks : ∀ i, Transmits none (cfg.tasks i))
  | midway (before frame : List UInt8) (i : ι) (whole : WholeFrames before) (pending : IsFrame frame)
      (written : output cfg.world = before ++ frame) (suspended : Suspended (cfg.tasks i))
      (own : Transmits (some frame) (cfg.tasks i)) (others : ∀ j ≠ i, Transmits none (cfg.tasks j))

/-- What a task between two frames does in a turn: it writes a frame, or nothing. -/
inductive FrameTurn (output : σ → List UInt8)
    (cfg next : Config ι Expansion uartSignature Empty σ fun _ => Unit) (i : ι) : Prop
  | silent (c : Bridge Unit) (transmits : Transmits none c)
      (tasks : next.tasks = Function.update cfg.tasks i c)
      (written : output next.world = output cfg.world)
  | wrote (c : Bridge Unit) (frame : List UInt8) (whole : IsFrame frame)
      (writing : ∃ k, cfg.tasks i = .await (.writeBytes .frame frame) k) (suspended : Suspended c)
      (transmits : Transmits (some frame) c) (tasks : next.tasks = Function.update cfg.tasks i c)
      (written : output next.world = output cfg.world ++ frame)

theorem frameTurn (appends : AppendsOutput E output) (transmits : Transmits none (cfg.tasks i))
    (taken : cfg.step E i = some next) : FrameTurn output cfg next i := by
  cases Config.turn taken with
  | ran c resumed tasks _ world =>
      have goes : Transmits none c := by
        rcases resumed with ⟨same, -⟩ | waited
        · exact same ▸ transmits
        · rw [waited] at transmits
          exact transmits.2
      exact .silent _ (goes.settle cfg.host) tasks (by rw [world])
  | answered op k awaits tasks _ world =>
      rw [awaits] at transmits
      cases op with
      | writeBytes part data =>
          obtain ⟨answer, written⟩ := appends.write part data cfg.world
          cases part with
          | frame =>
              refine .wrote _ data transmits.1 ⟨k, awaits⟩ (suspended_settle _ cfg.host) ?_ tasks
                (by rw [world, written])
              rw [answer]
              exact transmits.2.settle cfg.host
          | checksum => exact transmits.elim
      | _ =>
          refine .silent _ ?_ tasks (by rw [world, appends.other _ cfg.world rfl])
          exact (transmits _).settle cfg.host

theorem WholeFrames.concat {output frame : List UInt8} (h : WholeFrames output)
    (whole : IsFrame frame) : WholeFrames (output ++ sealed frame) := by
  obtain ⟨frames, all, rfl⟩ := h
  refine ⟨frames ++ [frame], ?_, ?_⟩
  · intro other member
    rcases List.mem_append.mp member with earlier | last
    · exact all other earlier
    · exact List.mem_singleton.mp last ▸ whole
  · rw [List.flatMap_append, List.flatMap_singleton]

/-- One turn. -/
theorem Framing.step (h : Framing output cfg) (appends : AppendsOutput E output)
    (alone : WritesAlone cfg i) (taken : cfg.step E i = some next) : Framing output next := by
  cases h with
  | between whole transmits =>
      cases frameTurn appends (transmits i) taken with
      | silent c goes tasks written =>
          apply Framing.between
          · rw [written]
            exact whole
          · intro j
            rw [tasks]
            by_cases own : j = i
            · subst own
              rw [Function.update_self]
              exact goes
            · rw [Function.update_of_ne own]
              exact transmits j
      | wrote c frame complete _ suspended goes tasks written =>
          apply Framing.midway (output cfg.world) frame i whole complete written
          · rw [tasks, Function.update_self]
            exact suspended
          · rw [tasks, Function.update_self]
            exact goes
          · intro j other
            rw [tasks, Function.update_of_ne other]
            exact transmits j
  | midway before frame owner whole pending written suspended own others =>
      obtain ⟨later, awaits, rest⟩ := own.midFrame suspended
      by_cases same : i = owner
      · subst same
        cases Config.turn taken with
        | ran c resumed _ _ _ =>
            rcases resumed with ⟨rfl, moving⟩ | waited
            · exact absurd suspended moving
            · exact nomatch awaits.symm.trans waited
        | answered op k awaits' tasks _ world =>
            rw [awaits] at awaits'
            obtain ⟨rfl, continued⟩ := Coro.await.inj awaits'
            obtain rfl := eq_of_heq continued
            obtain ⟨answer, appended⟩ :=
              appends.write .checksum [calcChecksum frame] cfg.world
            apply Framing.between
            · rw [world, appended, written, List.append_assoc]
              exact whole.concat pending
            · intro j
              rw [tasks]
              by_cases moved : j = i
              · subst moved
                rw [Function.update_self, answer]
                exact rest.settle cfg.host
              · rw [Function.update_of_ne moved]
                exact others j moved
      · cases frameTurn appends (others i same) taken with
        | silent c goes tasks written' =>
            apply Framing.midway before frame owner whole pending (written'.trans written)
            · rw [tasks, Function.update_of_ne (Ne.symm same)]
              exact suspended
            · rw [tasks, Function.update_of_ne (Ne.symm same)]
              exact own
            · intro j other
              rw [tasks]
              by_cases moved : j = i
              · subst moved
                rw [Function.update_self]
                exact goes
              · rw [Function.update_of_ne moved]
                exact others j other
        | wrote c frame' _ writing _ _ _ _ =>
            obtain ⟨k, writing⟩ := writing
            exact absurd ⟨_, _, awaits⟩ (alone _ _ k writing owner (Ne.symm same))

end Runs

/-- A UART that keeps what is written to it, and receives nothing. -/
def uartOutput : Env uartSignature Empty (List UInt8)
  | .writeBytes _ data, output => (.ok (data.length : ℤ), output ++ data)
  | .readBytes, output => (.ok ([] : List UInt8), output)
  | .setBaudrate _, output => (.ok true, output)
  | .waitTxDone _, output | .delay _, output | .rpcCallback _, output => (.ok (), output)

theorem uartOutput_appends : AppendsOutput uartOutput id where
  write _ _ _ := ⟨rfl, rfl⟩
  other op w none_ := by cases op <;> first | rfl | exact nomatch none_

/-- A session is active, and a heartbeat is due. -/
def heartbeatDue : Expansion where
  state := .rpcActive
  tick := 100

/-- The receive task, whose heartbeat is due, and a TCP client that sends a byte. -/
def heartbeatAndData : Bool → BridgeTask
  | true => .uartRx 1
  | false => .tcpRx [[7]]

end Bridge

end FlipperMcp
