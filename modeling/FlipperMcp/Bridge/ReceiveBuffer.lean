import FlipperMcp.Bridge.Expansion
import FlipperMcp.Coroutine.Rely

/-! # The receive buffer of the bridge

The receive task keeps the size of a frame while it dispatches it, and other tasks reset
`s_rx_len`. As long as nobody resets it during a dispatch, the length stays within the buffer,
the subtraction of the size does not wrap, and every copy stays inside the 256 bytes
(`rxBuffer_bounds`).
-/

namespace FlipperMcp

open Coroutine

/-- The access is inside the buffer, or the subtraction does not wrap. -/
def Access.InBounds : Access → Prop
  | copy offset length | move offset length => offset + length ≤ Bridge.rxBufSize
  | subtract length size => size ≤ length

/-- Whether it is a `uart_read_bytes`. -/
def UartOp.isRead : UartOp → Bool
  | readBytes => true
  | _ => false

/-- The bytes passed to `s_rpc_callback`. -/
def UartOp.passed? : UartOp → Option (List UInt8)
  | rpcCallback data => some data
  | _ => none

instance : DecidablePred Access.InBounds
  | .copy _ _ | .move _ _ | .subtract _ _ => inferInstanceAs (Decidable (_ ≤ _))

namespace Bridge

/-- The receive buffer is in order. -/
structure Bounded (s : Expansion) : Prop where
  length : s.rxLen ≤ rxBufSize
  accesses : ∀ access ∈ s.accesses, access.InBounds

/-- Between two frames. -/
structure Idle (s : Expansion) : Prop extends Bounded s where
  idle : s.dispatching = false

/-- The receive buffer is left alone. -/
structure SameBuffer (s s' : Expansion) : Prop where
  length : s'.rxLen = s.rxLen
  accesses : s'.accesses = s.accesses
  dispatching : s'.dispatching = s.dispatching

/-- The receive buffer is left alone, or emptied. -/
structure Resets (s s' : Expansion) : Prop where
  length : s'.rxLen = s.rxLen ∨ s'.rxLen = 0
  accesses : s'.accesses = s.accesses
  dispatching : s'.dispatching = s.dispatching

/-- What the receive task relies on: it is not emptied during a dispatch. -/
structure Relied (s s' : Expansion) : Prop extends Resets s s' where
  kept : s.dispatching = true → s'.rxLen = s.rxLen

theorem SameBuffer.resets {s s' : Expansion} (h : SameBuffer s s') : Resets s s' :=
  ⟨.inl h.length, h.accesses, h.dispatching⟩

theorem Resets.refl (s : Expansion) : Resets s s := ⟨.inl rfl, rfl, rfl⟩

theorem Resets.trans {a b c : Expansion} (first : Resets a b) (second : Resets b c) :
    Resets a c := by
  refine ⟨?_, second.accesses.trans first.accesses, second.dispatching.trans first.dispatching⟩
  rcases second.length with same | empty
  · rw [same]
    exact first.length
  · exact .inr empty

theorem Relied.refl (s : Expansion) : Relied s s := ⟨.refl s, fun _ => rfl⟩

theorem Relied.trans {a b c : Expansion} (first : Relied a b) (second : Relied b c) :
    Relied a c := by
  refine ⟨first.toResets.trans second.toResets, fun dispatching => ?_⟩
  rw [second.kept (first.dispatching.trans dispatching), first.kept dispatching]

theorem Bounded.resets {s s' : Expansion} (h : Bounded s) (reset : Resets s s') : Bounded s' := by
  constructor
  · rcases reset.length with same | empty
    · rw [same]
      exact h.length
    · rw [empty]
      exact Nat.zero_le _
  · rw [reset.accesses]
    exact h.accesses

theorem Idle.resets {s s' : Expansion} (h : Idle s) (reset : Resets s s') : Idle s' :=
  ⟨h.toBounded.resets reset, reset.dispatching.trans h.idle⟩

section Updates

/-- The receive buffer and the clock are left alone. -/
structure Beside (s s' : Expansion) : Prop where
  bytes : s'.rxBuf = s.rxBuf
  length : s'.rxLen = s.rxLen
  accesses : s'.accesses = s.accesses
  dispatching : s'.dispatching = s.dispatching
  tick : s'.tick = s.tick

theorem Beside.trans {a b c : Expansion} (first : Beside a b) (second : Beside b c) : Beside a c :=
  ⟨second.bytes.trans first.bytes, second.length.trans first.length,
    second.accesses.trans first.accesses, second.dispatching.trans first.dispatching,
    second.tick.trans first.tick⟩

theorem Beside.refl (s : Expansion) : Beside s s := ⟨rfl, rfl, rfl, rfl, rfl⟩

/-- It reads nothing from the UART, and what it changes is beside the receive buffer. -/
abbrev Aside {α : Type} (c : Bridge α) : Prop := Within (fun (op : UartOp) => op.isRead = false) Beside c

theorem aside_get : Aside (Coro.get : Bridge Expansion) := Within.get Beside.refl

theorem aside_perform {op : UartOp} (other : op.isRead = false) : Aside (Bridge.perform op) :=
  @Within.perform Expansion uartSignature Empty _ Beside op other

/-- It only writes and waits. -/
abbrev Sends {α : Type} (c : Bridge α) : Prop :=
  Within (fun op : UartOp => op.isRead = false ∧ op.passed? = none) (fun s s' => s' = s) c

theorem sends_get : Sends (Coro.get : Bridge Expansion) := Within.get fun _ => rfl

theorem sends_perform {op : UartOp} (unread : op.isRead = false) (unpassed : op.passed? = none) :
    Sends (Bridge.perform op) :=
  @Within.perform Expansion uartSignature Empty _ _ op ⟨unread, unpassed⟩

theorem sends_sendFrame (frame : List UInt8) : Sends (sendFrame frame) := by
  apply (sends_perform rfl rfl).bind
  intro (sent : ℤ)
  apply Within.ite (.pure _)
  apply (sends_perform rfl rfl).bind
  intro (sent : ℤ)
  exact .ite (.pure _) ((sends_perform rfl rfl).bind fun _ => .pure _)

theorem sends_expansionSendRpc (data : List UInt8) : Sends (expansionSendRpc data) := by
  have chunk : ∀ data, Sends (sendDataFrame data) := fun _ =>
    .ite (.pure _) (sends_sendFrame _)
  have loop : ∀ passes data, Sends (sendRpcLoop passes data) := by
    intro passes
    induction passes with
    | zero => exact fun data => .pure _
    | succ passes ih =>
        exact fun data => .ite (.pure _) ((chunk _).bind fun _ => .ite (.pure _)
          (.ite (.pure _) ((sends_perform rfl rfl).bind fun _ => ih _)))
  exact sends_get.bind fun _ => .ite (.pure _) (loop _ _)

theorem sends_send (transmission : Transmission) : Sends transmission.send := by
  cases transmission with
  | sendRpc data => exact (sends_expansionSendRpc data).bind fun _ => .pure ()
  | _ => exact (sends_sendFrame _).bind fun _ => .pure ()

theorem Sends.aside {α : Type} {c : Bridge α} (h : Sends c) : Aside c :=
  Within.mono h (fun _ allowed => allowed.1) fun _ _ same => same ▸ Beside.refl _

theorem aside_sendFrame (frame : List UInt8) : Aside (sendFrame frame) := (sends_sendFrame frame).aside

theorem aside_setState (state : ExpansionState) : Aside (setState state) :=
  Within.modify fun _ => ⟨rfl, rfl, rfl, rfl, rfl⟩

theorem aside_setBaudRate (baud : UInt32) : Aside (setBaudRate baud) := by
  apply (aside_perform rfl).bind
  intro (accepted : Bool)
  exact .ite (Within.modify fun _ => ⟨rfl, rfl, rfl, rfl, rfl⟩) (.pure ())

theorem aside_dispatchFrame (frame : ℕ → UInt8) (state : ExpansionState) :
    Aside (dispatchFrame frame state) := by
  have sends : ∀ frame, Aside (do
      let _ ← sendFrame frame) := fun frame => (aside_sendFrame frame).bind fun _ => .pure ()
  have start : Aside (do
      setState .rpcStarting
      let _ ← sendControl expControlStartRpc) := (aside_setState _).bind fun _ => sends _
  cases state with
  | disconnected | error => exact .pure ()
  | awaitingHeartbeat => exact .ite ((aside_setState _).bind fun _ => sends _) (.pure ())
  | baudNegotiation =>
      have switched : Aside (do
          Bridge.perform (.delay expBaudSwitchDeadMs)
          setBaudRate expTargetBaud
          Bridge.perform (.delay expBaudSwitchDeadMs)
          setState .rpcStarting
          let _ ← sendControl expControlStartRpc) :=
        (aside_perform rfl).bind fun _ => (aside_setBaudRate _).bind fun _ =>
          (aside_perform rfl).bind fun _ => start
      exact .ite (.ite switched (.ite start (aside_setState _))) (.pure ())
  | rpcStarting => exact .ite (.ite (aside_setState _) (aside_setState _)) (.pure ())
  | rpcActive =>
      have forward : Aside (forwardPayload frame) := .ite (aside_perform rfl) (.pure ())
      exact .ite (forward.bind fun _ => sends _) (.ite (.pure ()) (.ite (sends _) (.pure ())))

/-- Dispatching a frame leaves the receive buffer to the task. -/
theorem aside_processFrame (len : ℕ) : Aside (processFrame len) :=
  .ite (.pure ()) (Within.bind (Within.modify fun _ => ⟨rfl, rfl, rfl, rfl, rfl⟩) fun _ =>
    aside_get.bind fun _ => .ite (aside_setState _) (aside_dispatchFrame _ _))

theorem aside_sendDueHeartbeat : Aside sendDueHeartbeat :=
  aside_get.bind fun _ => .ite ((aside_sendFrame _).bind fun _ =>
    Within.modify fun _ => ⟨rfl, rfl, rfl, rfl, rfl⟩) (.pure ())

/-- The receive buffer is left alone. -/
abbrev LeavesBuffer {α : Type} (c : Bridge α) : Prop := Updates SameBuffer c

theorem Aside.leaves {α : Type} {c : Bridge α} (h : Aside c) : LeavesBuffer c :=
  h.updates.mono fun _ _ beside => ⟨beside.length, beside.accesses, beside.dispatching⟩

/-- Nothing but the clock moves. -/
def Ticks (s s' : Expansion) : Prop := ∃ tick, s' = { s with tick := tick }

theorem Ticks.resets {s s' : Expansion} (h : Ticks s s') : Resets s s' := by
  obtain ⟨tick, rfl⟩ := h
  exact ⟨.inl rfl, rfl, rfl⟩

theorem Sends.ticks {α : Type} {c : Bridge α} (h : Sends c) : Updates Ticks c :=
  h.updates.mono fun s _ same => ⟨s.tick, same⟩

/-- What it changes may empty the receive buffer. -/
abbrev ResetsBuffer {α : Type} (c : Bridge α) : Prop := Updates Resets c

theorem LeavesBuffer.resets {α : Type} {c : Bridge α} (h : LeavesBuffer c) : ResetsBuffer c :=
  Updates.mono h fun _ _ same => same.resets

theorem Aside.resets {α : Type} {c : Bridge α} (h : Aside c) : ResetsBuffer c := h.leaves.resets

theorem resetsBuffer_get : ResetsBuffer (Coro.get : Bridge Expansion) := aside_get.resets

theorem resetsBuffer_perform (op : UartOp) : ResetsBuffer (Bridge.perform op) :=
  @Updates.perform Expansion uartSignature Empty Resets op

theorem resetsBuffer_expansionConnect : ResetsBuffer expansionConnect := by
  have signalled : ResetsBuffer signalPresence :=
    ((resetsBuffer_perform _).bind fun _ => resetsBuffer_perform _).withLock
  have reset : ResetsBuffer (Coro.modify fun s => { s with
      rxLen := 0
      lastRxTick := s.tick
      state := .awaitingHeartbeat }) := Updates.modify fun _ => ⟨.inr rfl, rfl, rfl⟩
  exact resetsBuffer_get.bind fun _ => .ite (.pure _) ((aside_setBaudRate _).resets.bind
    fun _ => reset.bind fun _ => signalled.bind fun _ => .pure _)

theorem resetsBuffer_expansionDisconnect : ResetsBuffer expansionDisconnect := by
  have stopped : Aside stopRpc := aside_get.bind fun _ =>
    .ite ((aside_sendFrame _).bind fun _ => .pure ()) (.pure ())
  have reset : ResetsBuffer (Coro.modify fun s => { s with state := .disconnected, rxLen := 0 }) :=
    Updates.modify fun _ => ⟨.inr rfl, rfl, rfl⟩
  exact stopped.resets.bind fun _ => reset.bind fun _ => (aside_setBaudRate _).resets

theorem resetsBuffer_flipperConnectPass : ResetsBuffer flipperConnectPass := by
  have awaited : ∀ tries, ResetsBuffer (awaitConnection tries) := by
    intro tries
    induction tries with
    | zero => exact .pure ()
    | succ tries ih =>
        exact (resetsBuffer_perform _).bind fun _ => resetsBuffer_get.bind fun _ => .ite (.pure ()) ih
  have abandoned : ResetsBuffer (do
      expansionDisconnect
      Bridge.perform (.delay 3000)) :=
    resetsBuffer_expansionDisconnect.bind fun _ => resetsBuffer_perform _
  have attempt : ResetsBuffer (do
      let _ ← expansionConnect
      awaitConnection 20
      let s ← Coro.get
      if s.state ≠ .rpcActive then do
        expansionDisconnect
        Bridge.perform (.delay 3000)
      else pure ()) :=
    resetsBuffer_expansionConnect.bind fun _ => (awaited 20).bind fun _ =>
      resetsBuffer_get.bind fun _ => .ite abandoned (.pure ())
  exact resetsBuffer_get.bind fun _ =>
    .ite attempt (.ite (resetsBuffer_perform _) (resetsBuffer_perform _))

/-- Sending and the clock change nothing but the tick count. -/
theorem ticks_program (task : BridgeTask) (other : task.KeepsConnection) :
    Updates Ticks task.program := by
  cases task with
  | uartRx _ | flipperConnect _ | reconnectHandler => exact other.elim
  | tcpRx data =>
      induction data with
      | nil => exact .pure ()
      | cons data later ih =>
          have forwarded : Sends (onTcpRx data) := sends_get.bind fun _ =>
            .ite ((sends_expansionSendRpc _).bind fun _ => .pure ()) (.pure ())
          exact (Updates.perform _).bind fun _ => forwarded.ticks.bind fun _ => ih trivial
  | sender transmissions =>
      induction transmissions with
      | nil => exact .pure ()
      | cons transmission later ih =>
          exact (Updates.perform _).bind fun _ => (sends_send transmission).ticks.bind fun _ =>
            ih trivial
  | clock ticks =>
      induction ticks with
      | nil => exact .pure ()
      | cons tick ticks ih =>
          exact (Updates.perform _).bind fun _ =>
            (Updates.modify fun _ => ⟨tick, rfl⟩).bind fun _ => ih trivial

/-- Every task but the receive task leaves the receive buffer alone or empties it. -/
theorem resetsBuffer_program {task : BridgeTask} (other : ∀ passes, task ≠ .uartRx passes) :
    ResetsBuffer task.program := by
  cases task with
  | uartRx passes => exact absurd rfl (other passes)
  | flipperConnect passes =>
      induction passes with
      | zero => exact .pure ()
      | succ passes ih => exact resetsBuffer_flipperConnectPass.bind fun _ => ih nofun
  | reconnectHandler =>
      exact resetsBuffer_expansionDisconnect.bind fun _ =>
        resetsBuffer_expansionConnect.bind fun _ => .pure ()
  | tcpRx _ | sender _ | clock _ =>
      exact (ticks_program _ (by trivial)).mono fun _ _ ticks => ticks.resets

end Updates

section Buffer

variable {s : Expansion}

theorem sizeSub_eq {length size : ℕ} (bounded : length ≤ rxBufSize) (fits : size ≤ length) :
    sizeSub length size = length - size := by
  unfold sizeSub
  unfold rxBufSize at bounded
  omega

theorem Bounded.access (h : Bounded s) (access : Access) (inside : access.InBounds)
    {s' : Expansion} (length : s'.rxLen ≤ rxBufSize) (logged : s'.accesses = s.accesses ++ [access]) :
    Bounded s' := by
  refine ⟨length, ?_⟩
  rw [logged]
  intro other member
  rcases List.mem_append.mp member with earlier | last
  · exact h.accesses other earlier
  · exact List.mem_singleton.mp last ▸ inside

/-- Appending what was read stays inside the buffer. -/
theorem Idle.appendBytes (h : Idle s) {buf : List UInt8} (read : buf.length ≤ readSize) :
    Idle (appendBytes buf s) := by
  have length := h.length
  have sum : sizeAdd s.rxLen buf.length = s.rxLen + buf.length := by
    unfold sizeAdd
    unfold rxBufSize at length
    unfold readSize at read
    omega
  have fits : s.rxLen + (if rxBufSize < sizeAdd s.rxLen buf.length then sizeSub rxBufSize s.rxLen
      else buf.length) ≤ rxBufSize := by
    rw [sum]
    by_cases beyond : rxBufSize < s.rxLen + buf.length
    · rw [if_pos beyond, sizeSub_eq (Nat.le_refl _) length]
      omega
    · rw [if_neg beyond]
      exact Nat.le_of_not_lt beyond
  refine ⟨h.access (.copy _ _) fits ?_ rfl, h.idle⟩
  exact Nat.le_trans (Nat.mod_le _ _) fits

/-- Moving what is inside the buffer. -/
theorem Bounded.moveBytes (h : Bounded s) {offset length : ℕ} (inside : offset + length ≤ rxBufSize) :
    Bounded (moveBytes offset length s) :=
  h.access (.move offset length) inside h.length rfl

theorem dispatching_skipByte (s : Expansion) : (skipByte s).dispatching = s.dispatching := by
  unfold skipByte moveBytes
  rfl

/-- Dropping a byte that is there. -/
theorem Idle.skipByte (h : Idle s) (present : s.rxLen ≠ 0) : Idle (skipByte s) := by
  have length := h.length
  have positive : 1 ≤ s.rxLen := Nat.one_le_iff_ne_zero.mpr present
  have less : sizeSub s.rxLen 1 = s.rxLen - 1 := sizeSub_eq length positive
  have within : sizeSub s.rxLen 1 ≤ rxBufSize := by
    rw [less]
    exact Nat.le_trans (Nat.sub_le _ _) length
  have inside : 1 + sizeSub s.rxLen 1 ≤ rxBufSize := by
    rw [less, Nat.add_sub_cancel' positive]
    exact length
  have subtracted : Bounded { s with
      rxLen := sizeSub s.rxLen 1
      accesses := s.accesses ++ [.subtract s.rxLen 1] } :=
    h.access (.subtract s.rxLen 1) positive within rfl
  exact ⟨subtracted.moveBytes inside, (dispatching_skipByte s).trans h.idle⟩

/-- Removing a frame that is still there. -/
theorem Bounded.removeFrame (h : Bounded s) {size : ℕ} (fits : size ≤ s.rxLen) :
    Idle (removeFrame size s) := by
  have length := h.length
  have less : sizeSub s.rxLen size = s.rxLen - size := sizeSub_eq length fits
  have within : sizeSub s.rxLen size ≤ rxBufSize := by
    rw [less]
    exact Nat.le_trans (Nat.sub_le _ _) length
  have inside : size + sizeSub s.rxLen size ≤ rxBufSize := by
    rw [less, Nat.add_sub_cancel' fits]
    exact length
  have subtracted : Bounded { s with accesses := s.accesses ++ [.subtract s.rxLen size] } :=
    h.access (.subtract s.rxLen size) fits length rfl
  have moved := subtracted.moveBytes inside
  exact ⟨⟨within, moved.accesses⟩, rfl⟩

theorem Idle.watchdog (h : Idle s) : Idle (watchdog s) := by
  unfold Bridge.watchdog
  by_cases silent : s.state ≠ .disconnected ∧ s.lastRxTick ≠ 0 ∧
      pdMsToTicks 1500 < s.tick - s.lastRxTick
  · rw [if_pos silent]
    exact ⟨⟨Nat.zero_le _, h.accesses⟩, h.idle⟩
  · rw [if_neg silent]
    exact h

end Buffer

section Receiving

variable {s : Expansion}

/-- It runs without leaving the buffer, as long as no dispatch is disturbed, and ends between
two frames. -/
abbrev Receives (c : Bridge Unit) (s : Expansion) : Prop :=
  Secure Relied Bounded c (fun _ => Idle) s

/-- A frame is being dispatched, and the receive buffer still has `kept` bytes. -/
structure Dispatching (kept : ℕ) (s : Expansion) : Prop extends Bounded s where
  dispatching : s.dispatching = true
  same : s.rxLen = kept

theorem Dispatching.sameBuffer {kept : ℕ} {s s' : Expansion} (h : Dispatching kept s)
    (same : SameBuffer s s') : Dispatching kept s' :=
  ⟨h.toBounded.resets same.resets, same.dispatching.trans h.dispatching, same.length.trans h.same⟩

theorem Dispatching.relied {kept : ℕ} {s s' : Expansion} (h : Dispatching kept s)
    (relied : Relied s s') : Dispatching kept s' :=
  h.sameBuffer ⟨relied.kept h.dispatching, relied.accesses, relied.toResets.dispatching⟩

/-- What leaves the buffer alone runs between two frames. -/
theorem LeavesBuffer.receives {c : Bridge Unit} (h : LeavesBuffer c) (idle : Idle s) : Receives c s :=
  Secure.of_updates h (fun _ _ same idle => idle.resets same.resets)
    (fun _ _ relied idle => idle.resets relied.toResets) (fun _ idle => idle.toBounded) idle

/-- **The loop that extracts frames.** -/
theorem receives_extractFrames (passes : ℕ) (idle : Idle s) : Receives (extractFrames passes) s := by
  induction passes generalizing s with
  | zero => exact idle
  | succ passes ih =>
      apply Secure.get_bind idle.toBounded
      apply Secure.ite
      · exact fun _ => idle
      · intro present
        apply Secure.ite
        · exact fun _ => idle
        · intro _
          apply Secure.ite
          · intro _
            have skipped := idle.skipByte present
            exact (Secure.modify skipped.toBounded skipped).bind fun _ _ idle => ih idle
          · intro _
            apply Secure.ite
            · intro fits
              have started : Dispatching s.rxLen { s with dispatching := true } :=
                ⟨⟨idle.length, idle.accesses⟩, rfl, rfl⟩
              have start : Secure Relied Bounded
                  (Coro.modify fun s => { s with dispatching := true } : Bridge Unit)
                  (fun _ => Dispatching s.rxLen) s := Secure.modify started.toBounded started
              apply start.bind
              intro _ s₁ dispatching
              apply (Secure.of_updates (aside_processFrame _).leaves
                (fun _ _ same h => Dispatching.sameBuffer h same)
                (fun _ _ relied h => Dispatching.relied h relied)
                (fun _ h => h.toBounded) dispatching).bind
              intro _ s₂ dispatched
              have removed := dispatched.toBounded.removeFrame
                (Nat.le_trans fits (Nat.le_of_eq dispatched.same.symm))
              exact (Secure.modify removed.toBounded removed).bind fun _ _ idle => ih idle
            · exact fun _ => idle

theorem receives_takeBytes {buf : List UInt8} (read : buf.length ≤ readSize) (idle : Idle s) :
    Receives (takeBytes buf) s := by
  apply Secure.ite
  · exact fun _ => idle
  · intro _
    have appended := idle.appendBytes read
    exact (Secure.modify appended.toBounded appended).bind fun _ _ idle =>
      receives_extractFrames rxBufSize idle

/-- One pass of the receive task. -/
theorem receives_uartRxPass (idle : Idle s) : Receives uartRxPass s := by
  have read : Secure Relied Bounded (Bridge.perform .readBytes) (fun _ => Idle) s :=
    Secure.perform fun _ _ relied => idle.resets relied.toResets
  apply read.bind
  intro (buf : List UInt8) s₁ idle
  apply (receives_takeBytes (List.length_take_le ..) idle).bind
  intro _ s₂ idle
  have watched : Receives (Coro.modify watchdog) s₂ :=
    Secure.modify idle.watchdog.toBounded idle.watchdog
  exact watched.bind fun _ _ idle => aside_sendDueHeartbeat.leaves.receives idle

/-- **The receive task.** -/
theorem receives_uartRxTask (passes : ℕ) (idle : Idle s) : Receives (uartRxTask passes) s := by
  induction passes generalizing s with
  | zero => exact idle
  | succ passes ih => exact (receives_uartRxPass idle).bind fun _ _ idle => ih idle

end Receiving

section Runs

variable {ι σ : Type} [DecidableEq ι]

/-- The turn of another task than the receive task `rx` does not empty the receive buffer while
a frame is dispatched. -/
def Undisturbed (E : Env uartSignature Empty σ) (rx : ι)
    (cfg : Config ι Expansion uartSignature Empty σ fun _ => Unit) (i : ι) : Prop :=
  i ≠ rx → cfg.host.dispatching = true →
    ∀ next, cfg.step E i = some next → next.host.rxLen = cfg.host.rxLen

end Runs

/-- A UART on which heartbeats arrive in pairs. -/
def heartbeats : Env uartSignature Empty Unit
  | .readBytes, _ => (.ok [1, 1, 1, 1], ())
  | .writeBytes _ data, _ => (.ok (data.length : ℤ), ())
  | .setBaudrate _, _ => (.ok true, ())
  | .waitTxDone _, _ | .delay _, _ | .rpcCallback _, _ => (.ok (), ())

/-- The receive task, the connect task and the HTTP handler that reconnects. -/
def receiveAndReconnect : Option Bool → BridgeTask
  | none => .uartRx 1
  | some true => .flipperConnect 1
  | some false => .reconnectHandler

end Bridge

end FlipperMcp
