import FlipperMcp.Coroutine.Interleaving
import Mathlib.Algebra.Ring.Nat
import Mathlib.Data.Int.Notation

/-! # The expansion module of the bridge

`expansion_module.c` of the TCP/UART bridge, and the tasks that call it. A task is a
coroutine over the static variables of the module. Every call of the UART driver and
every delay is a suspension, so the tasks interleave at least where the kernel can switch
between them. The driver and the TCP client are the environment; `s_mutex` is the
mutex.
-/

namespace FlipperMcp

open Coroutine

/-- `expansion_state_t`. -/
inductive ExpansionState
  | disconnected
  | awaitingHeartbeat
  | baudNegotiation
  | rpcStarting
  | rpcActive
  | error
  deriving DecidableEq

/-- The results of `esp_err_t` the module returns. -/
inductive EspErr
  | ok
  | fail
  | invalidState
  | invalidSize
  deriving DecidableEq

/-- Which `uart_write_bytes` of `send_frame`. -/
inductive FramePart
  | frame
  | checksum
  deriving DecidableEq

/-- What a task awaits. -/
inductive UartOp
  /-- `uart_read_bytes` into `buf`. -/
  | readBytes
  | writeBytes (part : FramePart) (data : List UInt8)
  | waitTxDone (milliseconds : ℕ)
  | setBaudrate (baud : UInt32)
  | delay (milliseconds : ℕ)
  /-- `s_rpc_callback`, which sends to the TCP client. -/
  | rpcCallback (data : List UInt8)
  deriving DecidableEq

/-- Whether it is a `uart_write_bytes`. -/
def UartOp.isWrite : UartOp → Bool
  | writeBytes _ _ => true
  | _ => false

/-- What each is answered with. -/
def UartOp.Res : UartOp → Type
  | readBytes => List UInt8
  | writeBytes _ _ => ℤ
  | setBaudrate _ => Bool
  | waitTxDone _ | delay _ | rpcCallback _ => Unit

abbrev uartSignature : Signature where
  Op := UartOp
  Res := UartOp.Res

/-- An access to `s_rx_buf`, or the subtraction of a frame size from its length. -/
inductive Access
  /-- `memcpy(s_rx_buf + offset, buf, length)`. -/
  | copy (offset length : ℕ)
  /-- `memmove(s_rx_buf, s_rx_buf + offset, length)`. -/
  | move (offset length : ℕ)
  /-- `length - size`. -/
  | subtract (length size : ℕ)
  deriving DecidableEq

/-- The static variables of the module. -/
structure Expansion where
  state : ExpansionState := .disconnected
  currentBaud : UInt32 := 9600
  rxBuf : ℕ → UInt8 := fun _ => 0
  rxLen : ℕ := 0
  lastRxTick : UInt32 := 0
  lastHeartbeat : UInt32 := 0
  /-- What `xTaskGetTickCount()` returns. -/
  tick : UInt32 := 0
  /-- The accesses to the receive buffer so far. -/
  accesses : List Access := []
  /-- The receive task is between `process_frame` and the end of the frame's removal. -/
  dispatching : Bool := false

/-- A task of the bridge. -/
abbrev Bridge (α : Type) := Coro Expansion uartSignature Empty α

namespace Bridge

/-- Await one operation. -/
def perform (op : UartOp) : Bridge op.Res := @Coro.perform Expansion uartSignature Empty op

def expFrameHeartbeat : UInt8 := 0x01
def expFrameStatus : UInt8 := 0x02
def expFrameBaudRate : UInt8 := 0x03
def expFrameControl : UInt8 := 0x04
def expFrameData : UInt8 := 0x05

def expStatusOk : UInt8 := 0x00
def expStatusErrorBaudRate : UInt8 := 0x02

def expControlStartRpc : UInt8 := 0x00
def expControlStopRpc : UInt8 := 0x01

def expBaudSwitchDeadMs : ℕ := 25
def expInitialBaud : UInt32 := 9600

/-- `CONFIG_BRIDGE_UART_BAUD_RATE`, at its default. -/
def expTargetBaud : UInt32 := 230400

def expDataMaxPayload : ℕ := 64

def rxBufSize : ℕ := 256

/-- `sizeof(buf)` of `uart_rx_task`. -/
def readSize : ℕ := 128

/-- `pdMS_TO_TICKS` at the default tick rate of 100 Hz. -/
def pdMsToTicks (milliseconds : UInt32) : UInt32 := milliseconds / 10

/-- `size_t` has 32 bits. -/
def sizeAdd (a b : ℕ) : ℕ := (a + b) % 2 ^ 32

def sizeSub (a b : ℕ) : ℕ := (a + 2 ^ 32 - b) % 2 ^ 32

/-! ## Sending -/

/-- `calc_checksum`. -/
def calcChecksum (data : List UInt8) : UInt8 := data.foldl (fun checksum byte => checksum ^^^ byte) 0

/-- `send_frame`. -/
def sendFrame (frame : List UInt8) : Bridge EspErr := do
  let (sent : ℤ) ← perform (.writeBytes .frame frame)
  if sent ≠ frame.length then pure .fail
  else do
    let (sent : ℤ) ← perform (.writeBytes .checksum [calcChecksum frame])
    if sent ≠ 1 then pure .fail
    else do
      perform (.waitTxDone 100)
      pure .ok

/-- `expansion_send_heartbeat`. -/
def expansionSendHeartbeat : Bridge EspErr := sendFrame [expFrameHeartbeat]

/-- `send_status`. -/
def sendStatus (statusCode : UInt8) : Bridge EspErr := sendFrame [expFrameStatus, statusCode]

/-- `send_baud_rate`. -/
def sendBaudRate (baud : UInt32) : Bridge EspErr :=
  sendFrame [expFrameBaudRate, baud.toUInt8, (baud >>> 8).toUInt8, (baud >>> 16).toUInt8,
    (baud >>> 24).toUInt8]

/-- `send_control`. -/
def sendControl (command : UInt8) : Bridge EspErr := sendFrame [expFrameControl, command]

/-- `send_data_frame`. -/
def sendDataFrame (data : List UInt8) : Bridge EspErr :=
  if expDataMaxPayload < data.length then pure .invalidSize
  else sendFrame (expFrameData :: UInt8.ofNat data.length :: data)

/-- The loop of `expansion_send_rpc`; a chunk takes a byte at least, so there are as many
passes as bytes. -/
def sendRpcLoop : ℕ → List UInt8 → Bridge EspErr
  | 0, _ => pure .ok
  | passes + 1, data =>
      if data = [] then pure .ok
      else do
        let err ← sendDataFrame (data.take expDataMaxPayload)
        if err ≠ .ok then pure err
        else if data.drop expDataMaxPayload = [] then pure .ok
        else do
          perform (.delay 10)
          sendRpcLoop passes (data.drop expDataMaxPayload)

/-- `expansion_send_rpc`. -/
def expansionSendRpc (data : List UInt8) : Bridge EspErr := do
  let s ← Coro.get
  if s.state ≠ .rpcActive then pure .invalidState else sendRpcLoop data.length data

/-! ## Receiving -/

/-- Set `s_state`. -/
def setState (state : ExpansionState) : Bridge Unit := Coro.modify fun s => { s with state := state }

/-- `set_baud_rate`. -/
def setBaudRate (baud : UInt32) : Bridge Unit := do
  let (accepted : Bool) ← perform (.setBaudrate baud)
  if accepted then Coro.modify fun s => { s with currentBaud := baud } else pure ()

/-- `get_frame_size`. -/
def getFrameSize (frameType : UInt8) (data : ℕ → UInt8) (available : ℕ) : ℤ :=
  if frameType = expFrameHeartbeat then 2
  else if frameType = expFrameStatus then 3
  else if frameType = expFrameBaudRate then 6
  else if frameType = expFrameControl then 3
  else if frameType = expFrameData then
    if 2 ≤ available then
      if expDataMaxPayload < (data 1).toNat then -2 else 2 + (data 1).toNat + 1
    else -1
  else -2

/-- Pass the payload of a DATA frame on. -/
def forwardPayload (frame : ℕ → UInt8) : Bridge Unit :=
  if 0 < (frame 1).toNat then
    perform (.rpcCallback ((List.range (frame 1).toNat).map fun i => frame (2 + i)))
  else pure ()

/-- The part of `process_frame` for each state, behind the checksum. -/
def dispatchFrame (frame : ℕ → UInt8) : ExpansionState → Bridge Unit
  | .awaitingHeartbeat =>
      if frame 0 = expFrameHeartbeat then do
        setState .baudNegotiation
        let _ ← sendBaudRate expTargetBaud
      else pure ()
  | .baudNegotiation =>
      if frame 0 = expFrameStatus then
        if frame 1 = expStatusOk then do
          perform (.delay expBaudSwitchDeadMs)
          setBaudRate expTargetBaud
          perform (.delay expBaudSwitchDeadMs)
          setState .rpcStarting
          let _ ← sendControl expControlStartRpc
        else if frame 1 = expStatusErrorBaudRate then do
          setState .rpcStarting
          let _ ← sendControl expControlStartRpc
        else setState .error
      else pure ()
  | .rpcStarting =>
      if frame 0 = expFrameStatus then
        if frame 1 = expStatusOk then setState .rpcActive else setState .error
      else pure ()
  | .rpcActive =>
      if frame 0 = expFrameData then do
        forwardPayload frame
        let _ ← sendStatus expStatusOk
      else if frame 0 = expFrameStatus then pure ()
      else if frame 0 = expFrameHeartbeat then do
        let _ ← expansionSendHeartbeat
      else pure ()
  | .disconnected | .error => pure ()

/-- `process_frame(s_rx_buf, len)`. -/
def processFrame (len : ℕ) : Bridge Unit :=
  if len < 2 then pure ()
  else do
    Coro.modify fun s => { s with lastRxTick := s.tick }
    let s ← Coro.get
    if calcChecksum ((List.range (len - 1)).map s.rxBuf) ≠ s.rxBuf (len - 1) then setState .error
    else dispatchFrame s.rxBuf s.state

/-- Append the bytes read to the receive buffer, as far as they fit. -/
def appendBytes (buf : List UInt8) (s : Expansion) : Expansion :=
  let toCopy := if rxBufSize < sizeAdd s.rxLen buf.length then sizeSub rxBufSize s.rxLen
    else buf.length
  { s with
    rxBuf := fun i =>
      if s.rxLen ≤ i ∧ i < s.rxLen + toCopy then buf.getD (i - s.rxLen) 0 else s.rxBuf i
    rxLen := sizeAdd s.rxLen toCopy
    accesses := s.accesses ++ [.copy s.rxLen toCopy] }

/-- `memmove(s_rx_buf, s_rx_buf + offset, length)`. -/
def moveBytes (offset length : ℕ) (s : Expansion) : Expansion :=
  { s with
    rxBuf := fun i => if i < length then s.rxBuf (offset + i) else s.rxBuf i
    accesses := s.accesses ++ [.move offset length] }

/-- Drop the byte in front: `memmove(s_rx_buf, s_rx_buf + 1, --s_rx_len)`. -/
def skipByte (s : Expansion) : Expansion :=
  moveBytes 1 (sizeSub s.rxLen 1) { s with
    rxLen := sizeSub s.rxLen 1
    accesses := s.accesses ++ [.subtract s.rxLen 1] }

/-- Remove the frame in front, by its size. -/
def removeFrame (frameSize : ℕ) (s : Expansion) : Expansion :=
  { moveBytes frameSize (sizeSub s.rxLen frameSize)
      { s with accesses := s.accesses ++ [.subtract s.rxLen frameSize] } with
    rxLen := sizeSub s.rxLen frameSize
    dispatching := false }

/-- The loop that extracts complete frames. Every pass removes a byte at least. -/
def extractFrames : ℕ → Bridge Unit
  | 0 => pure ()
  | passes + 1 => do
      let s ← Coro.get
      if s.rxLen = 0 then pure ()
      else
        let frameSize := getFrameSize (s.rxBuf 0) s.rxBuf s.rxLen
        if frameSize = -1 then pure ()
        else if frameSize = -2 then do
          Coro.modify skipByte
          extractFrames passes
        else if frameSize.toNat ≤ s.rxLen then do
          Coro.modify fun s => { s with dispatching := true }
          processFrame frameSize.toNat
          Coro.modify (removeFrame frameSize.toNat)
          extractFrames passes
        else pure ()

/-- The watchdog of the receive task. -/
def watchdog (s : Expansion) : Expansion :=
  if s.state ≠ .disconnected ∧ s.lastRxTick ≠ 0 ∧ pdMsToTicks 1500 < s.tick - s.lastRxTick then
    { s with state := .error, rxLen := 0, lastRxTick := s.tick }
  else s

/-- What the receive task makes of the bytes it has read. -/
def takeBytes (buf : List UInt8) : Bridge Unit :=
  if buf = [] then pure ()
  else do
    Coro.modify (appendBytes buf)
    extractFrames rxBufSize

/-- The periodic heartbeat of the receive task. -/
def sendDueHeartbeat : Bridge Unit := do
  let s ← Coro.get
  if s.state = .rpcActive ∧ pdMsToTicks 200 < s.tick - s.lastHeartbeat then do
    let _ ← expansionSendHeartbeat
    Coro.modify fun s' => { s' with lastHeartbeat := s.tick }
  else pure ()

/-- One pass of `uart_rx_task`. -/
def uartRxPass : Bridge Unit := do
  let (buf : List UInt8) ← perform .readBytes
  takeBytes (buf.take readSize)
  Coro.modify watchdog
  sendDueHeartbeat

/-- `uart_rx_task`, for as many passes as are looked at. -/
def uartRxTask : ℕ → Bridge Unit
  | 0 => pure ()
  | passes + 1 => do
      uartRxPass
      uartRxTask passes

/-! ## Connecting -/

/-- `signal_presence`. -/
def signalPresence : Bridge Unit := Coro.withLock do
  perform (.waitTxDone 50)
  perform (.delay 2)

/-- `expansion_connect`. -/
def expansionConnect : Bridge EspErr := do
  let s ← Coro.get
  if s.state ≠ .disconnected ∧ s.state ≠ .error then pure .invalidState
  else do
    setBaudRate expInitialBaud
    Coro.modify fun s => { s with
      rxLen := 0
      lastRxTick := s.tick
      state := .awaitingHeartbeat }
    signalPresence
    pure .ok

/-- End an active RPC session. -/
def stopRpc : Bridge Unit := do
  let s ← Coro.get
  if s.state = .rpcActive then do
    let _ ← sendControl expControlStopRpc
  else pure ()

/-- `expansion_disconnect`. -/
def expansionDisconnect : Bridge Unit := do
  stopRpc
  Coro.modify fun s => { s with state := .disconnected, rxLen := 0 }
  setBaudRate expInitialBaud

/-! ## The tasks that call the module -/

/-- The wait of `flipper_connect_task` for a connection attempt. -/
def awaitConnection : ℕ → Bridge Unit
  | 0 => pure ()
  | tries + 1 => do
      perform (.delay 100)
      let s ← Coro.get
      if s.state = .rpcActive ∨ s.state = .error then pure () else awaitConnection tries

/-- One pass of `flipper_connect_task`. -/
def flipperConnectPass : Bridge Unit := do
  let s ← Coro.get
  if s.state = .disconnected ∨ s.state = .error then do
    let _ ← expansionConnect
    awaitConnection 20
    let s ← Coro.get
    if s.state ≠ .rpcActive then do
      expansionDisconnect
      perform (.delay 3000)
    else pure ()
  else if s.state = .rpcActive then perform (.delay 1000)
  else perform (.delay 100)

/-- `flipper_connect_task`, for as many passes as are looked at. -/
def flipperConnectTask : ℕ → Bridge Unit
  | 0 => pure ()
  | passes + 1 => do
      flipperConnectPass
      flipperConnectTask passes

/-- `debug_reconnect_handler`. -/
def debugReconnectHandler : Bridge Unit := do
  expansionDisconnect
  let _ ← expansionConnect

/-- `on_tcp_rx`. -/
def onTcpRx (data : List UInt8) : Bridge Unit := do
  let s ← Coro.get
  if s.state = .rpcActive then do
    let _ ← expansionSendRpc data
  else pure ()

/-- A call of one of the senders. -/
inductive Transmission
  | heartbeat
  | status (code : UInt8)
  | control (command : UInt8)
  | baudRate (baud : UInt32)
  | sendRpc (data : List UInt8)

/-- Such a call. -/
def Transmission.send : Transmission → Bridge Unit
  | heartbeat => do
      let _ ← expansionSendHeartbeat
  | status code => do
      let _ ← sendStatus code
  | control command => do
      let _ ← sendControl command
  | baudRate baud => do
      let _ ← sendBaudRate baud
  | sendRpc data => do
      let _ ← expansionSendRpc data

/-- Calls one after another, with a pause before each. -/
def transmit : List Transmission → Bridge Unit
  | [] => pure ()
  | transmission :: transmissions => do
      perform (.delay 0)
      transmission.send
      transmit transmissions

/-- The system clock. -/
def clock : List UInt32 → Bridge Unit
  | [] => pure ()
  | tick :: ticks => do
      perform (.delay 1)
      Coro.modify fun s => { s with tick := tick }
      clock ticks

end Bridge

open Bridge in
/-- What the tasks of the bridge run. -/
inductive BridgeTask
  | uartRx (passes : ℕ)
  | flipperConnect (passes : ℕ)
  | reconnectHandler
  | tcpRx (data : List (List UInt8))
  | sender (transmissions : List Transmission)
  | clock (ticks : List UInt32)

namespace BridgeTask

open Bridge

/-- The receive task of a TCP client, from one `recv` to the next. -/
def tcpRxTask : List (List UInt8) → Bridge Unit
  | [] => pure ()
  | data :: later => do
      perform (.delay 0)
      onTcpRx data
      tcpRxTask later

/-- The program of a task. -/
def program : BridgeTask → Bridge Unit
  | uartRx passes => uartRxTask passes
  | flipperConnect passes => flipperConnectTask passes
  | reconnectHandler => debugReconnectHandler
  | tcpRx data => tcpRxTask data
  | sender transmissions => transmit transmissions
  | clock ticks => Bridge.clock ticks

/-- It neither receives nor connects nor disconnects. -/
def KeepsConnection : BridgeTask → Prop
  | tcpRx _ | sender _ | clock _ => True
  | uartRx _ | flipperConnect _ | reconnectHandler => False

end BridgeTask

end FlipperMcp
