import FlipperMcp.Python.Text
import FlipperMcp.Rpc.Framing

/-! # The RPC session

How `ProtobufRPC` brings the device into RPC mode, leaves it again, and sends one
request. `_ensure_rpc_session_started` has four exits: the session is up already,
a recent failure is still cooling down, the transport is the WiFi bridge, or the
negotiation ran and either set the session flag or noted its failure. Its callers
cannot tell them apart.
-/

namespace FlipperMcp

open Coroutine

/-- `"wifi" in transport_name.lower() or hasattr(self.transport, "host")`. -/
def TransportFacts.isWifiTransport (transport : TransportFacts) : Bool :=
  Python.contains "wifi" (Python.lower transport.name) || transport.hasHost

/-- `force_start`, read from the environment. -/
def Host.forceStart (s : Host) : Bool :=
  Python.lower s.forceStartRpcSession ∈ ["1", "true", "yes", "on"]

/-- An own request of an RPC method is written. -/
def LinkOp.IsRequest : LinkOp → Prop
  | send .request _ => True
  | _ => False

instance LinkOp.decidableIsRequest : DecidablePred LinkOp.IsRequest
  | send origin _ => decidable_of_iff (origin = .request) (by cases origin <;> simp [IsRequest])
  | connect | disconnect | isConnected | receive _ | sleep _ | monotonic | deadline _
  | patience | startTimeout _ | stopTimeout => isFalse id

theorem LinkOp.not_isRequest_of_isRead {op : LinkOp} (read : op.IsRead) : ¬ op.IsRequest := by
  cases op with
  | send _ _ => exact read.elim
  | _ => exact id

namespace ProtobufRPC

/-- `_NEGOTIATION_COOLDOWN_SECONDS`. -/
def negotiationCooldownSeconds : Time := 5

/-- `_get_next_command_id()`. -/
def getNextCommandId (self : Handle) : Link UInt32 := do
  Coro.modify (Host.updateRpc self fun rpc =>
    { rpc with commandId := (rpc.commandId + 1) % 0xFFFFFFFF })
  let s ← Coro.get
  pure (UInt32.ofNat (s.objects self).commandId)

/-- Set `_rpc_session_started`. -/
def setSessionStarted (self : Handle) (started : Bool) : Link Unit :=
  Coro.modify (Host.updateRpc self fun rpc => { rpc with rpcSessionStarted := started })

/-- The loop of `_drain_host_rx`. -/
def drainHostRxLoop : ℕ → Link Unit
  | 0 => pure ()
  | passes + 1 => do
      let chunk ← Link.receive (.seconds (1 / 20))
      if chunk = [] then do
        Link.sleep (1 / 100)
        drainHostRxLoop passes
      else drainHostRxLoop passes

/-- `_drain_host_rx(max_seconds)`, and the nested `drain_host_rx` like it. -/
def drainHostRx (maxSeconds : Time) : Link Unit :=
  Link.orElse (do
    let passes ← Link.deadline maxSeconds
    drainHostRxLoop passes) (pure ())

/-- The frame of a message, as it is sent. -/
def framed (msg : Main) : Bytes := delimited msg.serializeToString

/-- A message is known from its bytes. -/
theorem serializeToString_inj {msg msg' : Main}
    (same : msg.serializeToString = msg'.serializeToString) : msg = msg' := by
  have parsed := Protobuf.wire.parse_serialize msg
  rw [same, Protobuf.wire.parse_serialize msg'] at parsed
  exact (Option.some.inj parsed).symm

/-- A message is known from its frame. -/
theorem framed_inj {msg msg' : Main} (same : framed msg = framed msg') : msg = msg' := by
  unfold framed at same
  rw [delimited_eq, delimited_eq] at same
  have appended : Base128.frame msg.serializeToString ++ [] =
      Base128.frame msg'.serializeToString ++ [] := congrArg (· ++ []) same
  exact serializeToString_inj (Base128.frame_append_inj appended).1

/-- The message of `send_stop_session`. -/
def stopSession : Main := { content := .stopSession }

/-- `send_stop_session()`. -/
def sendStopSession (self : Handle) : Link Unit := do
  Link.send .stopSession (framed stopSession)
  drainHostRx (2 / 5)
  setSessionStarted self false

/-- `b"mcp"`. -/
def probeData : Bytes := [0x6D, 0x63, 0x70]

/-- The ping of `probe_rpc`. -/
def probe : Main := { commandId := 1, hasNext := false, content := .systemPingRequest probeData }

/-- Whether a message answers the ping of `probe_rpc`. -/
def answersProbe (msg : Main) : Bool := msg.content = .systemPingResponse probeData

/-- `probe_rpc(timeout)`. -/
def probeRpc (pb : Protobuf) (timeout : Time) : Link Bool :=
  Link.orElse (do
    FlipperTransport.clearReceiveBuffer
    drainHostRx (1 / 5)
    Link.send .probe (framed probe)
    let msg ← receiveMainMessage pb timeout
    pure (msg.any answersProbe)) (do
    drainHostRx (1 / 2)
    pure false)

/-- `b"\x03\r"`. -/
def interrupt : Bytes := [0x03, 0x0D]

/-- `b"start_rpc_session\r"`. -/
def startRpcSession : Bytes := encodeText "start_rpc_session\r"

/-- `start_session_attempt()`. -/
def startSessionAttempt (pb : Protobuf) : Link Bool := do
  Link.orElse (do
    Link.send .startSession interrupt
    Link.send .startSession startRpcSession) (pure ())
  drainHostRx (2 / 5)
  FlipperTransport.clearReceiveBuffer
  Link.sleep (1 / 5)
  probeRpc pb (6 / 5)

/-- Attempts until one succeeds. -/
def startSessionAttempts (pb : Protobuf) : ℕ → Link Bool
  | 0 => pure false
  | attempts + 1 => do
      let ok ← startSessionAttempt pb
      if ok then pure true else startSessionAttempts pb attempts

/-- Switch to RPC mode through the CLI, and note the time of a failure. -/
def startSession (pb : Protobuf) (self : Handle) : Link Unit := do
  let ok ← startSessionAttempts pb 3
  setSessionStarted self ok
  if ok then pure ()
  else do
    let now ← Link.monotonic
    Coro.modify (Host.updateRpc self fun rpc => { rpc with lastNegotiationFailure := some now })

/-- `_ensure_rpc_session_started` past its two early returns. -/
def negotiate (pb : Protobuf) (self : Handle) : Link Unit := do
  FlipperTransport.clearReceiveBuffer
  Link.sleep (3 / 10)
  let s ← Coro.get
  if s.transport.isWifiTransport then setSessionStarted self true
  else do
    let probed ← if s.forceStart then pure false else probeRpc pb (2 / 5)
    if probed then setSessionStarted self true else startSession pb self

/-- Whether the last failure of the negotiation is less than the cooldown ago. -/
def coolingDown (self : Handle) : Link Bool := do
  let s ← Coro.get
  match (s.objects self).lastNegotiationFailure with
  | none => pure false
  | some failure => do
      let now ← Link.monotonic
      pure (now - failure < negotiationCooldownSeconds)

/-- `_ensure_rpc_session_started()`. -/
def ensureRpcSessionStarted (pb : Protobuf) (self : Handle) : Link Unit := do
  let s ← Coro.get
  if (s.objects self).rpcSessionStarted then pure ()
  else do
    let cooling ← coolingDown self
    if cooling then pure () else negotiate pb self

/-- Write the frame of an RPC method's own request. -/
def sendRequest (request : Main) : Link Unit := Link.send .request (framed request)

/-- `_send_rpc_message(main_message, response_timeout)`. -/
def sendRpcMessage (pb : Protobuf) (self : Handle) (request : Main)
    (responseTimeout : Time := 5 / 2) : Link (Option Main) :=
  Link.orElse (do
    ensureRpcSessionStarted pb self
    sendRequest request
    receiveMainMessage pb responseTimeout) (pure none)

section Rules

variable {σ : Type} {E : LinkEnv σ} {guard : LinkEvent σ → Prop}

/-- Draining leaves the host alone, and keeps what idle operations keep. -/
theorem wp_drainHostRx {kept : σ → Prop}
    (stable : ∀ op w, LinkOp.IsIdle op → kept w → kept (E op w).2)
    (idle : ∀ event, LinkOp.IsIdle event.op → guard event) (maxSeconds : Time) {s : Host} {w : σ}
    (holds : kept w) :
    wp E guard (drainHostRx maxSeconds) (fun _ s' w' => s' = s ∧ kept w') s w := by
  have loop : ∀ passes w, kept w →
      wp E guard (drainHostRxLoop passes) (fun _ s' w' => s' = s ∧ kept w') s w := by
    intro passes
    induction passes with
    | zero => exact fun w holds => wp_ret.mpr ⟨rfl, holds⟩
    | succ passes ih =>
        intro w holds
        have received := stable (.receive (.seconds (1 / 20))) w trivial holds
        unfold drainHostRxLoop
        rw [wp_bind, Link.wp_receive]
        refine ⟨idle _ trivial, ?_⟩
        cases (E (.receive (.seconds (1 / 20))) w).1 with
        | error e => exact ⟨rfl, received⟩
        | ok chunk =>
            simp only
            split
            · have slept := stable (.sleep (1 / 100)) _ trivial received
              rw [wp_bind, Link.wp_sleep]
              refine ⟨idle _ trivial, ?_⟩
              cases (E (.sleep (1 / 100)) (E (.receive (.seconds (1 / 20))) w).2).1 with
              | error e => exact ⟨rfl, slept⟩
              | ok _ => exact ih _ slept
            · exact ih _ received
  have drained : wp E guard (do
      let passes ← Link.deadline maxSeconds
      drainHostRxLoop passes) (fun _ s' w' => s' = s ∧ kept w') s w := by
    rw [wp_bind, Link.wp_deadline]
    exact ⟨idle _ trivial, loop _ _ (stable (.deadline maxSeconds) w trivial holds)⟩
  refine Link.wp_orElse_of _ drained (fun _ _ _ reached => reached) ?_
    (fun _ _ _ reached _ => reached)
  exact fun e s' w' reached _ => wp_ret.mpr reached

end Rules

end ProtobufRPC

end FlipperMcp
