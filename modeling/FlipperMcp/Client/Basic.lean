import FlipperMcp.Rpc.CliRisk
import FlipperMcp.Rpc.Methods

/-! # The client

`FlipperClient` owns the transport, the current `ProtobufRPC` and the lock both
share. Connecting makes a new `ProtobufRPC` and forgets what was known of the
device; neither connecting nor disconnecting takes the lock. The mode switches and
`cli_exec` take it for their whole exchange.
-/

namespace FlipperMcp

open Coroutine ProtobufRPC

/-- `CliExecResult`. -/
structure CliExecResult where
  output : String
  completed : Bool
  risk : CliRisk.Category
  warning : Option String
  deriving DecidableEq

/-- `ConnectionHealth`, without its time stamp. -/
structure ConnectionHealth where
  connected : Bool
  transportConnected : Bool
  rpcResponsive : Option Bool
  transportType : String
  lastError : Option String
  deriving DecidableEq

namespace FlipperClient

/-- `self.last_connection_error = str(exc)`. -/
def noteError (exc : Exn) : Link Unit :=
  Coro.modify fun s => { s with lastConnectionError := some exc.text }

/-- `try: body except (OSError, RuntimeError) as exc: …; return failure`. -/
def orNote {α : Type} (body : Link α) (failure : α) : Link α :=
  Coro.tryExcept Exn.isOSOrRuntimeError body fun exc => do
    noteError exc
    pure failure

/-- `transport.connect()`, as far as it changes the transport object. -/
def connectTransport : Link Bool := do
  match ← Link.perform .connect with
  | none => pure false
  | some (facts : TransportFacts) => do
      Coro.modify fun s => { s with
        transport := facts
        rxBuffer := if facts.clearsOnConnect then [] else s.rxBuffer }
      pure true

/-- What `connect` does with the client once the transport is connected. -/
def connectedHost (s : Host) : Host :=
  { s with
    rpc := some s.fresh
    objects := Function.update s.objects s.fresh {}
    fresh := s.fresh + 1
    connected := true
    lastConnectionError := none
    sdCardAvailable := none
    mode := .unknown }

/-- `connect()`. -/
def connect : Link Bool := do
  let ok ← orNote connectTransport false
  if ok then do
    Coro.modify connectedHost
    pure true
  else pure false

/-- `transport.disconnect()`, as far as it changes the transport object. An
`AutoTransport` lets go of what it had selected even when that raises. -/
def disconnectTransport : Link Unit := do
  let closed ← (Link.perform .disconnect).attempt
  Coro.modify fun s => { s with
    transport := s.transport.closed
    rxBuffer := if s.transport.isAuto then [] else s.rxBuffer }
  Coro.ofExcept closed

/-- What `disconnect` does with the client. -/
def disconnectedHost (s : Host) : Host :=
  { s with connected := false, rpc := none, sdCardAvailable := none, mode := .unknown }

/-- `disconnect()`. -/
def disconnect : Link Unit := do
  orNote disconnectTransport ()
  Coro.modify disconnectedHost

/-- A disconnect followed by a connect. -/
def reconnect : Link Bool := do
  disconnect
  connect

section

variable (pb : Protobuf)

/-- `enter_rpc()` under the lock. -/
def enterRpcBody : Link Unit := do
  let s ← Coro.get
  match s.rpc with
  | none => .raise (.attributeError
      "'NoneType' object has no attribute '_ensure_rpc_session_started'")
  | some rpc => do
      ensureRpcSessionStarted pb rpc
      Coro.modify fun s => { s with mode := .rpc }

/-- The current link mode. -/
def mode : Link LinkMode := do
  let s ← Coro.get
  pure s.mode

/-- Switch under the lock and return the mode; without an RPC layer, only return it. -/
def switchMode (body : Link Unit) : Link LinkMode := do
  let s ← Coro.get
  match s.rpc with
  | none => pure s.mode
  | some _ => do
      body.withLock
      mode

/-- `enter_rpc()`. -/
def enterRpc : Link LinkMode := switchMode (enterRpcBody pb)

/-- `enter_cli()` under the lock. -/
def enterCliBody : Link Unit := do
  let s ← Coro.get
  match s.rpc with
  | none => .raise (.attributeError "'NoneType' object has no attribute 'send_stop_session'")
  | some rpc => do
      sendStopSession rpc
      Coro.modify fun s => { s with mode := .cli }

/-- `enter_cli()`. -/
def enterCli : Link LinkMode := switchMode enterCliBody

/-- `_HEALTH_PROBE`. -/
def healthProbe : Bytes := encodeText "mcp_health"

/-- The RPC part of `get_connection_health`. -/
def probeHealth (rpc : Handle) : Link Bool := do
  let responsive ← orNote (do
    let (echoed : Option Bytes) ← RpcCall.method pb rpc (.ping healthProbe)
    pure (decide (echoed = some healthProbe))) false
  if responsive then pure true
  else do
    Coro.modify fun s => { s with
      lastConnectionError := s.lastConnectionError.or (some "RPC ping unanswered") }
    pure false

/-- `get_connection_health(probe_rpc)`. -/
def getConnectionHealth (probeRpc : Bool := true) : Link ConnectionHealth := do
  let transportConnected : Bool ← orNote (Link.perform .isConnected) false
  let s ← Coro.get
  let rpcResponsive ← if probeRpc then
      match transportConnected, s.rpc with
      | true, some rpc => some <$> probeHealth pb rpc
      | _, _ => pure (some false)
    else pure none
  let s ← Coro.get
  pure {
    connected := transportConnected && rpcResponsive.getD true
    transportConnected
    rpcResponsive
    transportType := s.transport.name
    lastError := s.lastConnectionError }

/-- `_NORMALIZED_SOURCE_KEYS`. -/
def normalizedSourceKeys : List String :=
  ["hardware_name", "name", "hardware_model", "hardware", "firmware_version", "firmware", "version"]

/-- `info.get(first) or info.get(second) or fallback`. -/
def firstOf (info : Dict) (first second fallback : String) : String :=
  ((Python.truthy (info.lookup first)).or (Python.truthy (info.lookup second))).getD fallback

/-- The dictionary `get_device_info` makes of the one the device reported: the keys
it reads are left out, and what it made of them is entered under other names. -/
def normalized (info : Dict) : Dict :=
  (((normalizedSourceKeys.foldl (fun kept key => kept.erase key) info).insert
    "name" (firstOf info "hardware_name" "name" "Flipper Zero")).insert
    "hardware" (firstOf info "hardware_model" "hardware" "Unknown")).insert
    "firmware" (firstOf info "firmware_version" "firmware" "Unknown")

/-- `get_device_info()`. -/
def getDeviceInfo : Link Dict := do
  let s ← Coro.get
  match s.rpc with
  | none => pure ((((∅ : Dict).insert "name" "Flipper Zero").insert "hardware" "Unknown").insert
      "firmware" "Unknown")
  | some rpc => do
      let (info : Dict) ← orNote (RpcCall.method pb rpc .getDeviceInfo) (∅ : Dict)
      Coro.modify fun s => { s with infoLog := s.infoLog ++ [info] }
      pure (normalized info)

/-- The question of `check_sd_card_available` to the device. -/
def askSdCard (rpc : Handle) : Link Bool :=
  orNote (do
    let (info : Option (UInt64 × UInt64)) ← RpcCall.method pb rpc (.storageInfo "/ext")
    pure (info.any fun space => 0 < space.1)) false

/-- `check_sd_card_available()`. -/
def checkSdCardAvailable : Link Bool := do
  let s ← Coro.get
  match s.sdCardAvailable with
  | some available => pure available
  | none => do
      let available ← match s.rpc with
        | none => pure false
        | some rpc => askSdCard pb rpc
      Coro.modify fun s => { s with sdCardAvailable := some available }
      pure available

end

/-- `_CLI_READ_SLICE_S`. -/
def cliReadSlice : Time := 1 / 5

/-- `_CLI_PROMPT`. -/
def cliPrompt : Bytes := encodeText ">:"

/-- The loop of `_read_until_prompt`. -/
def readUntilPromptLoop : ℕ → Bytes → Link (Bytes × Bool)
  | 0, buf => pure (buf, false)
  | passes + 1, buf => do
      let chunk ← Link.receive (.atMost cliReadSlice)
      if chunk ≠ [] ∧ cliPrompt <:+ Python.rstrip (buf ++ chunk) then pure (buf ++ chunk, true)
      else readUntilPromptLoop passes (buf ++ chunk)

/-- `_read_until_prompt(timeout_s)`. -/
def readUntilPrompt (timeout : Time) : Link (Bytes × Bool) := do
  let passes ← Link.deadline timeout
  readUntilPromptLoop passes []

/-- `_strip_cli_output(raw, command)`. -/
def stripCliOutput (raw : Bytes) (command : String) : String :=
  let lines := Python.splitlines (Python.decodeReplace raw)
  let lines := match lines with
    | first :: rest => if Python.contains (Python.strip command) first then rest else first :: rest
    | [] => []
  Python.strip (Python.replace ">:" "" ("\n".intercalate lines))

/-- `_cli_exchange(rpc, command, timeout_s)`. -/
def cliExchange (rpc : Handle) (command : String) (timeout : Time) : Link (String × Bool) := do
  sendStopSession rpc
  Coro.modify fun s => { s with mode := .cli }
  FlipperTransport.clearReceiveBuffer
  Link.send .cliInterrupt interrupt
  let _ ← readUntilPrompt 2
  FlipperTransport.clearReceiveBuffer
  Link.send .cliCommand (encodeText command ++ [0x0D])
  let (raw, completed) ← readUntilPrompt timeout
  pure (stripCliOutput raw command, completed)

/-- `_SHELL_CHAINING`, each with its `repr`. -/
def shellChaining : List (String × String) :=
  [(";", "';'"), ("&&", "'&&'"), ("||", "'||'"), ("|", "'|'"), ("`", "'`'"), ("\n", "'\\n'"),
    ("\r", "'\\r'")]

/-- `_reject_shell_chaining(command)`. -/
def rejectShellChaining (command : String) : Except Exn Unit :=
  match shellChaining.find? fun token => Python.contains token.1 command with
  | some token => .error (.flipperCLIRefusedError
      ("shell chaining is not allowed; send exactly one command per call " ++
        s!"(found {token.2})"))
  | none => .ok ()

/-- `_enforce_tx_gate(warning, accept_responsibility, tx_tools_enabled)`. -/
def enforceTxGate (warning : Option String) (acceptResponsibility txToolsEnabled : Bool) :
    Except Exn Unit :=
  if !txToolsEnabled then
    .error (.flipperCLIRefusedError
      ("transmit/destructive commands are disabled on this server; the operator " ++
        "must set FLIPPER_ENABLE_TX_TOOLS=true to allow them"))
  else if !acceptResponsibility then
    .error (.flipperCLIRefusedError
      (((Python.truthy warning).getD "command requires i_accept_responsibility=true")))
  else .ok ()

/-- The checks of `cli_exec` on its command. -/
def checkCommand (command : String) (acceptResponsibility txToolsEnabled : Bool) :
    Except Exn CliRisk.Risk := do
  rejectShellChaining command
  let risk := CliRisk.classify command
  if risk.gated then enforceTxGate risk.warning acceptResponsibility txToolsEnabled
  pure risk

/-- `cli_exec(command, timeout_s, accept_responsibility, tx_tools_enabled)`. -/
def cliExec (command : String) (timeout : Time := 10) (acceptResponsibility : Bool := false)
    (txToolsEnabled : Bool := false) : Link CliExecResult := do
  let s ← Coro.get
  match s.rpc with
  | none => .raise (.flipperNotConnectedError
      ((Python.truthy s.lastConnectionError).getD "device unavailable"))
  | some rpc =>
      if !s.transport.supportsCliTextMode then
        .raise (.flipperCLIUnavailableError "CLI text mode unavailable over WiFi bridge")
      else do
        let risk ← Coro.ofExcept (checkCommand command acceptResponsibility txToolsEnabled)
        let (output, completed) ← (cliExchange rpc command timeout).withLock
        pure { output, completed, risk := risk.category, warning := risk.warning }

end FlipperClient

end FlipperMcp
