import FlipperMcp.Client.Basic

/-! # What the tools share

A tool that uses the device first makes sure of a connection (`ensureConnected`) and
reports what goes wrong as a `ToolError` (`classified`). The tools that change the device
ask for the operator's consent before they touch the link (`requireWriteTools`,
`requireFirmwareFlash`).
-/

namespace FlipperMcp

open Coroutine FlipperClient

/-- The flags of `FlipperConfig` that the tools look at. -/
structure FlipperConfig where
  enableTxTools : Bool := false
  enableWriteTools : Bool := false
  enableFirmwareFlash : Bool := false
  deriving DecidableEq

/-- What a tool returns. -/
inductive Json
  | null
  | bool (value : Bool)
  | int (value : ℤ)
  | str (text : String)
  | list (items : List Json)
  | dict (entries : List (String × Json))

namespace Json

/-- A text or `None`. -/
def optStr (text : Option String) : Json := text.elim null str

/-- A dictionary of texts. -/
def ofDict (info : Dict) : Json :=
  dict (info.entries.map fun entry => (entry.1, str entry.2))

end Json

namespace Tools

/-- `_classify_client_error(error)`, the error it raises. -/
def classifyClientError : Exn → Exn
  | .flipperNotConnectedError text => .toolError
      (s!"Flipper not connected: {text}. Call flipperzero_connection_reconnect, " ++
        "or check USB / FLIPPER_WIFI_HOST.")
  | .flipperTimeoutError text => .toolError
      s!"Flipper RPC timed out: {text}. The device may be busy; retry."
  | .flipperConnectionError text => .toolError s!"Flipper connection error: {text}."
  | .flipperProtocolError text => .toolError s!"Flipper protocol error: {text}."
  | .flipperCLIUnavailableError text => .toolError
      (s!"CLI text mode unavailable: {text}. CLI exec is USB-only; " ++
        "the WiFi bridge speaks protobuf RPC only.")
  | .flipperCLIRefusedError text => .toolError s!"CLI command refused: {text}."
  | error => .toolError s!"unexpected error: {error.text}."

/-- `try: body except Exception as e: _classify_client_error(e)`. -/
def classified {α : Type} (body : Link α) : Link α :=
  Coro.tryExcept Exn.isException body fun error => .raise (classifyClientError error)

/-- `require_write_tools(ctx)`. -/
def requireWriteTools (config : FlipperConfig) : Except Exn Unit :=
  if config.enableWriteTools then .ok ()
  else .error (.toolError
    ("Write tools are disabled. Set FLIPPER_ENABLE_WRITE_TOOLS=true to allow " ++
      "device-mutating storage operations (fs_push, fs_mkdir)."))

/-- `require_firmware_flash(ctx)`. -/
def requireFirmwareFlash (config : FlipperConfig) : Except Exn Unit := do
  requireWriteTools config
  if config.enableFirmwareFlash then .ok ()
  else .error (.toolError
    ("Firmware flashing is disabled. Set FLIPPER_ENABLE_FIRMWARE_FLASH=true " ++
      "(in addition to FLIPPER_ENABLE_WRITE_TOOLS) to allow flashing firmware."))

/-- The reconnect of `ensure_connected`. -/
def reconnectOnce : Link Unit := do
  disconnect
  if ← connect then pure ()
  else do
    let s ← Coro.get
    .raise (.flipperNotConnectedError
      ((Python.truthy s.lastConnectionError).getD "device unavailable"))

/-- `ensure_connected(ctx)`. -/
def ensureConnected : Link Unit := do
  let alive : Bool ← Coro.tryExcept Exn.isOSOrRuntimeError (Link.perform .isConnected) fun _ =>
    pure false
  if alive then pure () else reconnectOnce

/-- `get_rpc(ctx)`. -/
def getRpc : Link Handle := do
  ensureConnected
  let s ← Coro.get
  match s.rpc with
  | some rpc => pure rpc
  | none => .raise (.flipperNotConnectedError
      ((Python.truthy s.lastConnectionError).getD "RPC layer unavailable"))

/-- `cli_typed(ctx, command, timeout_s=timeout)`. A gated command is refused before the
link is used, and none of the gates of `cli_exec` is opened. -/
def cliTyped (command : String) (timeout : Time := 8) : Link CliExecResult :=
  if (CliRisk.classify command).gated then
    .raise (.toolError ("cli_typed is benign-only; refusing gated command: " ++
      Python.repr command))
  else classified do
    ensureConnected
    cliExec command timeout

end Tools

end FlipperMcp
