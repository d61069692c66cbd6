import FlipperMcp.Tools.FirmwareInstall

/-! # The tools

Every tool of the server, under its own name. Most call one RPC method and report what it
returned (`readTool`); those that change the device check the operator's consent first
(`writeTool`). The typed CLI tools parse what a fixed command printed; their parsers are
an input here. So are the host's files: what the host reads of a file, or reads back of one
it has written, comes with the call.
-/

namespace FlipperMcp

open Coroutine FlipperClient

namespace Tools

section

variable (pb : Protobuf)

/-- Call one RPC method, and report what it returned. -/
def readTool (call : RpcCall) (answer : call.Result → Except Exn Json) : Link Json := do
  let value ← classified do
    let rpc ← getRpc
    call.method pb rpc
  Coro.ofExcept (answer value)

/-- The answer of a tool whose method returns `None` on a failure. -/
def available {α : Type} (failure : String) (render : α → Json) : Option α → Except Exn Json
  | none => .error (.toolError failure)
  | some value => .ok (render value)

/-- The answer of a tool whose method returns whether it succeeded. -/
def succeeded (failure : String) (answer : Json) (done : Bool) : Except Exn Json :=
  if done then .ok answer else .error (.toolError failure)

/-! ## Connection -/

/-- The fields of a health report, without its time stamp. -/
def healthEntries (health : ConnectionHealth) : List (String × Json) :=
  [("connected", .bool health.connected),
    ("transport_connected", .bool health.transportConnected),
    ("rpc_responsive", health.rpcResponsive.elim .null .bool),
    ("transport", .dict [("type", .str health.transportType)]),
    ("last_error", .optStr health.lastError)]

/-- `flipperzero_connection_health`. -/
def connectionHealth (probeRpc : Bool) : Link Json := do
  let health ← getConnectionHealth pb probeRpc
  pure (.dict (healthEntries health))

/-- `flipperzero_connection_reconnect`. -/
def connectionReconnect (probeRpc : Bool) : Link Json := do
  disconnect
  let reconnected ← connect
  let health ← getConnectionHealth pb probeRpc
  pure (.dict (healthEntries health ++ [("reconnect_ok", .bool reconnected)]))

/-! ## System information -/

/-- The version `flipperzero_system_info` reports: the normalized dictionary has it under
another key than the classifier reads. -/
def firmwareVersion (device : Dict) : Option String :=
  (Python.truthy (Firmware.classify device).version).or
    ((device.lookup "firmware").filter (· ≠ "Unknown"))

/-- The answer of `flipperzero_system_info`. -/
def systemInfoAnswer (health : ConnectionHealth) (device : Dict) (sd : Bool) : Json :=
  let firmware := Firmware.classify device
  .dict [("connected", .bool health.connected), ("transport", .str health.transportType),
    ("rpc_responsive", health.rpcResponsive.elim .null .bool), ("device", .ofDict device),
    ("firmware", .dict [("flavor", .str firmware.flavor.value),
      ("version", .optStr (firmwareVersion device)),
      ("origin_fork", .optStr firmware.originFork), ("origin_git", .optStr firmware.originGit),
      ("target", .optStr firmware.target)]),
    ("sd_card_available", .bool sd)]

/-- `flipperzero_system_info`. -/
def systemInfo : Link Json := classified do
  ensureConnected
  let health ← getConnectionHealth pb true
  let device ← getDeviceInfo pb
  let sd ← checkSdCardAvailable pb
  pure (systemInfoAnswer health device sd)

/-- `flipperzero_system_power_info`. -/
def systemPowerInfo : Link Json :=
  readTool pb .systemPowerInfo (available "power info unavailable" fun power =>
    .dict [("power", .ofDict power)])

/-- `flipperzero_system_protobuf_version`. -/
def systemProtobufVersion : Link Json :=
  readTool pb .systemProtobufVersion (available "protobuf version unavailable"
    fun version => .dict [("protobuf_version",
      .dict [("major", .int version.1.toNat), ("minor", .int version.2.toNat)])])

/-- `flipperzero_system_datetime`. -/
def systemDatetime : Link Json :=
  readTool pb .systemDatetime (available "device datetime unavailable" fun datetime =>
    .dict [("datetime", .dict [("year", .int datetime.year.toNat),
      ("month", .int datetime.month.toNat), ("day", .int datetime.day.toNat),
      ("hour", .int datetime.hour.toNat), ("minute", .int datetime.minute.toNat),
      ("second", .int datetime.second.toNat), ("weekday", .int datetime.weekday.toNat)])])

/-! ## Diagnostics -/

/-- The default of `ping`. -/
def defaultPing : Bytes := encodeText "ping"

/-- `flipperzero_system_ping`. -/
def systemPing : Link Json :=
  readTool pb (.ping defaultPing) (available "ping failed: no response from device"
    fun echo => .dict [("responded", .bool true), ("echo", .str (Python.decodeReplace echo))])

/-- `flipperzero_system_property_get`. -/
def systemPropertyGet (key : String) : Link Json :=
  readTool pb (.getProperty key) (available ("property " ++ Python.repr key ++ " unavailable")
    fun value => .dict [("key", .str key), ("value", .str value)])

/-! ## Device state -/

/-- `flipperzero_app_lock_status`. -/
def appLockStatus : Link Json :=
  readTool pb .appLockStatus (available "app lock status unavailable" fun locked =>
    .dict [("locked", .bool locked)])

/-- `flipperzero_app_get_error`. -/
def appGetError : Link Json :=
  readTool pb .appGetError (available "app error status unavailable" fun error =>
    .dict [("code", .int error.1.toNat), ("text", .str error.2)])

/-- `flipperzero_desktop_is_locked`. -/
def desktopIsLocked : Link Json :=
  readTool pb .desktopIsLocked (available "desktop lock state unavailable" fun locked =>
    .dict [("locked", .bool locked)])

/-- `_GPIO_PIN_MAX`. -/
def gpioPinMax : ℤ := 7

/-- `flipperzero_gpio_read`. -/
def gpioRead (pin : ℤ) : Link Json :=
  if 0 ≤ pin ∧ pin ≤ gpioPinMax then
    readTool pb (.gpioRead pin) (available s!"gpio pin {pin} read unavailable" fun state =>
      .dict [("pin", .int state.pin), ("mode", .str state.mode),
        ("value", state.value.elim .null fun value => .int value.toNat)])
  else .raise (.toolError s!"pin must be in range 0-{gpioPinMax}, got {pin}")

/-! ## Storage -/

/-- A storage entry; a digest only where it has one. -/
def entryJson (entry : StorageEntry) : Json :=
  .dict ([("name", .str entry.name), ("type", .str entry.type),
    ("size", .int entry.size.toNat)] ++
      entry.md5sum.elim [] fun md5sum => [("md5sum", .str md5sum)])

/-- `flipperzero_fs_info`. -/
def fsInfo (path : String) : Link Json :=
  readTool pb (.storageInfo path) (available s!"storage info unavailable for {path}"
    fun space => .dict [("path", .str path), ("total_space", .int space.1.toNat),
      ("free_space", .int space.2.toNat)])

/-- `flipperzero_fs_stat`. -/
def fsStat (path : String) : Link Json :=
  readTool pb (.storageStat path) (available s!"stat unavailable for {path}" fun entry =>
    .dict [("path", .str path), ("entry", entryJson entry)])

/-- `flipperzero_fs_timestamp`. -/
def fsTimestamp (path : String) : Link Json :=
  readTool pb (.storageTimestamp path) (available s!"timestamp unavailable for {path}"
    fun timestamp => .dict [("path", .str path), ("timestamp", .int timestamp.toNat)])

/-- `flipperzero_fs_list`. -/
def fsList (path : String) : Link Json :=
  readTool pb (.storageListDetailed path false 0) fun (entries : List StorageEntry) =>
    .ok (.dict [("path", .str path), ("entries", .list (entries.map entryJson))])

variable (config : FlipperConfig)

/-- A tool that changes the device. -/
def writeTool (call : RpcCall) (answer : call.Result → Except Exn Json) : Link Json := do
  Coro.ofExcept (requireWriteTools config)
  readTool pb call answer

/-- `flipperzero_fs_mkdir`. -/
def fsMkdir (path : String) : Link Json :=
  writeTool pb config (.storageMkdir path) (succeeded
    s!"failed to create directory {path} on the device"
    (.dict [("path", .str path), ("created", .bool true)]))

/-- `flipperzero_fs_delete`. -/
def fsDelete (path : String) (recursive : Bool) : Link Json :=
  writeTool pb config (.storageDelete path recursive) (succeeded
    s!"failed to delete {path} on the device"
    (.dict [("path", .str path), ("recursive", .bool recursive), ("deleted", .bool true)]))

/-- `flipperzero_fs_rename`. -/
def fsRename (oldPath newPath : String) : Link Json :=
  writeTool pb config (.storageRename oldPath newPath) (succeeded
    s!"failed to rename {oldPath} to {newPath} on the device"
    (.dict [("old_path", .str oldPath), ("new_path", .str newPath), ("renamed", .bool true)]))

variable (md5 : Bytes → String)

/-- `_verify_md5(local_md5, device_md5, path)`. -/
def verifyMd5 (localMd5 : String) (deviceMd5 : Option String) (path : String) : Except Exn Unit :=
  match deviceMd5 with
  | none => .error (.toolError
      s!"integrity check failed for {path}: device did not return an MD5 digest")
  | some deviceMd5 =>
      if Python.lower deviceMd5 ≠ Python.lower localMd5 then .error (.toolError
        s!"integrity mismatch for {path}: local MD5 {localMd5} != device MD5 {deviceMd5}")
      else .ok ()

/-- `try: … except OSError as e: raise ToolError(…)` around the host's files. -/
def hostFile (failure : String) : Except Exn Bytes → Except Exn Bytes
  | .ok data => .ok data
  | .error error =>
      .error (if error.isOSError then .toolError s!"{failure}: {error.text}" else error)

/-- `try: body except ToolError: raise except Exception as e: _classify_client_error(e)`. -/
def classifiedUnlessTool {α : Type} (body : Link α) : Link α :=
  Coro.tryExcept (fun
    | .toolError _ => false
    | error => error.isException) body fun error => .raise (classifyClientError error)

/-- The write of `flipperzero_fs_push`, and the digest the device reports after it. -/
def pushAndDigest (destPath : String) (data : Bytes) : Link (Option String) := do
  let rpc ← getRpc
  let (wrote : Bool) ← RpcCall.method pb rpc (.storageWrite destPath data)
  if wrote then RpcCall.method pb rpc (.storageMd5sum destPath)
  else .raise (.toolError s!"failed to write {destPath} to the device")

/-- `flipperzero_fs_push`, with what the host reads of the local file. -/
def fsPush (localPath destPath : String) (source : Except Exn Bytes) : Link Json := do
  Coro.ofExcept (requireWriteTools config)
  let data ← Coro.ofExcept (hostFile s!"cannot read local file {localPath}" source)
  let deviceMd5 ← classifiedUnlessTool (pushAndDigest pb destPath data)
  Coro.ofExcept (verifyMd5 (md5 data) deviceMd5 destPath)
  pure (.dict [("dest_path", .str destPath), ("bytes", .int data.length),
    ("md5", .str (md5 data)), ("verified", .bool true)])

/-- `flipperzero_fs_pull`, with what the host reads back of the file it has written. -/
def fsPull (srcPath localPath : String) (written : Bytes → Except Exn Bytes) : Link Json := do
  let (data, deviceMd5) ← classified do
    let rpc ← getRpc
    let (data : Bytes) ← RpcCall.method pb rpc (.storageRead srcPath)
    let (deviceMd5 : Option String) ← RpcCall.method pb rpc (.storageMd5sum srcPath)
    pure (data, deviceMd5)
  let back ← Coro.ofExcept (hostFile s!"cannot write local file {localPath}" (written data))
  Coro.ofExcept (verifyMd5 (md5 back) deviceMd5 srcPath)
  pure (.dict [("local_path", .str localPath), ("bytes", .int back.length),
    ("md5", .str (md5 back)), ("verified", .bool true)])

/-! ## The command line -/

/-- `flipperzero_cli_exec`. -/
def cliExec (command : String) (timeout : Time) (iAcceptResponsibility : Bool) : Link Json :=
  classified do
    ensureConnected
    let result ← FlipperClient.cliExec command timeout iAcceptResponsibility config.enableTxTools
    pure (.dict [("output", .str result.output), ("completed", .bool result.completed),
      ("risk", .str result.risk.name), ("warning", .optStr result.warning)])

/-- The parsers of the typed CLI tools. -/
structure CliParsers where
  /-- `_strip_ansi(text)`. -/
  stripAnsi : String → String
  /-- `_parse_free(output)`. -/
  parseFree : String → Except Exn (List (String × ℕ))
  /-- `_parse_tree(output)`. -/
  parseTree : String → Except Exn (List Json)
  /-- `_parse_i2c(output)`. -/
  parseI2c : String → Except Exn (List String)
  /-- `_parse_loader_list(output)`. -/
  parseLoaderList : String → Except Exn (List String)

variable (parsers : CliParsers)

/-- `_APP_OPEN`. -/
def appOpen : String := "application is open"

/-- The uptime `flipperzero_core_status` reports. -/
def reportedUptime (text : String) : Option String :=
  if Python.contains appOpen text then none else Python.truthy (some text)

/-- `flipperzero_core_status`. -/
def coreStatus : Link Json := do
  let free ← cliTyped "free"
  let uptime ← cliTyped "uptime"
  let heap ← Coro.ofExcept (parsers.parseFree free.output)
  let uptimeText := Python.strip (parsers.stripAnsi uptime.output)
  pure (.dict [("heap", .dict (heap.map fun entry => (entry.1, .int entry.2))),
    ("heap_free_bytes", (heap.lookup "free_heap_size").elim .null fun free => .int free),
    ("uptime", .optStr (reportedUptime uptimeText)),
    ("raw", .dict [("free", .str free.output), ("uptime", .str uptime.output)])])

/-- `flipperzero_fs_tree`. -/
def fsTree (path : String) : Link Json :=
  if Python.startsWith "/" path then do
    let result ← cliTyped ("storage tree " ++ path)
    let entries ← Coro.ofExcept (parsers.parseTree result.output)
    pure (.dict [("path", .str path), ("entries", .list entries),
      ("complete", .bool result.completed), ("truncated", .bool !result.completed),
      ("raw", .str result.output)])
  else .raise (.toolError ("path must be absolute (start with '/'), got " ++ Python.repr path))

/-- `flipperzero_loader_list`. -/
def loaderList : Link Json := do
  let result ← cliTyped "loader list"
  let apps ← Coro.ofExcept (parsers.parseLoaderList result.output)
  pure (.dict [("apps", .list (apps.map .str)), ("raw", .str result.output)])

/-- `flipperzero_i2c_scan`. -/
def i2cScan : Link Json := do
  let result ← cliTyped "i2c"
  let addresses ← Coro.ofExcept (parsers.parseI2c result.output)
  pure (.dict [("addresses", .list (addresses.map .str)), ("count", .int addresses.length),
    ("raw", .str result.output)])

/-! ## Applications -/

/-- `flipperzero_app_start`. -/
def appStart (name args : String) : Link Json :=
  writeTool pb config (.appStart name args) (succeeded
    ("failed to start app " ++ Python.repr name)
    (.dict [("name", .str name), ("args", .str args), ("started", .bool true)]))

end

end Tools

/-- A call of a tool with its arguments. -/
inductive ToolCall
  | connectionHealth (probeRpc : Bool)
  | connectionReconnect (probeRpc : Bool)
  | systemInfo
  | systemPowerInfo
  | systemProtobufVersion
  | systemDatetime
  | systemPing
  | systemPropertyGet (key : String)
  | appLockStatus
  | appGetError
  | desktopIsLocked
  | gpioRead (pin : ℤ)
  | fsInfo (path : String)
  | fsStat (path : String)
  | fsTimestamp (path : String)
  | fsList (path : String)
  | fsMkdir (path : String)
  | fsDelete (path : String) (recursive : Bool)
  | fsRename (oldPath newPath : String)
  | fsPush (localPath destPath : String) (source : Except Exn Bytes)
  | fsPull (srcPath localPath : String) (written : Bytes → Except Exn Bytes)
  | cliExec (command : String) (timeout : Time) (iAcceptResponsibility : Bool)
  | coreStatus
  | fsTree (path : String)
  | loaderList
  | i2cScan
  | appStart (name args : String)
  | firmwareInstall (resolve : String → Except Exn LocalBundle) (confirm : String)

/-- What the tools of a server share: its configuration and the code it runs on. -/
structure Server where
  config : FlipperConfig
  pb : Protobuf
  md5 : Bytes → String
  parsers : Tools.CliParsers

namespace Server

variable (server : Server)

/-- The program of a tool call. -/
def program : ToolCall → Link Json
  | .connectionHealth probeRpc => Tools.connectionHealth server.pb probeRpc
  | .connectionReconnect probeRpc => Tools.connectionReconnect server.pb probeRpc
  | .systemInfo => Tools.systemInfo server.pb
  | .systemPowerInfo => Tools.systemPowerInfo server.pb
  | .systemProtobufVersion => Tools.systemProtobufVersion server.pb
  | .systemDatetime => Tools.systemDatetime server.pb
  | .systemPing => Tools.systemPing server.pb
  | .systemPropertyGet key => Tools.systemPropertyGet server.pb key
  | .appLockStatus => Tools.appLockStatus server.pb
  | .appGetError => Tools.appGetError server.pb
  | .desktopIsLocked => Tools.desktopIsLocked server.pb
  | .gpioRead pin => Tools.gpioRead server.pb pin
  | .fsInfo path => Tools.fsInfo server.pb path
  | .fsStat path => Tools.fsStat server.pb path
  | .fsTimestamp path => Tools.fsTimestamp server.pb path
  | .fsList path => Tools.fsList server.pb path
  | .fsMkdir path => Tools.fsMkdir server.pb server.config path
  | .fsDelete path recursive => Tools.fsDelete server.pb server.config path recursive
  | .fsRename oldPath newPath => Tools.fsRename server.pb server.config oldPath newPath
  | .fsPush localPath destPath source =>
      Tools.fsPush server.pb server.config server.md5 localPath destPath source
  | .fsPull srcPath localPath written =>
      Tools.fsPull server.pb server.md5 srcPath localPath written
  | .cliExec command timeout iAcceptResponsibility =>
      Tools.cliExec server.config command timeout iAcceptResponsibility
  | .coreStatus => Tools.coreStatus server.parsers
  | .fsTree path => Tools.fsTree server.parsers path
  | .loaderList => Tools.loaderList server.parsers
  | .i2cScan => Tools.i2cScan server.parsers
  | .appStart name args => Tools.appStart server.pb server.config name args
  | .firmwareInstall resolve confirm =>
      Tools.firmwareInstall server.pb server.md5 server.config resolve confirm

/-- Tool calls one after another, each answered with its result or its error. -/
def session : List ToolCall → Link (List (Except Exn Json))
  | [] => pure []
  | call :: calls => do
      let answer ← (server.program call).attempt
      let answers ← session calls
      pure (answer :: answers)

end Server

end FlipperMcp
