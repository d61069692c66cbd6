import FlipperMcp.Rpc.Session

/-! # The RPC methods

Every public method of `ProtobufRPC`, with its internal part. A method runs under
the shared lock. Most send one request and read one answer (`unary`), a family
that swallows exceptions and returns its failure value (`guarded`), some of them
under `asyncio.wait_for` (`timed`); streams of frames, the chunked write, the update
and the reboot have bodies of their own. `RpcCall` is a call of any method with its
arguments.
-/

namespace FlipperMcp

open Coroutine

/-- The default of `response_timeout`. -/
def defaultTimeout : Time := 5 / 2

/-- The result of `gpio_read`. -/
structure GpioReading where
  pin : ℤ
  mode : String
  value : Option UInt32
  deriving DecidableEq

/-- An entry of a detailed listing, or the result of `storage_stat`. -/
structure StorageEntry where
  name : String
  type : String
  size : UInt32
  md5sum : Option String
  deriving DecidableEq

namespace ProtobufRPC

section

variable (pb : Protobuf) (self : Handle)

/-- A request with the next command id, and its first answer. -/
def exchange (content : Content) (responseTimeout : Time) : Link (Option Main) := do
  let commandId ← getNextCommandId self
  sendRpcMessage pb self { commandId := commandId, hasNext := false, content := content }
    responseTimeout

/-- One request, and what is made of its answer. -/
def unary {α : Type} (content : Content) (read : Option Main → α)
    (responseTimeout : Time := defaultTimeout) : Link α := do
  let resp ← exchange pb self content responseTimeout
  pure (read resp)

/-- `try: body except Exception: return failure`. -/
def guarded {α : Type} (failure : α) (body : Link α) : Link α := Link.orElse body (pure failure)

/-- `try: return await asyncio.wait_for(body, timeout) except Exception: return failure`,
where the body swallows its exceptions too. -/
def timed {α : Type} (timeout : Time) (failure : α) (body : Link α) : Link α :=
  guarded failure (Link.waitFor timeout (guarded failure body))

/-- The content of an answer with status OK, as far as it is the one asked for. -/
def okContent {α : Type} (read : Content → Option α) : Option Main → Option α
  | some resp => if resp.commandStatus = CommandStatus.ok then read resp.content else none
  | none => none

/-- `bool(resp and resp.command_status == OK)`. -/
def isOk : Option Main → Bool
  | some resp => resp.commandStatus = CommandStatus.ok
  | none => false

def pingBody (data : Bytes) : Link (Option Bytes) :=
  guarded none (unary pb self (.systemPingRequest data) (okContent fun
    | .systemPingResponse echoed => some echoed
    | _ => none))

def appLockStatusBody : Link (Option Bool) :=
  guarded none (unary pb self .appLockStatusRequest (okContent fun
    | .appLockStatusResponse locked => some locked
    | _ => none))

def appGetErrorBody : Link (Option (UInt32 × String)) :=
  guarded none (unary pb self .appGetErrorRequest (okContent fun
    | .appGetErrorResponse code text => some (code, text)
    | _ => none))

/-- The firmware answers with an empty body: OK when locked, ERROR when unlocked. -/
def desktopIsLockedBody : Link (Option Bool) :=
  guarded none (unary pb self .desktopIsLockedRequest fun
    | some resp =>
        if resp.commandStatus = CommandStatus.ok then some true
        else if resp.commandStatus = CommandStatus.error then some false
        else none
    | none => none)

/-- Setting an enumeration field to a number that is not an `int32` raises. -/
def pinCode (pin : ℤ) : Except Exn Int32 :=
  if -2 ^ 31 ≤ pin ∧ pin < 2 ^ 31 then .ok (Int32.ofInt pin)
  else .error (.valueError "Value out of range")

/-- `gpio_pb2.GpioPinMode.Name(mode).lower()`. -/
def gpioPinModeName (mode : Int32) : Except Exn String :=
  if mode = 0 then .ok "output"
  else if mode = 1 then .ok "input"
  else .error (.valueError "Enum PB_Gpio.GpioPinMode has no name defined for value")

def gpioReadBody (pin : ℤ) : Link (Option GpioReading) :=
  guarded none do
    let modeId ← getNextCommandId self
    let code ← Coro.ofExcept (pinCode pin)
    match ← sendRpcMessage pb self { commandId := modeId, content := .gpioGetPinMode code }
        defaultTimeout with
    | none => pure none
    | some modeResp => do
        let mode ← Coro.ofExcept (match modeResp.commandStatus == CommandStatus.ok,
            modeResp.content with
          | true, .gpioGetPinModeResponse mode => (gpioPinModeName mode).map some
          | _, _ => .ok (if modeResp.commandStatus = CommandStatus.errorGpioUnknownPinMode
              then some "unconfigured" else none))
        match mode with
        | none => pure none
        | some mode => do
            let valueId ← getNextCommandId self
            match ← sendRpcMessage pb self { commandId := valueId, content := .gpioReadPin code }
                defaultTimeout with
            | none => pure none
            | some valueResp =>
                let value := okContent (fun
                  | .gpioReadPinResponse value => some value
                  | _ => none) (some valueResp)
                pure (some { pin := pin, mode := mode, value := value })

def systemProtobufVersionBody : Link (Option (UInt32 × UInt32)) :=
  timed 3 none (unary pb self .systemProtobufVersionRequest (okContent fun
    | .systemProtobufVersionResponse major minor => some (major, minor)
    | _ => none))

/-- Only a missing response raises: a status other than OK is not looked at. -/
def systemUpdateBody (manifestPath : String) : Link UpdateResultCode := do
  match ← exchange pb self (.systemUpdateRequest manifestPath) defaultTimeout with
  | none => .raise (.flipperTimeoutError
      "no response to system_update; the device link dropped before validation")
  | some response =>
      match response.content with
      | .systemUpdateResponse code => pure code
      | _ => pure UpdateResultCode.unspecifiedError

/-- Fire and forget: no response is read. -/
def systemRebootUpdateBody : Link Unit := do
  ensureRpcSessionStarted pb self
  let commandId ← getNextCommandId self
  sendRequest { commandId := commandId, content := .systemRebootRequest rebootModeUpdate }

def systemDatetimeBody : Link (Option DateTime) :=
  timed 3 none (unary pb self .systemGetDatetimeRequest (okContent fun
    | .systemGetDatetimeResponse datetime => some datetime
    | _ => none))

/-- Collect the frames of a stream: `absorb` takes a frame in and says whether to
go on. At most `limit` frames are read. -/
def collectFrames {ι : Type} (absorb : Main → ι → ι × Bool) : ℕ → Main → ι → Link ι
  | 0, _, info => pure info
  | limit + 1, last, info =>
      if last.hasNext then do
        match ← receiveMainMessage pb defaultTimeout with
        | none => pure info
        | some next =>
            let (info, more) := absorb next info
            if more then collectFrames absorb limit next info else pure info
      else pure info

/-- Enter a pair unless its key or its value is empty. -/
def addPair (key value : String) (info : Dict) : Dict :=
  if key ≠ "" ∧ value ≠ "" then info.insert key value else info

/-- `collect(resp)` of `_system_power_info_internal`. -/
def collectPower (resp : Main) (info : Dict) : Dict :=
  match resp.content with
  | .systemPowerInfoResponse key value => addPair key value info
  | _ => info

def systemPowerInfoBody : Link (Option Dict) :=
  timed 6 none do
    match ← exchange pb self .systemPowerInfoRequest defaultTimeout with
    | none => pure none
    | some first =>
        if first.commandStatus = CommandStatus.ok then do
          -- the status of a later frame is looked at before the frame is collected
          let info ← collectFrames pb (fun next info =>
            if next.commandStatus = CommandStatus.ok then (collectPower next info, true)
            else (info, false)) 100 first (collectPower first ∅)
          pure (some info)
        else pure none

def appStartBody (name args : String) : Link Bool :=
  guarded false (unary pb self (.appStartRequest name args) isOk)

/-- The frames of a device info stream enter their pairs. -/
def collectDevice (resp : Main) (info : Dict) : Dict :=
  match resp.content with
  | .systemDeviceInfoResponse key value => addPair key value info
  | _ => info

/-- `_get_property_internal(key)`. -/
def getPropertyInternal (key : String) : Link (Option String) :=
  guarded none (unary pb self (.propertyGetRequest key) (okContent fun
    | .propertyGetResponse _ value => some value
    | _ => none))

/-- The keys asked for one by one when the device info stream gave nothing. -/
def propertyKeys : List String :=
  ["firmware_version", "hardware_model", "hardware_version", "serial_number",
    "firmware_build_date", "firmware_git_hash"]

/-- The fallback of `_get_device_info_internal`. -/
def collectProperties : List String → Dict → Link Dict
  | [], info => pure info
  | key :: keys, info => do
      let value ← guarded none (getPropertyInternal pb self key)
      collectProperties keys (match Python.truthy value with
        | some value => info.insert key value
        | none => info)

/-- `_get_device_info_internal()`. Nothing raises once a pair is collected, so the
handler has nothing to keep. -/
def getDeviceInfoInternal : Link Dict := do
  let info ← guarded ∅ do
    match ← exchange pb self .systemDeviceInfoRequest defaultTimeout with
    | none => pure ∅
    | some first =>
        if first.commandStatus = CommandStatus.ok then
          -- a later frame is collected before its status is looked at
          collectFrames pb (fun next info =>
            (collectDevice next info, next.commandStatus = CommandStatus.ok))
            100 first (collectDevice first ∅)
        else pure ∅
  if info.keys = [] then collectProperties pb self propertyKeys info else pure info

def getDeviceInfoBody : Link Dict := guarded ∅ (Link.waitFor 6 (getDeviceInfoInternal pb self))

def getPropertyBody (key : String) : Link (Option String) :=
  guarded none (Link.waitFor 2 (getPropertyInternal pb self key))

/-- Setting an unsigned field to a number that is not a `uint32` raises. -/
def maxSizeCode (filterMaxSize : ℤ) : Except Exn UInt32 :=
  if 0 ≤ filterMaxSize ∧ filterMaxSize < 2 ^ 32 then .ok (UInt32.ofNat filterMaxSize.toNat)
  else .error (.valueError "Value out of range")

/-- The continuation frames of a listing, at most `limit`. -/
def storageListRest (path : String) : ℕ → Main → Link (List Main)
  | limit, last =>
      if last.hasNext then
        match limit with
        | 0 => .raise (.flipperProtocolError
            s!"storage_list({path}): exceeded 100 continuation frames")
        | limit + 1 => do
            match ← receiveMainMessage pb defaultTimeout with
            | none => .raise (.flipperTimeoutError
                s!"storage_list({path}): truncated; a continuation frame never arrived")
            | some next =>
                if next.commandStatus = CommandStatus.ok then do
                  let frames ← storageListRest path limit next
                  pure (next :: frames)
                else .raise (.flipperProtocolError
                  s!"storage_list({path}): status {next.commandStatus.toInt} mid-stream")
      else pure []

/-- `_storage_list_frames(path, include_md5, filter_max_size)`, all its frames. -/
def storageListFrames (path : String) (includeMd5 : Bool) (filterMaxSize : ℤ) :
    Link (List Main) := do
  let commandId ← getNextCommandId self
  let maxSize ← Coro.ofExcept (maxSizeCode filterMaxSize)
  match ← sendRpcMessage pb self
      { commandId := commandId, content := .storageListRequest path includeMd5 maxSize }
      defaultTimeout with
  | none => .raise (.flipperTimeoutError s!"storage_list({path}): no response from device")
  | some first =>
      if first.commandStatus = CommandStatus.ok then do
        let frames ← storageListRest pb path 100 first
        pure (first :: frames)
      else .raise (.flipperProtocolError
        s!"storage_list({path}): device returned status {first.commandStatus.toInt}")

/-- The named files of a listing frame. -/
def listedFiles (frame : Main) : List File :=
  match frame.content with
  | .storageListResponse files => files.filter fun file => file.name ≠ ""
  | _ => []

/-- The entry of a file, with its digest only on request. -/
def entryOf (includeMd5 : Bool) (file : File) : StorageEntry where
  name := file.name
  type := if file.type = fileTypeDir then "DIR" else "FILE"
  size := file.size
  md5sum := if includeMd5 ∧ file.md5sum ≠ "" then some file.md5sum else none

def storageListBody (path : String) (includeMd5 : Bool) (filterMaxSize : ℤ) :
    Link (List String) := do
  let frames ← storageListFrames pb self path includeMd5 filterMaxSize
  pure ((frames.flatMap listedFiles).map File.name)

def storageListDetailedBody (path : String) (includeMd5 : Bool) (filterMaxSize : ℤ) :
    Link (List StorageEntry) := do
  let frames ← storageListFrames pb self path includeMd5 filterMaxSize
  pure ((frames.flatMap listedFiles).map (entryOf includeMd5))

def storageReadBody (path : String) : Link Bytes :=
  timed 3 [] (unary pb self (.storageReadRequest path) fun resp =>
    (okContent (fun
      | .storageReadResponse file => some file.data
      | _ => none) resp).getD [])

def storageInfoBody (path : String) : Link (Option (UInt64 × UInt64)) :=
  timed 3 none (unary pb self (.storageInfoRequest path) (okContent fun
    | .storageInfoResponse totalSpace freeSpace => some (totalSpace, freeSpace)
    | _ => none))

def storageStatBody (path : String) : Link (Option StorageEntry) :=
  timed 3 none (unary pb self (.storageStatRequest path) (okContent fun
    | .storageStatResponse file => some (entryOf true file)
    | _ => none))

def storageTimestampBody (path : String) : Link (Option UInt32) :=
  timed 3 none (unary pb self (.storageTimestampRequest path) (okContent fun
    | .storageTimestampResponse timestamp => some timestamp
    | _ => none))

def storageMkdirBody (path : String) : Link Bool :=
  timed 3 false (unary pb self (.storageMkdirRequest path) isOk)

def storageDeleteBody (path : String) (recursive : Bool) : Link Bool :=
  timed 3 false (unary pb self (.storageDeleteRequest path recursive) isOk)

def storageRenameBody (oldPath newPath : String) : Link Bool :=
  timed 3 false (unary pb self (.storageRenameRequest oldPath newPath) isOk)

/-- `_MD5SUM_RESPONSE_TIMEOUT_S`. -/
def md5sumResponseTimeout : Time := 180

def storageMd5sumBody (path : String) : Link (Option String) :=
  timed (md5sumResponseTimeout + 5) none (unary pb self (.storageMd5sumRequest path) (fun resp =>
    Python.truthy (okContent (fun
      | .storageMd5sumResponse md5sum => some md5sum
      | _ => none) resp)) md5sumResponseTimeout)

/-- `_WRITE_CHUNK_SIZE`. -/
def writeChunkSize : ℕ := 1024

/-- `_WRITE_THROUGHPUT_BYTES_S`. -/
def writeThroughput : ℕ := 80000

/-- `_chunk(content, size)`. -/
def chunk (content : Bytes) (size : ℕ) : List Bytes :=
  if content = [] then [[]]
  else (List.range ((content.length + size - 1) / size)).map fun i =>
    (content.drop (i * size)).take size

/-- The frame of one chunk; all but the last announce another. -/
def writeRequest (commandId : UInt32) (path : String) (data : Bytes) (hasNext : Bool) : Main where
  commandId := commandId
  hasNext := hasNext
  content := .storageWriteRequest path { data := data }

/-- The loop of `_storage_write_internal`: only the last chunk is acknowledged. -/
def writeChunks (commandId : UInt32) (path : String) : List Bytes → Link Bool
  | [] => pure false
  | [last] => do
      sendRequest (writeRequest commandId path last false)
      let response ← receiveMainMessage pb defaultTimeout
      pure (isOk response)
  | data :: chunks => do
      sendRequest (writeRequest commandId path data true)
      Link.sleep ((framed (writeRequest commandId path data true)).length / writeThroughput)
      writeChunks commandId path chunks

/-- `_storage_write_internal(path, content)`, without its handler. -/
def storageWriteInternal (path : String) (content : Bytes) : Link Bool := do
  ensureRpcSessionStarted pb self
  let commandId ← getNextCommandId self
  writeChunks pb commandId path (chunk content writeChunkSize)

def storageWriteBody (path : String) (content : Bytes) : Link Bool :=
  timed (max 15 (content.length / 40000)) false (storageWriteInternal pb self path content)

end

end ProtobufRPC

open ProtobufRPC in
/-- A call of a public method of `ProtobufRPC`. -/
inductive RpcCall
  | ping (data : Bytes)
  | appLockStatus
  | appGetError
  | desktopIsLocked
  | gpioRead (pin : ℤ)
  | systemProtobufVersion
  | systemUpdate (manifestPath : String)
  | systemRebootUpdate
  | systemDatetime
  | systemPowerInfo
  | appStart (name args : String)
  | getDeviceInfo
  | getProperty (key : String)
  | storageList (path : String) (includeMd5 : Bool) (filterMaxSize : ℤ)
  | storageListDetailed (path : String) (includeMd5 : Bool) (filterMaxSize : ℤ)
  | storageRead (path : String)
  | storageInfo (path : String)
  | storageStat (path : String)
  | storageTimestamp (path : String)
  | storageMkdir (path : String)
  | storageDelete (path : String) (recursive : Bool)
  | storageRename (oldPath newPath : String)
  | storageMd5sum (path : String)
  | storageWrite (path : String) (content : Bytes)

namespace RpcCall

open ProtobufRPC

/-- What a method returns. -/
def Result : RpcCall → Type
  | ping _ => Option Bytes
  | appLockStatus | desktopIsLocked => Option Bool
  | appGetError => Option (UInt32 × String)
  | gpioRead _ => Option GpioReading
  | systemProtobufVersion => Option (UInt32 × UInt32)
  | systemUpdate _ => UpdateResultCode
  | systemRebootUpdate => Unit
  | systemDatetime => Option DateTime
  | systemPowerInfo => Option Dict
  | getDeviceInfo => Dict
  | getProperty _ | storageMd5sum _ => Option String
  | storageList _ _ _ => List String
  | storageListDetailed _ _ _ => List StorageEntry
  | storageRead _ => Bytes
  | storageInfo _ => Option (UInt64 × UInt64)
  | storageStat _ => Option StorageEntry
  | storageTimestamp _ => Option UInt32
  | appStart _ _ | storageMkdir _ | storageDelete _ _ | storageRename _ _ | storageWrite _ _ =>
      Bool

/-- The part of a method that runs under the lock. -/
def body (pb : Protobuf) (self : Handle) : (call : RpcCall) → Link call.Result
  | ping data => pingBody pb self data
  | appLockStatus => appLockStatusBody pb self
  | appGetError => appGetErrorBody pb self
  | desktopIsLocked => desktopIsLockedBody pb self
  | gpioRead pin => gpioReadBody pb self pin
  | systemProtobufVersion => systemProtobufVersionBody pb self
  | systemUpdate manifestPath => systemUpdateBody pb self manifestPath
  | systemRebootUpdate => systemRebootUpdateBody pb self
  | systemDatetime => systemDatetimeBody pb self
  | systemPowerInfo => systemPowerInfoBody pb self
  | appStart name args => appStartBody pb self name args
  | getDeviceInfo => getDeviceInfoBody pb self
  | getProperty key => getPropertyBody pb self key
  | storageList path includeMd5 filterMaxSize =>
      storageListBody pb self path includeMd5 filterMaxSize
  | storageListDetailed path includeMd5 filterMaxSize =>
      storageListDetailedBody pb self path includeMd5 filterMaxSize
  | storageRead path => storageReadBody pb self path
  | storageInfo path => storageInfoBody pb self path
  | storageStat path => storageStatBody pb self path
  | storageTimestamp path => storageTimestampBody pb self path
  | storageMkdir path => storageMkdirBody pb self path
  | storageDelete path recursive => storageDeleteBody pb self path recursive
  | storageRename oldPath newPath => storageRenameBody pb self oldPath newPath
  | storageMd5sum path => storageMd5sumBody pb self path
  | storageWrite path content => storageWriteBody pb self path content

/-- The method: its body under the shared lock. -/
def method (pb : Protobuf) (self : Handle) (call : RpcCall) : Link call.Result :=
  (call.body pb self).withLock

end RpcCall

end FlipperMcp
